import NoisContracts.Library.Ledger
import NoisContracts.Library.Run
import NoisContracts.NoisHost
import NoisContracts.Sink

/-!
The records of the sink along a run of burns and plain sends. The bank credits the
funds of a call before the contract runs, and a `BankMsg::Burn` takes coins from the
contract. What fails or is not covered leaves nothing behind.
-/

namespace NoisContracts.Sink

open ContractCall ContractCall.Call OrderedStore Ledger

inductive Tx where
  | call (block : BlockInfo) (index : Option Nat) (info : MessageInfo) (msg : ExecuteMsg)
  | send (coins : List Coin)
deriving DecidableEq, Repr

structure World where
  storage : Storage
  bank : Book Addr String
  /-- The messages of the calls that have committed, oldest first. -/
  emitted : List Msg

def instantiated : Storage := { Storage.empty with contractVersion := some ("nois-sink", "0.15.4") }

theorem instantiate_eq : instantiate Storage.empty = .ok {} instantiated := rfl

def World.initial : World := ⟨instantiated, Book.empty, []⟩

def receive (sink : Addr) (bank : Book Addr String) (coins : List Coin) : Book Addr String :=
  coins.foldl (fun bank coin => bank.deposit sink coin.denom coin.amount.val) bank

def positive (coins : List Coin) : Bool := coins.all fun coin => 0 < coin.amount.val

def balances (sink : Addr) (bank : Book Addr String) : List Coin :=
  if fits : bank.balance sink burnDenom < 2 ^ 128 then
    [⟨burnDenom, ⟨bank.balance sink burnDenom, fits⟩⟩]
  else []

def burn (sink : Addr) (bank : Book Addr String) : Msg → Option (Book Addr String)
  | .bankBurn coins => bank.take sink (amounts coins)
  | _ => none

def call (sink : Addr) (world : World) (block : BlockInfo) (index : Option Nat) (info : MessageInfo)
    (msg : ExecuteMsg) : Outcome Storage ContractError (Response ContractMsg) :=
  execute ⟨block, index, sink⟩ (balances sink (receive sink world.bank info.funds)) info msg
    world.storage

def attempt (sink : Addr) (world : World) : Tx → Option World
  | .call block index info msg =>
      if positive info.funds then
        match call sink world block index info msg with
        | .ok response after =>
            (response.msgs.foldlM (burn sink) (receive sink world.bank info.funds)).map fun bank =>
              ⟨after, bank, world.emitted ++ response.msgs⟩
        | .error _ _ => none
        | .panic _ => none
      else none
  | .send coins =>
      if positive coins then some { world with bank := receive sink world.bank coins } else none

def reached (sink : Addr) (txs : List Tx) : World := Runs.run (attempt sink) World.initial txs

def burntBy : Msg → List Coin
  | .bankBurn coins => coins
  | _ => []

def burnt (msgs : List Msg) : Nat := amountIn burnDenom (amounts (msgs.flatMap burntBy))

def ashesTotal (storage : Storage) : Nat :=
  (storage.ashes.toList.map fun entry => entry.2.amount.amount.val).sum

theorem receive_spent (sink : Addr) (bank : Book Addr String) (coins : List Coin) :
    (receive sink bank coins).spent = bank.spent := by
  induction coins generalizing bank with
  | nil => rfl
  | cons coin rest ih => exact ih _

theorem receive_received (sink : Addr) (bank : Book Addr String) (coins : List Coin)
    (denom : String) :
    (receive sink bank coins).received sink denom =
      bank.received sink denom + amountIn denom (amounts coins) := by
  induction coins generalizing bank with
  | nil => rfl
  | cons coin rest ih =>
      have added :=
        add_amountIn bank.received sink sink denom (coin.denom, coin.amount.val) (amounts rest)
      simp only [if_true] at added
      exact (ih _).trans added

def Covered (sink : Addr) (bank : Book Addr String) : Prop :=
  ∀ denom, bank.spent sink denom ≤ bank.received sink denom

theorem receive_covered {sink : Addr} {bank : Book Addr String} (covered : Covered sink bank)
    (coins : List Coin) : Covered sink (receive sink bank coins) := by
  intro denom
  have before := covered denom
  rw [receive_spent, receive_received]
  omega

theorem receive_balance {sink : Addr} {bank : Book Addr String} (covered : Covered sink bank)
    (coins : List Coin) (denom : String) :
    (receive sink bank coins).balance sink denom =
      bank.balance sink denom + amountIn denom (amounts coins) := by
  have before := covered denom
  unfold Book.balance
  rw [receive_spent, receive_received]
  omega

/-- What a call that returns has done: one record, and one burn of the same coin, which
is the whole payment or the whole balance. -/
structure Called (sink : Addr) (world : World) (info : MessageInfo) (msg : ExecuteMsg)
    (response : Response ContractMsg) (after : Storage) (ash : Ash) : Prop where
  room : world.storage.lastId + 1 < 2 ^ 32
  stored : after = world.storage.addAsh ash
  messages : response.msgs = [.bankBurn [ash.amount]]
  denom : ash.amount.denom = burnDenom
  payment : msg = .burn → info.funds = [ash.amount]
  balance : msg = .burnBalance → info.funds = [] ∧ 0 < ash.amount.amount.val ∧
    ash.amount.amount.val = world.bank.balance sink burnDenom

theorem executeBurnBalance_ok {env : Env} {coins : List Coin} {info : MessageInfo}
    {storage after : Storage} {response : Response ContractMsg}
    (returned : executeBurnBalance env coins info storage = .ok response after) :
    info.funds = [] ∧ (balanceIn burnDenom coins).isZero = false ∧ storage.lastId + 1 < 2 ^ 32 ∧
      after = storage.addAsh ⟨none, ⟨burnDenom, balanceIn burnDenom coins⟩, env.block.time⟩ ∧
      response.msgs = [.bankBurn [⟨burnDenom, balanceIn burnDenom coins⟩]] := by
  simp only [executeBurnBalance, bind_eq_ok, ensure_eq_ok, saveAsh_eq_ok, pure_eq_ok] at returned
  obtain ⟨_, _, ⟨unpaid, rfl⟩, _, _, ⟨funded, rfl⟩, _, _, ⟨room, rfl⟩, rfl, rfl⟩ := returned
  exact ⟨unpaid, funded, room, rfl, rfl⟩

theorem call_ok {sink : Addr} {world : World} {block : BlockInfo} {index : Option Nat}
    {info : MessageInfo} {msg : ExecuteMsg} {response : Response ContractMsg} {after : Storage}
    (returned : call sink world block index info msg = .ok response after) :
    ∃ ash, Called sink world info msg response after ash := by
  cases msg with
  | burn =>
      obtain ⟨amount, funds, denom, room, rfl, rfl⟩ := executeBurn_eq_ok.mp returned
      exact ⟨_, room, rfl, rfl, denom, fun _ => funds, by simp⟩
  | burnBalance =>
      obtain ⟨unpaid, funded, room, rfl, messages⟩ := executeBurnBalance_ok returned
      have same : receive sink world.bank info.funds = world.bank := by rw [unpaid]; rfl
      rw [same] at funded messages ⊢
      refine ⟨_, room, rfl, messages, rfl, by simp, fun _ => ⟨unpaid, ?_⟩⟩
      unfold balances at funded ⊢
      split
      · rename_i fits
        rw [dif_pos fits] at funded
        simp only [balanceIn, List.find?_cons, decide_true, Option.map_some, Option.getD_some,
          Uint128.isZero, beq_eq_false_iff_ne] at funded ⊢
        exact ⟨Nat.pos_of_ne_zero funded, trivial⟩
      · rename_i large
        rw [dif_neg large] at funded
        simp [balanceIn, Uint128.isZero, Uint128.zero] at funded

theorem Called.covered {sink : Addr} {world : World} {info : MessageInfo} {msg : ExecuteMsg}
    {response : Response ContractMsg} {after : Storage} {ash : Ash}
    (covered : Covered sink world.bank) (paid : positive info.funds = true)
    (called : Called sink world info msg response after ash) :
    0 < ash.amount.amount.val ∧
      ash.amount.amount.val ≤ (receive sink world.bank info.funds).balance sink burnDenom := by
  rw [receive_balance covered]
  cases msg with
  | burn =>
      have funds := called.payment rfl
      rw [funds] at paid ⊢
      simp only [positive, List.all_cons, List.all_nil, Bool.and_true, decide_eq_true_eq] at paid
      refine ⟨paid, ?_⟩
      simp [amounts, amountIn, called.denom]
  | burnBalance =>
      obtain ⟨_, funded, balance⟩ := called.balance rfl
      exact ⟨funded, by omega⟩

theorem Called.burn {sink : Addr} {world : World} {info : MessageInfo} {msg : ExecuteMsg}
    {response : Response ContractMsg} {after : Storage} {ash : Ash}
    (covered : Covered sink world.bank) (paid : positive info.funds = true)
    (called : Called sink world info msg response after ash) :
    ∃ bank, response.msgs.foldlM (Sink.burn sink) (receive sink world.bank info.funds) = some bank ∧
      Covered sink bank ∧
      ∀ denom, bank.balance sink denom + amountIn denom (amounts [ash.amount]) =
        world.bank.balance sink denom + amountIn denom (amounts info.funds) := by
  obtain ⟨positive, enough⟩ := called.covered covered paid
  have taken := Book.withdraw_of_le positive enough
  refine ⟨{ receive sink world.bank info.funds with
    spent :=
      add (receive sink world.bank info.funds).spent sink burnDenom ash.amount.amount.val }, ?_, ?_,
        ?_⟩
  · rw [called.messages]
    simp [Sink.burn, Book.take, amounts, called.denom, taken]
  · intro denom
    have before := receive_covered covered info.funds denom
    unfold Book.balance at enough
    simp only [add, true_and]
    split
    · rename_i same
      subst same
      omega
    · omega
  · intro denom
    have before := receive_covered covered info.funds denom
    rw [← receive_balance covered]
    unfold Book.balance at enough ⊢
    simp only [add, true_and, amounts, amountIn, List.map_cons, List.map_nil, List.sum_cons,
      List.sum_nil, called.denom]
    by_cases same : burnDenom = denom
    · subst same
      simp only [if_true]
      omega
    · simp only [same, Ne.symm same, if_false]
      omega

theorem attempt_cases {sink : Addr} {world next : World} {tx : Tx}
    (covered : Covered sink world.bank) (committed : attempt sink world tx = some next) :
    (∃ coins, tx = .send coins ∧ next = { world with bank := receive sink world.bank coins }) ∨
      ∃ block index info msg response ash bank, tx = .call block index info msg ∧
        positive info.funds = true ∧
        Called sink world info msg response (world.storage.addAsh ash) ash ∧
        0 < ash.amount.amount.val ∧ Covered sink bank ∧
        (∀ denom, bank.balance sink denom + amountIn denom (amounts [ash.amount]) =
          world.bank.balance sink denom + amountIn denom (amounts info.funds)) ∧
        next = ⟨world.storage.addAsh ash, bank, world.emitted ++ [.bankBurn [ash.amount]]⟩ := by
  cases tx with
  | send coins =>
      simp only [attempt, Option.ite_none_right_eq_some, Option.some.injEq] at committed
      exact .inl ⟨coins, rfl, committed.2.symm⟩
  | call block index info msg =>
      simp only [attempt, Option.ite_none_right_eq_some] at committed
      obtain ⟨paid, committed⟩ := committed
      split at committed
      · rename_i response after returned
        obtain ⟨ash, called⟩ := call_ok returned
        obtain ⟨bank, burns, solvent, moved⟩ := called.burn covered paid
        rw [burns, called.messages] at committed
        cases committed
        have stored := called.stored
        subst stored
        exact .inr ⟨block, index, info, msg, response, ash, bank, rfl, paid, called,
          (called.covered covered paid).1, solvent, moved, rfl⟩
      · cases committed
      · cases committed

structure Recorded (sink : Addr) (world : World) : Prop where
  covered : Covered sink world.bank
  ids :
    ∀ id : Nat, (∃ ash, world.storage.ashes[id]? = some ash) ↔ 1 ≤ id ∧ id ≤ world.storage.lastId
  ashes : ∀ (id : Nat) ash, world.storage.ashes[id]? = some ash →
    ash.amount.denom = burnDenom ∧ 0 < ash.amount.amount.val
  total : ashesTotal world.storage = burnt world.emitted

theorem addAsh_get (storage : Storage) (ash : Ash) (id : Nat) :
    (storage.addAsh ash).ashes[id]? =
      if storage.lastId + 1 = id then some ash else storage.ashes[id]? :=
  get_insert _ _ _ _

theorem Recorded.fresh {sink : Addr} {world : World} (recorded : Recorded sink world) :
    world.storage.ashes[world.storage.lastId + 1]? = none := by
  by_contra present
  obtain ⟨ash, found⟩ := Option.ne_none_iff_exists'.mp present
  have bounds := (recorded.ids _).mp ⟨ash, found⟩
  omega

theorem Recorded.addAsh_total {sink : Addr} {world : World} (recorded : Recorded sink world)
    (ash : Ash) :
    ashesTotal (world.storage.addAsh ash) = ashesTotal world.storage + ash.amount.amount.val := by
  have last : (world.storage.addAsh ash).ashes.toList =
      world.storage.ashes.toList ++ [(world.storage.lastId + 1, ash)] := by
    apply toList_insert_last
    rintro ⟨id, stored⟩ member
    have bounds := (recorded.ids id).mp ⟨stored, mem_toList_iff.mp member⟩
    simp only
    omega
  simp [ashesTotal, last]

theorem burnt_append (msgs : List Msg) (amount : Coin) (denom : amount.denom = burnDenom) :
    burnt (msgs ++ [.bankBurn [amount]]) = burnt msgs + amount.amount.val := by
  simp [burnt, burntBy, amounts, amountIn, denom]

theorem attempt_recorded {sink : Addr} {world next : World} {tx : Tx}
    (recorded : Recorded sink world) (committed : attempt sink world tx = some next) :
    Recorded sink next := by
  rcases attempt_cases recorded.covered committed with ⟨coins, _, rfl⟩ |
    ⟨_, _, info, msg, response, ash, bank, _, _, called, positive, solvent, _, rfl⟩
  · exact ⟨receive_covered recorded.covered coins, recorded.ids, recorded.ashes, recorded.total⟩
  · refine ⟨solvent, ?_, ?_, ?_⟩
    · intro id
      have before := recorded.ids id
      have last : (world.storage.addAsh ash).lastId = world.storage.lastId + 1 := rfl
      rw [addAsh_get, last]
      by_cases newest : world.storage.lastId + 1 = id
      · simp only [newest, if_true, Option.some.injEq, exists_eq', true_iff]
        omega
      · rw [if_neg newest, before]
        omega
    · intro id stored found
      rw [addAsh_get] at found
      split at found
      · cases found
        exact ⟨called.denom, positive⟩
      · exact recorded.ashes id stored found
    · rw [recorded.addAsh_total, recorded.total, burnt_append _ _ called.denom]

theorem recorded_initial (sink : Addr) : Recorded sink World.initial := by
  refine ⟨fun denom => Nat.le_refl 0, ?_, ?_, ?_⟩
  · intro id
    simp [World.initial, instantiated, Storage.empty, Storage.lastId]
    omega
  · intro id ash found
    simp [World.initial, instantiated, Storage.empty] at found
  · rfl

theorem attempt_keeps {sink : Addr} {world next : World} {tx : Tx} {id : Nat} {ash : Ash}
    (recorded : Recorded sink world) (found : world.storage.ashes[id]? = some ash)
    (committed : attempt sink world tx = some next) : next.storage.ashes[id]? = some ash := by
  rcases attempt_cases recorded.covered committed with ⟨coins, _, rfl⟩ |
    ⟨_, _, _, _, _, added, _, _, _, _, _, _, _, rfl⟩
  · exact found
  · rw [addAsh_get, if_neg, found]
    rintro rfl
    rw [recorded.fresh] at found
    cases found

/-- The ledger of the sink in one world, and in all that come after it. -/
structure LedgerSound (sink : Addr) (world : World) : Prop where
  ids : ∀ id : Nat, world.storage.ashes.contains id = true ↔ 1 ≤ id ∧ id ≤ world.storage.lastId
  ashes : ∀ (id : Nat) ash, world.storage.ashes[id]? = some ash →
    ash.amount.denom = "unois" ∧ 0 < ash.amount.amount.val
  kept : ∀ later (id : Nat) ash, world.storage.ashes[id]? = some ash →
    (Runs.run (attempt sink) world later).storage.ashes[id]? = some ash
  total : ashesTotal world.storage = burnt world.emitted
  covered : ∀ block index info msg response after, positive info.funds = true →
    call sink world block index info msg = .ok response after →
    (attempt sink world (.call block index info msg)).isSome = true ∧
      ∃ coin, response.msgs = [.bankBurn [coin]] ∧
        coin.amount.val ≤ (receive sink world.bank info.funds).balance sink coin.denom
  burn : ∀ block index info next, attempt sink world (.call block index info .burn) = some next →
    ∀ denom, next.bank.balance sink denom = world.bank.balance sink denom
  burnBalance :
    ∀ block index info next, attempt sink world (.call block index info .burnBalance) = some next →
      next.bank.balance sink "unois" = 0

theorem Recorded.ledgerSound {sink : Addr} {world : World} (recorded : Recorded sink world) :
    LedgerSound sink world := by
  refine ⟨?_, recorded.ashes, ?_, recorded.total, ?_, ?_, ?_⟩
  · intro id
    rw [contains_eq_true, recorded.ids]
  · intro later id ash found
    have both :=
      @Runs.run_invariant _ _ (attempt sink)
        (fun world => Recorded sink world ∧ world.storage.ashes[id]? = some ash) ?_ later world
        ⟨recorded, found⟩
    · exact both.2
    · intro world tx next before committed
      exact ⟨attempt_recorded before.1 committed, attempt_keeps before.1 before.2 committed⟩
  · intro block index info msg response after paid returned
    obtain ⟨ash, called⟩ := call_ok returned
    obtain ⟨bank, burns, _⟩ := called.burn recorded.covered paid
    refine ⟨?_, ash.amount, called.messages, ?_⟩
    · simp [attempt, paid, returned, burns]
    · rw [called.denom]
      exact (called.covered recorded.covered paid).2
  · intro block index info next committed denom
    rcases attempt_cases recorded.covered committed with ⟨coins, sent, _⟩ |
      ⟨_, _, _, msg, response, ash, bank, same, _, called, _, _, moved, rfl⟩
    · cases sent
    · cases same
      have balance := moved denom
      rw [called.payment rfl] at balance
      simp only
      omega
  · intro block index info next committed
    rcases attempt_cases recorded.covered committed with ⟨coins, sent, _⟩ |
      ⟨_, _, _, msg, response, ash, bank, same, _, called, _, _, moved, rfl⟩
    · cases sent
    · cases same
      obtain ⟨unpaid, _, whole⟩ := called.balance rfl
      have balance := moved burnDenom
      simp only [unpaid, amounts, amountIn, List.map_cons, List.map_nil, List.sum_cons,
        List.sum_nil, called.denom, if_true] at balance
      change bank.balance sink burnDenom = 0
      omega

theorem reached_ledgerSound (sink : Addr) (txs : List Tx) :
    LedgerSound sink (reached sink txs) := by
  have recorded : Recorded sink (reached sink txs) :=
    Runs.run_invariant (fun _ _ _ before committed => attempt_recorded before committed) txs
      World.initial (recorded_initial sink)
  exact recorded.ledgerSound

def mixed : List Tx :=
  let coin : Coin := ⟨burnDenom, ⟨1000000, NoisHost.million_lt⟩⟩
  [.call ⟨1, .epoch⟩ none ⟨NoisHost.manager, [coin]⟩ .burn, .send [coin],
    .call ⟨2, .epoch⟩ none ⟨NoisHost.relayer, []⟩ .burnBalance]

theorem reached_ledgerSound_mixed :
    (reached NoisHost.sink mixed).storage.lastId = 2 ∧
      burnt (reached NoisHost.sink mixed).emitted = 2000000 ∧
      LedgerSound NoisHost.sink (reached NoisHost.sink mixed) :=
  ⟨by decide +kernel, by decide +kernel, reached_ledgerSound NoisHost.sink mixed⟩

end NoisContracts.Sink
