import NoisContracts.Library.Staking
import NoisContracts.Drand.Rewards
import NoisContracts.Icecube
import NoisContracts.Treasury.Core

/-!
The incentives of the bots: `nois-icecube`, `nois-drand`, the bank and the staking module
on one chain. A call moves its funds, runs the contract and then executes the messages of
the response; when one of them fails, nothing of the transaction is kept. Staking rewards
arrive at the reserve like any other coins. Nobody holds the keys of the two contracts,
and they do not call each other.
-/

namespace NoisContracts.Reserve

open ContractCall Ledger Staking

structure Chain where
  host : Drand.Host
  icecube : Addr
  drand : Addr
  validators : Finset String
  external : Addr → Bool
  icecubeInternal : external icecube = false
  drandInternal : external drand = false
  apart : icecube ≠ drand

structure World where
  icecube : Icecube.World
  drand : Drand.World
  bank : Book Addr String
  stakes : Stakes String

def World.initial : World :=
  ⟨⟨Icecube.Storage.empty, []⟩, ⟨Drand.Storage.empty, []⟩, Book.empty, Stakes.none⟩

inductive Tx where
  | icecube (action : Icecube.Action)
  | drand (tx : Drand.Tx)
  | send (sender target : Addr) (amount : List Coin)
  | credit (target : Addr) (amount : Coin)
  | mature (amount : Nat)
  | slash (validator : String) (amount : Nat)
  | slashUnbonding (amount : Nat)
deriving DecidableEq, Repr

def icecubeInfo : Icecube.Action → Option MessageInfo
  | .instantiate info _ => some info
  | .execute info _ => some info
  | .migrate => none

def drandInfo : Drand.Action → Option MessageInfo
  | .execute info _ => some info
  | _ => none

namespace World

def transfer (world : World) (source target : Addr) (coins : List Coin) : Option World :=
  (world.bank.send source target (amounts coins)).map fun bank => { world with bank }

def balanceOf (world : World) (account : Addr) (denom : String) : List Coin :=
  if fits : world.bank.balance account denom < 2 ^ 128 then
    [⟨denom, ⟨world.bank.balance account denom, fits⟩⟩]
  else []

end World

namespace Chain

def fund (chain : Chain) (world : World) (info : Option MessageInfo) (contract : Addr) :
    Option World :=
  match info with
  | some info =>
      if chain.external info.sender then world.transfer info.sender contract info.funds else none
  | none => some world

def dispatchIcecube (chain : Chain) (world : World) : Icecube.Msg → Option World
  | .bankSend target coins => world.transfer chain.icecube target coins
  | .delegate validator amount =>
      if amount.denom = Icecube.stakingDenom then do
        let bank ← world.bank.take chain.icecube (amounts [amount])
        let stakes ← world.stakes.delegate chain.validators validator amount.amount.val
        some { world with bank, stakes }
      else none
  | .undelegate validator amount =>
      if amount.denom = Icecube.stakingDenom then
        (world.stakes.undelegate chain.validators validator amount.amount.val).map
          fun stakes => { world with stakes }
      else none
  | .redelegate source target amount =>
      if amount.denom = Icecube.stakingDenom then
        (world.stakes.redelegate chain.validators source target amount.amount.val).map fun stakes =>
          { world with stakes }
      else none
  | .withdrawDelegatorReward _ => some world

def dispatchDrand (chain : Chain) (world : World) : Msg → Option World
  | .bankSend target coins => world.transfer chain.drand target coins
  | .wasmExecute _ _ [] => some world
  | _ => none

def callIcecube (chain : Chain) (world : World) (action : Icecube.Action) : Option World :=
  if Icecube.admits world.icecube.storage action then
    match Icecube.perform chain.host.toDeps action world.icecube.storage with
    | .ok response after =>
        response.messages.foldlM chain.dispatchIcecube
          { world with icecube := world.icecube.commit action response after }
    | .error _ _ => none
    | .panic _ => none
  else none

/-- The contract asks the bank for its own balance. -/
def querying (chain : Chain) (world : World) (tx : Drand.Tx) : Drand.Tx :=
  { tx with balances := (world.drand.storage.config.map fun config =>
      world.balanceOf chain.drand config.incentiveDenom).getD [] }

def callDrand (chain : Chain) (world : World) (tx : Drand.Tx) : Option World :=
  let tx := chain.querying world tx
  if Drand.admits world.drand.storage tx then
    match Drand.perform chain.host chain.drand tx world.drand.storage with
    | .ok response after =>
        response.msgs.foldlM chain.dispatchDrand
          { world with drand := world.drand.commit tx response after }
    | .error _ _ => none
    | .panic _ => none
  else none

def attempt (chain : Chain) (world : World) : Tx → Option World
  | .icecube action => do
      let world ← chain.fund world (icecubeInfo action) chain.icecube
      chain.callIcecube world action
  | .drand tx => do
      let world ← chain.fund world (drandInfo tx.action) chain.drand
      chain.callDrand world tx
  | .send sender target coins =>
      if chain.external sender then world.transfer sender target coins else none
  | .credit target coin =>
      some { world with bank := world.bank.deposit target coin.denom coin.amount.val }
  | .mature amount => (world.stakes.mature amount).map fun stakes =>
      { world with stakes, bank := world.bank.deposit chain.icecube Icecube.stakingDenom amount }
  | .slash validator amount =>
      (world.stakes.slash chain.validators validator amount).map fun stakes => { world with stakes }
  | .slashUnbonding amount =>
      (world.stakes.slashUnbonding amount).map fun stakes => { world with stakes }

def reached (chain : Chain) (txs : List Tx) : World := Runs.run chain.attempt World.initial txs

end Chain

/-! What the two contracts have sent. -/

def icecubeSend : Icecube.Msg → Option (Addr × List Coin)
  | .bankSend target coins => some (target, coins)
  | _ => none

def drandSend : Msg → Option (Addr × List Coin)
  | .bankSend target coins => some (target, coins)
  | _ => none

def icecubeSends (world : Icecube.World) : List (Addr × List Coin) :=
  world.log.flatMap fun entry => entry.2.messages.filterMap icecubeSend

def drandSends (world : Drand.World) : List (Addr × List Coin) :=
  world.log.flatMap fun entry => entry.2.msgs.filterMap drandSend

def sentIn (denom : String) (sends : List (Addr × List Coin)) : Nat :=
  amountIn denom (sends.flatMap fun sent => amounts sent.2)

@[simp] theorem sentIn_append (denom : String) (first second : List (Addr × List Coin)) :
    sentIn denom (first ++ second) = sentIn denom first + sentIn denom second := by
  simp [sentIn]

theorem icecubeSends_commit (world : Icecube.World) (action : Icecube.Action)
    (response : Icecube.Response) (after : Icecube.Storage) :
    icecubeSends (world.commit action response after) =
      icecubeSends world ++ response.messages.filterMap icecubeSend := by
  simp [icecubeSends]

theorem drandSends_commit (world : Drand.World) (tx : Drand.Tx) (response : Response ContractMsg)
    (after : Drand.Storage) : drandSends (world.commit tx response after) =
      drandSends world ++ response.msgs.filterMap drandSend := by
  simp [drandSends]

/-- The accounts of the two contracts in the books of the bank. -/
structure Books (chain : Chain) (bank : Book Addr String) (stakes : Stakes String)
    (fromIcecube fromDrand : List (Addr × List Coin)) : Prop where
  solvent : bank.Solvent
  icecube : ∀ denom, bank.spent chain.icecube denom = sentIn denom fromIcecube +
    if denom = Icecube.stakingDenom then stakes.total chain.validators else 0
  drand : ∀ denom, bank.spent chain.drand denom = sentIn denom fromDrand

section

variable {chain : Chain} {bank after : Book Addr String} {stakes : Stakes String}
  {fromIcecube fromDrand : List (Addr × List Coin)}

theorem Books.deposit (books : Books chain bank stakes fromIcecube fromDrand) (target : Addr)
    (denom : String) (amount : Nat) :
    Books chain (bank.deposit target denom amount) stakes fromIcecube fromDrand := by
  refine ⟨?_, books.icecube, books.drand⟩
  intro account unit
  have before := books.solvent account unit
  simp only [Book.deposit, add]
  omega

theorem Books.restake {others : Stakes String}
    (books : Books chain bank stakes fromIcecube fromDrand)
    (same : others.total chain.validators = stakes.total chain.validators) :
    Books chain bank others fromIcecube fromDrand :=
  ⟨books.solvent, fun denom => by rw [books.icecube denom, same], books.drand⟩

theorem Books.external {source target : Addr} {coins : List Coin}
    (books : Books chain bank stakes fromIcecube fromDrand) (outside : chain.external source = true)
    (sent : bank.send source target (amounts coins) = some after) :
    Books chain after stakes fromIcecube fromDrand := by
  have sends := Book.send_eq_some sent
  have notIcecube : chain.icecube ≠ source := by
    rintro rfl
    simp [chain.icecubeInternal] at outside
  have notDrand : chain.drand ≠ source := by
    rintro rfl
    simp [chain.drandInternal] at outside
  refine ⟨sends.solvent books.solvent, ?_, ?_⟩
  · intro denom
    rw [sends.spent, if_neg notIcecube, books.icecube denom, Nat.add_zero]
  · intro denom
    rw [sends.spent, if_neg notDrand, books.drand denom, Nat.add_zero]

theorem sentIn_singleton (denom : String) (target : Addr) (coins : List Coin) :
    sentIn denom [(target, coins)] = amountIn denom (amounts coins) := by
  simp [sentIn]

theorem Books.sendIcecube {target : Addr} {coins : List Coin}
    (books : Books chain bank stakes fromIcecube fromDrand)
    (sent : bank.send chain.icecube target (amounts coins) = some after) :
    Books chain after stakes (fromIcecube ++ [(target, coins)]) fromDrand := by
  have sends := Book.send_eq_some sent
  refine ⟨sends.solvent books.solvent, ?_, ?_⟩
  · intro denom
    rw [sends.spent, if_pos rfl, books.icecube denom, sentIn_append, sentIn_singleton]
    omega
  · intro denom
    rw [sends.spent, if_neg chain.apart.symm, books.drand denom, Nat.add_zero]

theorem Books.sendDrand {target : Addr} {coins : List Coin}
    (books : Books chain bank stakes fromIcecube fromDrand)
    (sent : bank.send chain.drand target (amounts coins) = some after) :
    Books chain after stakes fromIcecube (fromDrand ++ [(target, coins)]) := by
  have sends := Book.send_eq_some sent
  refine ⟨sends.solvent books.solvent, ?_, ?_⟩
  · intro denom
    rw [sends.spent, if_neg chain.apart, books.icecube denom, Nat.add_zero]
  · intro denom
    rw [sends.spent, if_pos rfl, books.drand denom, sentIn_append, sentIn_singleton]

theorem Books.delegate {validator : String} {amount : Coin} {others : Stakes String}
    (books : Books chain bank stakes fromIcecube fromDrand)
    (denom : amount.denom = Icecube.stakingDenom)
    (taken : bank.take chain.icecube (amounts [amount]) = some after)
    (delegated : stakes.delegate chain.validators validator amount.amount.val = some others) :
    Books chain after others fromIcecube fromDrand := by
  have takes := Book.take_eq_some taken
  refine ⟨takes.solvent books.solvent, ?_, ?_⟩
  · intro unit
    have moved : amountIn unit (amounts [amount]) =
        if unit = Icecube.stakingDenom then amount.amount.val else 0 := by
      simp [amountIn, amounts, denom, eq_comm]
    rw [takes.spent, if_pos rfl, books.icecube unit, moved, Stakes.delegate_total delegated]
    split <;> omega
  · intro unit
    rw [takes.spent, if_neg chain.apart.symm, books.drand unit, Nat.add_zero]

end

/-- A message of the staking module moves no coins out of the reserve and its stakes. -/
theorem dispatchIcecube_staking {chain : Chain} {world next : World} {msg : Icecube.Msg}
    {fromIcecube fromDrand : List (Addr × List Coin)} (stakes : msg.stakes = true)
    (dispatched : chain.dispatchIcecube world msg = some next)
    (books : Books chain world.bank world.stakes fromIcecube fromDrand) :
    Books chain next.bank next.stakes fromIcecube fromDrand ∧ next.icecube = world.icecube ∧
      next.drand = world.drand := by
  cases msg with
  | bankSend target coins => cases stakes
  | delegate validator amount =>
      simp only [Chain.dispatchIcecube, Option.ite_none_right_eq_some] at dispatched
      obtain ⟨denom, rest⟩ := dispatched
      obtain ⟨bank, taken, rest⟩ := Option.bind_eq_some_iff.mp rest
      obtain ⟨others, delegated, same⟩ := Option.bind_eq_some_iff.mp rest
      cases same
      exact ⟨books.delegate denom taken delegated, rfl, rfl⟩
  | undelegate validator amount =>
      simp only [Chain.dispatchIcecube, Option.ite_none_right_eq_some, Option.map_eq_some_iff]
        at dispatched
      obtain ⟨_, others, undelegated, rfl⟩ := dispatched
      exact ⟨books.restake (Stakes.undelegate_total undelegated), rfl, rfl⟩
  | redelegate source target amount =>
      simp only [Chain.dispatchIcecube, Option.ite_none_right_eq_some, Option.map_eq_some_iff]
        at dispatched
      obtain ⟨_, others, redelegated, rfl⟩ := dispatched
      exact ⟨books.restake (Stakes.redelegate_total redelegated), rfl, rfl⟩
  | withdrawDelegatorReward validator => cases stakes

theorem icecubeSend_of_stakes {msg : Icecube.Msg} (stakes : msg.stakes = true) :
    icecubeSend msg = none := by
  cases msg with
  | bankSend target coins => cases stakes
  | _ => rfl

/-- The reserve has sent coins to one address only, the one that it has stored. -/
def Pinned (world : Icecube.World) : Prop :=
  ∀ sent ∈ icecubeSends world, ∃ config, world.storage.config = some config ∧
    config.drand = some sent.1

/-- Who was paid had submitted a round and was granted points for it. -/
def Earned (world : Drand.World) : Prop :=
  ∀ entry ∈ world.log, ∀ target coins, .bankSend target coins ∈ entry.2.msgs →
    ∃ info round signature, entry.1.action = .execute info (.addRound round signature) ∧
      target = info.sender ∧ 0 < Drand.reportedPoints entry.2

structure Kept (chain : Chain) (world : World) : Prop where
  books : Books chain world.bank world.stakes (icecubeSends world.icecube) (drandSends world.drand)
  pinned : Pinned world.icecube
  earned : Earned world.drand

theorem Pinned.commit {world : Icecube.World} {action : Icecube.Action}
    {response : Icecube.Response} {after : Icecube.Storage} (pinned : Pinned world)
    (effect : Icecube.Effect world.storage action response after) :
    Pinned (world.commit action response after) := by
  have silent (quiet : response.messages.filterMap icecubeSend = [])
      (kept : ∀ previous drand, world.storage.config = some previous → previous.drand = some drand →
        ∃ config, after.config = some config ∧ config.drand = some drand) :
      Pinned (world.commit action response after) := by
    intro sent member
    rw [icecubeSends_commit, quiet, List.append_nil] at member
    obtain ⟨previous, found, known⟩ := pinned sent member
    exact kept previous sent.1 found known
  cases effect with
  | @sent info funds config drand response configured known messages =>
      intro sent member
      rw [icecubeSends_commit, messages, List.mem_append] at member
      rcases member with earlier | now
      · exact pinned sent earlier
      · simp only [List.filterMap_cons, icecubeSend, List.filterMap_nil, List.mem_singleton] at now
        subst now
        exact ⟨config, configured, known⟩
  | @staked info call msg config response configured managed stakes messages =>
      exact silent (by simp [messages, icecubeSend_of_stakes stakes])
        fun previous drand found known => ⟨previous, found, known⟩
  | claimed messages =>
      exact silent (by simp [messages, icecubeSend])
        fun previous drand found known => ⟨previous, found, known⟩
  | configured kept messages =>
      exact silent (by simp [messages])
        fun previous drand found known => ⟨_, rfl, kept previous drand found known⟩
  | migrated messages =>
      exact silent (by simp [messages]) fun previous drand found known => ⟨previous, found, known⟩

theorem Kept.fund {chain : Chain} {world next : World} {info : Option MessageInfo} {contract : Addr}
    (kept : Kept chain world) (funded : chain.fund world info contract = some next) :
    Kept chain next := by
  cases info with
  | none =>
      cases funded
      exact kept
  | some info =>
      simp only [Chain.fund, World.transfer, Option.ite_none_right_eq_some, Option.map_eq_some_iff]
        at funded
      obtain ⟨outside, bank, sent, rfl⟩ := funded
      exact ⟨kept.books.external outside sent, kept.pinned, kept.earned⟩

theorem Kept.callIcecube {chain : Chain} {world next : World} {action : Icecube.Action}
    (kept : Kept chain world) (called : chain.callIcecube world action = some next) :
    Kept chain next := by
  simp only [Chain.callIcecube, Option.ite_none_right_eq_some] at called
  obtain ⟨admitted, called⟩ := called
  cases returned : Icecube.perform chain.host.toDeps action world.icecube.storage with
  | error cause after => simp [returned] at called
  | panic cause => simp [returned] at called
  | ok response after =>
      simp only [returned] at called
      have effect := Icecube.perform_effect admitted returned
      have pinned := kept.pinned.commit effect
      have sends := icecubeSends_commit world.icecube action response after
      have books := kept.books
      cases effect with
      | @sent info funds config drand response configured known messages =>
          simp only [messages, List.foldlM_cons, List.foldlM_nil, bind_pure, Chain.dispatchIcecube,
            World.transfer, Option.map_eq_some_iff] at called
          obtain ⟨bank, sent, rfl⟩ := called
          refine ⟨?_, pinned, kept.earned⟩
          simp only [sends, messages]
          exact books.sendIcecube sent
      | @staked info call msg config response configured managed stakes messages =>
          simp only [messages, List.foldlM_cons, List.foldlM_nil, bind_pure] at called
          have quiet : response.messages.filterMap icecubeSend = [] := by
            simp [messages, icecubeSend_of_stakes stakes]
          rw [quiet, List.append_nil] at sends
          rw [← sends] at books
          obtain ⟨moved, icecube, drand⟩ := dispatchIcecube_staking stakes called books
          exact ⟨by rw [icecube, drand]; exact moved, icecube.symm ▸ pinned,
            drand.symm ▸ kept.earned⟩
      | claimed messages =>
          simp only [messages, List.foldlM_cons, List.foldlM_nil, bind_pure, Chain.dispatchIcecube,
            Option.some.injEq] at called
          subst called
          refine ⟨?_, pinned, kept.earned⟩
          simp only [sends, messages, icecubeSend, List.filterMap_cons, List.filterMap_nil,
            List.append_nil]
          exact books
      | configured _ messages =>
          simp only [messages, List.foldlM_nil, Option.pure_def, Option.some.injEq] at called
          subst called
          refine ⟨?_, pinned, kept.earned⟩
          simp only [sends, messages, List.filterMap_nil, List.append_nil]
          exact books
      | migrated messages =>
          simp only [messages, List.foldlM_nil, Option.pure_def, Option.some.injEq] at called
          subst called
          refine ⟨?_, pinned, kept.earned⟩
          simp only [sends, messages, List.filterMap_nil, List.append_nil]
          exact books

theorem balanceIn_balanceOf (world : World) (account : Addr) (denom : String) :
    (balanceIn denom (world.balanceOf account denom)).val ≤ world.bank.balance account denom := by
  unfold World.balanceOf
  split
  · simp [balanceIn]
  · simp [balanceIn, Uint128.zero]

/-- A payout is never more than the contract has, and it is paid for points. -/
theorem payout_covered {chain : Chain} {world : World} {tx : Drand.Tx} {env : Env}
    {info : MessageInfo} {round : Nat} {signature : Binary} {response : Response ContractMsg}
    {after : Drand.Storage} {config : Drand.Config} {payout : Coin}
    (added : Drand.Added chain.host env (chain.querying world tx).balances info round signature
      world.drand.storage response after config payout) :
    payout.amount.val ≤ world.bank.balance chain.drand payout.denom ∧
      (payout.amount.val ≠ 0 →
        0 < Drand.grantedPoints chain.host world.drand.storage config info.sender round) := by
  have idle : Drand.eligible chain.host world.drand.storage config info.sender round = false →
      Drand.grantedPoints chain.host world.drand.storage config info.sender round = 0 := by
    intro ineligible
    simp [Drand.grantedPoints, ineligible]
  obtain ⟨denom, amount⟩ := Drand.payoutOf_eq_ok idle added.paid
  have told :
      (chain.querying world tx).balances = world.balanceOf chain.drand config.incentiveDenom := by
    simp [Chain.querying, added.configured]
  have covered := balanceIn_balanceOf world chain.drand config.incentiveDenom
  rw [told] at amount
  rw [denom]
  split at amount
  · refine ⟨by omega, fun nonzero => Nat.pos_of_ne_zero ?_⟩
    intro none
    simp [none] at amount
    exact nonzero amount
  · exact ⟨by omega, fun nonzero => (nonzero amount).elim⟩

theorem dispatchDrand_verified (chain : Chain) (world : World) (config : Drand.Config) (round : Nat)
    (randomness : Binary) (isVerifyingTx : Bool) :
    (Drand.verifiedMsgs config round randomness isVerifyingTx).foldlM chain.dispatchDrand world =
      some world := by
  cases known : config.gateway with
  | none => simp [Drand.verifiedMsgs, known]
  | some gateway => simp [Drand.verifiedMsgs, known, Chain.dispatchDrand]

theorem drandSend_verified (config : Drand.Config) (round : Nat) (randomness : Binary)
    (isVerifyingTx : Bool) :
    (Drand.verifiedMsgs config round randomness isVerifyingTx).filterMap drandSend = [] := by
  cases known : config.gateway with
  | none => simp [Drand.verifiedMsgs, known]
  | some gateway => simp [Drand.verifiedMsgs, known, drandSend]

theorem Earned.commit {world : Drand.World} {tx : Drand.Tx} {response : Response ContractMsg}
    {after : Drand.Storage} (earned : Earned world)
    (paid : ∀ target coins, .bankSend target coins ∈ response.msgs →
      ∃ info round signature, tx.action = .execute info (.addRound round signature) ∧
        target = info.sender ∧ 0 < Drand.reportedPoints response) :
    Earned (world.commit tx response after) := by
  intro entry member target coins sent
  rw [Journal.World.commit_log, List.mem_append, List.mem_singleton] at member
  rcases member with earlier | rfl
  · exact earned entry earlier target coins sent
  · exact paid target coins sent

theorem Kept.callDrand {chain : Chain} {world next : World} {tx : Drand.Tx}
    (kept : Kept chain world) (called : chain.callDrand world tx = some next) :
    Kept chain next := by
  simp only [Chain.callDrand, Option.ite_none_right_eq_some] at called
  obtain ⟨admitted, called⟩ := called
  cases returned : Drand.perform chain.host chain.drand (chain.querying world tx)
    world.drand.storage with
  | error cause after => simp [returned] at called
  | panic cause => simp [returned] at called
  | ok response after =>
      simp only [returned] at called
      have books := kept.books
      have sends := drandSends_commit world.drand (chain.querying world tx) response after
      rcases Drand.perform_cases returned with
          ⟨info, round, signature, config, payout, action, added, attributes⟩ |
          ⟨unrelated, messages, administered⟩
      · obtain ⟨_, points⟩ := payout_covered added
        have msgs := added.messages
        rw [msgs, List.foldlM_append, dispatchDrand_verified] at called
        rw [msgs, List.filterMap_append, drandSend_verified, List.nil_append] at sends
        by_cases zero : payout.amount.val = 0
        · have unpaid : Drand.rewardMsgs info.sender payout = [] := by
            simp [Drand.rewardMsgs, Uint128.isZero, zero]
          rw [unpaid] at called sends msgs
          cases called
          refine ⟨by rw [sends]; simpa using books, kept.pinned, kept.earned.commit ?_⟩
          intro target coins sent
          rw [msgs, List.append_nil] at sent
          simp [Drand.verifiedMsgs] at sent
        · have paid : Drand.rewardMsgs info.sender payout = [.bankSend info.sender [payout]] := by
            simp [Drand.rewardMsgs, Uint128.isZero, zero]
          rw [paid] at called sends msgs
          simp only [Option.bind_eq_bind, Option.bind_some, List.foldlM_cons, List.foldlM_nil,
            bind_pure, Chain.dispatchDrand, World.transfer, Option.map_eq_some_iff] at called
          obtain ⟨bank, sent, rfl⟩ := called
          refine ⟨?_, kept.pinned, kept.earned.commit ?_⟩
          · simp only [sends]
            exact books.sendDrand sent
          · intro target coins listed
            rw [msgs, List.mem_append, List.mem_singleton] at listed
            rcases listed with verified | rewarded
            · simp [Drand.verifiedMsgs] at verified
            · cases rewarded
              refine ⟨info, round, signature, action, rfl, ?_⟩
              rw [Drand.reportedPoints_added attributes]
              exact points zero
      · have quiet : response.msgs = [] := by simp [Response.msgs, messages]
        rw [quiet] at called sends
        cases called
        refine ⟨by rw [sends]; simpa using books, kept.pinned, kept.earned.commit ?_⟩
        intro target coins sent
        simp [quiet] at sent

theorem Kept.attempt {chain : Chain} {world next : World} {tx : Tx} (kept : Kept chain world)
    (committed : chain.attempt world tx = some next) : Kept chain next := by
  cases tx with
  | icecube action =>
      obtain ⟨funded, moved, called⟩ := Option.bind_eq_some_iff.mp committed
      exact (kept.fund moved).callIcecube called
  | drand tx =>
      obtain ⟨funded, moved, called⟩ := Option.bind_eq_some_iff.mp committed
      exact (kept.fund moved).callDrand called
  | send sender target coins =>
      simp only [Chain.attempt, World.transfer, Option.ite_none_right_eq_some,
        Option.map_eq_some_iff] at committed
      obtain ⟨outside, bank, sent, rfl⟩ := committed
      exact ⟨kept.books.external outside sent, kept.pinned, kept.earned⟩
  | credit target coin =>
      cases committed
      exact ⟨kept.books.deposit target coin.denom coin.amount.val, kept.pinned, kept.earned⟩
  | mature amount =>
      obtain ⟨stakes, matured, rfl⟩ := Option.map_eq_some_iff.mp committed
      exact ⟨(kept.books.restake (Stakes.mature_total matured)).deposit _ _ _, kept.pinned,
        kept.earned⟩
  | slash validator amount =>
      obtain ⟨stakes, slashed, rfl⟩ := Option.map_eq_some_iff.mp committed
      exact ⟨kept.books.restake (Stakes.slash_total slashed), kept.pinned, kept.earned⟩
  | slashUnbonding amount =>
      obtain ⟨stakes, slashed, rfl⟩ := Option.map_eq_some_iff.mp committed
      exact ⟨kept.books.restake (Stakes.slashUnbonding_total slashed), kept.pinned, kept.earned⟩

end NoisContracts.Reserve
