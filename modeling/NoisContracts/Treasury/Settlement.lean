import NoisContracts.NoisHost
import NoisContracts.ProtocolJson
import NoisContracts.Treasury.Steps

/-!
Conservation of the payments. What a payment contract has spent is the sum of the
prices in force at the accepted requests of its channel, and it spends in no other
way. The chain creates a payment contract once at an address, so a channel connects
once and two channels never share a payment contract.
-/

namespace NoisContracts.Treasury

open ContractCall ContractCall.Call OrderedStore Ledger

theorem World.charged_of_charges {world after : World} (same : after.charges = world.charges)
    (channel denom : String) : after.charged channel denom = world.charged channel denom := by
  rw [World.charged, World.charged, same]

theorem World.charged_append {world after : World} {charge : String × Coin}
    (appended : after.charges = world.charges ++ [charge]) (channel denom : String) :
    after.charged channel denom = world.charged channel denom +
      if charge.1 = channel then amountIn denom (amounts [charge.2]) else 0 := by
  rw [World.charged, World.charged, appended, List.filter_append, List.map_append, amountIn_append]
  by_cases same : charge.1 = channel <;> simp [same, amounts]

section

variable [Wire]

structure Settled (chain : Chain) (world : World) : Prop where
  projects : ∃ txs, world.gateway = Gateway.reached chain.deps chain.gateway txs
  contracts : Contracts chain world
  owned : ∀ (channel : String) (customer : Gateway.Customer),
    world.gateway.storage.customers[channel]? = some customer →
    ∃ storage, world.payments[customer.payment]? = some storage
  distinct : ∀ (first second : String) (one two : Gateway.Customer),
    world.gateway.storage.customers[first]? = some one →
    world.gateway.storage.customers[second]? = some two → one.payment = two.payment → first = second
  spent : ∀ (channel : String) (customer : Gateway.Customer),
    world.gateway.storage.customers[channel]? = some customer →
    ∀ denom, world.bank.spent customer.payment denom = world.charged channel denom
  strangers : ∀ channel, world.gateway.storage.customers[channel]? = none →
    ∀ denom, world.charged channel denom = 0
  unspent : ∀ address, chain.guarded address = true → world.payments[address]? = none →
    ∀ denom, world.bank.spent address denom = 0
  solvent : world.bank.Solvent
  billed : world.charges.map Prod.fst = world.gateway.requests.map Prod.fst

theorem settled_initial (chain : Chain) : Settled chain World.initial := by
  have customers (channel : String) : World.initial.gateway.storage.customers[channel]? = none := by
    simp [World.initial, Gateway.World.initial, Gateway.Storage.empty]
  refine ⟨⟨[], rfl⟩, ?_, ?_, ?_, ?_, fun _ _ _ => rfl, fun _ _ _ _ => rfl, fun _ _ => Nat.le_refl 0,
    rfl⟩
  · intro address storage found
    simp [World.initial] at found
  · intro channel customer found
    simp [customers] at found
  · intro first second one two found
    simp [customers] at found
  · intro channel customer found
    simp [customers] at found

theorem Settled.registered {chain : Chain} {world : World} (settled : Settled chain world) :
    Gateway.Registered world.gateway := by
  obtain ⟨txs, same⟩ := settled.projects
  rw [same]
  exact Gateway.reached_registered chain.deps chain.gateway txs

theorem Settled.derived {chain : Chain} {world : World} (settled : Settled chain world) :
    Gateway.Derived chain.deps chain.gateway world.gateway := by
  obtain ⟨txs, same⟩ := settled.projects
  rw [same]
  exact Gateway.reached_derived chain.deps chain.gateway txs

theorem projects_attempt {chain : Chain} {world next : Gateway.World} {tx : Gateway.Tx}
    (projects : ∃ txs, world = Gateway.reached chain.deps chain.gateway txs)
    (committed : Gateway.attempt chain.deps chain.gateway world tx = some next) :
    ∃ txs, next = Gateway.reached chain.deps chain.gateway txs := by
  obtain ⟨txs, rfl⟩ := projects
  refine ⟨txs ++ [tx], ?_⟩
  rw [Gateway.reached, Runs.run_append, Runs.run_cons, Runs.run_nil]
  exact (Runs.settle_of_some committed).symm

theorem Settled.guarded {chain : Chain} {world : World} (settled : Settled chain world)
    {channel : String} {customer : Gateway.Customer}
    (found : world.gateway.storage.customers[channel]? = some customer) :
    chain.guarded customer.payment = true := by
  obtain ⟨storage, present⟩ := settled.owned channel customer found
  exact (settled.contracts customer.payment storage present).1

theorem Settled.keep {chain : Chain} {world after : World} (settled : Settled chain world)
    (projects : ∃ txs, after.gateway = Gateway.reached chain.deps chain.gateway txs)
    (customers : after.gateway.storage.customers = world.gateway.storage.customers)
    (requests : after.gateway.requests = world.gateway.requests)
    (undisturbed : Undisturbed chain world after) (charges : after.charges = world.charges) :
    Settled chain after := by
  have charged := World.charged_of_charges charges
  refine ⟨projects, ?_, ?_, ?_, ?_, ?_, ?_, undisturbed.solvent settled.solvent, ?_⟩
  · intro address storage found
    rw [undisturbed.payments] at found
    exact settled.contracts address storage found
  · intro channel customer found
    rw [customers] at found
    rw [undisturbed.payments]
    exact settled.owned channel customer found
  · rw [customers]
    exact settled.distinct
  · intro channel customer found denom
    rw [customers] at found
    rw [undisturbed.spent _ (settled.guarded found), charged]
    exact settled.spent channel customer found denom
  · intro channel absent denom
    rw [customers] at absent
    rw [charged]
    exact settled.strangers channel absent denom
  · intro address guarded absent denom
    rw [undisturbed.payments] at absent
    rw [undisturbed.spent address guarded]
    exact settled.unspent address guarded absent denom
  · rw [charges, requests]
    exact settled.billed

theorem Settled.vacant_apart {chain : Chain} {world : World} (settled : Settled chain world)
    {address : Addr} {channel : String} {customer : Gateway.Customer}
    (absent : world.payments[address]? = none)
    (found : world.gateway.storage.customers[channel]? = some customer) :
    address ≠ customer.payment := by
  rintro rfl
  obtain ⟨contract, present⟩ := settled.owned channel customer found
  rw [present] at absent
  cases absent

/-- A channel with a customer would derive an address that is taken. -/
theorem Settled.unlisted {chain : Chain} {world : World} (settled : Settled chain world)
    {config : Gateway.Config} {env : Env} {channel : String} {address : Addr}
    (configured : world.gateway.storage.config = some config)
    (contract : env.contract = chain.gateway)
    (derived : Gateway.paymentAddress chain.deps env config.paymentCodeId channel = .ok address)
    (absent : world.payments[address]? = none) :
    world.gateway.storage.customers[channel]? = none := by
  cases known : world.gateway.storage.customers[channel]? with
  | none => rfl
  | some previous =>
      obtain ⟨_, configuredAgain, again⟩ := settled.derived channel previous known
      rw [configured] at configuredAgain
      cases configuredAgain
      rw [again _ contract] at derived
      cases derived
      exact (settled.vacant_apart absent known rfl).elim

/-- An accepted request: the payment contract of its channel pays what is charged. -/
theorem Settled.charge {chain : Chain} {world after : World} {channel : String} {price : Coin}
    {customer current : Gateway.Customer} (settled : Settled chain world)
    (projects : ∃ txs, after.gateway = Gateway.reached chain.deps chain.gateway txs)
    (known : world.gateway.storage.customers[channel]? = some customer)
    (samePayment : current.payment = customer.payment)
    (customers : after.gateway.storage.customers =
      world.gateway.storage.customers.insert channel current)
    (requests : after.gateway.requests.map Prod.fst =
      world.gateway.requests.map Prod.fst ++ [channel])
    (charges : after.charges = world.charges ++ [(channel, price)])
    (payments : after.payments = world.payments)
    (spent : ∀ account denom, chain.guarded account = true → after.bank.spent account denom =
      world.bank.spent account denom + if account = customer.payment then
        amountIn denom (amounts [price]) else 0)
    (solvent : after.bank.Solvent) : Settled chain after := by
  -- a record of before, with the same payment contract
  have stored {other : String} {record : Gateway.Customer}
      (found : after.gateway.storage.customers[other]? = some record) :
      ∃ previous : Gateway.Customer, world.gateway.storage.customers[other]? = some previous ∧
        record.payment = previous.payment := by
    rw [customers, get_insert] at found
    by_cases same : channel = other
    · rw [if_pos same] at found
      cases found
      exact ⟨customer, same ▸ known, samePayment⟩
    · rw [if_neg same] at found
      exact ⟨record, found, rfl⟩
  refine ⟨projects, ?_, ?_, ?_, ?_, ?_, ?_, solvent, ?_⟩
  · intro address contract found
    rw [payments] at found
    exact settled.contracts address contract found
  · intro other record found
    obtain ⟨previous, earlier, same⟩ := stored found
    rw [payments, same]
    exact settled.owned other previous earlier
  · intro first second one two firstFound secondFound same
    obtain ⟨oneBefore, firstEarlier, onePayment⟩ := stored firstFound
    obtain ⟨twoBefore, secondEarlier, twoPayment⟩ := stored secondFound
    rw [onePayment, twoPayment] at same
    exact settled.distinct first second oneBefore twoBefore firstEarlier secondEarlier same
  · intro other record found denom
    obtain ⟨previous, earlier, same⟩ := stored found
    have payer : previous.payment = customer.payment ↔ channel = other := by
      constructor
      · intro shared
        exact (settled.distinct other channel previous customer earlier known shared).symm
      · rintro rfl
        rw [known] at earlier
        cases earlier
        rfl
    rw [same, spent _ denom (settled.guarded earlier), settled.spent other previous earlier denom,
      World.charged_append charges]
    simp only [payer]
  · intro other absent denom
    rw [customers, get_insert] at absent
    by_cases same : channel = other
    · simp [same] at absent
    · rw [if_neg same] at absent
      rw [World.charged_append charges, settled.strangers other absent denom, if_neg same]
  · intro address guarded absent denom
    rw [payments] at absent
    rw [spent address denom guarded, settled.unspent address guarded absent denom,
      if_neg (settled.vacant_apart absent known)]
  · rw [charges, requests, List.map_append, settled.billed]
    rfl

/-- A new customer, with a payment contract at an address that was free. -/
theorem Settled.enlist {chain : Chain} {world after : World} {channel : String} {address : Addr}
    {contract : Payment.Storage} (settled : Settled chain world)
    (projects : ∃ txs, after.gateway = Gateway.reached chain.deps chain.gateway txs)
    (guarded : chain.guarded address = true) (absent : world.payments[address]? = none)
    (unlisted : world.gateway.storage.customers[channel]? = none)
    (customers : after.gateway.storage.customers =
      world.gateway.storage.customers.insert channel ⟨address, 0⟩)
    (requests : after.gateway.requests = world.gateway.requests)
    (charges : after.charges = world.charges)
    (payments : after.payments = world.payments.insert address contract)
    (owner : ∃ noisSink, contract.config = some ⟨noisSink, chain.gateway⟩)
    (spent : ∀ account, chain.guarded account = true →
      after.bank.spent account = world.bank.spent account)
    (solvent : after.bank.Solvent) : Settled chain after := by
  have charged := World.charged_of_charges charges
  have stored {other : String} {customer : Gateway.Customer}
      (found : after.gateway.storage.customers[other]? = some customer) :
      (channel = other ∧ customer = ⟨address, 0⟩) ∨
        world.gateway.storage.customers[other]? = some customer := by
    rw [customers, get_insert] at found
    by_cases same : channel = other
    · rw [if_pos same] at found
      cases found
      exact .inl ⟨same, rfl⟩
    · rw [if_neg same] at found
      exact .inr found
  refine ⟨projects, ?_, ?_, ?_, ?_, ?_, ?_, solvent, ?_⟩
  · intro other created found
    rw [payments, get_insert] at found
    by_cases same : address = other
    · rw [if_pos same] at found
      cases found
      obtain ⟨noisSink, configured⟩ := owner
      exact ⟨same ▸ guarded, _, configured, rfl⟩
    · rw [if_neg same] at found
      exact settled.contracts other created found
  · intro other customer found
    rw [payments, get_insert]
    rcases stored found with ⟨_, rfl⟩ | earlier
    · exact ⟨_, if_pos rfl⟩
    · rw [if_neg (settled.vacant_apart absent earlier)]
      exact settled.owned other customer earlier
  · intro first second one two firstFound secondFound same
    rcases stored firstFound with ⟨rfl, rfl⟩ | firstEarlier
    · rcases stored secondFound with ⟨rfl, _⟩ | secondEarlier
      · rfl
      · exact (settled.vacant_apart absent secondEarlier same).elim
    · rcases stored secondFound with ⟨rfl, rfl⟩ | secondEarlier
      · exact (settled.vacant_apart absent firstEarlier same.symm).elim
      · exact settled.distinct first second one two firstEarlier secondEarlier same
  · intro other customer found denom
    rw [charged]
    rcases stored found with ⟨rfl, rfl⟩ | earlier
    · rw [spent address guarded, settled.unspent address guarded absent denom,
        settled.strangers channel unlisted denom]
    · rw [spent _ (settled.guarded earlier)]
      exact settled.spent other customer earlier denom
  · intro other missing denom
    rw [customers, get_insert] at missing
    by_cases same : channel = other
    · simp [same] at missing
    · rw [if_neg same] at missing
      rw [charged]
      exact settled.strangers other missing denom
  · intro other guardedOther missing denom
    rw [payments, get_insert] at missing
    by_cases same : address = other
    · simp [same] at missing
    · rw [if_neg same] at missing
      rw [spent other guardedOther]
      exact settled.unspent other guardedOther missing denom
  · rw [charges, requests]
    exact settled.billed

theorem Settled.step {chain : Chain} {world after : World} {tx : Tx} (settled : Settled chain world)
    (step : Step chain world tx after) : Settled chain after := by
  cases step with
  | passed undisturbed gateway charges =>
      refine settled.keep (gateway ▸ settled.projects) ?_ ?_ undisturbed charges
      · rw [gateway]
      · rw [gateway]
  | unbilled committed gateway unbilled undisturbed charges =>
      refine settled.keep (projects_attempt settled.projects committed) ?_ ?_ undisturbed charges
      · rw [gateway]
        exact unbilled.customers
      · rw [gateway, Gateway.World.requests_commit, unbilled.request]
        simp
  | accepted committed gateway request known customers configured charges payments spent received
      solvent room =>
      have billed := (congrArg (fun gateway => gateway.storage.customers) gateway).trans customers
      refine settled.charge (projects_attempt settled.projects committed) known ?_ billed ?_ charges
        payments spent (solvent settled.solvent)
      · rfl
      · rw [gateway, Gateway.World.requests_commit, request]
        simp
  | created committed gateway request configured derived vacant charges payments spent received
      solvent =>
      obtain ⟨guarded, absent⟩ := Chain.vacant_iff.mp vacant
      have unlisted := settled.unlisted configured rfl derived absent
      refine settled.enlist (projects_attempt settled.projects committed) guarded absent unlisted ?_
        ?_ charges payments ⟨_, rfl⟩ spent (solvent settled.solvent)
      · rw [gateway]
        rfl
      · rw [gateway, Gateway.World.requests_commit, request]
        simp

theorem reached_settled (chain : Chain) (txs : List Tx) : Settled chain (reached chain txs) := by
  refine Runs.run_invariant ?_ txs _ (settled_initial chain)
  intro world tx next settled committed
  exact settled.step (attempt_step settled.contracts settled.registered committed)

theorem Settled.decreased {chain : Chain} {world after : World} {tx : Tx} {channel : String}
    {customer : Gateway.Customer} {denom : String} (settled : Settled chain world)
    (step : Step chain world tx after)
    (found : world.gateway.storage.customers[channel]? = some customer)
    (decreased : after.bank.balance customer.payment denom <
      world.bank.balance customer.payment denom) :
    ∃ request round, tx = .gateway request ∧
      after.gateway.requests = world.gateway.requests ++ [(channel, round)] := by
  have guarded := settled.guarded found
  have steady (spent : after.bank.spent customer.payment = world.bank.spent customer.payment)
      (received : world.bank.received customer.payment denom ≤
        after.bank.received customer.payment denom) :
      False := by
    have kept := Book.balance_mono (congrFun spent denom) received
    omega
  cases step with
  | passed undisturbed gateway charges =>
      exact (steady (undisturbed.spent _ guarded) (undisturbed.received _ denom guarded)).elim
  | unbilled committed gateway unbilled undisturbed charges =>
      exact (steady (undisturbed.spent _ guarded) (undisturbed.received _ denom guarded)).elim
  | created committed gateway request configured derived vacant charges payments spent received
      solvent =>
      exact (steady (spent _ guarded) (received _ denom guarded)).elim
  | @accepted tx msg base response storage payer config after committed gateway request known
      customers configured charges payments spent received solvent room =>
      by_cases same : customer.payment = payer.payment
      · have channels := settled.distinct channel msg.destChannel customer payer found known same
        subst channels
        refine ⟨tx, roundNumber base, rfl, ?_⟩
        rw [gateway, Gateway.World.requests_commit, request]
        rfl
      · refine (steady ?_ ?_).elim
        · funext unit
          simp [spent _ unit guarded, same]
        · rw [received _ guarded]

theorem Settled.paid {chain : Chain} {world after : World} {tx : Tx} {channel : String}
    {round : Nat} {customer : Gateway.Customer} {config : Gateway.Config}
    (settled : Settled chain world) (step : Step chain world tx after)
    (requested : after.gateway.requests = world.gateway.requests ++ [(channel, round)])
    (found : world.gateway.storage.customers[channel]? = some customer)
    (priced : world.gateway.storage.config = some config) :
    after.charges = world.charges ++ [(channel, config.price)] ∧
      (∀ denom,
        after.bank.balance customer.payment denom + amountIn denom (amounts [config.price]) =
          world.bank.balance customer.payment denom) ∧
      (0 < 40 * config.price.amount.val / 100 → world.sink.lastId + 1 < 2 ^ 32) := by
  have changed : after.gateway.requests ≠ world.gateway.requests := by
    intro same
    rw [same] at requested
    simp at requested
  cases step with
  | passed undisturbed gateway charges => exact (changed (by rw [gateway])).elim
  | unbilled committed gateway unbilled undisturbed charges =>
      refine (changed ?_).elim
      rw [gateway, Gateway.World.requests_commit, unbilled.request]
      simp
  | created committed gateway request configured derived vacant charges payments spent received
      solvent =>
      refine (changed ?_).elim
      rw [gateway, Gateway.World.requests_commit, request]
      simp
  | @accepted tx msg base response storage payer config after committed gateway request known
      customers configured charges payments spent received solvent room =>
      rw [gateway, Gateway.World.requests_commit, request] at requested
      simp only [Option.toList_some, List.append_cancel_left_eq, List.cons.injEq, Prod.mk.injEq,
        and_true] at requested
      obtain ⟨rfl, _⟩ := requested
      rw [configured] at priced
      cases priced
      rw [known] at found
      cases found
      refine ⟨charges, ?_, ?_⟩
      · intro denom
        have guarded := settled.guarded known
        have covered := solvent settled.solvent customer.payment denom
        have total := spent customer.payment denom guarded
        rw [if_pos rfl] at total
        rw [received _ guarded] at covered
        unfold Book.balance
        rw [received _ guarded]
        omega
      · intro burns
        rw [Nat.mul_comm] at burns
        refine room ?_
        simp [Uint128.isZero, Gateway.burnShare, Nat.ne_of_gt burns]

end

/-- A `Pay` of the gateway for one price: it goes through with one positive coin in
every message, the coins make up the price, and the sink takes what it is sent as
long as it has an id left for the record. Without one it panics, which reverts the
transaction of the request. -/
structure PaysOut (deps : Deps) (env : Env) (config : Payment.Config) (storage : Payment.Storage)
    (amount burn rest share : Uint128) (relayer : String) (response : Response ContractMsg) :
    Prop where
  executed : Payment.execute deps env ⟨config.gateway, []⟩
    (.pay ⟨"unois", burn⟩ ⟨"unois", rest⟩ (relayer, ⟨"unois", share⟩)) storage =
    .ok response storage
  positive : ∀ msg ∈ response.msgs, ∃ coin, Payment.coinsOf msg = [coin] ∧ 0 < coin.amount.val ∧
    coin.denom = "unois"
  total : ((response.msgs.flatMap Payment.coinsOf).map fun coin => coin.amount.val).sum = amount.val
  burnt : ∀ contract funds, .wasmExecute contract .burn funds ∈ response.msgs →
    contract = config.sink ∧
      ∀ (block : Env) (balances : List Coin) (sink : Sink.Storage),
        (sink.lastId + 1 < 2 ^ 32 →
          ∃ answer after, Sink.execute block balances ⟨env.contract, funds⟩ .burn sink =
            .ok answer after) ∧
          (2 ^ 32 ≤ sink.lastId + 1 →
            Sink.execute block balances ⟨env.contract, funds⟩ .burn sink = .panic .overflow)

theorem paysOut {deps : Deps} {env : Env} {config : Payment.Config} {storage : Payment.Storage}
    {amount burn rest share : Uint128} {relayer : String} {valid : Addr}
    (configured : storage.config = some config) (validated : deps.addrValidate relayer = .ok valid)
    (total : burn.val + share.val + rest.val = amount.val) :
    PaysOut deps env config storage amount burn rest share relayer
      (Payment.payoutResponse config.sink env.contract ⟨"unois", burn⟩ ⟨"unois", rest⟩
        (relayer, ⟨"unois", share⟩)) := by
  have msgs : (Payment.payoutResponse config.sink env.contract ⟨"unois", burn⟩ ⟨"unois", rest⟩
      (relayer, ⟨"unois", share⟩)).msgs =
      Payment.payoutMsgs config.sink env.contract ⟨"unois", burn⟩ ⟨"unois", rest⟩
        (relayer, ⟨"unois", share⟩) :=
    SubMsg.map_msg_new _
  refine ⟨?_, ?_, ?_, ?_⟩
  · exact Payment.executePay_eq_ok.mpr ⟨config, valid, configured, rfl, rfl, validated, rfl, rfl⟩
  · intro msg member
    rw [msgs] at member
    obtain ⟨coin, part, coins, nonzero⟩ := Payment.payoutMsgs_coin member
    refine ⟨coin, coins, ?_, ?_⟩
    · simp only [Uint128.isZero, beq_eq_false_iff_ne] at nonzero
      omega
    · simp only [List.mem_cons, List.not_mem_nil, or_false] at part
      rcases part with rfl | rfl | rfl <;> rfl
  · rw [msgs, Payment.payoutMsgs_coins, Payment.payoutCoins, sum_nonzero (fun _ none => none),
      ← total]
    simp [Nat.add_assoc]
  · intro contract funds member
    rw [msgs] at member
    obtain ⟨rfl, rfl⟩ := Payment.payoutMsgs_burn member
    refine ⟨rfl, ?_⟩
    intro block balances sink
    refine ⟨?_, ?_⟩
    · intro room
      exact ⟨_, _, Sink.executeBurn_eq_ok.mpr ⟨_, rfl, rfl, room, rfl, rfl⟩⟩
    · intro full
      exact Sink.executeBurn_exhausted rfl rfl full

/-- Everything about the payments: the split of a price, its `Pay`, and the books of
every reachable world. -/
structure Settlement [Wire] (chain : Chain) (world : World) : Prop where
  balance : ∀ (channel : String) (customer : Gateway.Customer),
    world.gateway.storage.customers[channel]? = some customer → ∀ denom,
    world.bank.balance customer.payment denom + world.charged channel denom =
      world.bank.received customer.payment denom
  billed : world.charges.map Prod.fst = world.gateway.requests.map Prod.fst
  decreased : ∀ (tx : Tx) (next : World) (channel : String) (customer : Gateway.Customer)
    (denom : String),
    attempt chain world tx = some next → world.gateway.storage.customers[channel]? = some customer →
      next.bank.balance customer.payment denom < world.bank.balance customer.payment denom →
      ∃ request round, tx = .gateway request ∧
        next.gateway.requests = world.gateway.requests ++ [(channel, round)]
  paid : ∀ (tx : Tx) (next : World) (channel : String) (round : Nat) (customer : Gateway.Customer)
    (config : Gateway.Config), attempt chain world tx = some next →
    next.gateway.requests = world.gateway.requests ++ [(channel, round)] →
    world.gateway.storage.customers[channel]? = some customer →
    world.gateway.storage.config = some config →
    next.charges = world.charges ++ [(channel, config.price)] ∧
      (∀ denom, next.bank.balance customer.payment denom + amountIn denom (amounts [config.price]) =
        world.bank.balance customer.payment denom) ∧
      (0 < 40 * config.price.amount.val / 100 → world.sink.lastId + 1 < 2 ^ 32)

theorem payments_settled [Wire] :
    (∀ amount : Uint128, ∃ burn share kept rest : Uint128, amount.mulFloor 40 100 = .ok burn ∧
      amount.mulFloor 20 100 = .ok share ∧ amount.sub burn = .ok kept ∧ kept.sub share = .ok rest ∧
      burn.val = 40 * amount.val / 100 ∧ share.val = 20 * amount.val / 100 ∧
      burn.val + share.val + rest.val = amount.val ∧
      ∀ (deps : Deps) (env : Env) (config : Payment.Config) (storage : Payment.Storage)
        (relayer : String) (valid : Addr),
        storage.config = some config → deps.addrValidate relayer = .ok valid →
          ∃ response, PaysOut deps env config storage amount burn rest share relayer response) ∧
      ∀ (chain : Chain) (txs : List Tx), Settlement chain (reached chain txs) := by
  constructor
  · intro amount
    have sum := Gateway.shares_sum amount
    obtain ⟨kept, first, second⟩ := Gateway.shares_sub amount
    refine ⟨Gateway.burnShare amount, Gateway.relayerShare amount, kept, Gateway.restShare amount,
      Uint128.mulFloor_eq_ok.mpr rfl, Uint128.mulFloor_eq_ok.mpr rfl, first, second, ?_, ?_, sum,
      ?_⟩
    · exact congrArg (· / 100) (Nat.mul_comm _ _)
    · exact congrArg (· / 100) (Nat.mul_comm _ _)
    · intro deps env config storage relayer valid configured validated
      exact ⟨_, paysOut configured validated sum⟩
  · intro chain txs
    have settled := reached_settled chain txs
    generalize reached chain txs = world at settled
    have steps {tx : Tx} {next : World} (committed : attempt chain world tx = some next) :
        Step chain world tx next := attempt_step settled.contracts settled.registered committed
    refine ⟨?_, settled.billed, ?_, ?_⟩
    · intro channel customer found denom
      have covered := settled.solvent customer.payment denom
      rw [← settled.spent channel customer found denom]
      unfold Book.balance
      omega
    · intro tx next channel customer denom committed found decreased
      exact settled.decreased (steps committed) found decreased
    · intro tx next channel round customer config committed requested found priced
      exact settled.paid (steps committed) requested found priced

def oneUnois : Coin := ⟨"unois", ⟨1, by decide⟩⟩

def burnOne (block : BlockInfo) (sender : Addr) : Tx := .sink block none ⟨sender, [oneUnois]⟩ .burn

theorem attempt_burnOne [Wire] {chain : Chain} {sender : Addr} {world : World}
    (external : chain.external sender = true) (solvent : world.bank.Solvent)
    (room : world.sink.lastId + 1 < 2 ^ 32) (covered : 1 ≤ world.bank.balance sender "unois")
    (block : BlockInfo) :
    ∃ after, attempt chain world (burnOne block sender) = some after ∧
      after.gateway = world.gateway ∧ after.payments = world.payments ∧ after.bank.Solvent ∧
      after.sink.lastId = world.sink.lastId + 1 ∧
      after.bank.balance sender "unois" + 1 = world.bank.balance sender "unois" := by
  have different : sender ≠ chain.sink := by
    rintro rfl
    simp [chain.sinkInternal] at external
  generalize paidBank :
    Book.deposit { world.bank with spent := add world.bank.spent sender "unois" 1 } chain.sink
      "unois" 1 =
      paid
  have moved : world.transfer sender chain.sink [oneUnois] = some { world with bank := paid } := by
    simp [World.transfer, amounts, oneUnois, Book.send, Book.withdraw_of_le Nat.one_pos covered,
      paidBank]
  have coverage : 1 ≤ paid.balance chain.sink "unois" := by
    have before := solvent chain.sink "unois"
    simp only [← paidBank, Book.balance, Book.deposit, add, different.symm, and_self, if_true,
      false_and, if_false]
    omega
  have burnt : ∃ answer ashes,
      Sink.execute ⟨block, none, chain.sink⟩
        (({ world with bank := paid } : World).balanceOf chain.sink Sink.burnDenom)
        ⟨sender, [oneUnois]⟩ .burn world.sink =
        .ok answer ashes ∧
        answer.msgs = [.bankBurn [oneUnois]] ∧ ashes.lastId = world.sink.lastId + 1 :=
    ⟨_, _, Sink.executeBurn_eq_ok.mpr ⟨oneUnois, rfl, rfl, room, rfl, rfl⟩, rfl, rfl⟩
  obtain ⟨answer, ashes, executed, msgs, lastId⟩ := burnt
  have taken : paid.take chain.sink (amounts [oneUnois]) =
      some { paid with spent := add paid.spent chain.sink "unois" 1 } := by
    simp [amounts, oneUnois, Book.take, Book.withdraw_of_le Nat.one_pos coverage]
  have called : attempt chain world (burnOne block sender) =
      some { world with
        bank := { paid with spent := add paid.spent chain.sink "unois" 1 }
        sink := ashes } := by
    simp [attempt, burnOne, external, Chain.callSink, moved, executed, msgs, Chain.dispatchSink,
      World.take, taken]
  have flow := callSink_outflow (by simpa [attempt, burnOne, external] using called)
  refine ⟨_, called, rfl, rfl, flow.solvent solvent, lastId, ?_⟩
  have spent := flow.spent sender "unois" different
  simp only [← paidBank, Book.balance, Book.deposit, add, different, and_true, if_true, if_false]
  simp only [Book.balance] at covered
  omega

theorem run_burns [Wire] {chain : Chain} {sender : Addr} (external : chain.external sender = true)
    (block : BlockInfo) (count : Nat) (world : World) (solvent : world.bank.Solvent)
    (room : world.sink.lastId + count < 2 ^ 32)
    (covered : count ≤ world.bank.balance sender "unois") :
    (Runs.run (attempt chain) world (List.replicate count (burnOne block sender))).sink.lastId =
      world.sink.lastId + count ∧
      (Runs.run (attempt chain) world (List.replicate count (burnOne block sender))).gateway =
        world.gateway ∧
      (Runs.run (attempt chain) world (List.replicate count (burnOne block sender))).payments =
        world.payments := by
  induction count generalizing world with
  | zero => simp
  | succ count ih =>
      obtain ⟨after, committed, gateway, payments, still, lastId, balance⟩ :=
        attempt_burnOne external solvent (by omega) (by omega) block
      rw [List.replicate_succ, Runs.run_cons, Runs.settle_of_some committed]
      obtain ⟨laterId, laterGateway, laterPayments⟩ := ih after still (by omega) (by omega)
      refine ⟨by omega, laterGateway.trans gateway, laterPayments.trans payments⟩

section

attribute [local instance] jsonWire

open NoisHost

def nois : Chain where
  deps := NoisHost.deps
  gateway := NoisHost.gateway
  sink := NoisHost.sink
  paymentCodeId := 1
  external address := address = manager ∨ address = relayer ∨ address = drand
  gatewayInternal := by decide
  sinkInternal := by decide

example :
    let request : Gateway.Tx := ⟨Gateway.openingBlock, some 4, .packetReceive
      { data := Wire.inPacket.toJsonBinary (.requestBeacon Gateway.requestTime [1, 2, 3])
        destChannel := "channel-0"
        relayer := relayer }, true⟩
    let world := reached nois (Gateway.opening.map .gateway ++
      [.credit firstPayment ⟨"unois", ⟨1000007, by decide⟩⟩, .gateway request])
    world.charges = [("channel-0", ⟨"unois", ⟨1000000, by decide⟩⟩)] ∧
      world.bank.balance firstPayment "unois" = 7 ∧
      world.bank.balance relayer "unois" = 200000 := by
  decide +kernel

/-- Initial funds of `0unois` switch them off, and channels still connect. -/
example :
    let switchesOff : Gateway.Tx := ⟨Gateway.openingBlock, some 2, .execute ⟨manager, []⟩
      (.setConfig none none none (some ⟨"unois", Uint128.zero⟩) none), true⟩
    let world := reached nois
      ((Gateway.opening.take 2 ++ switchesOff :: Gateway.opening.drop 2).map .gateway)
    world.payments.contains firstPayment = true ∧ world.bank.balance firstPayment "unois" = 0 := by
  decide +kernel

def funded : List Tx :=
  Gateway.opening.map .gateway ++ [.credit manager ⟨"unois", ⟨2 ^ 32, by decide⟩⟩]

theorem funded_facts :
    (reached nois funded).sink.lastId = 0 ∧
      (reached nois funded).bank.balance manager "unois" = 2 ^ 32 ∧
      (reached nois funded).gateway.storage.customers["channel-0"]? = some ⟨firstPayment, 0⟩ ∧
      ((reached nois funded).gateway.storage.config.map Gateway.Config.price) =
        some ⟨"unois", ⟨1000000, by decide⟩⟩ ∧
      (reached nois funded).payments[firstPayment]? =
        some ⟨some ("nois-payment", "0.15.4"), some ⟨NoisHost.sink, NoisHost.gateway⟩⟩ := by
  refine ⟨by decide +kernel, by decide +kernel, by decide +kernel, by decide +kernel,
    by decide +kernel⟩

/-- After as many burns as there are ids, the sink refuses the burn of a payment. -/
theorem exhausted_sink_refuses_burn :
    ∃ txs : List Tx,
      (reached nois txs).gateway.storage.customers["channel-0"]? = some ⟨firstPayment, 0⟩ ∧
      ((reached nois txs).gateway.storage.config.map Gateway.Config.price) =
        some ⟨"unois", ⟨1000000, by decide⟩⟩ ∧
      ∃ storage response, (reached nois txs).payments[firstPayment]? = some storage ∧
        Payment.execute nois.deps ⟨Gateway.openingBlock, none, firstPayment⟩ ⟨nois.gateway, []⟩
          (.pay ⟨"unois", ⟨400000, by decide⟩⟩ ⟨"unois", ⟨400000, by decide⟩⟩
            (relayer, ⟨"unois", ⟨200000, by decide⟩⟩)) storage = .ok response storage ∧
        .wasmExecute nois.sink .burn [⟨"unois", ⟨400000, by decide⟩⟩] ∈ response.msgs ∧
        Sink.execute ⟨Gateway.openingBlock, none, nois.sink⟩ []
          ⟨firstPayment, [⟨"unois", ⟨400000, by decide⟩⟩]⟩ .burn (reached nois txs).sink =
            .panic .overflow := by
  obtain ⟨lastId, balance, customers, price, payment⟩ := funded_facts
  have solvent := (reached_settled nois funded).solvent
  obtain ⟨exhausted, gateway, payments⟩ := run_burns (show nois.external manager = true by decide)
    Gateway.openingBlock (2 ^ 32 - 1) (reached nois funded) solvent (by omega) (by omega)
  refine ⟨funded ++ List.replicate (2 ^ 32 - 1) (burnOne Gateway.openingBlock manager), ?_⟩
  have world :
      reached nois (funded ++ List.replicate (2 ^ 32 - 1) (burnOne Gateway.openingBlock manager)) =
        Runs.run (attempt nois) (reached nois funded)
          (List.replicate (2 ^ 32 - 1) (burnOne Gateway.openingBlock manager)) :=
    Runs.run_append _ _ _ _
  rw [world, gateway, payments]
  refine ⟨customers, price, _, Payment.payoutResponse nois.sink firstPayment
    ⟨"unois", ⟨400000, by decide⟩⟩ ⟨"unois", ⟨400000, by decide⟩⟩
    (relayer, ⟨"unois", ⟨200000, by decide⟩⟩), payment, ?_, ?_, ?_⟩
  · exact Payment.executePay_eq_ok.mpr ⟨_, relayer, rfl, rfl, rfl, rfl, rfl, rfl⟩
  · decide
  · refine Sink.executeBurn_exhausted rfl rfl ?_
    omega

end

end NoisContracts.Treasury
