import NoisContracts.Treasury.Core

/-!
What a committed transaction does to the books. From the address of a payment
contract coins leave in one way only, through a `Pay` of the gateway.
-/

namespace NoisContracts.Treasury

open ContractCall ContractCall.Call OrderedStore Ledger

theorem Chain.guarded_iff {chain : Chain} {address : Addr} :
    chain.guarded address = true ↔
      chain.external address = false ∧ address ≠ chain.gateway ∧ address ≠ chain.sink := by
  simp [Chain.guarded, and_assoc]

theorem Chain.vacant_iff {chain : Chain} {world : World} {address : Addr} :
    chain.vacant world address = true ↔
      chain.guarded address = true ∧ world.payments[address]? = none := by
  rw [Chain.vacant, Bool.and_eq_true, Bool.not_eq_true', contains_eq_false]

theorem amounts_append (first second : List Coin) :
    amounts (first ++ second) = amounts first ++ amounts second := by
  simp [amounts]

theorem sum_nonzero {weight : Coin → Nat} (zero : ∀ coin, coin.amount.val = 0 → weight coin = 0)
    (coins : List Coin) :
    ((coins.filter fun coin => !coin.amount.isZero).map weight).sum = (coins.map weight).sum := by
  induction coins with
  | nil => rfl
  | cons coin coins ih =>
      cases none : coin.amount.isZero with
      | true => simp [none, ih, zero coin (by simpa [Uint128.isZero] using none)]
      | false => simp [none, ih]

theorem amountIn_messageFunds (denom : String) (coins : List Coin) :
    amountIn denom (amounts (messageFunds coins)) = amountIn denom (amounts coins) := by
  simp only [amountIn, amounts, messageFunds, List.map_map]
  refine sum_nonzero ?_ coins
  intro coin none
  simp [none]

theorem World.transfer_eq_some {world after : World} {source target : Addr} {coins : List Coin} :
    world.transfer source target coins = some after ↔
      ∃ bank, world.bank.send source target (amounts coins) = some bank ∧
        { world with bank } = after := by
  rw [World.transfer, Option.map_eq_some_iff]

theorem World.take_eq_some {world after : World} {account : Addr} {coins : List Coin} :
    world.take account coins = some after ↔
      ∃ bank, world.bank.take account (amounts coins) = some bank ∧
        { world with bank } = after := by
  rw [World.take, Option.map_eq_some_iff]

theorem World.transfer_nil (world : World) (source target : Addr) :
    world.transfer source target [] = some world := rfl

/-- Coins that leave a source. The books of the sink are left open. -/
structure Outflow (chain : Chain) (world after : World) (source : Addr) (coins : List Coin) :
    Prop where
  gateway : after.gateway = world.gateway
  payments : after.payments = world.payments
  charges : after.charges = world.charges
  spent : ∀ other denom, other ≠ chain.sink → after.bank.spent other denom =
    world.bank.spent other denom + if other = source then amountIn denom (amounts coins) else 0
  received :
    ∀ other, chain.guarded other = true → after.bank.received other = world.bank.received other
  solvent : world.bank.Solvent → after.bank.Solvent

theorem Outflow.nil (chain : Chain) (world : World) (source : Addr) :
    Outflow chain world world source [] := by
  refine ⟨rfl, rfl, rfl, ?_, fun _ _ => rfl, id⟩
  intro other denom _
  simp [amounts]

theorem Outflow.trans {chain : Chain} {world middle after : World} {source : Addr}
    {first second : List Coin} (before : Outflow chain world middle source first)
    (later : Outflow chain middle after source second) :
    Outflow chain world after source (first ++ second) := by
  refine ⟨later.gateway.trans before.gateway, later.payments.trans before.payments,
    later.charges.trans before.charges, ?_, ?_,
    fun solvent => later.solvent (before.solvent solvent)⟩
  · intro other denom outside
    rw [later.spent other denom outside, before.spent other denom outside, amounts_append,
      amountIn_append]
    split <;> omega
  · intro other guarded
    rw [later.received other guarded, before.received other guarded]

theorem Outflow.transfer {chain : Chain} {world after : World} {source target : Addr}
    {coins : List Coin} (unguarded : chain.guarded target = false)
    (moved : world.transfer source target coins = some after) :
    Outflow chain world after source coins := by
  obtain ⟨bank, sent, rfl⟩ := World.transfer_eq_some.mp moved
  have sends := Book.send_eq_some sent
  refine ⟨rfl, rfl, rfl, fun other denom _ => sends.spent other denom, ?_, sends.solvent⟩
  intro other guarded
  funext denom
  have different : other ≠ target := by
    rintro rfl
    simp [guarded] at unguarded
  simp [sends.received other denom, different]

theorem Outflow.take {chain : Chain} {world after : World} {account : Addr} {coins : List Coin}
    (taken : world.take account coins = some after) : Outflow chain world after account coins := by
  obtain ⟨bank, withdrawn, rfl⟩ := World.take_eq_some.mp taken
  have takes := Book.take_eq_some withdrawn
  refine ⟨rfl, rfl, rfl, fun other denom _ => takes.spent other denom, ?_, takes.solvent⟩
  intro other _
  exact congrFun takes.received other

theorem Outflow.ofSink {chain : Chain} {world after : World} {coins : List Coin} (source : Addr)
    (outflow : Outflow chain world after chain.sink coins) :
    Outflow chain world after source [] := by
  refine ⟨outflow.gateway, outflow.payments, outflow.charges, ?_, outflow.received, outflow.solvent⟩
  intro other denom outside
  rw [outflow.spent other denom outside]
  simp [outside, amounts]

theorem Outflow.ofMessage {chain : Chain} {world after : World} {source : Addr} {funds : List Coin}
    (outflow : Outflow chain world after source (messageFunds funds)) :
    Outflow chain world after source funds := by
  refine ⟨outflow.gateway, outflow.payments, outflow.charges, ?_, outflow.received, outflow.solvent⟩
  intro other denom outside
  rw [outflow.spent other denom outside, amountIn_messageFunds]

theorem Chain.sink_unguarded (chain : Chain) : chain.guarded chain.sink = false := by
  simp [Chain.guarded]

theorem Chain.gateway_unguarded (chain : Chain) : chain.guarded chain.gateway = false := by
  simp [Chain.guarded]

theorem Chain.external_unguarded {chain : Chain} {address : Addr}
    (external : chain.external address = true) : chain.guarded address = false := by
  simp [Chain.guarded, external]

theorem dispatchSink_outflow {chain : Chain} {world after : World} {msgs : List Msg} (source : Addr)
    (dispatched : msgs.foldlM chain.dispatchSink world = some after) :
    Outflow chain world after source [] := by
  refine @Runs.foldlM_invariant _ _ chain.dispatchSink
    (fun next => Outflow chain world next source [])
    _ _ _ ?_ (Outflow.nil chain world source) dispatched
  intro before msg next _ outflow attempted
  cases msg with
  | bankBurn coins => exact outflow.trans ((Outflow.take attempted).ofSink source)
  | _ => cases attempted

theorem callSink_outflow {chain : Chain} {block : BlockInfo} {index : Option Nat}
    {world after : World} {info : MessageInfo} {msg : Sink.ExecuteMsg}
    (called : chain.callSink block index world info msg = some after) :
    Outflow chain world after info.sender info.funds := by
  obtain ⟨funded, moved, called⟩ := Option.bind_eq_some_iff.mp called
  have payment := Outflow.transfer chain.sink_unguarded moved
  cases executed : Sink.execute ⟨block, index, chain.sink⟩
      (funded.balanceOf chain.sink Sink.burnDenom) info msg funded.sink with
  | ok response ashes =>
      simp only [executed] at called
      have burnt := dispatchSink_outflow info.sender called
      rw [← List.append_nil info.funds]
      exact payment.trans
        ⟨burnt.gateway, burnt.payments, burnt.charges, burnt.spent, burnt.received, burnt.solvent⟩
  | error cause ashes => simp [executed] at called
  | panic cause => simp [executed] at called

theorem callSink_room {chain : Chain} {block : BlockInfo} {index : Option Nat} {world after : World}
    {info : MessageInfo} (called : chain.callSink block index world info .burn = some after) :
    world.sink.lastId + 1 < 2 ^ 32 := by
  obtain ⟨funded, moved, called⟩ := Option.bind_eq_some_iff.mp called
  obtain ⟨bank, _, rfl⟩ := World.transfer_eq_some.mp moved
  split at called
  · rename_i response ashes executed
    obtain ⟨_, _, _, room, _⟩ := Sink.executeBurn_eq_ok.mp executed
    exact room
  · cases called
  · cases called

theorem fundCommunityPool_outflow {chain : Chain} {world after : World} {sender : Addr}
    {value : Binary} (funded : Chain.fundCommunityPool world sender value = some after)
    (typeUrl : String) :
    Outflow chain world after sender (Payment.coinsOf (.stargate typeUrl value)) := by
  obtain ⟨⟨coins, depositor⟩, decoded, funded⟩ := Option.bind_eq_some_iff.mp funded
  simp only [Payment.coinsOf, decoded, Option.map_some, Option.getD_some]
  by_cases own : depositor = sender
  · simp only [own, if_true] at funded
    exact Outflow.take funded
  · simp [own] at funded

theorem dispatchPayment_outflow {chain : Chain} {block : BlockInfo} {index : Option Nat}
    {payment : Addr} {world after : World} {msg : Msg}
    (relayed : ∀ target coins, msg = .bankSend target coins → chain.external target = true)
    (dispatched : chain.dispatchPayment block index payment world msg = some after) :
    Outflow chain world after payment (Payment.coinsOf msg) := by
  cases msg with
  | bankSend target coins =>
      exact Outflow.transfer (Chain.external_unguarded (relayed target coins rfl)) dispatched
  | wasmExecute contract call funds =>
      cases call with
      | burn =>
          simp only [Chain.dispatchPayment] at dispatched
          split at dispatched
          · exact (callSink_outflow dispatched).ofMessage
          · cases dispatched
      | _ => cases dispatched
  | stargate typeUrl value =>
      simp only [Chain.dispatchPayment] at dispatched
      split at dispatched
      · exact fundCommunityPool_outflow dispatched typeUrl
      · cases dispatched
  | _ => cases dispatched

theorem dispatchPayment_all {chain : Chain} {block : BlockInfo} {index : Option Nat}
    {payment : Addr} {world after : World} {msgs : List Msg}
    (relayed : ∀ target coins, .bankSend target coins ∈ msgs → chain.external target = true)
    (dispatched : msgs.foldlM (chain.dispatchPayment block index payment) world = some after) :
    Outflow chain world after payment (msgs.flatMap Payment.coinsOf) := by
  induction msgs generalizing world with
  | nil =>
      simp only [List.foldlM_nil, Option.pure_def, Option.some.injEq] at dispatched
      subst dispatched
      exact Outflow.nil chain world payment
  | cons msg msgs ih =>
      rw [List.foldlM_cons] at dispatched
      obtain ⟨middle, first, rest⟩ := Option.bind_eq_some_iff.mp dispatched
      rw [List.flatMap_cons]
      refine (dispatchPayment_outflow ?_ first).trans (ih ?_ rest)
      · rintro target coins rfl
        exact relayed target coins List.mem_cons_self
      · intro target coins member
        exact relayed target coins (List.mem_cons_of_mem msg member)

/-- The burn comes first, and the sink records it. -/
theorem dispatchPayment_room {chain : Chain} {block : BlockInfo} {index : Option Nat}
    {sink payment : Addr} {world after : World} {burn communityPool : Coin}
    {relayer : String × Coin}
    (dispatched :
      (Payment.payoutMsgs sink payment burn communityPool relayer).foldlM
        (chain.dispatchPayment block index payment) world =
        some after) (burns : burn.amount.isZero = false) : world.sink.lastId + 1 < 2 ^ 32 := by
  rw [Payment.payoutMsgs, burns, if_neg Bool.false_ne_true, List.append_assoc,
    List.singleton_append, List.foldlM_cons] at dispatched
  obtain ⟨middle, first, _⟩ := Option.bind_eq_some_iff.mp dispatched
  simp only [Chain.dispatchPayment] at first
  split at first
  · exact callSink_room first
  · cases first

theorem callPayment_outflow {chain : Chain} {block : BlockInfo} {index : Option Nat}
    {world after : World} {info : MessageInfo} {payment : Addr} {burn communityPool : Coin}
    {relayer : String × Coin} {storage : Payment.Storage} {config : Payment.Config}
    (found : world.payments[payment]? = some storage) (configured : storage.config = some config)
    (called : chain.callPayment block index world info payment (.pay burn communityPool relayer) =
      some after) :
    info.sender = config.gateway ∧ (burn.amount.isZero = false → world.sink.lastId + 1 < 2 ^ 32) ∧
      (chain.external relayer.1 = true →
        Outflow chain world after payment (Payment.payoutCoins burn communityPool relayer)) := by
  simp only [Chain.callPayment, found, Option.bind_eq_bind, Option.bind_some] at called
  obtain ⟨funded, moved, called⟩ := Option.bind_eq_some_iff.mp called
  cases executed : Payment.execute chain.deps ⟨block, index, payment⟩ info
      (.pay burn communityPool relayer) storage with
  | ok response kept =>
      obtain ⟨_, _, present, sender, funds, _, rfl, rfl⟩ := Payment.executePay_eq_ok.mp executed
      rw [configured] at present
      cases present
      rw [funds, World.transfer_nil] at moved
      cases moved
      simp only [executed, insert_self found] at called
      rw [Payment.payoutResponse, Response.msgs, SubMsg.map_msg_new] at called
      refine ⟨sender, dispatchPayment_room called, ?_⟩
      intro external
      rw [← Payment.payoutMsgs_coins config.sink payment]
      refine dispatchPayment_all ?_ called
      -- the only transfer among the messages goes to the relayer
      intro target coins member
      simp only [Payment.payoutMsgs, List.mem_append] at member
      rcases member with (burning | sending) | funding
      · split at burning <;> simp at burning
      · split at sending
        · simp at sending
        · simp only [List.mem_singleton, CosmosMsg.bankSend.injEq] at sending
          exact sending.1 ▸ external
      · split at funding <;> simp at funding
  | error cause kept => simp [executed] at called
  | panic cause => simp [executed] at called

def Contracts (chain : Chain) (world : World) : Prop :=
  ∀ (address : Addr) (storage : Payment.Storage), world.payments[address]? = some storage →
    chain.guarded address = true ∧
      ∃ config, storage.config = some config ∧ config.gateway = chain.gateway

structure Undisturbed (chain : Chain) (world after : World) : Prop where
  payments : after.payments = world.payments
  spent :
    ∀ account, chain.guarded account = true → after.bank.spent account = world.bank.spent account
  received : ∀ account denom, chain.guarded account = true →
    world.bank.received account denom ≤ after.bank.received account denom
  solvent : world.bank.Solvent → after.bank.Solvent

theorem Undisturbed.refl (chain : Chain) (world : World) : Undisturbed chain world world :=
  ⟨rfl, fun _ _ => rfl, fun _ _ _ => Nat.le_refl _, id⟩

theorem Undisturbed.transfer {chain : Chain} {world after : World} {source target : Addr}
    {coins : List Coin} (unguarded : chain.guarded source = false)
    (moved : world.transfer source target coins = some after) : Undisturbed chain world after := by
  obtain ⟨bank, sent, rfl⟩ := World.transfer_eq_some.mp moved
  have sends := Book.send_eq_some sent
  refine ⟨rfl, ?_, ?_, sends.solvent⟩
  · intro account guarded
    funext denom
    have different : account ≠ source := by
      rintro rfl
      simp [guarded] at unguarded
    simp [sends.spent account denom, different]
  · intro account denom _
    rw [sends.received account denom]
    omega

theorem callSink_undisturbed {chain : Chain} {block : BlockInfo} {index : Option Nat}
    {world after : World} {info : MessageInfo} {msg : Sink.ExecuteMsg}
    (unguarded : chain.guarded info.sender = false)
    (called : chain.callSink block index world info msg = some after) :
    Undisturbed chain world after ∧ after.gateway = world.gateway ∧
      after.charges = world.charges := by
  have outflow := callSink_outflow called
  refine ⟨⟨outflow.payments, ?_, ?_, outflow.solvent⟩, outflow.gateway, outflow.charges⟩
  · intro account guarded
    funext denom
    have different : account ≠ info.sender := by
      rintro rfl
      simp [guarded] at unguarded
    have outside := (Chain.guarded_iff.mp guarded).2.2
    simp [outflow.spent account denom outside, different]
  · intro account denom guarded
    rw [outflow.received account guarded]

theorem fund_undisturbed {chain : Chain} {world after : World} {action : Gateway.Action}
    (signed : chain.signs action = true) (funded : chain.fund world action = some after) :
    Undisturbed chain world after := by
  cases action with
  | execute info msg => exact Undisturbed.transfer (Chain.external_unguarded signed) funded
  | _ =>
      cases funded
      exact Undisturbed.refl chain world

theorem dispatchGateway_packets {chain : Chain} {block : BlockInfo} {index : Option Nat}
    {world : World} {msgs : List Msg} (packets : ∀ msg ∈ msgs, Gateway.isPacket msg = true) :
    msgs.foldlM (chain.dispatchGateway block index) world = some world := by
  induction msgs with
  | nil => rfl
  | cons msg msgs ih =>
      have first : chain.dispatchGateway block index world msg = some world := by
        have packet := packets msg List.mem_cons_self
        cases msg <;> simp_all [Gateway.isPacket, Chain.dispatchGateway]
      rw [List.foldlM_cons, first]
      exact ih fun other member => packets other (List.mem_cons_of_mem msg member)

structure Created (chain : Chain) (world after : World) (address : Addr) (sink : String) :
    Prop where
  vacant : chain.vacant world address = true
  gateway : after.gateway = world.gateway
  charges : after.charges = world.charges
  payments : ∃ noisSink version, after.payments =
    world.payments.insert address ⟨version, some ⟨noisSink, chain.gateway⟩⟩
  spent :
    ∀ account, chain.guarded account = true → after.bank.spent account = world.bank.spent account
  received : ∀ account denom, chain.guarded account = true →
    world.bank.received account denom ≤ after.bank.received account denom
  solvent : world.bank.Solvent → after.bank.Solvent

theorem Chain.paymentAddress_eq {chain : Chain} {env : Env} {codeId : Nat} {channel : String}
    {address : Addr} (contract : env.contract = chain.gateway)
    (derived : Gateway.paymentAddress chain.deps env codeId channel = .ok address) :
    chain.contractAddress codeId (Gateway.hashChannel chain.deps channel) = .ok address := by
  simp only [Gateway.paymentAddress, contract, except_bind_eq_ok, except_mapError_eq_ok] at derived
  simpa only [Chain.contractAddress, except_bind_eq_ok, except_mapError_eq_ok] using derived

theorem createPayment_created {chain : Chain} {world after : World} {codeId : Nat} {sink : String}
    {funds : List Coin} {salt : Binary} {address : Addr}
    (derived : chain.contractAddress codeId salt = .ok address)
    (created : chain.createPayment world codeId sink funds salt = some after) :
    Created chain world after address sink := by
  simp only [Chain.createPayment, derived, Except.toOption, Option.bind_eq_bind, Option.bind_some]
    at created
  split at created
  · rename_i allowed
    obtain ⟨funded, moved, created⟩ := Option.bind_eq_some_iff.mp created
    have undisturbed := Undisturbed.transfer chain.gateway_unguarded moved
    obtain ⟨bank, _, rfl⟩ := World.transfer_eq_some.mp moved
    cases instantiated : Payment.instantiate chain.deps ⟨chain.gateway, funds⟩ sink
      Payment.Storage.empty with
    | ok response storage =>
        simp only [instantiated, Option.some.injEq] at created
        simp only [Payment.instantiate, bind_eq_ok, ofExcept_eq_ok, writes_eq_ok, pure_eq_ok]
          at instantiated
        obtain ⟨noisSink, _, ⟨_, rfl⟩, _, _, rfl, _, _, rfl, _, rfl⟩ := instantiated
        subst created
        exact ⟨allowed.2, rfl, rfl, ⟨noisSink, _, rfl⟩, undisturbed.spent, undisturbed.received,
          undisturbed.solvent⟩
    | error cause storage => simp [instantiated] at created
    | panic cause => simp [instantiated] at created
  · cases created

theorem payoutCoins_price (price : Coin) (relayer denom : String) :
    amountIn denom (amounts (Payment.payoutCoins ⟨price.denom, Gateway.burnShare price.amount⟩
      ⟨price.denom, Gateway.restShare price.amount⟩
      (relayer, ⟨price.denom, Gateway.relayerShare price.amount⟩))) =
      amountIn denom (amounts [price]) := by
  have total := Gateway.shares_sum price.amount
  rw [Payment.payoutCoins]
  refine (amountIn_messageFunds denom _).trans ?_
  simp only [amountIn, amounts, List.map_cons, List.map_nil, List.sum_cons, List.sum_nil]
  split <;> omega

section

variable [Wire]

theorem dispatchGateway_routed {chain : Chain} {env : Env} {channel : String} {base : Timestamp}
    {origin : Binary} {storage after : Gateway.Storage} {receipt : Gateway.RoutingReceipt}
    (routed : Gateway.Routed env channel base origin storage receipt after)
    (block : BlockInfo) (index : Option Nat) (world : World) :
    receipt.msgs.foldlM (chain.dispatchGateway block index) world = some world := by
  cases routed with
  | processed archived counted time deadline => rfl
  | @queued config missing small free configured =>
      cases drand : config.drand with
      | none => simp [Gateway.incentivizeMsgs, drand]
      | some address =>
          simp [Gateway.incentivizeMsgs, drand, Chain.dispatchGateway, messageFunds,
            World.transfer_nil]

theorem chargeOf_commit (world : Gateway.World) (tx : Gateway.Tx) (response : Response ContractMsg)
    (after : Gateway.Storage) :
    chargeOf world (world.commit tx response after) =
      chargeFor (Gateway.Entry.request ⟨tx, response⟩) world.storage.config := by
  simp [chargeOf, Gateway.World.commit]

/-- Everything that a committed transaction does. -/
inductive Step (chain : Chain) (world : World) : Tx → World → Prop
  | passed {tx : Tx} {after : World} (undisturbed : Undisturbed chain world after)
      (gateway : after.gateway = world.gateway) (charges : after.charges = world.charges) :
      Step chain world tx after
  | unbilled {tx : Gateway.Tx} {response : Response ContractMsg} {storage : Gateway.Storage}
      {after : World}
      (committed : Gateway.attempt chain.deps chain.gateway world.gateway tx = some after.gateway)
      (gateway : after.gateway = world.gateway.commit tx response storage)
      (unbilled : Gateway.Unbilled world.gateway.storage storage tx response)
      (undisturbed : Undisturbed chain world after) (charges : after.charges = world.charges) :
      Step chain world (.gateway tx) after
  | accepted {tx : Gateway.Tx} {msg : IbcPacketReceiveMsg} {base : Timestamp}
      {response : Response ContractMsg} {storage : Gateway.Storage} {customer : Gateway.Customer}
      {config : Gateway.Config} {after : World}
      (committed : Gateway.attempt chain.deps chain.gateway world.gateway tx = some after.gateway)
      (gateway : after.gateway = world.gateway.commit tx response storage)
      (request : Gateway.Entry.request ⟨tx, response⟩ = some (msg.destChannel, roundNumber base))
      (known : world.gateway.storage.customers[msg.destChannel]? = some customer)
      (customers : storage.customers = world.gateway.storage.customers.insert msg.destChannel
        { customer with requestedBeacons := customer.requestedBeacons + 1 })
      (configured : world.gateway.storage.config = some config)
      (charges : after.charges = world.charges ++ [(msg.destChannel, config.price)])
      (payments : after.payments = world.payments)
      (spent : ∀ account denom, chain.guarded account = true → after.bank.spent account denom =
        world.bank.spent account denom + if account = customer.payment then
          amountIn denom (amounts [config.price]) else 0)
      (received : ∀ account, chain.guarded account = true →
        after.bank.received account = world.bank.received account)
      (solvent : world.bank.Solvent → after.bank.Solvent)
      (room : (Gateway.burnShare config.price.amount).isZero = false →
        world.sink.lastId + 1 < 2 ^ 32) :
      Step chain world (.gateway tx) after
  | created {tx : Gateway.Tx} {channel : IbcChannel} {response : Response ContractMsg}
      {address : Addr} {noisSink : Addr} {version : Option (String × String)}
      {config : Gateway.Config} {after : World}
      (committed : Gateway.attempt chain.deps chain.gateway world.gateway tx = some after.gateway)
      (gateway : after.gateway =
        world.gateway.commit tx response
          (world.gateway.storage.setCustomer channel.channelId ⟨address, 0⟩))
      (request : Gateway.Entry.request ⟨tx, response⟩ = none)
      (configured : world.gateway.storage.config = some config)
      (derived :
        Gateway.paymentAddress chain.deps (tx.env chain.gateway) config.paymentCodeId
          channel.channelId =
          .ok address) (vacant : chain.vacant world address = true)
      (charges : after.charges = world.charges)
      (payments : after.payments =
        world.payments.insert address ⟨version, some ⟨noisSink, chain.gateway⟩⟩)
      (spent : ∀ account, chain.guarded account = true →
        after.bank.spent account = world.bank.spent account)
      (received : ∀ account denom, chain.guarded account = true →
        world.bank.received account denom ≤ after.bank.received account denom)
      (solvent : world.bank.Solvent → after.bank.Solvent) : Step chain world (.gateway tx) after

theorem callGateway_accepted {chain : Chain} {world after : World} {tx : Gateway.Tx}
    {msg : IbcPacketReceiveMsg} {base : Timestamp} {origin : Binary}
    {response : Response ContractMsg} {storage : Gateway.Storage}
    (contracts : Contracts chain world)
    (committed : Gateway.attempt chain.deps chain.gateway world.gateway tx =
      some (world.gateway.commit tx response storage))
    (external : chain.external msg.relayer = true) (action : tx.action = .packetReceive msg)
    (decoded : Wire.inPacket.fromJson msg.data = .ok (.requestBeacon base origin))
    (accepted : Gateway.Accepted (tx.env chain.gateway) msg.destChannel msg.relayer base origin
      world.gateway.storage response storage)
    (dispatched : response.msgs.foldlM (chain.dispatchGateway tx.block tx.index) { world with
        gateway := world.gateway.commit tx response storage
        charges :=
          world.charges ++ chargeOf world.gateway (world.gateway.commit tx response storage) } =
      some after) :
    Step chain world (.gateway tx) after := by
  have request := accepted.request action decoded
  have customers := accepted.bill
  rw [chargeOf_commit, request] at dispatched
  cases accepted with
  | @intro receipt routed customer config short route known counted configured =>
      obtain ⟨_, knownAgain, customers, _⟩ := customers
      rw [known] at knownAgain
      cases knownAgain
      rw [Response.msgs, SubMsg.map_msg_new, List.foldlM_append,
        dispatchGateway_routed route tx.block tx.index] at dispatched
      simp only [Option.bind_eq_bind, Option.bind_some, List.foldlM_cons, List.foldlM_nil,
        Option.pure_def, Option.bind_fun_some, Gateway.payMsg, Chain.dispatchGateway, configured,
        chargeFor] at dispatched
      obtain ⟨contract, found, _⟩ := Option.bind_eq_some_iff.mp dispatched
      obtain ⟨guarded, payment, obeys, _⟩ := contracts customer.payment contract found
      obtain ⟨_, room, pays⟩ := callPayment_outflow found obeys dispatched
      have outflow := pays external
      have gateway : after.gateway = world.gateway.commit tx _ _ := outflow.gateway
      refine Step.accepted (gateway ▸ committed) gateway request known customers configured
        outflow.charges outflow.payments ?_ outflow.received outflow.solvent room
      intro account denom guarded
      rw [outflow.spent account denom (Chain.guarded_iff.mp guarded).2.2, payoutCoins_price]

theorem callGateway_created {chain : Chain} {world after : World} {tx : Gateway.Tx}
    {channel : IbcChannel} {response : Response ContractMsg} {storage : Gateway.Storage}
    (committed : Gateway.attempt chain.deps chain.gateway world.gateway tx =
      some (world.gateway.commit tx response storage))
    (action : tx.action = .channelConnect (.openConfirm channel))
    (connects : Gateway.Connects chain.deps (tx.env chain.gateway) channel.channelId
      world.gateway.storage response storage)
    (dispatched : response.msgs.foldlM (chain.dispatchGateway tx.block tx.index) { world with
        gateway := world.gateway.commit tx response storage
        charges :=
          world.charges ++ chargeOf world.gateway (world.gateway.commit tx response storage) } =
      some after) :
    Step chain world (.gateway tx) after := by
  have request : Gateway.Entry.request ⟨tx, response⟩ = none := by
    simp [Gateway.Entry.request, action]
  rw [chargeOf_commit, request] at dispatched
  cases connects with
  | @intro config address welcomeTimeout priceTimeout configured derived welcomeDeadline
      priceDeadline =>
      rw [Response.msgs, SubMsg.map_msg_new] at dispatched
      simp only [List.foldlM_cons, List.foldlM_nil, Option.pure_def, Option.bind_eq_bind,
        Chain.dispatchGateway, Option.bind_fun_some, chargeFor, List.append_nil]
        at dispatched
      have created := createPayment_created (Chain.paymentAddress_eq rfl derived) dispatched
      obtain ⟨noisSink, version, payments⟩ := created.payments
      have gateway : after.gateway = world.gateway.commit tx _ _ := created.gateway
      exact Step.created (gateway ▸ committed) gateway request configured derived created.vacant
        created.charges payments created.spent created.received created.solvent

theorem callGateway_step {chain : Chain} {world after : World} {tx : Gateway.Tx}
    (contracts : Contracts chain world) (registered : Gateway.Registered world.gateway)
    (signed : chain.signs tx.action = true) (called : chain.callGateway world tx = some after) :
    Step chain world (.gateway tx) after := by
  obtain ⟨funded, funding, called⟩ := Option.bind_eq_some_iff.mp called
  obtain ⟨gateway, committed, dispatched⟩ := Option.bind_eq_some_iff.mp called
  obtain ⟨response, storage, effect, admitted, rfl⟩ := Gateway.attempt_effect committed
  rw [Gateway.World.lastMsgs_commit] at dispatched
  rcases Gateway.billing_kinds registered admitted effect with unbilled |
    ⟨msg, base, origin, action, decoded, accepted⟩ | ⟨channel, action, connects⟩
  · rw [dispatchGateway_packets unbilled.packets, chargeOf_commit, unbilled.request] at dispatched
    cases dispatched
    have undisturbed := fund_undisturbed signed funding
    exact Step.unbilled committed rfl unbilled
      ⟨undisturbed.payments, undisturbed.spent, undisturbed.received, undisturbed.solvent⟩
      (List.append_nil _)
  · rw [action] at funding signed
    cases funding
    exact callGateway_accepted contracts committed signed action decoded accepted dispatched
  · rw [action] at funding
    cases funding
    exact callGateway_created committed action connects dispatched

theorem attempt_step {chain : Chain} {world after : World} {tx : Tx}
    (contracts : Contracts chain world) (registered : Gateway.Registered world.gateway)
    (committed : attempt chain world tx = some after) : Step chain world tx after := by
  cases tx with
  | gateway tx =>
      simp only [attempt] at committed
      split at committed
      · rename_i signed
        exact callGateway_step contracts registered signed committed
      · cases committed
  | payment block index info payment msg =>
      simp only [attempt] at committed
      split at committed
      · -- an external sender is not the gateway, which is the only one to be obeyed
        rename_i external
        cases msg with
        | pay burn communityPool relayer =>
            obtain ⟨storage, found, _⟩ := Option.bind_eq_some_iff.mp committed
            obtain ⟨_, config, configured, gateway⟩ := contracts payment storage found
            obtain ⟨sender, _, _⟩ := callPayment_outflow found configured committed
            rw [sender, gateway, chain.gatewayInternal] at external
            cases external
      · cases committed
  | sink block index info msg =>
      simp only [attempt] at committed
      split at committed
      · rename_i external
        obtain ⟨undisturbed, gateway, charges⟩ :=
          callSink_undisturbed (Chain.external_unguarded external) committed
        exact .passed undisturbed gateway charges
      · cases committed
  | send sender target amount =>
      simp only [attempt] at committed
      split at committed
      · rename_i external
        have undisturbed := Undisturbed.transfer (Chain.external_unguarded external) committed
        obtain ⟨bank, _, rfl⟩ := World.transfer_eq_some.mp committed
        exact .passed undisturbed rfl rfl
      · cases committed
  | credit target amount =>
      cases committed
      refine .passed ⟨rfl, fun _ _ => rfl, ?_, ?_⟩ rfl rfl
      · intro account denom _
        simp [Book.deposit, add]
      · intro solvent account denom
        have covered := solvent account denom
        simp only [Book.deposit, add]
        omega

end

end NoisContracts.Treasury
