import NoisContracts.Gateway.Packets

/-!
Accounting of the customers. Every channel has one customer with a payment contract
of its own, whose address the gateway derives from the channel id. A request that is
answered with success is billed once: in the customer record, in the requests log of
the channel and with one `Pay` to the payment contract of the channel.
-/

namespace NoisContracts.Gateway

open ContractCall ContractCall.Call OrderedStore

/-- The host derives different addresses for the given channels: their ids have different
hashes, and so have the addresses that it makes from these. -/
structure AddressScheme (deps : Deps) (channels : List String) : Prop where
  sha256 : ∀ first ∈ channels, ∀ second ∈ channels,
    hashChannel deps first = hashChannel deps second → first = second
  instantiate2Address : ∀ checksum creator address, ∀ first ∈ channels, ∀ second ∈ channels,
    deps.instantiate2Address checksum creator (hashChannel deps first) = .ok address →
    deps.instantiate2Address checksum creator (hashChannel deps second) = .ok address →
    hashChannel deps first = hashChannel deps second
  addrHumanize : ∀ first second address,
    deps.addrHumanize first = .ok address → deps.addrHumanize second = .ok address → first = second

theorem AddressScheme.mono {deps : Deps} {channels fewer : List String}
    (scheme : AddressScheme deps channels) (subset : fewer ⊆ channels) :
    AddressScheme deps fewer := by
  refine ⟨?_, ?_, scheme.addrHumanize⟩
  · intro first firstMember second secondMember
    exact scheme.sha256 first (subset firstMember) second (subset secondMember)
  · intro checksum creator address first firstMember second secondMember
    exact scheme.instantiate2Address checksum creator address first (subset firstMember) second
      (subset secondMember)

theorem paymentAddress_contract {deps : Deps} {env other : Env}
    (same : env.contract = other.contract) (codeId : Nat) (channelId : String) :
    paymentAddress deps env codeId channelId = paymentAddress deps other codeId channelId := by
  simp only [paymentAddress, same]

theorem paymentAddress_injective {deps : Deps} {env : Env} {codeId : Nat} {first second : String}
    {address : Addr} {channels : List String} (scheme : AddressScheme deps channels)
    (firstMember : first ∈ channels) (secondMember : second ∈ channels)
    (firstDerived : paymentAddress deps env codeId first = .ok address)
    (secondDerived : paymentAddress deps env codeId second = .ok address) : first = second := by
  simp only [paymentAddress, except_bind_eq_ok, except_mapError_eq_ok] at firstDerived secondDerived
  obtain ⟨creator, canonical, checksum, queried, left, leftDerived, leftHuman⟩ := firstDerived
  obtain ⟨_, canonicalAgain, _, queriedAgain, right, rightDerived, rightHuman⟩ := secondDerived
  rw [canonical] at canonicalAgain
  rw [queried] at queriedAgain
  cases canonicalAgain
  cases queriedAgain
  have sameAddress := scheme.addrHumanize left right address leftHuman rightHuman
  subst sameAddress
  exact scheme.sha256 first firstMember second secondMember (scheme.instantiate2Address _ _ _ first
    firstMember second secondMember leftDerived rightDerived)

def paysTo (payment : Addr) : Msg → Bool
  | .wasmExecute contract (.pay _ _ _) _ => contract = payment
  | _ => false

def World.payments (world : World) (payment : Addr) : Nat :=
  (world.log.flatMap fun entry => entry.response.msgs).countP (paysTo payment)

theorem World.payments_commit (world : World) (tx : Tx) (response : Response ContractMsg)
    (after : Storage) (payment : Addr) :
    (world.commit tx response after).payments payment =
      world.payments payment + response.msgs.countP (paysTo payment) := by
  simp [World.payments, World.commit]

theorem payMsg_paysTo (customer payment : Addr) (price : Coin) (relayer : Addr) :
    paysTo payment (payMsg customer price relayer) = decide (customer = payment) := by
  simp [paysTo, payMsg]

section

variable [Wire]

def Entry.request (entry : Entry) : Option (String × Nat) :=
  match entry.tx.action with
  | .packetReceive msg =>
      match Wire.inPacket.fromJson msg.data, entry.response.acknowledgement with
      | .ok (.requestBeacon base _), some (.success _) => some (msg.destChannel, roundNumber base)
      | _, _ => none
  | _ => none

theorem Entry.acceptedFor_isSome (entry : Entry) (round : Nat) :
    (entry.acceptedFor round).isSome = (entry.request.map Prod.snd == some round) := by
  cases action : entry.tx.action with
  | packetReceive msg =>
      cases decoded : Wire.inPacket.fromJson msg.data with
      | error cause => simp [Entry.acceptedFor, Entry.request, action, decoded]
      | ok packet =>
          cases packet with
          | pullBeaconPrice => simp [Entry.acceptedFor, Entry.request, action, decoded]
          | requestBeacon base origin =>
              rcases answer : entry.response.acknowledgement with _ | data | cause
              · simp [Entry.acceptedFor, Entry.request, action, decoded, answer]
              · by_cases same : roundNumber base = round <;>
                  simp [Entry.acceptedFor, Entry.request, action, decoded, answer, same]
              · simp [Entry.acceptedFor, Entry.request, action, decoded, answer]
  | _ => simp [Entry.acceptedFor, Entry.request, action]

namespace World

def requests (world : World) : List (String × Nat) := world.log.filterMap Entry.request

def answered (world : World) (channel : String) : Nat := (world.requests.map Prod.fst).count channel

theorem requests_commit (world : World) (tx : Tx) (response : Response ContractMsg)
    (after : Storage) :
    (world.commit tx response after).requests =
      world.requests ++ (Entry.request ⟨tx, response⟩).toList := by
  cases request : Entry.request ⟨tx, response⟩ <;> simp [requests, commit, request]

theorem answered_commit (world : World) (tx : Tx) (response : Response ContractMsg)
    (after : Storage) (channel : String) :
    (world.commit tx response after).answered channel =
      world.answered channel +
        ((Entry.request ⟨tx, response⟩).toList.map Prod.fst).count channel := by
  simp [answered, requests_commit]

theorem accepted_length (world : World) (round : Nat) :
    (world.accepted round).length = (world.requests.map Prod.snd).count round := by
  rw [accepted, requests, List.length_filterMap_eq_countP, List.map_filterMap, List.count_filterMap]
  refine List.countP_congr ?_
  intro entry _
  rw [entry.acceptedFor_isSome round]

end World

theorem deliverBeaconMsg_unpaid (payment : Addr) (job : Job) (published timeout : Timestamp)
    (randomness : Binary) :
    paysTo payment (deliverBeaconMsg job published timeout randomness) = false := by
  simp [paysTo, deliverBeaconMsg]

theorem Routed.unpaid {env : Env} {channel : String} {base : Timestamp} {origin : Binary}
    {storage after : Storage} {receipt : RoutingReceipt}
    (routed : Routed env channel base origin storage receipt after) (payment : Addr) :
    receipt.msgs.countP (paysTo payment) = 0 := by
  cases routed with
  | processed => simp [deliverBeaconMsg_unpaid]
  | @queued config =>
      cases drand : config.drand <;> simp [incentivizeMsgs, drand, paysTo]

theorem Accepted.bill {env : Env} {channelId : String} {relayer : Addr} {base : Timestamp}
    {origin : Binary} {storage after : Storage} {response : Response ContractMsg}
    (accepted : Accepted env channelId relayer base origin storage response after) :
    ∃ customer, storage.customers[channelId]? = some customer ∧
      after.customers =
        storage.customers.insert channelId
          { customer with requestedBeacons := customer.requestedBeacons + 1 } ∧
      (∀ other, channelId ≠ other → requestsLogOf after other = requestsLogOf storage other) ∧
      ∀ payment, response.msgs.countP (paysTo payment) =
        if customer.payment = payment then 1 else 0 := by
  cases accepted with
  | @intro receipt routed customer config short route known counted configured =>
      obtain ⟨_, customers_eq, _⟩ := route_config route
      have log := route.requestsLogOf channelId (requestLogEntry env origin receipt)
        { customer with requestedBeacons := customer.requestedBeacons + 1 }
      refine ⟨customer, known, ?_, ?_, ?_⟩
      · simp [Storage.setCustomer, Storage.logRequest, customers_eq]
      · intro other different
        rw [log, if_neg different]
      · intro payment
        rw [Response.msgs, SubMsg.map_msg_new, List.countP_append, route.unpaid, Nat.zero_add,
          List.countP_singleton, payMsg_paysTo]
        by_cases same : customer.payment = payment <;> simp [same]

theorem Accepted.request {env : Env} {tx : Tx} {msg : IbcPacketReceiveMsg} {base : Timestamp}
    {origin : Binary} {storage after : Storage} {response : Response ContractMsg}
    (action : tx.action = .packetReceive msg)
    (decoded : Wire.inPacket.fromJson msg.data = .ok (.requestBeacon base origin))
    (accepted : Accepted env msg.destChannel msg.relayer base origin storage response after) :
    Entry.request ⟨tx, response⟩ = some (msg.destChannel, roundNumber base) := by
  cases accepted with
  | intro short route known counted configured =>
      cases route <;> simp [Entry.request, action, decoded]

def isPacket : Msg → Bool
  | .ibcSendPacket _ _ _ => true
  | _ => false

theorem Drains.packets {env : Env} {round : Nat} {randomness : Binary} {storage after : Storage}
    {jobs : List Job} {msgs : List Msg}
    (drains : Drains env round randomness storage jobs msgs after) :
    ∀ msg ∈ msgs, isPacket msg = true := by
  induction drains with
  | stop storage => simp
  | next first counted time deadline rest ih => simpa [isPacket, deliverBeaconMsg] using ih

structure Unbilled (storage after : Storage) (tx : Tx) (response : Response ContractMsg) :
    Prop where
  connected : connectedBy tx.action = []
  request : Entry.request ⟨tx, response⟩ = none
  packets : ∀ msg ∈ response.msgs, isPacket msg = true
  customers : after.customers = storage.customers
  requestsLog : after.requestsLog = storage.requestsLog

theorem Unbilled.unpaid {storage after : Storage} {tx : Tx} {response : Response ContractMsg}
    (unbilled : Unbilled storage after tx response) (payment : Addr) :
    response.msgs.countP (paysTo payment) = 0 := by
  rw [List.countP_eq_zero]
  intro msg member
  have packet := unbilled.packets msg member
  cases msg <;> simp_all [isPacket, paysTo]

theorem Entry.request_of_unanswered {entry : Entry}
    (unanswered : entry.response.acknowledgement = none) : entry.request = none := by
  simp only [Entry.request, unanswered]
  cases entry.tx.action <;> simp

theorem billing_kinds {deps : Deps} {env : Env} {world : World} {tx : Tx}
    {response : Response ContractMsg} {after : Storage} (registered : Registered world)
    (admitted : world.admits tx.action = true)
    (effect : Effect deps env world.storage tx.action response after) :
    Unbilled world.storage after tx response ∨
      (∃ msg base origin, tx.action = .packetReceive msg ∧
        Wire.inPacket.fromJson msg.data = .ok (.requestBeacon base origin) ∧
        Accepted env msg.destChannel msg.relayer base origin world.storage response after) ∨
      (∃ channel, tx.action = .channelConnect (.openConfirm channel) ∧
        Connects deps env channel.channelId world.storage response after) := by
  generalize action_eq : tx.action = action at effect
  cases effect with
  | configured configures kept messages acknowledgement =>
      refine .inl ⟨?_, Entry.request_of_unanswered acknowledgement, ?_, rfl, rfl⟩
      · rw [action_eq, Action.connectedBy_of_configures configures]
      · simp [Response.msgs, messages]
  | idle idles messages acknowledgement =>
      refine .inl ⟨?_, Entry.request_of_unanswered acknowledgement, ?_, rfl, rfl⟩
      · rw [action_eq, Action.connectedBy_of_idles idles]
      · simp [Response.msgs, messages]
  | @connected channel response after connects => exact .inr (.inr ⟨channel, rfl, connects⟩)
  | @received msg response after receives =>
      have connected : connectedBy tx.action = [] := by simp [action_eq, connectedBy]
      cases receives with
      | @request base origin response after decoded accepted =>
          exact .inr (.inl ⟨msg, base, origin, rfl, decoded, accepted⟩)
      | price decoded configured =>
          refine .inl ⟨connected, ?_, ?_, rfl, rfl⟩
          · simp [Entry.request, action_eq, decoded]
          · simp [Response.msgs]
      | failure failed =>
          rw [action_eq, World.admits_packet] at admitted
          obtain ⟨rfl, _⟩ := registered.received_failure admitted failed
          refine .inl ⟨connected, ?_, ?_, rfl, rfl⟩
          · simp [Entry.request, action_eq, failureResponse]
          · simp [Response.msgs, failureResponse]
  | @verified info round randomness isVerifyingTx config drand after configured trusted processed =>
      obtain ⟨_, _, jobs, drains, _⟩ := newDrand_ok processed
      obtain ⟨_, customers_eq, log_eq, _⟩ := drains.frame
      refine .inl ⟨?_, ?_, ?_, customers_eq, log_eq⟩
      · simp [action_eq, connectedBy]
      · simp [Entry.request, action_eq]
      · rw [Response.msgs, SubMsg.map_msg_new]
        exact drains.packets

def Entry.loggedFor (channel : String) (entry : Entry) : Option RequestLogEntry :=
  match entry.tx.action with
  | .packetReceive msg =>
      match Wire.inPacket.fromJson msg.data, entry.response.acknowledgement with
      | .ok (.requestBeacon base origin), some (.success _) =>
          if msg.destChannel = channel then
            some ⟨origin, (entry.tx.block.height, entry.tx.index), sourceIdOf (roundNumber base),
              acknowledgesQueued entry.response⟩
          else none
      | _, _ => none
  | _ => none

def World.acceptedOf (world : World) (channel : String) : List RequestLogEntry :=
  world.log.filterMap (Entry.loggedFor channel)

/-- The accepted requests of a channel that its deque keeps: those since it was last full. -/
def World.loggedOf (world : World) (channel : String) : List RequestLogEntry :=
  Deque.kept (2 ^ 32) (world.acceptedOf channel)

theorem Entry.loggedFor_isSome (entry : Entry) (channel : String) :
    (entry.loggedFor channel).isSome = (entry.request.map Prod.fst == some channel) := by
  cases action : entry.tx.action with
  | packetReceive msg =>
      cases decoded : Wire.inPacket.fromJson msg.data with
      | error cause => simp [Entry.loggedFor, Entry.request, action, decoded]
      | ok packet =>
          cases packet with
          | pullBeaconPrice => simp [Entry.loggedFor, Entry.request, action, decoded]
          | requestBeacon base origin =>
              rcases answer : entry.response.acknowledgement with _ | data | cause
              · simp [Entry.loggedFor, Entry.request, action, decoded, answer]
              · by_cases same : msg.destChannel = channel <;>
                  simp [Entry.loggedFor, Entry.request, action, decoded, answer, same]
              · simp [Entry.loggedFor, Entry.request, action, decoded, answer]
  | _ => simp [Entry.loggedFor, Entry.request, action]

theorem Entry.loggedFor_of_request {entry : Entry} (unanswered : entry.request = none)
    (channel : String) : entry.loggedFor channel = none := by
  have unlogged := entry.loggedFor_isSome channel
  rw [unanswered] at unlogged
  exact Option.isNone_iff_eq_none.mp (by simpa using unlogged)

namespace World

theorem acceptedOf_commit (world : World) (tx : Tx) (response : Response ContractMsg)
    (after : Storage) (channel : String) :
    (world.commit tx response after).acceptedOf channel =
      world.acceptedOf channel ++ (Entry.loggedFor channel ⟨tx, response⟩).toList := by
  cases logged : Entry.loggedFor channel ⟨tx, response⟩ <;> simp [acceptedOf, commit, logged]

theorem acceptedOf_length (world : World) (channel : String) :
    (world.acceptedOf channel).length = world.answered channel := by
  rw [acceptedOf, answered, requests, List.length_filterMap_eq_countP, List.map_filterMap,
    List.count_filterMap]
  refine List.countP_congr ?_
  intro entry _
  rw [entry.loggedFor_isSome channel]

end World

theorem Accepted.requestsLogOf {contract : Addr} {tx : Tx} {msg : IbcPacketReceiveMsg}
    {base : Timestamp} {origin : Binary} {storage after : Storage} {response : Response ContractMsg}
    (action : tx.action = .packetReceive msg)
    (decoded : Wire.inPacket.fromJson msg.data = .ok (.requestBeacon base origin))
    (accepted : Accepted (tx.env contract) msg.destChannel msg.relayer base origin storage response
      after) (channel : String) :
    Gateway.requestsLogOf after channel =
      (Entry.loggedFor channel ⟨tx, response⟩).elim (Gateway.requestsLogOf storage channel)
        (Deque.pushBack (2 ^ 32) (Gateway.requestsLogOf storage channel)) := by
  cases accepted with
  | @intro receipt routed customer config short route known counted configured =>
      rw [route.requestsLogOf]
      by_cases here : msg.destChannel = channel
      · rw [if_pos here]
        cases route with
        | processed =>
            simp [Entry.loggedFor, action, decoded, here, requestLogEntry, Tx.env,
              acknowledgesQueued, Wire.inPacketAck.fromJson_toJsonBinary]
        | queued =>
            simp [Entry.loggedFor, action, decoded, here, requestLogEntry, Tx.env,
              acknowledgesQueued, Wire.inPacketAck.fromJson_toJsonBinary]
      · rw [if_neg here]
        cases route with
        | processed => simp [Entry.loggedFor, action, decoded, here]
        | queued => simp [Entry.loggedFor, action, decoded, here]

def Logged (world : World) : Prop :=
  ∀ channel, requestsLogOf world.storage channel = world.loggedOf channel

theorem Logged.length {world : World} (logged : Logged world) (channel : String) :
    (requestsLogOf world.storage channel).length = world.answered channel % 2 ^ 32 := by
  rw [logged channel, World.loggedOf, Deque.kept_length, World.acceptedOf_length]

theorem reached_logged (deps : Deps) (contract : Addr) (txs : List Tx) :
    Logged (reached deps contract txs) := by
  refine @reached_invariant_registered _ deps contract Logged ?_ ?_ txs
  · intro channel
    simp [World.initial, Storage.empty, requestsLogOf, World.loggedOf, World.acceptedOf]
  · intro world tx response after registered logged admitted effect channel
    rw [World.loggedOf, World.acceptedOf_commit]
    rcases billing_kinds registered admitted effect with unbilled |
      ⟨msg, base, origin, action, decoded, accepted⟩ | ⟨opened, action, connects⟩
    · rw [Entry.loggedFor_of_request unbilled.request, Option.toList_none, List.append_nil]
      refine Eq.trans ?_ (logged channel)
      simp [World.commit, requestsLogOf, unbilled.requestsLog]
    · have added := accepted.requestsLogOf action decoded channel
      rw [logged channel] at added
      exact added.trans (Deque.kept_append_toList (by decide) _ _).symm
    · have silent : Entry.loggedFor channel ⟨tx, response⟩ = none := by
        simp [Entry.loggedFor, action]
      rw [silent, Option.toList_none, List.append_nil]
      refine Eq.trans ?_ (logged channel)
      cases connects with
      | intro => simp [World.commit, requestsLogOf, Storage.setCustomer]

theorem effect_paymentCodeId {deps : Deps} {env : Env} {world : World} {tx : Tx}
    {response : Response ContractMsg} {after : Storage} {config : Config}
    (registered : Registered world) (admitted : world.admits tx.action = true)
    (effect : Effect deps env world.storage tx.action response after)
    (configured : world.storage.config = some config) :
    ∃ changed, after.config = some changed ∧ changed.paymentCodeId = config.paymentCodeId := by
  by_cases configures : tx.action.configures = true
  · generalize tx.action = action at effect configures
    cases effect with
    | configured _ kept messages acknowledgement => exact ⟨_, rfl, (kept config configured).1⟩
    | idle idles => cases action <;> simp_all [Action.configures, Action.idles]
    | connected connects => cases configures
    | received receives => cases configures
    | verified found trusted processed => cases configures
  · have same := effect_config registered admitted effect (Bool.not_eq_true _ ▸ configures)
    exact ⟨config, same.trans configured, rfl⟩

/-- Every customer pays from the address that is derived from the channel. -/
def Derived (deps : Deps) (contract : Addr) (world : World) : Prop :=
  ∀ (channel : String) (customer : Customer), world.storage.customers[channel]? = some customer →
    ∃ config, world.storage.config = some config ∧
      ∀ env, env.contract = contract →
        paymentAddress deps env config.paymentCodeId channel = .ok customer.payment

theorem Derived.commit {deps : Deps} {env : Env} {world : World} {tx : Tx}
    {response : Response ContractMsg} {after : Storage} (derived : Derived deps env.contract world)
    (registered : Registered world) (admitted : world.admits tx.action = true)
    (effect : Effect deps env world.storage tx.action response after) :
    Derived deps env.contract (world.commit tx response after) := by
  intro channel customer found
  -- a record that was there before, with the code id that was there before
  have keep (previous : Customer) (earlier : world.storage.customers[channel]? = some previous)
      (payment : customer.payment = previous.payment) :
      ∃ config, after.config = some config ∧ ∀ other, other.contract = env.contract →
        paymentAddress deps other config.paymentCodeId channel = .ok customer.payment := by
    obtain ⟨config, configured, address⟩ := derived channel previous earlier
    obtain ⟨changed, current, same⟩ := effect_paymentCodeId registered admitted effect configured
    refine ⟨changed, current, ?_⟩
    rw [same, payment]
    exact address
  rcases billing_kinds registered admitted effect with unbilled |
    ⟨msg, base, origin, action, decoded, accepted⟩ | ⟨opened, action, connects⟩
  · refine keep customer ?_ rfl
    rw [← unbilled.customers]
    exact found
  · obtain ⟨payer, known, customers, _⟩ := accepted.bill
    simp only [World.commit, customers, get_insert] at found
    by_cases same : msg.destChannel = channel
    · rw [if_pos same] at found
      cases found
      exact keep payer (same ▸ known) rfl
    · rw [if_neg same] at found
      exact keep customer found rfl
  · cases connects with
    | @intro config address welcomeTimeout priceTimeout configured fresh welcomeDeadline
        priceDeadline =>
        simp only [World.commit, Storage.setCustomer, get_insert] at found
        by_cases same : opened.channelId = channel
        · rw [if_pos same] at found
          cases found
          refine ⟨config, configured, ?_⟩
          intro other contract
          rw [← same, paymentAddress_contract contract]
          exact fresh
        · rw [if_neg same] at found
          exact keep customer found rfl

theorem reached_derived (deps : Deps) (contract : Addr) (txs : List Tx) :
    Derived deps contract (reached deps contract txs) := by
  refine @reached_invariant_registered _ deps contract (Derived deps contract) ?_ ?_ txs
  · intro channel customer found
    simp [World.initial, Storage.empty] at found
  · intro world tx response after registered derived admitted effect
    exact Derived.commit derived registered admitted effect

structure Billing (deps : Deps) (contract : Addr) (world : World) : Prop where
  known : ∀ (channel : String) (customer : Customer),
    world.storage.customers[channel]? = some customer → channel ∈ world.connected
  derived : Derived deps contract world
  billed : ∀ (channel : String) (customer : Customer),
    world.storage.customers[channel]? = some customer →
    customer.requestedBeacons = world.answered channel ∧
      world.payments customer.payment = world.answered channel
  strangers : ∀ channel, channel ∉ world.connected → world.answered channel = 0
  unowned : ∀ payment, (∀ (channel : String) (customer : Customer),
      world.storage.customers[channel]? = some customer → customer.payment ≠ payment) →
    world.payments payment = 0

theorem billing_initial (deps : Deps) (contract : Addr) : Billing deps contract World.initial := by
  refine ⟨?_, ?_, ?_, ?_, ?_⟩
  · intro channel customer found
    simp [World.initial, Storage.empty] at found
  · intro channel customer found
    simp [World.initial, Storage.empty] at found
  · intro channel customer found
    simp [World.initial, Storage.empty] at found
  · intro channel _
    simp [World.initial, World.answered, World.requests]
  · intro payment _
    simp [World.initial, World.payments]

theorem Billing.distinct {deps : Deps} {contract : Addr} {world : World}
    (billing : Billing deps contract world) (scheme : AddressScheme deps world.connected)
    {first second : String} {one two : Customer}
    (firstFound : world.storage.customers[first]? = some one)
    (secondFound : world.storage.customers[second]? = some two)
    (same : one.payment = two.payment) : first = second := by
  obtain ⟨config, configured, oneDerived⟩ := billing.derived first one firstFound
  obtain ⟨_, configuredAgain, twoDerived⟩ := billing.derived second two secondFound
  rw [configured] at configuredAgain
  cases configuredAgain
  have left := oneDerived ⟨openingBlock, none, contract⟩ rfl
  have right := twoDerived ⟨openingBlock, none, contract⟩ rfl
  rw [← same] at right
  exact paymentAddress_injective scheme (billing.known first one firstFound)
    (billing.known second two secondFound) left right

theorem Billing.commit_unbilled {deps : Deps} {contract : Addr} {world : World} {tx : Tx}
    {response : Response ContractMsg} {after : Storage} (billing : Billing deps contract world)
    (derived : Derived deps contract (world.commit tx response after))
    (unbilled : Unbilled world.storage after tx response) :
    Billing deps contract (world.commit tx response after) := by
  have answered (channel : String) :
      (world.commit tx response after).answered channel = world.answered channel := by
    simp [World.answered_commit, unbilled.request]
  have payments (payment : Addr) :
      (world.commit tx response after).payments payment = world.payments payment := by
    rw [World.payments_commit, unbilled.unpaid payment, Nat.add_zero]
  have connected : (world.commit tx response after).connected = world.connected := by
    simp [World.commit, unbilled.connected]
  have customers (channel : String) : (world.commit tx response after).storage.customers[channel]? =
      world.storage.customers[channel]? := by
    simp [World.commit, unbilled.customers]
  refine ⟨?_, derived, ?_, ?_, ?_⟩
  · intro channel customer found
    rw [customers] at found
    rw [connected]
    exact billing.known channel customer found
  · intro channel customer found
    rw [customers] at found
    rw [answered, payments]
    exact billing.billed channel customer found
  · intro channel absent
    rw [connected] at absent
    rw [answered]
    exact billing.strangers channel absent
  · intro payment unowned
    rw [payments]
    refine billing.unowned payment ?_
    intro channel customer found
    exact unowned channel customer ((customers channel).trans found)

theorem Billing.commit_accepted {deps : Deps} {env : Env} {contract : Addr} {world : World}
    {tx : Tx} {msg : IbcPacketReceiveMsg} {base : Timestamp} {origin : Binary}
    {response : Response ContractMsg} {after : Storage} (billing : Billing deps contract world)
    (scheme : AddressScheme deps world.connected)
    (derived : Derived deps contract (world.commit tx response after))
    (action : tx.action = .packetReceive msg)
    (decoded : Wire.inPacket.fromJson msg.data = .ok (.requestBeacon base origin))
    (accepted : Accepted env msg.destChannel msg.relayer base origin world.storage response after) :
    Billing deps contract (world.commit tx response after) := by
  obtain ⟨payer, known, customers, _, paid⟩ := accepted.bill
  have answered (channel : String) : (world.commit tx response after).answered channel =
      world.answered channel + if msg.destChannel = channel then 1 else 0 := by
    rw [World.answered_commit, accepted.request action decoded]
    simp [List.count_singleton]
  have payments (payment : Addr) : (world.commit tx response after).payments payment =
      world.payments payment + if payer.payment = payment then 1 else 0 := by
    rw [World.payments_commit, paid payment]
  have connected : (world.commit tx response after).connected = world.connected := by
    simp [World.commit, action, connectedBy]
  -- every stored record was there before, the payer's with one beacon less
  have stored {channel : String} {customer : Customer}
      (found : after.customers[channel]? = some customer) :
      ∃ previous : Customer, world.storage.customers[channel]? = some previous ∧
        customer.payment = previous.payment ∧
        customer.requestedBeacons =
          previous.requestedBeacons + if msg.destChannel = channel then 1 else 0 := by
    rw [customers, get_insert] at found
    by_cases same : msg.destChannel = channel
    · rw [if_pos same] at found
      cases found
      exact ⟨payer, same ▸ known, rfl, by simp [same]⟩
    · rw [if_neg same] at found
      exact ⟨customer, found, rfl, by simp [same]⟩
  refine ⟨?_, derived, ?_, ?_, ?_⟩
  · intro channel customer found
    obtain ⟨previous, earlier, _, _⟩ := stored found
    rw [connected]
    exact billing.known channel previous earlier
  · intro channel customer found
    obtain ⟨previous, earlier, payment, count⟩ := stored found
    obtain ⟨counted, payed⟩ := billing.billed channel previous earlier
    have payer_iff : payer.payment = previous.payment ↔ msg.destChannel = channel := by
      constructor
      · intro same
        exact billing.distinct scheme known earlier same
      · rintro rfl
        rw [known] at earlier
        cases earlier
        rfl
    rw [answered, payments, payment, count, counted, payed]
    simp only [payer_iff, and_self]
  · intro channel absent
    rw [connected] at absent
    have different : msg.destChannel ≠ channel := by
      rintro rfl
      exact absent (billing.known _ payer known)
    rw [answered, billing.strangers channel absent, if_neg different]
  · intro payment unowned
    have notPayer : payer.payment ≠ payment := by
      refine unowned msg.destChannel { payer with requestedBeacons := payer.requestedBeacons + 1 }
        ?_
      simp [World.commit, customers]
    rw [payments, if_neg notPayer]
    refine billing.unowned payment ?_
    intro channel customer found
    by_cases same : msg.destChannel = channel
    · subst same
      rw [known] at found
      cases found
      exact notPayer
    · refine unowned channel customer ?_
      simpa [World.commit, customers, get_insert, same] using found

theorem Billing.commit_connected {deps : Deps} {env : Env} {world : World} {tx : Tx}
    {channel : IbcChannel} {response : Response ContractMsg} {after : Storage}
    (billing : Billing deps env.contract world)
    (scheme : AddressScheme deps (world.commit tx response after).connected)
    (derived : Derived deps env.contract (world.commit tx response after))
    (action : tx.action = .channelConnect (.openConfirm channel))
    (fresh : channel.channelId ∉ world.connected)
    (connects : Connects deps env channel.channelId world.storage response after) :
    Billing deps env.contract (world.commit tx response after) := by
  cases connects with
  | @intro config address welcomeTimeout priceTimeout configured computed welcomeDeadline
      priceDeadline =>
      generalize sent : ({ messages := _, attributes := _, events := _ } : Response ContractMsg) =
        response at derived
      have answered (other : String) : (world.commit tx response (world.storage.setCustomer
          channel.channelId ⟨address, 0⟩)).answered other = world.answered other := by
        simp [World.answered_commit, Entry.request, action]
      have payments (payment : Addr) : (world.commit tx response (world.storage.setCustomer
          channel.channelId ⟨address, 0⟩)).payments payment = world.payments payment := by
        rw [World.payments_commit, ← sent]
        simp [Response.msgs, paysTo]
      have stored {other : String} {customer : Customer} (found : (world.commit tx response
          (world.storage.setCustomer channel.channelId ⟨address, 0⟩)).storage.customers[other]? =
            some customer) :
          (channel.channelId = other ∧ customer = ⟨address, 0⟩) ∨
            world.storage.customers[other]? = some customer := by
        simp only [World.commit, Storage.setCustomer, get_insert] at found
        split at found
        · cases found
          exact .inl ⟨‹_›, rfl⟩
        · exact .inr found
      refine ⟨?_, derived, ?_, ?_, ?_⟩
      · intro other customer found
        simp only [World.commit, action, connectedBy, IbcChannelConnectMsg.channel, List.mem_append,
          List.mem_singleton]
        rcases stored found with ⟨same, _⟩ | earlier
        · exact .inr same.symm
        · exact .inl (billing.known other customer earlier)
      · intro other customer found
        rw [answered, payments]
        rcases stored found with ⟨rfl, rfl⟩ | earlier
        · rw [billing.strangers _ fresh]
          refine ⟨rfl, billing.unowned address ?_⟩
          -- no earlier channel derives the same payment address
          intro earlier customer found same
          obtain ⟨_, configuredAgain, earlierDerived⟩ := billing.derived earlier customer found
          rw [configured] at configuredAgain
          cases configuredAgain
          have present := billing.known earlier customer found
          have equal := paymentAddress_injective scheme (by simp [World.commit, action, connectedBy,
            IbcChannelConnectMsg.channel]) (List.mem_append_left _ present) computed
            (same ▸ earlierDerived env rfl)
          exact fresh (equal ▸ present)
        · exact billing.billed other customer earlier
      · intro other absent
        rw [answered]
        refine billing.strangers other ?_
        intro member
        exact absent (List.mem_append_left _ member)
      · intro payment unowned
        rw [payments]
        refine billing.unowned payment ?_
        intro other customer found
        refine unowned other customer ?_
        have different : channel.channelId ≠ other := by
          rintro rfl
          exact fresh (billing.known _ customer found)
        simpa [World.commit, Storage.setCustomer, get_insert, different] using found

theorem reached_billing {deps : Deps} {contract : Addr} {txs : List Tx}
    (scheme : AddressScheme deps (reached deps contract txs).connected)
    (once : (reached deps contract txs).connected.Nodup) :
    Billing deps contract (reached deps contract txs) := by
  refine @reached_invariant_registered _ deps contract
    (fun world => AddressScheme deps world.connected → world.connected.Nodup →
      Billing deps contract world) (fun _ _ => billing_initial deps contract) ?_ txs scheme once
  intro world tx response after registered before admitted effect scheme distinct
  have earlier : AddressScheme deps world.connected := scheme.mono (List.subset_append_left _ _)
  have billing := before earlier distinct.of_append_left
  have derived := Derived.commit billing.derived registered admitted effect
  rcases billing_kinds registered admitted effect with unbilled |
    ⟨msg, base, origin, action, decoded, accepted⟩ | ⟨channel, action, connects⟩
  · exact billing.commit_unbilled derived unbilled
  · exact billing.commit_accepted earlier derived action decoded accepted
  · refine Billing.commit_connected billing scheme derived action ?_ connects
    simp only [World.commit, action, connectedBy, IbcChannelConnectMsg.channel,
      List.nodup_append] at distinct
    intro member
    exact distinct.2.2 _ member _ (List.mem_singleton.mpr rfl) rfl

theorem Billing.isolated {deps : Deps} {env : Env} {contract : Addr} {world : World}
    {msg : IbcPacketReceiveMsg} {response : Response ContractMsg} {after : Storage} {other : String}
    (billing : Billing deps contract world) (registered : Registered world)
    (scheme : AddressScheme deps world.connected) (connected : msg.destChannel ∈ world.connected)
    (returned : ibcPacketReceive env msg world.storage = .ok response after)
    (different : msg.destChannel ≠ other) :
    after.customers[other]? = world.storage.customers[other]? ∧
      requestsLogOf after other = requestsLogOf world.storage other ∧
      ∀ customer, world.storage.customers[other]? = some customer →
        response.msgs.countP (paysTo customer.payment) = 0 := by
  cases ibcPacketReceive_ok returned with
  | request decoded accepted =>
      obtain ⟨payer, known, customers, log, paid⟩ := accepted.bill
      refine ⟨?_, log other different, ?_⟩
      · rw [customers, get_insert, if_neg different]
      · intro customer found
        rw [paid, if_neg]
        intro same
        exact different (billing.distinct scheme known found same)
  | price decoded configured =>
      refine ⟨rfl, rfl, ?_⟩
      intro customer _
      simp [Response.msgs]
  | failure failed =>
      obtain ⟨rfl, _⟩ := registered.received_failure connected failed
      refine ⟨rfl, rfl, ?_⟩
      intro customer _
      simp [Response.msgs, failureResponse]

theorem Billing.total {deps : Deps} {contract : Addr} {world : World}
    (billing : Billing deps contract world) (registered : Registered world)
    (once : world.connected.Nodup) :
    (world.storage.customers.toList.map fun entry => entry.2.requestedBeacons).sum =
      world.requests.length := by
  have keys : (world.storage.customers.toList.map Prod.fst).Perm world.connected := by
    refine keys_perm once ?_
    intro channel
    constructor
    · exact registered.customers channel
    · rintro ⟨customer, found⟩
      exact billing.known channel customer found
  have counts : (world.storage.customers.toList.map fun entry => entry.2.requestedBeacons) =
      (world.storage.customers.toList.map Prod.fst).map world.answered := by
    rw [List.map_map]
    refine List.map_congr_left ?_
    rintro ⟨channel, customer⟩ member
    exact (billing.billed channel customer (mem_toList_iff.mp member)).1
  -- every request came in on a connected channel, so the channels split the requests
  have channels : ∀ channel ∈ (↑(world.requests.map Prod.fst) : Multiset String),
      channel ∈ world.connected.toFinset := by
    intro channel member
    rw [List.mem_toFinset]
    by_contra absent
    have none := billing.strangers channel absent
    rw [World.answered, List.count_eq_zero] at none
    exact none (Multiset.mem_coe.mp member)
  calc (world.storage.customers.toList.map fun entry => entry.2.requestedBeacons).sum
      = (world.connected.map world.answered).sum := by rw [counts, (keys.map world.answered).sum_eq]
    _ = ∑ channel ∈ world.connected.toFinset, world.answered channel :=
      (List.sum_toFinset _ once).symm
    _ = world.requests.length := by
        simpa [World.answered] using Multiset.sum_count_eq_card channels

theorem Accounts.total {world : World} (accounts : Accounts world) :
    ∑ round ∈ Finset.range (2 ^ 32),
        (getProcessedDrandJobs world.storage round + (world.storage.queue round).length) =
      world.requests.length := by
  have rounds : ∀ round ∈ (↑(world.requests.map Prod.snd) : Multiset Nat),
      round ∈ Finset.range (2 ^ 32) := by
    intro round member
    rw [Finset.mem_range]
    by_contra exceeds
    have none := congrArg List.length (accounts.beyond (Nat.le_of_not_lt exceeds)).1
    rw [World.accepted_length, List.length_nil, List.count_eq_zero] at none
    exact none (Multiset.mem_coe.mp member)
  have counts (round : Nat) : getProcessedDrandJobs world.storage round +
      (world.storage.queue round).length = (world.requests.map Prod.snd).count round := by
    rw [← accounts.accepted_length, World.accepted_length]
  simp only [counts]
  simpa using Multiset.sum_count_eq_card rounds

/-- Each connected channel is billed for exactly its answered requests, on a payment
contract of its own, and together the channels are billed for all jobs of all rounds.
The log of a channel holds as many entries as its deque has room for. Rounds beyond 32
bits have no jobs. -/
structure CustomerAccounting (world : World) : Prop where
  billed : ∀ channel ∈ world.connected, ∃ customer,
    world.storage.customers[channel]? = some customer ∧
      customer.requestedBeacons % 2 ^ 32 = (requestsLogOf world.storage channel).length ∧
      customer.requestedBeacons = world.answered channel ∧
      customer.requestedBeacons = world.payments customer.payment
  distinct : ∀ (first second : String) (one two : Customer),
    world.storage.customers[first]? = some one → world.storage.customers[second]? = some two →
    one.payment = two.payment → first = second
  isolated : ∀ env msg response after other, msg.destChannel ∈ world.connected →
    ibcPacketReceive env msg world.storage = .ok response after → msg.destChannel ≠ other →
    after.customers[other]? = world.storage.customers[other]? ∧
      requestsLogOf after other = requestsLogOf world.storage other ∧
      ∀ customer, world.storage.customers[other]? = some customer →
        response.msgs.countP (paysTo customer.payment) = 0
  total : (world.storage.customers.toList.map fun entry => entry.2.requestedBeacons).sum =
    ∑ round ∈ Finset.range (2 ^ 32),
      (getProcessedDrandJobs world.storage round + (world.storage.queue round).length)
  beyond : ∀ round, 2 ^ 32 ≤ round →
    getProcessedDrandJobs world.storage round = 0 ∧ world.storage.queue round = []

theorem reached_customerAccounting (deps : Deps) (contract : Addr) (txs : List Tx)
    (scheme : AddressScheme deps (reached deps contract txs).connected)
    (once : (reached deps contract txs).connected.Nodup) :
    CustomerAccounting (reached deps contract txs) := by
  have billing := reached_billing scheme once
  have registered := reached_registered deps contract txs
  have accounts := reached_accounts deps contract txs
  have logged := reached_logged deps contract txs
  generalize reached deps contract txs = world at scheme once billing registered accounts logged
  refine ⟨?_, ?_, ?_, ?_, ?_⟩
  · intro channel member
    obtain ⟨customer, found⟩ := registered.customers channel member
    obtain ⟨counted, paid⟩ := billing.billed channel customer found
    refine ⟨customer, found, ?_, counted, ?_⟩
    · rw [counted, logged.length channel]
    · rw [counted, paid]
  · intro first second one two firstFound secondFound same
    exact billing.distinct scheme firstFound secondFound same
  · intro env msg response after other connected returned different
    exact billing.isolated registered scheme connected returned different
  · rw [billing.total registered once, accounts.total]
  · intro round exceeds
    exact (accounts.beyond exceeds).2

end

section

variable [Wire]

/-- A request on the channel for a round that is archived. -/
structure ForArchived (world : World) (tx : Tx) (channel : String) (round : Nat) : Prop where
  request : ∃ msg base origin, tx.action = .packetReceive msg ∧ msg.destChannel = channel ∧
    Wire.inPacket.fromJson msg.data = .ok (.requestBeacon base origin) ∧
    origin.length ≤ maxOriginLen ∧ roundNumber base = round
  dispatched : tx.dispatched = true
  connected : channel ∈ world.connected
  configured : ∃ config, world.storage.config = some config
  archived : ∃ randomness, world.storage.archive[round]? = some randomness
  small : round < 2 ^ 32
  timely : tx.block.time.nanos + deliverBeaconPacketLifetime * 1000000000 < 2 ^ 64

/-- What a number of such requests changes. -/
structure Served (start world : World) (channel : String) (round count : Nat) : Prop where
  connected : world.connected = start.connected
  config : world.storage.config = start.storage.config
  archive : world.storage.archive = start.storage.archive
  customer :
    world.storage.customers[channel]? = start.storage.customers[channel]?.map fun customer =>
    { customer with requestedBeacons := customer.requestedBeacons + count }
  processed : ∀ other, getProcessedDrandJobs world.storage other =
    getProcessedDrandJobs start.storage other + if round = other then count else 0
  answered : world.answered channel = start.answered channel + count

theorem Served.refl (world : World) (channel : String) (round : Nat) :
    Served world world channel round 0 := by
  refine ⟨rfl, rfl, rfl, ?_, ?_, rfl⟩
  · simp
  · simp

theorem ForArchived.of_served {start world : World} {tx : Tx} {channel : String} {round count : Nat}
    (requested : ForArchived start tx channel round)
    (served : Served start world channel round count) : ForArchived world tx channel round := by
  refine ⟨requested.request, requested.dispatched, ?_, ?_, ?_, requested.small, requested.timely⟩
  · rw [served.connected]
    exact requested.connected
  · rw [served.config]
    exact requested.configured
  · rw [served.archive]
    exact requested.archived

/-- Such a request is answered as long as no counter is exhausted. -/
theorem ForArchived.serves {world : World} {tx : Tx} {channel : String} {round : Nat}
    {customer : Customer} (requested : ForArchived world tx channel round) (deps : Deps)
    (contract : Addr) (known : world.storage.customers[channel]? = some customer)
    (unprocessed : getProcessedDrandJobs world.storage round + 1 < 2 ^ 32)
    (billable : customer.requestedBeacons + 1 < 2 ^ 64) :
    ∃ next, attempt deps contract world tx = some next ∧ Served world next channel round 1 := by
  obtain ⟨msg, base, origin, action, rfl, decoded, short, rfl⟩ := requested.request
  obtain ⟨config, configured⟩ := requested.configured
  obtain ⟨randomness, archived⟩ := requested.archived
  have fits : RequestFits (tx.env contract) msg.destChannel base world.storage := by
    refine ⟨?_, ?_⟩
    · simp only [archiveLookup, archived]
      exact ⟨unprocessed, requested.timely⟩
    · intro other found
      rw [known] at found
      cases found
      exact billable
  obtain ⟨response, after, returned, accepted⟩ :=
    accepted_of_fits decoded short configured known (fun _ _ => requested.small) fits
  refine ⟨world.commit tx response after,
    attempt_eq_some.mpr ⟨?_, requested.dispatched, response, after, ?_, rfl⟩, ?_⟩
  · rw [action, World.admits_packet]
    exact requested.connected
  · rw [action]
    exact mapError_eq_ok.mpr returned
  · obtain ⟨config_eq, archive_eq, _⟩ := accepted.frame
    obtain ⟨payer, paid, customers, _⟩ := accepted.bill
    rw [known] at paid
    cases paid
    have counts : after.processedDrandJobsCount =
        (world.storage.countProcessed (roundNumber base)).processedDrandJobsCount := by
      cases accepted with
      | intro _ route _ _ _ =>
          cases route with
          | processed => rfl
          | queued missing => simp [archiveLookup, archived] at missing
    refine ⟨?_, config_eq, archive_eq, ?_, ?_, ?_⟩
    · simp [World.commit, action, connectedBy]
    · simp [World.commit, customers, known]
    · intro other
      simp only [World.commit, getProcessedDrandJobs, counts, Storage.countProcessed, get_insert]
      by_cases same : roundNumber base = other
      · simp [same]
      · simp [same]
    · rw [World.answered_commit, accepted.request action decoded]
      simp

theorem Served.trans {start middle world : World} {channel : String} {round first second : Nat}
    (before : Served start middle channel round first)
    (after : Served middle world channel round second) :
    Served start world channel round (first + second) := by
  refine ⟨after.connected.trans before.connected, after.config.trans before.config,
    after.archive.trans before.archive, ?_, ?_, ?_⟩
  · rw [after.customer, before.customer, Option.map_map]
    simp [Function.comp_def, Nat.add_assoc]
  · intro other
    rw [after.processed, before.processed]
    split
    · omega
    · omega
  · rw [after.answered, before.answered, Nat.add_assoc]

theorem ForArchived.run {start : World} {tx : Tx} {channel : String} {round : Nat}
    {customer : Customer} (requested : ForArchived start tx channel round) (deps : Deps)
    (contract : Addr) (known : start.storage.customers[channel]? = some customer) (count : Nat)
    (unprocessed : getProcessedDrandJobs start.storage round + count < 2 ^ 32)
    (billable : customer.requestedBeacons + count < 2 ^ 64) :
    Served start (Runs.run (attempt deps contract) start (List.replicate count tx)) channel round
      count := by
  induction count with
  | zero => exact Served.refl start channel round
  | succ count ih =>
      have served := ih (by omega) (by omega)
      have payer := served.customer
      rw [known, Option.map_some] at payer
      have counted := served.processed round
      rw [if_pos rfl] at counted
      obtain ⟨next, committed, more⟩ :=
        (requested.of_served served).serves deps contract payer (by omega) billable
      rw [List.replicate_succ', Runs.run_append, Runs.run_cons, Runs.run_nil,
        Runs.settle_of_some committed]
      exact served.trans more

end

theorem noisHost_addressScheme (channels : List String) : AddressScheme NoisHost.deps channels := by
  refine ⟨?_, ?_, ?_⟩
  · intro first _ second _ same
    have bytes := NoisHost.sha256_injective same
    simp only [asBytes] at bytes
    exact String.toByteArray_inj.mp (ByteArray.ext (Array.toList_inj.mp bytes))
  · intro checksum creator address first _ second _ firstDerived secondDerived
    have same := firstDerived.trans secondDerived.symm
    exact NoisHost.instantiate2Address_injective checksum creator (Except.ok.inj same)
  · intro first second address firstHuman secondHuman
    exact NoisHost.addrHumanize_injective (Except.ok.inj (firstHuman.trans secondHuman.symm))

section

attribute [local instance] jsonWire

open NoisHost

def twoCustomers : List Tx :=
  let channel : IbcChannel := ⟨"channel-1", .unordered, "nois-v7"⟩
  let request (destChannel : String) : IbcPacketReceiveMsg :=
    { data := Wire.inPacket.toJsonBinary (.requestBeacon requestTime [1, 2, 3])
      destChannel
      relayer := relayer }
  opening ++ [⟨openingBlock, some 4, .channelConnect (.openConfirm channel), true⟩,
    ⟨openingBlock, some 5, .packetReceive (request "channel-0"), true⟩,
    ⟨openingBlock, some 6, .packetReceive (request "channel-1"), true⟩]

theorem reached_customerAccounting_two :
    (reached deps gateway twoCustomers).connected = ["channel-0", "channel-1"] ∧
      (reached deps gateway twoCustomers).payments firstPayment = 1 ∧
      (reached deps gateway twoCustomers).payments secondPayment = 1 ∧
      CustomerAccounting (reached deps gateway twoCustomers) := by
  refine ⟨by decide +kernel, by decide +kernel, by decide +kernel, ?_⟩
  exact reached_customerAccounting deps gateway twoCustomers (noisHost_addressScheme _)
    (by decide +kernel)

def archiveTx (index round : Nat) : Tx :=
  ⟨openingBlock, some index, .execute ⟨drand, []⟩ (.addVerifiedRound round [1] true), true⟩

/-- The gateway with one customer and the randomness of two rounds. -/
def twoRounds : List Tx := opening ++ [archiveTx 4 771603, archiveTx 5 771604]

def archivedRequest (nanos : Nat) (fits : nanos < 2 ^ 64) : Tx :=
  ⟨openingBlock, some 6, .packetReceive (requestPacket nanos fits [1, 2, 3]), true⟩

theorem forArchived_archivedRequest {world : World} {nanos : Nat} {fits : nanos < 2 ^ 64}
    {round : Nat} (connected : "channel-0" ∈ world.connected)
    (configured : ∃ config, world.storage.config = some config)
    (archived : ∃ randomness, world.storage.archive[round]? = some randomness)
    (number : roundNumber ⟨nanos, fits⟩ = round) (small : round < 2 ^ 32) :
    ForArchived world (archivedRequest nanos fits) "channel-0" round := by
  have timely : openingBlock.time.nanos + deliverBeaconPacketLifetime * 1000000000 < 2 ^ 64 := by
    decide
  exact ⟨⟨_, _, _, rfl, rfl, decoded_requestPacket nanos fits [1, 2, 3], by decide, number⟩, rfl,
    connected, configured, archived, small, timely⟩

def firstRequest : Tx := archivedRequest requestTime.nanos requestTime.isU64

def secondRequest : Tx := archivedRequest 1680000008000000000 (by decide)

/-- As many requests as the log of a channel has positions. No round can have them all,
because the jobs of a round are counted with 32 bits too. -/
def fillingLog : List Tx := twoRounds ++ List.replicate (2 ^ 32 - 1) firstRequest ++ [secondRequest]

theorem twoRounds_facts :
    (reached deps gateway twoRounds).connected = ["channel-0"] ∧
      (reached deps gateway twoRounds).storage.config.isSome = true ∧
      (reached deps gateway twoRounds).storage.customers["channel-0"]? = some ⟨firstPayment, 0⟩ ∧
      (reached deps gateway twoRounds).storage.archive[771603]? = some [1] ∧
      (reached deps gateway twoRounds).storage.archive[771604]? = some [1] ∧
      getProcessedDrandJobs (reached deps gateway twoRounds).storage 771603 = 0 ∧
      getProcessedDrandJobs (reached deps gateway twoRounds).storage 771604 = 0 ∧
      (reached deps gateway twoRounds).answered "channel-0" = 0 := by
  decide +kernel

/-- Every one of the requests is accepted. -/
theorem fillingLog_facts :
    (reached deps gateway fillingLog).connected = ["channel-0"] ∧
      (reached deps gateway fillingLog).storage.customers["channel-0"]? =
        some ⟨firstPayment, 2 ^ 32⟩ ∧
      (reached deps gateway fillingLog).answered "channel-0" = 2 ^ 32 := by
  obtain ⟨connected, configured, known, firstRound, secondRound, firstCount, secondCount,
      answered⟩ :=
    twoRounds_facts
  have first : ForArchived (reached deps gateway twoRounds) firstRequest "channel-0" 771603 :=
    forArchived_archivedRequest (by simp [connected]) (Option.isSome_iff_exists.mp configured)
      ⟨[1], firstRound⟩ (by decide) (by decide)
  have filled := first.run deps gateway known (2 ^ 32 - 1) (by omega) (by decide)
  have world : reached deps gateway fillingLog = Runs.run (attempt deps gateway)
      (Runs.run (attempt deps gateway) (reached deps gateway twoRounds)
        (List.replicate (2 ^ 32 - 1) firstRequest)) (List.replicate 1 secondRequest) := by
    rw [reached, reached, fillingLog, Runs.run_append, Runs.run_append, List.replicate_one]
  rw [world]
  generalize Runs.run (attempt deps gateway) (reached deps gateway twoRounds)
    (List.replicate (2 ^ 32 - 1) firstRequest) = middle at filled
  have second : ForArchived middle secondRequest "channel-0" 771604 := by
    refine forArchived_archivedRequest ?_ ?_ ⟨[1], ?_⟩ (by decide) (by decide)
    · simp [filled.connected, connected]
    · rw [filled.config]
      exact Option.isSome_iff_exists.mp configured
    · rw [filled.archive, secondRound]
  have payer : middle.storage.customers["channel-0"]? = some ⟨firstPayment, 2 ^ 32 - 1⟩ := by
    rw [filled.customer, known]
    rfl
  have unprocessed : getProcessedDrandJobs middle.storage 771604 = 0 := by
    rw [filled.processed, secondCount]
    decide
  have last := second.run deps gateway payer 1 (by omega) (by decide)
  refine ⟨?_, ?_, ?_⟩
  · rw [last.connected, filled.connected, connected]
  · rw [last.customer, payer]
    rfl
  · rw [last.answered, filled.answered, answered]
    omega

/-- The tail of the log is back at its first position. -/
theorem fillingLog_empty :
    requestsLogOf (reached deps gateway fillingLog).storage "channel-0" = [] := by
  have logged := (reached_logged deps gateway fillingLog).length "channel-0"
  rw [fillingLog_facts.2.2, Nat.mod_self] at logged
  exact List.eq_nil_of_length_eq_zero logged

/-- After 2^32 accepted requests the log of the channel reads as empty. -/
theorem filled_log_unbalanced :
    AddressScheme deps (reached deps gateway fillingLog).connected ∧
      (reached deps gateway fillingLog).connected.Nodup ∧
      "channel-0" ∈ (reached deps gateway fillingLog).connected ∧
      (reached deps gateway fillingLog).storage.customers["channel-0"]? =
        some ⟨firstPayment, 2 ^ 32⟩ ∧
      requestsLogOf (reached deps gateway fillingLog).storage "channel-0" = [] := by
  obtain ⟨connected, known, _⟩ := fillingLog_facts
  refine ⟨noisHost_addressScheme _, ?_, ?_, known, fillingLog_empty⟩
  · rw [connected]
    decide
  · rw [connected]
    decide

end

end NoisContracts.Gateway
