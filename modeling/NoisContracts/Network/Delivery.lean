import NoisContracts.Network.Core
import NoisContracts.ProtocolJson

/-!
Every callback of the proxy answers a request of its own. A request is followed by
its key, the origin and the round it commits to: through the packets in flight, the
jobs of the gateway and the packets back. Nowhere are there more of a key than came
in before, so the callbacks can be matched with earlier requests.
-/

namespace NoisContracts.Network

open Matching Gateway Proxy

abbrev Key := RequestBeaconOrigin × Nat

section

variable [Wire]

def originOf (origin : Binary) : Option RequestBeaconOrigin :=
  match Wire.origin.fromJson origin with
  | .ok origin => some origin
  | .error _ => none

def inKey (data : Binary) : Option Key :=
  match Wire.inPacket.fromJson data with
  | .ok (.requestBeacon base origin) =>
      (originOf origin).map fun origin => (origin, roundNumber base)
  | _ => none

def outKey (data : Binary) : Option Key :=
  match Wire.outPacket.fromJson data with
  | .ok (.deliverBeacon _ published _ origin) =>
      (originOf origin).map fun origin => (origin, roundAt published)
  | _ => none

def jobOrigin (channel : String) (job : Job) : Option RequestBeaconOrigin :=
  if job.channel = channel then originOf job.origin else none

def requestKey (entry : Proxy.Tx × Response ContractMsg) : Option Key :=
  (requestOf entry).map fun request => (⟨request.sender, request.jobId⟩, roundNumber request.after)

def callbackKey (entry : Proxy.Tx × Response ContractMsg) : Option Key :=
  (callbackOf entry).map
    fun callback => (⟨callback.1, callback.2.jobId⟩, roundAt callback.2.published)

theorem packets_le_request {link : Link} {world next : World} {tx : Proxy.Tx}
    {toProxy : List Binary} {response : Response ContractMsg} {after : Proxy.Storage}
    (step : ProxyStep link world tx toProxy next response after) (key : Key) :
    tally inKey key (packetsOn link.proxyChannel response.msgs) ≤
      if requestKey (tx, response) = some key then 1 else 0 := by
  have unsent (msgs : List Msg)
      (silent : ∀ msg ∈ msgs, ∀ channel data timeout, msg ≠ .ibcSendPacket channel data timeout) :
      packetsOn link.proxyChannel msgs = [] := by
    refine List.filterMap_eq_nil_iff.mpr fun msg member => ?_
    unfold packetOn
    split
    · exact (silent _ member _ _ _ rfl).elim
    · rfl
  rcases effect_traffic step.effect with
      ⟨info, msg, config, time, jobId, channel, action, request⟩ |
      ⟨msg, sourceId, published, randomness, data, origin, action, _, _, messages⟩ | silent
  · obtain ⟨transfers, timeout, transferred, _, messages⟩ := request.sent
    obtain ⟨clock, found, _⟩ := request.requestOf action
    have paid : packetsOn link.proxyChannel transfers = [] := by
      refine unsent transfers fun msg member channel data timeout same => ?_
      obtain ⟨_, _, _, _, _, _, transfer⟩ := transferMsgs_ok transferred member
      rw [same] at transfer
      cases transfer
    have sent : packetsOn link.proxyChannel response.msgs =
        packetsOn link.proxyChannel [requestMsg info channel time jobId timeout] := by
      rw [messages, packetsOn, List.filterMap_append, ← packetsOn, paid]
      rfl
    rw [sent, requestKey, found]
    by_cases same : channel = link.proxyChannel
    · simp [packetsOn, packetOn, requestMsg, same, tally, inKey, originOf,
        Wire.inPacket.fromJson_toJsonBinary, Wire.origin.fromJson_toJsonBinary,
        List.count_singleton]
    · simp [packetsOn, packetOn, requestMsg, same, tally]
  · have none : packetsOn link.proxyChannel response.msgs = [] := by
      refine unsent _ fun msg member channel data timeout same => ?_
      rw [messages, List.mem_singleton, same] at member
      cases member
    rw [none]
    exact Nat.zero_le _
  · rw [unsent _ fun msg member => (silent msg member).1]
    exact Nat.zero_le _

theorem callbackKey_packet {link : Link} {world next : World} {relay : Relay}
    {toProxy : List Binary} {response : Response ContractMsg} {after : Proxy.Storage}
    (step : ProxyStep link world (relay.proxyTx link) toProxy next response after) {key : Key}
    (found : callbackKey (relay.proxyTx link, response) = some key) :
    outKey relay.data = some key := by
  rcases effect_traffic step.effect with
      ⟨info, msg, config, time, jobId, channel, action, request⟩ |
      ⟨msg, sourceId, published, randomness, data, origin, action, decoded, originated, messages⟩ |
      silent
  · cases action
  · cases action
    simp only [callbackKey, callbackOf, Relay.proxyTx, messages, List.findSome?_cons, noisReceive,
      Option.map_some] at found
    simpa [outKey, decoded, originOf, originated] using found
  · obtain ⟨callback, read, _⟩ := Option.map_eq_some_iff.mp found
    simp only [callbackOf, Relay.proxyTx] at read
    obtain ⟨msg, member, called⟩ := List.exists_of_findSome?_eq_some read
    unfold noisReceive at called
    split at called
    · exact ((silent _ member).2 _ _ _ rfl).elim
    · cases called

theorem acceptedFor_packet {channel : String} {entry : Entry} {key : Key}
    (found : (Entry.acceptedFor key.2 entry).bind (jobOrigin channel) = some key.1) :
    ∃ msg, entry.tx.action = .packetReceive msg ∧ msg.destChannel = channel ∧
      inKey msg.data = some key := by
  obtain ⟨job, accepted, origin⟩ := Option.bind_eq_some_iff.mp found
  unfold Entry.acceptedFor at accepted
  split at accepted
  · rename_i msg action
    split at accepted
    · rename_i base data _ decoded _
      rw [Option.ite_none_right_eq_some] at accepted
      obtain ⟨round, job_eq⟩ := accepted
      cases job_eq
      rw [jobOrigin, Option.ite_none_right_eq_some] at origin
      have read : originOf data = some key.1 := origin.2
      exact ⟨msg, action, origin.1, by simp [inKey, decoded, round, read]⟩
    · cases accepted
  · cases accepted

theorem packets_le_sent {channel : String} {entry : Entry}
    (timed :
      ∀ delivery ∈ entry.response.msgs.filterMap deliveryOf,
        ∃ round, delivery.sourceId = sourceIdOf round ∧ timeOfRound round = .ok delivery.published)
    (key : Key) :
    tally outKey key (packetsOn channel entry.response.msgs) ≤
      tally (jobOrigin channel) key.1 (entry.sentFor key.2) := by
  rw [packetsOn, Entry.sentFor, List.filter_filterMap, tally_filterMap, tally_filterMap]
  refine tally_le_tally fun msg member found => ?_
  obtain ⟨data, packet, keyed⟩ := Option.bind_eq_some_iff.mp found
  unfold packetOn at packet
  split at packet
  · rename_i sender bytes timeout
    rw [Option.ite_none_right_eq_some] at packet
    obtain ⟨rfl, same⟩ := packet
    cases same
    unfold outKey at keyed
    split at keyed
    · rename_i sourceId published randomness origin decoded
      obtain ⟨known, read, same⟩ := Option.map_eq_some_iff.mp keyed
      subst same
      obtain ⟨round, source, time⟩ := timed ⟨sender, sourceId, published, randomness, origin⟩
        (List.mem_filterMap.mpr ⟨_, member, by simp [deliveryOf, decoded]⟩)
      simp only at source time
      have listed : (sentJob (.ibcSendPacket sender data timeout)).filter
          (fun job => job.sourceId = sourceIdOf (roundAt published)) =
          some ⟨sourceId, sender, origin⟩ := by
        simp [sentJob, decoded, source, roundAt_timeOfRound time, Option.filter]
      rw [listed]
      simp [jobOrigin, read]
    · cases keyed
  · cases packet

def acceptedOrigin (link : Link) (round : Nat) (entry : Entry) : Option RequestBeaconOrigin :=
  (entry.acceptedFor round).bind (jobOrigin link.gatewayChannel)

structure Flow (link : Link) (world : World) : Prop where
  asked : ∀ key : Key,
    tally (acceptedOrigin link key.2) key.1 world.gateway.log + tally inKey key world.toGateway ≤
      tally requestKey key world.proxy.log
  delivered : ∀ key : Key, tally callbackKey key world.proxy.log + tally outKey key world.toProxy ≤
    tally (jobOrigin link.gatewayChannel) key.1 (world.gateway.sent key.2)
  balanced : Balanced requestKey callbackKey world.proxy.log

theorem sent_le_accepted {link : Link} {world : World} (projects : Projects link world)
    (key : Key) :
    tally (jobOrigin link.gatewayChannel) key.1 (world.gateway.sent key.2) ≤
      tally (acceptedOrigin link key.2) key.1 world.gateway.log := by
  obtain ⟨txs, same⟩ := projects.gateway
  have accounts : Accounts world.gateway :=
    same ▸ reached_accounts link.gatewayDeps link.gateway txs
  have accepted : tally (acceptedOrigin link key.2) key.1 world.gateway.log =
      tally (jobOrigin link.gatewayChannel) key.1 (world.gateway.accepted key.2) :=
    (tally_filterMap _ _ _ _).symm
  rw [accepted, tally_perm _ _ (accounts.balance key.2), tally_concat]
  exact Nat.le_add_right _ _

theorem ProxyStep.asked {link : Link} {world next : World} {tx : Proxy.Tx} {toProxy : List Binary}
    {response : Response ContractMsg} {after : Proxy.Storage}
    (step : ProxyStep link world tx toProxy next response after) (flow : Flow link world)
    (key : Key) :
    tally (acceptedOrigin link key.2) key.1 next.gateway.log + tally inKey key next.toGateway ≤
      tally requestKey key next.proxy.log := by
  have asked := flow.asked key
  have packets := packets_le_request step key
  rw [step.next_eq]
  simp only [Journal.World.commit_log, tally_concat inKey, tally_append requestKey]
  omega

theorem ProxyStep.flow {link : Link} {world next : World} {tx : Proxy.Tx} {toProxy : List Binary}
    {response : Response ContractMsg} {after : Proxy.Storage}
    (step : ProxyStep link world tx toProxy next response after) (projects : Projects link next)
    (flow : Flow link world)
    (covered :
      ∀ key, (if callbackKey (tx, response) = some key then 1 else 0) + tally outKey key toProxy ≤
        tally outKey key world.toProxy) : Flow link next := by
  have asked := step.asked flow
  have delivered (key : Key) :
      tally callbackKey key next.proxy.log + tally outKey key next.toProxy ≤
        tally (jobOrigin link.gatewayChannel) key.1 (next.gateway.sent key.2) := by
    have before := flow.delivered key
    have taken := covered key
    rw [step.next_eq]
    simp only [Journal.World.commit_log, tally_append callbackKey]
    omega
  refine ⟨asked, delivered, ?_⟩
  have enough (key : Key) :
      tally callbackKey key next.proxy.log ≤ tally requestKey key next.proxy.log := by
    have first := delivered key
    have second := sent_le_accepted projects key
    have third := asked key
    omega
  rw [step.next_eq] at enough ⊢
  exact flow.balanced.append enough

theorem GatewayStep.flow {link : Link} {world next : World} {tx : Gateway.Tx}
    {toGateway : List Binary} {response : Response ContractMsg} {after : Gateway.Storage}
    (step : GatewayStep link world tx toGateway next response after) (projects : Projects link next)
    (flow : Flow link world)
    (covered :
      ∀ key : Key,
        (if acceptedOrigin link key.2 ⟨tx, response⟩ = some key.1 then 1 else 0) +
          tally inKey key toGateway ≤
          tally inKey key world.toGateway) : Flow link next := by
  obtain ⟨txs, same⟩ := projects.gateway
  have traced : Traced next.gateway := same ▸ reached_traced link.gatewayDeps link.gateway txs
  have log : next.gateway.log = world.gateway.log ++ [⟨tx, response⟩] := by rw [step.next_eq]; rfl
  have timed : ∀ delivery ∈ response.msgs.filterMap deliveryOf, ∃ round,
      delivery.sourceId = sourceIdOf round ∧ timeOfRound round = .ok delivery.published := by
    intro delivery sent
    obtain ⟨round, source, time, _⟩ := traced.delivered world.gateway.log ⟨tx, response⟩
      (log ▸ List.prefix_refl _) delivery sent
    exact ⟨round, source, time⟩
  refine ⟨?_, ?_, ?_⟩
  · intro key
    have before := flow.asked key
    have taken := covered key
    rw [log, tally_append, step.next_eq]
    simp only
    omega
  · intro key
    have before := flow.delivered key
    have sent := @packets_le_sent _ link.gatewayChannel ⟨tx, response⟩ timed key
    rw [step.next_eq, World.sent_commit, tally_concat, tally_concat]
    simp only at sent ⊢
    omega
  · rw [step.next_eq]
    exact flow.balanced

omit [Wire] in
theorem callbackKey_of_local {tx : Proxy.Tx} {response : Response ContractMsg}
    (here : proxyLocal tx.action = true) : callbackKey (tx, response) = none := by
  unfold callbackKey callbackOf
  cases action : tx.action <;> simp_all [proxyLocal]

theorem unaccepted_of_local {link : Link} {tx : Gateway.Tx} {response : Response ContractMsg}
    (here : gatewayLocal link tx.action = true) (key : Key) :
    acceptedOrigin link key.2 ⟨tx, response⟩ ≠ some key.1 := by
  intro found
  obtain ⟨msg, action, channel, _⟩ := acceptedFor_packet found
  simp only at action
  simp [gatewayLocal, action, channel] at here

theorem attempt_flow {link : Link} {world next : World} {event : Event}
    (projects : Projects link next) (flow : Flow link world)
    (committed : attempt link world event = some next) : Flow link next := by
  rcases attempt_cases committed with ⟨tx, response, after, here, step⟩ |
      ⟨relay, response, after, member, step⟩ | ⟨tx, response, after, here, step⟩ |
      ⟨relay, response, after, member, step⟩
  · refine step.flow projects flow fun key => ?_
    simp [callbackKey_of_local here]
  · refine step.flow projects flow fun key => ?_
    rw [tally_erase outKey key member]
    by_cases found : callbackKey (relay.proxyTx link, response) = some key
    · rw [if_pos found, if_pos (callbackKey_packet step found)]
      omega
    · rw [if_neg found]
      omega
  · refine step.flow projects flow fun key => ?_
    simp [unaccepted_of_local here key]
  · refine step.flow projects flow fun key => ?_
    rw [tally_erase inKey key member]
    by_cases found : acceptedOrigin link key.2 ⟨relay.gatewayTx link, response⟩ = some key.1
    · obtain ⟨msg, action, _, keyed⟩ := acceptedFor_packet found
      cases action
      rw [if_pos found, if_pos keyed]
      omega
    · rw [if_neg found]
      omega

theorem reached_flow (link : Link) (events : List Event) : Flow link (reached link events) := by
  have initially : Flow link World.initial := by
    refine ⟨fun key => Nat.le_refl 0, fun key => Nat.le_refl 0, ?_⟩
    intro earlier before key
    rw [List.prefix_nil.mp before]
    exact Nat.le_refl 0
  refine reached_invariant initially ?_ events
  intro world event next _ projects flow committed
  exact attempt_flow projects flow committed

/-- A beacon that the gateway has sent, with the randomness that its log archives
for the round at that time. -/
structure Sent (log : List Entry) (round : Nat) (published : Timestamp) (randomness : Binary) :
    Prop where
  time : timeOfRound round = .ok published
  archived : ∃ before entry, before ++ [entry] <+: log ∧
    archivedBy (before ++ [entry]) round = some randomness ∧
    ∃ delivery ∈ entry.response.msgs.filterMap deliveryOf, delivery.sourceId = sourceIdOf round ∧
      delivery.published = published ∧ delivery.randomness = randomness

theorem Sent.mono {log longer : List Entry} {round : Nat} {published : Timestamp}
    {randomness : Binary} (sent : Sent log round published randomness) (extended : log <+: longer) :
    Sent longer round published randomness := by
  obtain ⟨before, entry, earlier, rest⟩ := sent.archived
  exact ⟨sent.time, before, entry, earlier.trans extended, rest⟩

structure Sourced (world : World) : Prop where
  inFlight : ∀ data ∈ world.toProxy, ∀ sourceId published randomness origin,
    Wire.outPacket.fromJson data = .ok (.deliverBeacon sourceId published randomness origin) →
    ∃ round, Sent world.gateway.log round published randomness
  called :
    ∀ entry ∈ world.proxy.log, ∀ contract callback, callbackOf entry = some (contract, callback) →
      ∃ round, Sent world.gateway.log round callback.published callback.randomness

theorem ProxyStep.sourced {link : Link} {world next : World} {tx : Proxy.Tx} {toProxy : List Binary}
    {response : Response ContractMsg} {after : Proxy.Storage}
    (step : ProxyStep link world tx toProxy next response after) (sourced : Sourced world)
    (kept : ∀ data ∈ toProxy, data ∈ world.toProxy)
    (brought : ∀ msg, tx.action = .packetReceive msg → msg.data ∈ world.toProxy) :
    Sourced next := by
  rw [step.next_eq]
  refine ⟨fun data member => sourced.inFlight data (kept data member), ?_⟩
  intro entry member contract callback found
  rw [Journal.World.commit_log, List.mem_append, List.mem_singleton] at member
  rcases member with earlier | rfl
  · exact sourced.called entry earlier contract callback found
  · have called := effect_callbacks step.effect
    rw [found] at called
    rcases effect_traffic step.effect with
        ⟨info, msg, config, time, jobId, channel, action, request⟩ |
        ⟨msg, sourceId, published, randomness, data, origin, action, decoded, originated,
          messages⟩ | silent
    · simp [callbackOf, action] at found
    · rw [messages] at called
      simp only [List.filterMap_cons, noisReceive, List.filterMap_nil, Option.toList_some,
        List.cons.injEq, Prod.mk.injEq, and_true] at called
      rw [← called.2]
      exact sourced.inFlight msg.data (brought msg action) sourceId published randomness data
        decoded
    · have member : (contract, callback) ∈ response.msgs.filterMap noisReceive := by simp [called]
      obtain ⟨msg, sent, read⟩ := List.mem_filterMap.mp member
      unfold noisReceive at read
      split at read
      · exact ((silent _ sent).2 _ _ _ rfl).elim
      · cases read

theorem GatewayStep.sourced {link : Link} {world next : World} {tx : Gateway.Tx}
    {toGateway : List Binary} {response : Response ContractMsg} {after : Gateway.Storage}
    (step : GatewayStep link world tx toGateway next response after) (projects : Projects link next)
    (sourced : Sourced world) : Sourced next := by
  obtain ⟨txs, same⟩ := projects.gateway
  have traced : Traced next.gateway := same ▸ reached_traced link.gatewayDeps link.gateway txs
  have log : next.gateway.log = world.gateway.log ++ [⟨tx, response⟩] := by rw [step.next_eq]; rfl
  have extended : world.gateway.log <+: next.gateway.log := log ▸ List.prefix_append _ _
  refine ⟨?_, ?_⟩
  · intro data member sourceId published randomness origin decoded
    rw [step.next_eq, List.mem_append] at member
    rcases member with earlier | fresh
    · obtain ⟨round, sent⟩ :=
        sourced.inFlight data earlier sourceId published randomness origin decoded
      exact ⟨round, sent.mono extended⟩
    · obtain ⟨msg, member, packet⟩ := List.mem_filterMap.mp fresh
      unfold packetOn at packet
      split at packet
      · rename_i sender bytes timeout
        rw [Option.ite_none_right_eq_some] at packet
        obtain ⟨_, same⟩ := packet
        cases same
        have delivered : (⟨sender, sourceId, published, randomness, origin⟩ : Delivery) ∈
            response.msgs.filterMap deliveryOf :=
          List.mem_filterMap.mpr ⟨_, member, by simp [deliveryOf, decoded]⟩
        have whole : world.gateway.log ++ [⟨tx, response⟩] <+: next.gateway.log :=
          log ▸ List.prefix_refl _
        obtain ⟨round, source, time, archived⟩ := traced.delivered _ _ whole _ delivered
        exact ⟨round, time, _, _, whole, archived, _, delivered, source, rfl, rfl⟩
      · cases packet
  · intro entry member contract callback found
    rw [step.next_eq] at member
    obtain ⟨round, sent⟩ := sourced.called entry member contract callback found
    exact ⟨round, sent.mono extended⟩

theorem reached_sourced (link : Link) (events : List Event) : Sourced (reached link events) := by
  refine reached_invariant ⟨by simp [World.initial], by simp [World.initial]⟩ ?_ events
  intro world event next _ projects sourced committed
  rcases attempt_cases committed with ⟨tx, response, after, here, step⟩ |
      ⟨relay, response, after, member, step⟩ | ⟨tx, response, after, here, step⟩ |
      ⟨relay, response, after, member, step⟩
  · refine step.sourced sourced (fun _ member => member) fun msg action => ?_
    simp [proxyLocal, action] at here
  · refine step.sourced sourced (fun _ kept => List.mem_of_mem_erase kept) fun msg action => ?_
    cases action
    exact member
  · exact step.sourced projects sourced
  · exact step.sourced projects sourced

/-- A callback that answers a request. -/
structure Answers (world : World) (request : Request) (contract : Addr) (callback : NoisCallback) :
    Prop where
  sender : request.sender = contract
  jobId : request.jobId = callback.jobId
  later : request.after.nanos < callback.published.nanos
  soon : drandGenesis.nanos ≤ request.after.nanos →
    callback.published.nanos ≤ request.after.nanos + 3 * 1000000000
  first : request.after.nanos < drandGenesis.nanos → callback.published = drandGenesis
  beacon : ∃ round, roundAfter request.after = .ok round ∧
    Sent world.gateway.log round callback.published callback.randomness
  next : ∀ time config, request.next = some time → world.proxy.storage.config = some config →
    config.testMode = false → request.after.nanos = time.nanos + 5 * 1000000000 ∧
      time.nanos + 5 * 1000000000 < callback.published.nanos ∧
      (drandGenesis.nanos ≤ time.nanos + 5 * 1000000000 →
        callback.published.nanos ≤ time.nanos + 8 * 1000000000)

/-- The safety of the delivery: every callback is the only one for an earlier request. -/
structure DeliverySafe (world : World) : Prop where
  callbacks :
    ∀ entry ∈ world.proxy.log, entry.2.msgs.filterMap noisReceive = (callbackOf entry).toList
  answers : ∃ answered : Nat → Nat,
    (∀ position entry contract callback, world.proxy.log[position]? = some entry →
      callbackOf entry = some (contract, callback) →
      answered position < position ∧
        ∃ asked request, world.proxy.log[answered position]? = some asked ∧
          requestOf asked = some request ∧ Answers world request contract callback) ∧
      ∀ first second firstEntry secondEntry, world.proxy.log[first]? = some firstEntry →
        world.proxy.log[second]? = some secondEntry → (callbackOf firstEntry).isSome = true →
        (callbackOf secondEntry).isSome = true → answered first = answered second → first = second

theorem answers_of_key {world : World} (sourced : Sourced world) (journaled : Journaled world.proxy)
    {asked entry : Proxy.Tx × Response ContractMsg} {request : Request} {contract : Addr}
    {callback : NoisCallback} (earlier : asked ∈ world.proxy.log) (later : entry ∈ world.proxy.log)
    (requested : requestOf asked = some request)
    (called : callbackOf entry = some (contract, callback))
    (same : requestKey asked = callbackKey entry) : Answers world request contract callback := by
  obtain ⟨round, sent⟩ := sourced.called entry later contract callback called
  simp only [requestKey, callbackKey, requested, called, Option.map_some, Option.some.injEq,
    Prod.mk.injEq, RequestBeaconOrigin.mk.injEq] at same
  obtain ⟨⟨sender, jobId⟩, rounds⟩ := same
  rw [roundAt_timeOfRound sent.time] at rounds
  subst rounds
  obtain ⟨after, soon, first⟩ := published_bounds sent.time
  refine ⟨sender, jobId, after, soon, first, ⟨_, roundAfter_eq request.after, sent⟩, ?_⟩
  intro time config next configured untested
  obtain ⟨stored, found, clock⟩ := journaled.clocked asked earlier request time requested next
  rw [configured] at found
  cases found
  have margin := clock untested
  unfold safetyMargin at margin
  unfold drandRoundLength at soon
  refine ⟨by omega, by omega, fun started => ?_⟩
  have bound := soon (by omega)
  omega

/-- Every callback of the proxy belongs to an earlier request of its own. -/
theorem reached_deliverySafe (link : Link) (events : List Event) :
    DeliverySafe (reached link events) := by
  have flow := reached_flow link events
  have sourced := reached_sourced link events
  obtain ⟨txs, same⟩ := (reached_projects link events).proxy
  have journaled : Journaled (reached link events).proxy :=
    same ▸ reached_journaled link.proxyDeps link.proxy txs
  generalize reached link events = world at flow sourced journaled
  have separate (entry : Proxy.Tx × Response ContractMsg) :
      requestKey entry = none ∨ callbackKey entry = none := by
    rcases requestOf_or_callbackOf entry with none | none
    · exact .inl (by simp [requestKey, none])
    · exact .inr (by simp [callbackKey, none])
  obtain ⟨answered, assigns⟩ := exists_assignment separate world.proxy.log flow.balanced
  have keyed (position : Nat) (entry : Proxy.Tx × Response ContractMsg)
      (found : world.proxy.log[position]? = some entry) :
      keyAt callbackKey world.proxy.log position = callbackKey entry := by
    simp [keyAt, found]
  refine ⟨journaled.callbacks, answered, ?_, ?_⟩
  · intro position entry contract callback found called
    have key :
        callbackKey entry = some (⟨contract, callback.jobId⟩, roundAt callback.published) := by
      simp [callbackKey, called]
    obtain ⟨before, matched⟩ := assigns.earlier position _ ((keyed position entry found).trans key)
    obtain ⟨asked, present, askedKey⟩ := Option.bind_eq_some_iff.mp matched
    obtain ⟨request, requested, _⟩ := Option.map_eq_some_iff.mp askedKey
    refine ⟨before, asked, request, present, requested, ?_⟩
    exact answers_of_key sourced journaled (List.mem_of_getElem? present)
      (List.mem_of_getElem? found) requested called (askedKey.trans key.symm)
  · intro first second firstEntry secondEntry firstFound secondFound firstCalled secondCalled equal
    refine assigns.distinct first second ?_ ?_ equal
    · rw [keyed first firstEntry firstFound, callbackKey, Option.isSome_map, firstCalled]
    · rw [keyed second secondEntry secondFound, callbackKey, Option.isSome_map, secondCalled]

end

section

attribute [local instance] jsonWire

def channelLink : Link :=
  ⟨NoisHost.deps, proxyContract, "channel-0", NoisHost.deps, NoisHost.gateway, "channel-0"⟩

def originData : Binary := Wire.origin.toJsonBinary ⟨dapp, "job"⟩

def askedTime : Timestamp := ⟨1682000005000000000, by decide⟩

def publishedTime : Timestamp := ⟨1682000007000000000, by decide⟩

def beaconRandomness : Binary := [170, 187]

def roundTrip : List Event :=
  Proxy.setup.map .proxy ++ Gateway.opening.map .gateway ++
  [.proxy ⟨startBlock, some 5, [],
      .execute ⟨dapp, [unoisx 1000000 NoisHost.million_lt]⟩ (.getNextRandomness "job"), true⟩,
    .relayToGateway ⟨startBlock, some 6, NoisHost.relayer,
      Wire.inPacket.toJsonBinary (.requestBeacon askedTime originData), true⟩,
    .gateway ⟨startBlock, some 7,
      .execute ⟨NoisHost.drand, []⟩ (.addVerifiedRound 1438270 beaconRandomness true), true⟩,
    .relayToProxy ⟨startBlock, some 8, NoisHost.relayer, Wire.outPacket.toJsonBinary
      (.deliverBeacon (sourceIdOf 1438270) publishedTime beaconRandomness originData), true⟩]

theorem reached_deliverySafe_roundTrip :
    (reached channelLink roundTrip).proxy.log.filterMap callbackOf =
        [(dapp, ⟨"job", publishedTime, beaconRandomness⟩)] ∧
      DeliverySafe (reached channelLink roundTrip) :=
  ⟨by decide +kernel, reached_deliverySafe channelLink roundTrip⟩

end
end NoisContracts.Network
