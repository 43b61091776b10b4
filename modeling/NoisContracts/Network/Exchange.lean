import NoisContracts.Gateway.Customers
import NoisContracts.Network.Delivery

/-!
The channel with its acknowledgements and timeouts. The receiver of a packet answers
it with an acknowledgement, which a relayer brings back to the sender. A packet that
is not delivered can time out at its sender. Either way it leaves the channel, and no
packet that has timed out is delivered later.
-/

namespace NoisContracts.Network.Exchange

open ContractCall ContractCall.Call Matching Gateway Proxy

structure World where
  network : Network.World
  acksToProxy : List Binary
  acksToGateway : List Binary
  /-- The requests that have timed out at the proxy. -/
  expiredToGateway : List Binary
  /-- The packets that have timed out at the gateway. -/
  expiredToProxy : List Binary

def World.initial : World := ⟨Network.World.initial, [], [], [], []⟩

inductive Event where
  | between (event : Network.Event)
  | ackToProxy (relay : Relay)
  | ackToGateway (relay : Relay)
  | timeoutToGateway (relay : Relay)
  | timeoutToProxy (relay : Relay)
deriving DecidableEq, Repr

/-- The call that an event makes at one of the two contracts. -/
def Event.call : Event → Network.Event
  | .between event => event
  | .ackToProxy relay =>
      .proxy ⟨relay.block, relay.index, [], .packetAck relay.data, relay.dispatched⟩
  | .ackToGateway relay =>
      .gateway ⟨relay.block, relay.index, .packetAck relay.data, relay.dispatched⟩
  | .timeoutToGateway relay =>
      .proxy ⟨relay.block, relay.index, [], .packetTimeout, relay.dispatched⟩
  | .timeoutToProxy relay => .gateway ⟨relay.block, relay.index, .packetTimeout, relay.dispatched⟩

/-- The proxy has one channel only, the gateway is also called for other channels. -/
def unsolicited : Network.Event → Bool
  | .proxy tx =>
      match tx.action with
      | .packetAck _ => true
      | .packetTimeout => true
      | _ => false
  | _ => false

def World.admits (world : World) : Event → Bool
  | .between event => !unsolicited event
  | .ackToProxy relay => world.acksToProxy.contains relay.data
  | .ackToGateway relay => world.acksToGateway.contains relay.data
  | .timeoutToGateway relay => world.network.toGateway.contains relay.data
  | .timeoutToProxy relay => world.network.toProxy.contains relay.data

def requestPackets (link : Link) (world : Proxy.World) : List Binary :=
  world.log.flatMap fun entry => packetsOn link.proxyChannel entry.2.msgs

section

variable [Wire]

def writtenAck (response : Response ContractMsg) : List Binary :=
  (response.acknowledgement.map Wire.stdAck.toJsonBinary).toList

def gatewayAck (world : Gateway.World) : List Binary :=
  (world.log.getLast?.map fun entry => writtenAck entry.response).getD []

def proxyAck (world : Proxy.World) : List Binary :=
  (world.log.getLast?.map fun entry => writtenAck entry.2).getD []

@[simp] theorem gatewayAck_commit (world : Gateway.World) (tx : Gateway.Tx)
    (response : Response ContractMsg) (after : Gateway.Storage) :
    gatewayAck (world.commit tx response after) = writtenAck response := by
  simp [gatewayAck, Gateway.World.commit]

@[simp] theorem proxyAck_commit (world : Proxy.World) (tx : Proxy.Tx)
    (response : Response ContractMsg) (after : Proxy.Storage) :
    proxyAck (world.commit tx response after) = writtenAck response := by
  simp [proxyAck]

def World.settle (world : World) (network : Network.World) : Event → World
  | .between (.relayToGateway _) =>
      { world with network, acksToProxy := world.acksToProxy ++ gatewayAck network.gateway }
  | .between (.relayToProxy _) =>
      { world with network, acksToGateway := world.acksToGateway ++ proxyAck network.proxy }
  | .between _ => { world with network }
  | .ackToProxy relay => { world with network, acksToProxy := world.acksToProxy.erase relay.data }
  | .ackToGateway relay =>
      { world with network, acksToGateway := world.acksToGateway.erase relay.data }
  | .timeoutToGateway relay =>
      { world with
        network := { network with toGateway := network.toGateway.erase relay.data }
        expiredToGateway := world.expiredToGateway ++ [relay.data] }
  | .timeoutToProxy relay =>
      { world with
        network := { network with toProxy := network.toProxy.erase relay.data }
        expiredToProxy := world.expiredToProxy ++ [relay.data] }

def attempt (link : Link) (world : World) (event : Event) : Option World :=
  if world.admits event then
    (Network.attempt link world.network event.call).map fun network => world.settle network event
  else none

def reached (link : Link) (events : List Event) : World :=
  Runs.run (attempt link) World.initial events

theorem attempt_eq_some {link : Link} {world next : World} {event : Event} :
    attempt link world event = some next ↔ world.admits event = true ∧
      ∃ network, Network.attempt link world.network event.call = some network ∧
        world.settle network event = next := by
  simp [attempt, Option.ite_none_right_eq_some, Option.map_eq_some_iff]

/-- The same two contracts, with at least the packets in flight. A network keeps the
packets that have timed out. -/
structure Covers (whole part : Network.World) : Prop where
  proxy : whole.proxy = part.proxy
  gateway : whole.gateway = part.gateway
  toGateway : part.toGateway.Subperm whole.toGateway
  toProxy : part.toProxy.Subperm whole.toProxy

theorem Covers.proxyStep {link : Link} {whole part next : Network.World} {tx : Proxy.Tx}
    {toProxy larger : List Binary} (covers : Covers whole part) (kept : toProxy.Subperm larger)
    (stepped : link.proxyStep part tx toProxy = some next) :
    ∃ after, link.proxyStep whole tx larger = some after ∧ Covers after next := by
  obtain ⟨proxy, committed, rest⟩ := Option.bind_eq_some_iff.mp stepped
  cases rest
  refine ⟨_, Option.bind_eq_some_iff.mpr ⟨proxy, covers.proxy ▸ committed, rfl⟩, rfl,
    covers.gateway, ?_, kept⟩
  exact (List.subperm_append_right _).mpr covers.toGateway

theorem Covers.gatewayStep {link : Link} {whole part next : Network.World} {tx : Gateway.Tx}
    {toGateway larger : List Binary} (covers : Covers whole part) (kept : toGateway.Subperm larger)
    (stepped : link.gatewayStep part tx toGateway = some next) :
    ∃ after, link.gatewayStep whole tx larger = some after ∧ Covers after next := by
  obtain ⟨gateway, committed, rest⟩ := Option.bind_eq_some_iff.mp stepped
  cases rest
  refine ⟨_, Option.bind_eq_some_iff.mpr ⟨gateway, covers.gateway ▸ committed, rfl⟩, covers.proxy,
    rfl, kept, ?_⟩
  exact (List.subperm_append_right _).mpr covers.toProxy

theorem Covers.attempt {link : Link} {whole part next : Network.World} {event : Network.Event}
    (covers : Covers whole part) (committed : Network.attempt link part event = some next) :
    ∃ after, Network.attempt link whole event = some after ∧ Covers after next := by
  unfold Network.attempt at committed ⊢
  cases event with
  | proxy tx =>
      simp only [Option.ite_none_right_eq_some] at committed ⊢
      obtain ⟨after, stepped, kept⟩ := covers.proxyStep covers.toProxy committed.2
      exact ⟨after, ⟨committed.1, stepped⟩, kept⟩
  | gateway tx =>
      simp only [Option.ite_none_right_eq_some] at committed ⊢
      obtain ⟨after, stepped, kept⟩ := covers.gatewayStep covers.toGateway committed.2
      exact ⟨after, ⟨committed.1, stepped⟩, kept⟩
  | relayToGateway relay =>
      simp only [Option.ite_none_right_eq_some] at committed ⊢
      obtain ⟨after, stepped, kept⟩ :=
        covers.gatewayStep (covers.toGateway.erase relay.data) committed.2
      exact ⟨after, ⟨covers.toGateway.subset committed.1, stepped⟩, kept⟩
  | relayToProxy relay =>
      simp only [Option.ite_none_right_eq_some] at committed ⊢
      obtain ⟨after, stepped, kept⟩ :=
        covers.proxyStep (covers.toProxy.erase relay.data) committed.2
      exact ⟨after, ⟨covers.toProxy.subset committed.1, stepped⟩, kept⟩

theorem Covers.settle {whole network : Network.World} (covers : Covers whole network)
    (world : World) (event : Event) : Covers whole (world.settle network event).network := by
  cases event with
  | between event => cases event <;> exact covers
  | ackToProxy relay => exact covers
  | ackToGateway relay => exact covers
  | timeoutToGateway relay =>
      exact ⟨covers.proxy, covers.gateway, (List.erase_subperm _ _).trans covers.toGateway,
        covers.toProxy⟩
  | timeoutToProxy relay =>
      exact ⟨covers.proxy, covers.gateway, covers.toGateway,
        (List.erase_subperm _ _).trans covers.toProxy⟩

/-- What the two contracts do here, they do in a run of the network as well. -/
theorem reached_covered (link : Link) (events : List Event) :
    ∃ calls, Covers (Network.reached link calls) (reached link events).network := by
  refine @Runs.run_invariant _ _ (attempt link)
    (fun world => ∃ calls, Covers (Network.reached link calls) world.network) ?_ events
    World.initial ⟨[], rfl, rfl, List.Subperm.refl _, List.Subperm.refl _⟩
  rintro world event next ⟨calls, covers⟩ committed
  obtain ⟨_, network, called, rfl⟩ := attempt_eq_some.mp committed
  obtain ⟨after, stepped, covered⟩ := covers.attempt called
  refine ⟨calls ++ [event.call], ?_⟩
  have extended : Network.reached link (calls ++ [event.call]) = after := by
    unfold Network.reached at stepped ⊢
    rw [Runs.run_append]
    exact Runs.settle_of_some stepped
  rw [extended]
  exact covered.settle world event

theorem reached_projects (link : Link) (events : List Event) :
    Projects link (reached link events).network := by
  obtain ⟨calls, covers⟩ := reached_covered link events
  obtain ⟨⟨proxyTxs, proxy⟩, ⟨gatewayTxs, gateway⟩⟩ := Network.reached_projects link calls
  exact ⟨⟨proxyTxs, covers.proxy ▸ proxy⟩, ⟨gatewayTxs, covers.gateway ▸ gateway⟩⟩

theorem reached_invariant {link : Link} {holds : World → Prop} (initially : holds World.initial)
    (step : ∀ world event network, Projects link world.network → Projects link network →
      holds world → world.admits event = true →
      Network.attempt link world.network event.call = some network →
      holds (world.settle network event)) (events : List Event) : holds (reached link events) := by
  have both : Projects link (reached link events).network ∧ holds (reached link events) := by
    refine @Runs.run_invariant _ _ (attempt link)
      (fun world => Projects link world.network ∧ holds world) ?_ events World.initial
      ⟨projects_initial link, initially⟩
    rintro world event next ⟨projects, before⟩ committed
    obtain ⟨admitted, network, called, rfl⟩ := attempt_eq_some.mp committed
    have after := attempt_projects projects called
    refine ⟨?_, step world event network projects after before admitted called⟩
    cases event with
    | between event => cases event <;> exact after
    | _ => exact ⟨after.proxy, after.gateway⟩
  exact both.2

theorem GatewayStep.effect {link : Link} {world next : Network.World} {tx : Gateway.Tx}
    {toGateway : List Binary} {response : Response ContractMsg} {after : Gateway.Storage}
    (step : GatewayStep link world tx toGateway next response after) :
    Gateway.Effect link.gatewayDeps (tx.env link.gateway) world.gateway.storage tx.action response
      after ∧
      world.gateway.admits tx.action = true := by
  obtain ⟨answer, storage, effect, admitted, same⟩ := Gateway.attempt_effect step.committed
  have entries := congrArg Gateway.World.log same
  have stored := congrArg Gateway.World.storage same
  simp only [Gateway.World.commit, List.append_cancel_left_eq, List.cons.injEq, Entry.mk.injEq,
    true_and, and_true] at entries stored
  exact ⟨by rw [entries, stored]; exact effect, admitted⟩

theorem ProxyStep.returned {link : Link} {world next : Network.World} {tx : Proxy.Tx}
    {toProxy : List Binary} {response : Response ContractMsg} {after : Proxy.Storage}
    (step : ProxyStep link world tx toProxy next response after) :
    Proxy.perform link.proxyDeps link.proxy tx world.proxy.storage = .ok response after := by
  obtain ⟨_, answer, storage, returned, same⟩ := Journal.System.attempt_eq_some.mp step.committed
  have entries := congrArg Journal.World.log same
  have stored := congrArg Journal.World.storage same
  simp only [Journal.World.commit_log, Journal.World.commit_storage, List.append_cancel_left_eq,
    List.cons.injEq, Prod.mk.injEq, true_and, and_true] at entries stored
  subst entries stored
  exact returned

/-- The key of a request that the gateway has refused. -/
def refusedKey (link : Link) (entry : Entry) : Option Key :=
  match entry.tx.action, entry.response.acknowledgement with
  | .packetReceive msg, some (.error _) =>
      if msg.destChannel = link.gatewayChannel then inKey msg.data else none
  | _, _ => none

theorem sent_le_packets {channel : String} {entry : Entry}
    (timed :
      ∀ delivery ∈ entry.response.msgs.filterMap deliveryOf,
        ∃ round, delivery.sourceId = sourceIdOf round ∧ timeOfRound round = .ok delivery.published)
    (key : Key) :
    tally (jobOrigin channel) key.1 (entry.sentFor key.2) ≤
      tally outKey key (packetsOn channel entry.response.msgs) := by
  rw [packetsOn, Entry.sentFor, List.filter_filterMap, tally_filterMap, tally_filterMap]
  refine tally_le_tally fun msg member found => ?_
  obtain ⟨job, listed, origin⟩ := Option.bind_eq_some_iff.mp found
  obtain ⟨read, source⟩ := Option.filter_eq_some_iff.mp listed
  simp only [decide_eq_true_eq] at source
  rw [jobOrigin, Option.ite_none_right_eq_some] at origin
  unfold sentJob at read
  split at read
  · rename_i sender data timeout
    split at read
    · rename_i sourceId published randomness data decoded
      cases read
      obtain ⟨round, sourced, time⟩ := timed ⟨sender, sourceId, published, randomness, data⟩
        (List.mem_filterMap.mpr ⟨_, member, by simp [deliveryOf, decoded]⟩)
      have same : round = key.2 := sourceIdOf_injective (sourced.symm.trans source)
      have round : roundAt published = key.2 := same ▸ roundAt_timeOfRound time
      obtain ⟨rfl, known⟩ := origin
      have known : originOf data = some key.1 := known
      simp [packetOn, outKey, decoded, known, round]
    · cases read
  · cases read

/-- A proxy that has sent a packet has its configuration. -/
theorem reached_configured {link : Link} {world : Network.World} (projects : Projects link world)
    (sent : requestPackets link world.proxy ≠ []) :
    ∃ config, world.proxy.storage.config = some config := by
  obtain ⟨txs, same⟩ := projects.proxy
  rw [same] at sent ⊢
  refine @Journal.System.reached_invariant _ _ _ _ (Proxy.system link.proxyDeps link.proxy) _
    (fun world => requestPackets link world ≠ [] → ∃ config, world.storage.config = some config) ?_
    ?_ txs sent
  · intro nonempty
    exact (nonempty rfl).elim
  · intro world tx response after before admitted returned nonempty
    have effect := Proxy.perform_effect returned
    have configured : ∃ config, world.storage.config = some config := by
      by_cases earlier : requestPackets link world = []
      · rcases effect_traffic effect with ⟨_, _, config, _, _, _, _, request⟩ |
          ⟨_, _, _, _, _, _, _, _, _, messages⟩ | silent
        · exact ⟨config, request.configured⟩
        · refine (nonempty ?_).elim
          simp [requestPackets] at earlier ⊢
          simpa [messages, packetsOn, packetOn] using earlier
        · refine (nonempty ?_).elim
          simp only [requestPackets, Journal.World.commit_log, List.flatMap_append,
            List.flatMap_singleton, List.append_eq_nil_iff]
          refine ⟨earlier, List.filterMap_eq_nil_iff.mpr fun msg member => ?_⟩
          unfold packetOn
          split
          · exact ((silent _ member).1 _ _ _ rfl).elim
          · rfl
      · exact before earlier
    obtain ⟨config, configured⟩ := configured
    obtain ⟨changed, kept, _⟩ := effect_testMode configured admitted effect
    exact ⟨changed, kept⟩

/-- Nothing is lost: a request that was sent is in flight, timed out, refused or
accepted, and a beacon that was sent is in flight, timed out or called back. -/
structure Conserved (link : Link) (world : Network.World)
    (expiredToGateway expiredToProxy : List Binary) : Prop where
  asked : ∀ key : Key, tally inKey key (requestPackets link world.proxy) =
    tally (acceptedOrigin link key.2) key.1 world.gateway.log +
      tally (refusedKey link) key world.gateway.log + tally inKey key world.toGateway +
      tally inKey key expiredToGateway
  answered : ∀ key : Key, tally (jobOrigin link.gatewayChannel) key.1 (world.gateway.sent key.2) =
    tally callbackKey key world.proxy.log + tally outKey key world.toProxy +
      tally outKey key expiredToProxy

theorem ProxyStep.conserved {link : Link} {world next : Network.World} {tx : Proxy.Tx}
    {toProxy expiredToGateway expiredToProxy : List Binary} {response : Response ContractMsg}
    {after : Proxy.Storage} (step : ProxyStep link world tx toProxy next response after)
    (conserved : Conserved link world expiredToGateway expiredToProxy)
    (covered :
      ∀ key, (if callbackKey (tx, response) = some key then 1 else 0) + tally outKey key toProxy =
        tally outKey key world.toProxy) : Conserved link next expiredToGateway expiredToProxy := by
  rw [step.next_eq]
  refine ⟨fun key => ?_, fun key => ?_⟩
  · have before := conserved.asked key
    simp only [requestPackets, Journal.World.commit_log, List.flatMap_append,
      List.flatMap_singleton, tally_concat] at before ⊢
    omega
  · have before := conserved.answered key
    have taken := covered key
    simp only [Journal.World.commit_log, tally_append] at before ⊢
    omega

theorem GatewayStep.conserved {link : Link} {world next : Network.World} {tx : Gateway.Tx}
    {toGateway expiredToGateway expiredToProxy : List Binary} {response : Response ContractMsg}
    {after : Gateway.Storage} (step : GatewayStep link world tx toGateway next response after)
    (projects : Projects link next)
    (conserved : Conserved link world expiredToGateway expiredToProxy)
    (covered :
      ∀ key : Key,
        ((if acceptedOrigin link key.2 ⟨tx, response⟩ = some key.1 then 1 else 0) +
          if refusedKey link ⟨tx, response⟩ = some key then 1 else 0) +
          tally inKey key toGateway =
          tally inKey key world.toGateway) :
    Conserved link next expiredToGateway expiredToProxy := by
  obtain ⟨txs, same⟩ := projects.gateway
  have traced : Traced next.gateway := same ▸ reached_traced link.gatewayDeps link.gateway txs
  have log : next.gateway.log = world.gateway.log ++ [⟨tx, response⟩] := by rw [step.next_eq]; rfl
  have timed : ∀ delivery ∈ response.msgs.filterMap deliveryOf, ∃ round,
      delivery.sourceId = sourceIdOf round ∧ timeOfRound round = .ok delivery.published := by
    intro delivery sent
    obtain ⟨round, source, time, _⟩ := traced.delivered world.gateway.log ⟨tx, response⟩
      (log ▸ List.prefix_refl _) delivery sent
    exact ⟨round, source, time⟩
  refine ⟨fun key => ?_, fun key => ?_⟩
  · have before := conserved.asked key
    have taken := covered key
    rw [log, tally_append, tally_append, step.next_eq]
    simp only at before ⊢
    omega
  · have before := conserved.answered key
    have most := @packets_le_sent _ link.gatewayChannel ⟨tx, response⟩ timed key
    have least := @sent_le_packets _ link.gatewayChannel ⟨tx, response⟩ timed key
    rw [step.next_eq, World.sent_commit, tally_concat, tally_concat]
    simp only at before most least ⊢
    omega

/-- A beacon in flight goes back to a request of the proxy. -/
theorem Conserved.configured {link : Link} {world : Network.World}
    {expiredToGateway expiredToProxy : List Binary} {data : Binary} {key : Key}
    (conserved : Conserved link world expiredToGateway expiredToProxy)
    (projects : Projects link world) (member : data ∈ world.toProxy)
    (found : outKey data = some key) : ∃ config, world.proxy.storage.config = some config := by
  refine reached_configured projects fun none => ?_
  have inFlight := tally_pos member found
  have answered := conserved.answered key
  have accepted := sent_le_accepted projects key
  have asked := conserved.asked key
  have unsent : tally inKey key (requestPackets link world.proxy) = 0 := by rw [none]; rfl
  omega

/-- An acknowledgement with success. -/
def granted (data : Binary) : Bool :=
  match Wire.stdAck.fromJson data with
  | .ok (.success _) => true
  | _ => false

/-- What the proxy reads without touching its price. -/
def ProxyReads (data : Binary) : Prop :=
  (∃ text, Wire.stdAck.fromJson data = .ok (.error text)) ∨
    ∃ inner sourceId, Wire.stdAck.fromJson data = .ok (.success inner) ∧
      (Wire.inPacketAck.fromJson inner = .ok (.requestProcessed sourceId) ∨
        Wire.inPacketAck.fromJson inner = .ok (.requestQueued sourceId))

def GatewayReads (data : Binary) : Prop :=
  (∃ text, Wire.stdAck.fromJson data = .ok (.error text)) ∨
    ∃ inner packet, Wire.stdAck.fromJson data = .ok (.success inner) ∧
      Wire.outPacketAck.fromJson inner = .ok packet

theorem ProxyReads.returns {data : Binary} (reads : ProxyReads data) (storage : Proxy.Storage) :
    ∃ response, Proxy.ibcPacketAck data storage = .ok response storage := by
  rcases reads with ⟨text, decoded⟩ | ⟨inner, sourceId, decoded, read | read⟩
  · simp [Proxy.ibcPacketAck, mapError, decoded]
  · simp [Proxy.ibcPacketAck, mapError, decoded, read]
  · simp [Proxy.ibcPacketAck, mapError, decoded, read]

theorem GatewayReads.returns {data : Binary} (reads : GatewayReads data)
    (storage : Gateway.Storage) :
    ∃ response, Gateway.ibcPacketAck data storage = .ok response storage := by
  rcases reads with ⟨text, decoded⟩ | ⟨inner, packet, decoded, read⟩
  · simp [Gateway.ibcPacketAck, mapError, decoded]
  · simp [Gateway.ibcPacketAck, mapError, decoded, read]

/-- A packet as the proxy writes it. -/
def IsRequest (data : Binary) : Prop :=
  ∃ base origin, data =
    Wire.inPacket.toJsonBinary (.requestBeacon base (Wire.origin.toJsonBinary origin))

theorem ProxyStep.packets {link : Link} {world next : Network.World} {tx : Proxy.Tx}
    {toProxy : List Binary} {response : Response ContractMsg} {after : Proxy.Storage}
    (step : ProxyStep link world tx toProxy next response after) :
    ∀ data ∈ packetsOn link.proxyChannel response.msgs, IsRequest data := by
  intro data member
  obtain ⟨sent, listed, packet⟩ := List.mem_filterMap.mp member
  unfold packetOn at packet
  split at packet
  · rename_i sender bytes timeout
    rw [Option.ite_none_right_eq_some] at packet
    cases packet.2
    rcases effect_traffic step.effect with
        ⟨info, msg, config, time, jobId, channel, action, request⟩ |
        ⟨msg, sourceId, published, randomness, data, origin, action, _, _, messages⟩ | silent
    · obtain ⟨transfers, deadline, transferred, _, messages⟩ := request.sent
      rw [messages, List.mem_append, List.mem_singleton] at listed
      rcases listed with paid | asked
      · obtain ⟨_, _, _, _, _, _, transfer⟩ := transferMsgs_ok transferred paid
        cases transfer
      · cases asked
        exact ⟨time, _, rfl⟩
    · rw [messages, List.mem_singleton] at listed
      cases listed
    · exact ((silent _ listed).1 _ _ _ rfl).elim
  · cases packet

theorem ProxyStep.requests {link : Link} {world next : Network.World} {tx : Proxy.Tx}
    {toProxy : List Binary} {response : Response ContractMsg} {after : Proxy.Storage}
    (step : ProxyStep link world tx toProxy next response after)
    (requests : ∀ data ∈ world.toGateway, IsRequest data) :
    ∀ data ∈ next.toGateway, IsRequest data := by
  intro data member
  rw [step.next_eq, List.mem_append] at member
  rcases member with earlier | sent
  · exact requests data earlier
  · exact ProxyStep.packets step data sent

end

end NoisContracts.Network.Exchange
