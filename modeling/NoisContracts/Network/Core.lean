import NoisContracts.Library.Matching
import NoisContracts.Gateway.Deliveries
import NoisContracts.Proxy.Requests

/-!
A proxy and a gateway that are joined by one channel. The packets in flight are kept
in two bags. A relayer delivers any packet of a bag to the other end, unchanged and
in any order. A delivery that commits takes the packet out of the bag, so a packet
arrives at most once; a packet that no relayer picks is lost. Everything else that can
happen to the two contracts happens between the deliveries.
-/

namespace NoisContracts.Network

structure Link where
  proxyDeps : Deps
  proxy : Addr
  proxyChannel : String
  gatewayDeps : Deps
  gateway : Addr
  gatewayChannel : String

structure World where
  proxy : Proxy.World
  gateway : Gateway.World
  toGateway : List Binary
  toProxy : List Binary

def World.initial : World := ⟨⟨Proxy.Storage.empty, []⟩, Gateway.World.initial, [], []⟩

structure Relay where
  block : BlockInfo
  index : Option Nat
  relayer : Addr
  data : Binary
  dispatched : Bool
deriving DecidableEq, Repr

inductive Event where
  | proxy (tx : Proxy.Tx)
  | gateway (tx : Gateway.Tx)
  | relayToGateway (relay : Relay)
  | relayToProxy (relay : Relay)
deriving DecidableEq, Repr

def Relay.gatewayTx (link : Link) (relay : Relay) : Gateway.Tx :=
  ⟨relay.block, relay.index, .packetReceive ⟨relay.data, link.gatewayChannel, relay.relayer⟩,
    relay.dispatched⟩

def Relay.proxyTx (link : Link) (relay : Relay) : Proxy.Tx :=
  ⟨relay.block, relay.index, [], .packetReceive ⟨relay.data, link.proxyChannel, relay.relayer⟩,
    relay.dispatched⟩

/-- Packets reach the proxy over the channel only. -/
def proxyLocal : Proxy.Action → Bool
  | .packetReceive _ => false
  | _ => true

def gatewayLocal (link : Link) : Gateway.Action → Bool
  | .packetReceive msg => msg.destChannel ≠ link.gatewayChannel
  | _ => true

def packetOn (channel : String) : Msg → Option Binary
  | .ibcSendPacket sender data _ => if sender = channel then some data else none
  | _ => none

def packetsOn (channel : String) (msgs : List Msg) : List Binary :=
  msgs.filterMap (packetOn channel)

def proxyMsgs (world : Proxy.World) : List Msg :=
  (world.log.getLast?.map fun entry => entry.2.msgs).getD []

@[simp] theorem proxyMsgs_commit (world : Proxy.World) (tx : Proxy.Tx)
    (response : Response ContractMsg) (after : Proxy.Storage) :
    proxyMsgs (world.commit tx response after) = response.msgs := by
  simp [proxyMsgs]

variable [Wire]

def Link.proxyStep (link : Link) (world : World) (tx : Proxy.Tx) (toProxy : List Binary) :
    Option World := do
  let proxy ← Proxy.attempt link.proxyDeps link.proxy world.proxy tx
  pure { world with
    proxy
    toGateway := world.toGateway ++ packetsOn link.proxyChannel (proxyMsgs proxy)
    toProxy }

def Link.gatewayStep (link : Link) (world : World) (tx : Gateway.Tx) (toGateway : List Binary) :
    Option World := do
  let gateway ← Gateway.attempt link.gatewayDeps link.gateway world.gateway tx
  pure { world with
    gateway
    toGateway
    toProxy := world.toProxy ++ packetsOn link.gatewayChannel gateway.lastMsgs }

def attempt (link : Link) (world : World) : Event → Option World
  | .proxy tx => if proxyLocal tx.action then link.proxyStep world tx world.toProxy else none
  | .gateway tx =>
      if gatewayLocal link tx.action then link.gatewayStep world tx world.toGateway else none
  | .relayToGateway relay =>
      if relay.data ∈ world.toGateway then
        link.gatewayStep world (relay.gatewayTx link) (world.toGateway.erase relay.data)
      else none
  | .relayToProxy relay =>
      if relay.data ∈ world.toProxy then
        link.proxyStep world (relay.proxyTx link) (world.toProxy.erase relay.data)
      else none

def reached (link : Link) (events : List Event) : World :=
  Runs.run (attempt link) World.initial events

structure ProxyStep (link : Link) (world : World) (tx : Proxy.Tx) (toProxy : List Binary)
    (next : World) (response : Response ContractMsg) (after : Proxy.Storage) : Prop where
  committed : Proxy.attempt link.proxyDeps link.proxy world.proxy tx =
    some (world.proxy.commit tx response after)
  effect :
    Proxy.Effect link.proxyDeps (tx.env link.proxy) world.proxy.storage tx.action response after
  next_eq : next = ⟨world.proxy.commit tx response after, world.gateway,
    world.toGateway ++ packetsOn link.proxyChannel response.msgs, toProxy⟩

structure GatewayStep (link : Link) (world : World) (tx : Gateway.Tx) (toGateway : List Binary)
    (next : World) (response : Response ContractMsg) (after : Gateway.Storage) : Prop where
  committed : Gateway.attempt link.gatewayDeps link.gateway world.gateway tx =
    some (world.gateway.commit tx response after)
  next_eq : next = ⟨world.proxy, world.gateway.commit tx response after, toGateway,
    world.toProxy ++ packetsOn link.gatewayChannel response.msgs⟩

theorem proxyStep_eq_some {link : Link} {world next : World} {tx : Proxy.Tx} {toProxy : List Binary}
    (stepped : link.proxyStep world tx toProxy = some next) :
    ∃ response after, ProxyStep link world tx toProxy next response after := by
  obtain ⟨proxy, committed, rest⟩ := Option.bind_eq_some_iff.mp stepped
  obtain ⟨_, response, after, effect, rfl⟩ := Proxy.attempt_effect committed
  cases rest
  exact ⟨response, after, committed, effect, by simp⟩

theorem gatewayStep_eq_some {link : Link} {world next : World} {tx : Gateway.Tx}
    {toGateway : List Binary} (stepped : link.gatewayStep world tx toGateway = some next) :
    ∃ response after, GatewayStep link world tx toGateway next response after := by
  obtain ⟨gateway, committed, rest⟩ := Option.bind_eq_some_iff.mp stepped
  obtain ⟨response, after, _, _, rfl⟩ := Gateway.attempt_effect committed
  cases rest
  exact ⟨response, after, committed, by simp⟩

theorem attempt_cases {link : Link} {world next : World} {event : Event}
    (committed : attempt link world event = some next) :
    (∃ (tx : Proxy.Tx) (response : Response ContractMsg) (after : Proxy.Storage),
      proxyLocal tx.action = true ∧ ProxyStep link world tx world.toProxy next response after) ∨
      (∃ (relay : Relay) (response : Response ContractMsg) (after : Proxy.Storage),
        relay.data ∈ world.toProxy ∧
          ProxyStep link world (relay.proxyTx link) (world.toProxy.erase relay.data) next response
            after) ∨
      (∃ (tx : Gateway.Tx) (response : Response ContractMsg) (after : Gateway.Storage),
        gatewayLocal link tx.action = true ∧
          GatewayStep link world tx world.toGateway next response after) ∨
      ∃ (relay : Relay) (response : Response ContractMsg) (after : Gateway.Storage),
        relay.data ∈ world.toGateway ∧
          GatewayStep link world (relay.gatewayTx link) (world.toGateway.erase relay.data) next
            response after := by
  unfold attempt at committed
  cases event with
  | proxy tx =>
      simp only [Option.ite_none_right_eq_some] at committed
      obtain ⟨response, after, step⟩ := proxyStep_eq_some committed.2
      exact .inl ⟨tx, response, after, committed.1, step⟩
  | gateway tx =>
      simp only [Option.ite_none_right_eq_some] at committed
      obtain ⟨response, after, step⟩ := gatewayStep_eq_some committed.2
      exact .inr (.inr (.inl ⟨tx, response, after, committed.1, step⟩))
  | relayToGateway relay =>
      simp only [Option.ite_none_right_eq_some] at committed
      obtain ⟨response, after, step⟩ := gatewayStep_eq_some committed.2
      exact .inr (.inr (.inr ⟨relay, response, after, committed.1, step⟩))
  | relayToProxy relay =>
      simp only [Option.ite_none_right_eq_some] at committed
      obtain ⟨response, after, step⟩ := proxyStep_eq_some committed.2
      exact .inr (.inl ⟨relay, response, after, committed.1, step⟩)

theorem attempt_proxy {link : Link} {world next : World} {tx : Proxy.Tx}
    (called : attempt link world (.proxy tx) = some next) :
    proxyLocal tx.action = true ∧
      ∃ response after, ProxyStep link world tx world.toProxy next response after := by
  simp only [attempt, Option.ite_none_right_eq_some] at called
  exact ⟨called.1, proxyStep_eq_some called.2⟩

theorem attempt_gateway {link : Link} {world next : World} {tx : Gateway.Tx}
    (called : attempt link world (.gateway tx) = some next) :
    gatewayLocal link tx.action = true ∧
      ∃ response after, GatewayStep link world tx world.toGateway next response after := by
  simp only [attempt, Option.ite_none_right_eq_some] at called
  exact ⟨called.1, gatewayStep_eq_some called.2⟩

theorem attempt_relayToGateway {link : Link} {world next : World} {relay : Relay}
    (called : attempt link world (.relayToGateway relay) = some next) :
    relay.data ∈ world.toGateway ∧
      ∃ response after, GatewayStep link world (relay.gatewayTx link)
        (world.toGateway.erase relay.data) next response after := by
  simp only [attempt, Option.ite_none_right_eq_some] at called
  exact ⟨called.1, gatewayStep_eq_some called.2⟩

theorem attempt_relayToProxy {link : Link} {world next : World} {relay : Relay}
    (called : attempt link world (.relayToProxy relay) = some next) :
    relay.data ∈ world.toProxy ∧
      ∃ response after, ProxyStep link world (relay.proxyTx link) (world.toProxy.erase relay.data)
        next response after := by
  simp only [attempt, Option.ite_none_right_eq_some] at called
  exact ⟨called.1, proxyStep_eq_some called.2⟩

structure Projects (link : Link) (world : World) : Prop where
  proxy : ∃ txs, world.proxy = Proxy.reached link.proxyDeps link.proxy txs
  gateway : ∃ txs, world.gateway = Gateway.reached link.gatewayDeps link.gateway txs

theorem ProxyStep.projects {link : Link} {world next : World} {tx : Proxy.Tx}
    {toProxy : List Binary} {response : Response ContractMsg} {after : Proxy.Storage}
    (step : ProxyStep link world tx toProxy next response after) (before : Projects link world) :
    Projects link next := by
  obtain ⟨txs, same⟩ := before.proxy
  rw [step.next_eq]
  refine ⟨⟨txs ++ [tx], ?_⟩, before.gateway⟩
  have committed := step.committed
  rw [same] at committed ⊢
  unfold Proxy.reached Journal.System.reached at committed ⊢
  rw [Runs.run_append]
  exact (Runs.settle_of_some committed).symm

theorem GatewayStep.projects {link : Link} {world next : World} {tx : Gateway.Tx}
    {toGateway : List Binary} {response : Response ContractMsg} {after : Gateway.Storage}
    (step : GatewayStep link world tx toGateway next response after)
    (before : Projects link world) : Projects link next := by
  obtain ⟨txs, same⟩ := before.gateway
  rw [step.next_eq]
  refine ⟨before.proxy, ⟨txs ++ [tx], ?_⟩⟩
  have committed := step.committed
  rw [same] at committed ⊢
  unfold Gateway.reached at committed ⊢
  rw [Runs.run_append]
  exact (Runs.settle_of_some committed).symm

theorem attempt_projects {link : Link} {world next : World} {event : Event}
    (before : Projects link world) (committed : attempt link world event = some next) :
    Projects link next := by
  rcases attempt_cases committed with ⟨_, _, _, _, step⟩ | ⟨_, _, _, _, step⟩ | ⟨_, _, _, _, step⟩ |
    ⟨_, _, _, _, step⟩
  · exact step.projects before
  · exact step.projects before
  · exact step.projects before
  · exact step.projects before

theorem projects_initial (link : Link) : Projects link World.initial := ⟨⟨[], rfl⟩, ⟨[], rfl⟩⟩

theorem reached_invariant {link : Link} {holds : World → Prop} (initially : holds World.initial)
    (step : ∀ world event next, Projects link world → Projects link next → holds world →
      attempt link world event = some next → holds next)
    (events : List Event) : holds (reached link events) := by
  have both : Projects link (reached link events) ∧ holds (reached link events) := by
    refine @Runs.run_invariant _ _ (attempt link) (fun world => Projects link world ∧ holds world)
      ?_ events World.initial ⟨projects_initial link, initially⟩
    intro world event next before committed
    have after := attempt_projects before.1 committed
    exact ⟨after, step world event next before.1 after before.2 committed⟩
  exact both.2

theorem reached_projects (link : Link) (events : List Event) :
    Projects link (reached link events) :=
  reached_invariant (projects_initial link) (fun _ _ _ _ after _ _ => after) events

end NoisContracts.Network
