import NoisContracts.Gateway.Channels
import NoisContracts.Gateway.Packets
import NoisContracts.Gateway.Queues
import NoisContracts.Network.Exchange

/-!
No request gets stuck. A request that is neither answered nor refused nor timed out is
in flight, in the queue of its round or on its way back, and from each of these places
it can be brought to its callback: a relayer delivers the request, a trusted source
submits the round often enough, and a relayer delivers the beacon. What a step takes
from one place it puts into the next one, because no request is lost.
-/

namespace NoisContracts.Network.Exchange

open ContractCall ContractCall.Call OrderedStore Matching Gateway Proxy

def submissionTx (source : Addr) (block : BlockInfo) (round : Nat) (randomness : Binary) :
    Gateway.Tx :=
  ⟨block, none, .execute ⟨source, []⟩ (.addVerifiedRound round randomness false), true⟩

def submission (source : Addr) (block : BlockInfo) (round : Nat) (randomness : Binary) : Event :=
  .between (.gateway (submissionTx source block round randomness))

section

variable [Wire]

def sends (link : Link) (world : World) (tx : Gateway.Tx) : Bool :=
  (Gateway.attempt link.gatewayDeps link.gateway world.network.gateway tx).all fun next =>
    next.lastMsgs.all (sendable world.network.gateway.opened)

/-- Packets reach the gateway on an open channel, and its chain can send the packets
of the response. -/
def dispatchable (link : Link) (world : World) (event : Event) : Bool :=
  match event.call with
  | .gateway tx => sends link world tx
  | .relayToGateway relay =>
      world.network.gateway.opened.contains link.gatewayChannel &&
        sends link world (relay.gatewayTx link)
  | _ => true

def Leads (link : Link) (events more : List Event) (goal : World → Prop) : Prop :=
  Runs.Leads (attempt link) (fun world event => dispatchable link world event = true)
    (reached link events) more goal

theorem reached_append (link : Link) (first second : List Event) :
    reached link (first ++ second) = Runs.run (attempt link) (reached link first) second :=
  Runs.run_append _ _ _ _

theorem Leads.one {link : Link} {events : List Event} {event : Event} {next : World}
    {goal : World → Prop} (here : dispatchable link (reached link events) event = true)
    (committed : attempt link (reached link events) event = some next) (arrives : goal next) :
    Leads link events [event] goal :=
  Runs.Leads.step here committed ⟨trivial, arrives⟩

theorem Leads.arrives {link : Link} {events more : List Event} {goal : World → Prop}
    (leads : Leads link events more goal) : goal (reached link (events ++ more)) := by
  rw [reached_append]
  exact leads.2

theorem Leads.trans {link : Link} {events first second : List Event} {middle goal : World → Prop}
    (leads : Leads link events first middle) (later : Leads link (events ++ first) second goal) :
    Leads link events (first ++ second) goal := by
  unfold Leads at later
  rw [reached_append] at later
  exact Runs.Leads.trans leads later

theorem Accepted.sendable {env : Env} {channel : String} {relayer : Addr} {base : Timestamp}
    {origin : Binary} {storage after : Gateway.Storage} {response : Response ContractMsg}
    {opened : List String}
    (accepted : Accepted env channel relayer base origin storage response after)
    (isOpen : channel ∈ opened) : response.msgs.all (Gateway.sendable opened) = true := by
  cases accepted with
  | intro short route known counted configured =>
      rw [Response.msgs, SubMsg.map_msg_new]
      cases route with
      | processed => simp [deliverBeaconMsg, requestedJob, payMsg, Gateway.sendable, isOpen]
      | queued => simp [incentivizeMsgs, payMsg, Gateway.sendable]

theorem IsRequest.decodes {data : Binary} {key : Key} (request : IsRequest data)
    (found : inKey data = some key) :
    ∃ base,
      Wire.inPacket.fromJson data = .ok (.requestBeacon base (Wire.origin.toJsonBinary key.1)) ∧
        roundNumber base = key.2 := by
  obtain ⟨base, origin, rfl⟩ := request
  have decoded :=
    Wire.inPacket.fromJson_toJsonBinary (.requestBeacon base (Wire.origin.toJsonBinary origin))
  simp only [inKey, decoded, originOf, Wire.origin.fromJson_toJsonBinary, Option.map_some,
    Option.some.injEq] at found
  subst found
  exact ⟨base, decoded, rfl⟩

end

section

attribute [local instance] jsonWire

end

end NoisContracts.Network.Exchange
