import NoisContracts.Consumer.Core
import NoisContracts.Monitoring

/-!
`nois-monitoring` as a dapp of the proxy. What it records as the outcome of a job comes
from the beacon of the gateway that its own request asked for.
-/

namespace NoisContracts.Consumer

open ContractCall ContractCall.Call OrderedStore Network

def monitoringSender (tx : Monitoring.Tx) : Option Addr :=
  match tx.action with
  | .instantiate info _ => some info.sender
  | .execute info _ => some info.sender

def monitoring (rollDice : Binary → Nat) (deps : Deps) (address : Addr) :
    Dapp Monitoring.Storage Monitoring.Tx Monitoring.ContractError where
  address := address
  start := Monitoring.Storage.empty
  system := Monitoring.system rollDice deps address
  block := Monitoring.Tx.block
  index := Monitoring.Tx.index
  sender := monitoringSender
  receive block index info answer := ⟨block, index, .execute info (.noisReceive answer), 0, true⟩

/-- Where an outcome that the contract stores comes from. -/
structure Rolled (rollDice : Binary → Nat) (world : Monitoring.World) (jobId : String)
    (outcome : Nat) : Prop where
  source : ∃ entry ∈ world.log,
    ∃ info answer delivery, entry.1.action = .execute info (.noisReceive answer) ∧
      world.storage.noisProxy = some info.sender ∧ answer.jobId = jobId ∧
      answer.randomness.length = 32 ∧ outcome = rollDice answer.randomness ∧
      world.storage.jobDeliveries[jobId]? = some delivery ∧ delivery.published = answer.published

structure Booked (rollDice : Binary → Nat) (world : Monitoring.World) : Prop where
  outcomes : ∀ (jobId : String) outcome, world.storage.jobOutcomes[jobId]? = some outcome →
    Rolled rollDice world jobId outcome
  requests : ∀ entry ∈ world.log, ∀ target msg funds, .wasmExecute target msg funds ∈ entry.2.msgs →
    ∃ jobId after, entry.1.rolls = some jobId ∧ msg = .getRandomnessAfter after jobId ∧
      after.nanos = entry.1.after

section

variable {rollDice : Binary → Nat} {deps : Deps} {address : Addr} {world : Monitoring.World}
  {tx : Monitoring.Tx} {response : Response Proxy.ExecuteMsg} {after : Monitoring.Storage}

theorem Rolled.commit {jobId : String} {outcome : Nat}
    (rolled : Rolled rollDice world jobId outcome)
    (proxy : ∀ known, world.storage.noisProxy = some known → after.noisProxy = some known)
    (delivered : after.jobDeliveries[jobId]? = world.storage.jobDeliveries[jobId]?) :
    Rolled rollDice (world.commit tx response after) jobId outcome := by
  obtain ⟨entry, member, info, answer, delivery, action, known, job, length, same, found, time⟩ :=
    rolled.source
  exact ⟨entry, List.mem_append_left _ member, info, answer, delivery, action, proxy _ known, job,
    length, same, delivered.trans found, time⟩

theorem Booked.commit (booked : Booked rollDice world)
    (admitted : Monitoring.admits world.storage tx = true)
    (returned : Monitoring.perform rollDice deps address tx world.storage = .ok response after) :
    Booked rollDice (world.commit tx response after) := by
  have requests
      (sent : ∀ target msg funds, .wasmExecute target msg funds ∈ response.msgs →
        ∃ jobId time, tx.rolls = some jobId ∧ msg = .getRandomnessAfter time jobId ∧
          time.nanos = tx.after) :
      ∀ entry ∈ (world.commit tx response after).log,
        ∀ target msg funds, .wasmExecute target msg funds ∈ entry.2.msgs →
          ∃ jobId time, entry.1.rolls = some jobId ∧ msg = .getRandomnessAfter time jobId ∧
            time.nanos = entry.1.after := by
    intro entry member
    rw [Journal.World.commit_log, List.mem_append, List.mem_singleton] at member
    rcases member with earlier | rfl
    · exact booked.requests entry earlier
    · exact sent
  unfold Monitoring.perform at returned
  cases action : tx.action with
  | instantiate info noisProxy =>
      simp only [action, Monitoring.instantiate, bind_eq_ok, ofExcept_eq_ok, writes_eq_ok,
        pure_eq_ok] at returned
      obtain ⟨proxy, _, ⟨_, rfl⟩, _, _, rfl, rfl, rfl⟩ := returned
      refine ⟨fun jobId outcome stored => (booked.outcomes jobId outcome stored).commit ?_ rfl,
        requests (by simp [Response.msgs])⟩
      intro known found
      simp [Monitoring.admits, action, found] at admitted
  | execute info msg =>
      cases msg with
      | rollDice jobId =>
          simp only [action, Monitoring.execute, Monitoring.executeRollDice, bind_eq_ok,
            Monitoring.loadProxy_eq_ok, reads_eq_ok, ensure_eq_ok, ofExcept_eq_ok, ofPanics_eq_ok,
            Timestamp.plusNanos_eq_ok, writes_eq_ok, pure_eq_ok] at returned
          obtain ⟨proxy, _, ⟨_, rfl⟩, _, _, ⟨rfl, rfl⟩, _, _, ⟨_, rfl⟩, _, _, ⟨_, rfl⟩, time, _,
              ⟨sum, rfl⟩, _, _, rfl, rfl, rfl⟩ := returned
          refine ⟨fun other outcome stored =>
            (booked.outcomes other outcome stored).commit (fun _ => id) rfl, requests ?_⟩
          intro target msg funds sent
          simp only [Response.addMessages, Response.msgs, List.nil_append, SubMsg.map_msg_new,
            List.mem_singleton, CosmosMsg.wasmExecute.injEq] at sent
          exact ⟨jobId, time, by simp [Monitoring.Tx.rolls, action], sent.2.1, sum.symm⟩
      | noisReceive answer =>
          simp only [action, Monitoring.execute, Monitoring.executeReceive, bind_eq_ok,
            Monitoring.loadProxy_eq_ok, reads_eq_ok, ensure_eq_ok, writes_eq_ok, pure_eq_ok]
            at returned
          obtain ⟨proxy, _, ⟨known, rfl⟩, _, _, ⟨sender, rfl⟩, _, _, ⟨length, rfl⟩, _, _,
              ⟨rfl, rfl⟩, _, _, ⟨unanswered, rfl⟩, _, _, rfl, _, _, rfl, rfl, rfl⟩ := returned
          refine ⟨?_, requests (by simp [Response.msgs])⟩
          intro jobId outcome stored
          simp only [Journal.World.commit_storage, get_insert] at stored
          by_cases same : answer.jobId = jobId
          · rw [if_pos same] at stored
            cases stored
            exact ⟨(tx, {}), List.mem_append_right _ (List.mem_singleton.mpr rfl), info, answer, _,
              action, sender ▸ known, same, length, rfl,
              by rw [Journal.World.commit_storage, get_insert, if_pos same], rfl⟩
          · rw [if_neg same] at stored
            exact (booked.outcomes jobId outcome stored).commit (fun _ => id)
              (by rw [get_insert, if_neg same])

end

section

variable [Wire]

end

section

attribute [local instance] jsonWire

def rollTx (action : Monitoring.Action) : Monitoring.Tx :=
  ⟨Proxy.startBlock, some 5, action, 0, true⟩

def diceRun : List (Event Monitoring.Tx) :=
  let before : List Network.Event := Proxy.setup.map .proxy ++ Gateway.opening.map .gateway
  let after : List Network.Event :=
    [.relayToGateway ⟨Proxy.startBlock, some 6, NoisHost.relayer,
      Wire.inPacket.toJsonBinary (.requestBeacon askedTime originData), true⟩,
      .gateway ⟨Proxy.startBlock, some 7,
        .execute ⟨NoisHost.drand, []⟩ (.addVerifiedRound 1438270 (List.replicate 32 7) true), true⟩,
      .relayToProxy ⟨Proxy.startBlock, some 8, NoisHost.relayer,
        Wire.outPacket.toJsonBinary (.deliverBeacon (Gateway.sourceIdOf 1438270) publishedTime
          (List.replicate 32 7) originData), true⟩]
  before.map (fun event => .exchange (.between event) [] true) ++
    [.dapp (rollTx (.instantiate ⟨NoisHost.manager, []⟩ Proxy.proxyContract)) [],
      .dapp
        (rollTx (.execute ⟨NoisHost.manager, [Proxy.unoisx 1000000 NoisHost.million_lt]⟩
          (.rollDice "job"))) []] ++
    after.map (fun event => .exchange (.between event) [] true)

end

end NoisContracts.Consumer
