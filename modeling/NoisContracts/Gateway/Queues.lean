import NoisContracts.Gateway.Accounting

/-!
The queues under the transactions of the gateway. A queue grows through an accepted
request whose round is not archived, and shrinks through a verified round, from its
front and by at most the limit of the submission.
-/

namespace NoisContracts.Gateway

open ContractCall ContractCall.Call OrderedStore

def Action.verifies : Action → Option (MessageInfo × Nat × Binary × Bool)
  | .execute info (.addVerifiedRound round randomness isVerifyingTx) =>
      some (info, round, randomness, isVerifyingTx)
  | _ => none

variable [Wire]

/-- The loop stops at its limit: more fuel changes nothing. -/
theorem newDrandLoop_fuel {env : Env} {round : Nat} {randomness : Binary} {limit fuel : Nat}
    {collected : NewDrand} (budget : limit ≤ collected.jobsProcessed + fuel)
    (unspent : collected.jobsProcessed < limit) (extra : Nat) :
    newDrandLoop env round randomness limit (fuel + extra) collected =
      newDrandLoop env round randomness limit fuel collected := by
  induction fuel generalizing collected with
  | zero => omega
  | succ fuel ih =>
      rw [Nat.succ_add]
      simp only [newDrandLoop]
      refine bind_congr ?_
      intro found
      cases found with
      | none => simp only
      | some job =>
          refine bind_congr fun _ => bind_congr fun published => bind_congr fun msg => ?_
          by_cases full : limit ≤ collected.jobsProcessed + 1
          · simp only [ge_iff_le, full, if_true]
          · simp only [ge_iff_le, full, if_false]
            exact ih (by simp only; omega) (by simp only; omega)

/-- A verified round takes as many jobs from the front as the limit allows. -/
theorem newDrand_takes {env : Env} {round : Nat} {randomness : Binary} {isVerifyingTx : Bool}
    {result : NewDrand} {storage after : Storage}
    (returned : newDrand env round randomness isVerifyingTx storage = .ok result after) :
    ∃ msgs, Drains env round randomness (storage.setArchive round randomness)
        ((storage.queue round).take (maxJobsPerSubmission isVerifyingTx)) msgs after ∧
      after.queue round = (storage.queue round).drop (maxJobsPerSubmission isVerifyingTx) := by
  obtain ⟨_, _, jobs, drains, _, bounded, emptied⟩ := newDrand_ok returned
  have queue : storage.queue round = jobs ++ after.queue round := drains.queue
  have taken : (storage.queue round).take (maxJobsPerSubmission isVerifyingTx) = jobs ∧
      (storage.queue round).drop (maxJobsPerSubmission isVerifyingTx) = after.queue round := by
    rcases Nat.lt_or_ge jobs.length (maxJobsPerSubmission isVerifyingTx) with fewer | enough
    · have rest : after.queue round = [] := by simp [Storage.queue, emptied fewer]
      rw [queue, rest, List.append_nil]
      exact ⟨List.take_of_length_le bounded, List.drop_of_length_le bounded⟩
    · have length : jobs.length = maxJobsPerSubmission isVerifyingTx := by omega
      rw [queue, ← length]
      exact ⟨List.take_left, List.drop_left⟩
  rw [taken.1, taken.2]
  exact ⟨result.msgs, drains, rfl⟩

inductive QueueStep (world : World) (tx : Tx) (response : Response ContractMsg) (after : Storage) :
    Prop
  | steady (unverified : tx.action.verifies = none)
      (archive : after.archive = world.storage.archive)
      (queue : ∀ round, after.queue round = world.storage.queue round)
      (enqueued : ∀ round, Entry.queuedFor round ⟨tx, response⟩ = none)
      (released : ∀ round, Entry.releasedFor round ⟨tx, response⟩ = [])
  | pushed (msg : IbcPacketReceiveMsg) (base : Timestamp) (config : Config) (job : Job)
      (action : tx.action = .packetReceive msg)
      (missing : world.storage.archive[roundNumber base]? = none)
      (archive : after.archive = world.storage.archive)
      (queue : ∀ round, after.queue round =
        world.storage.queue round ++ if roundNumber base = round then [job] else [])
      (released : ∀ round, Entry.releasedFor round ⟨tx, response⟩ = [])
      (enqueued : ∀ round, (Entry.queuedFor round ⟨tx, response⟩).toList =
        if roundNumber base = round then [job] else [])
      (configured : world.storage.config = some config)
      (incentivized : ∀ msg ∈ incentivizeMsgs config (roundNumber base), msg ∈ response.msgs)
  | drained (info : MessageInfo) (round : Nat) (randomness : Binary) (isVerifyingTx : Bool)
      (config : Config)
      (action : tx.action = .execute info (.addVerifiedRound round randomness isVerifyingTx))
      (configured : world.storage.config = some config)
      (trusted : info.sender ∈ config.trustedSources.getD [])
      (archive : after.archive = world.storage.archive.insert round randomness)
      (queue : ∀ other, after.queue other = if round = other then
        (world.storage.queue round).drop (maxJobsPerSubmission isVerifyingTx)
        else world.storage.queue other)
      (enqueued : ∀ other, Entry.queuedFor other ⟨tx, response⟩ = none)
      (released : ∀ other, Entry.releasedFor other ⟨tx, response⟩ = if round = other then
        (world.storage.queue round).take (maxJobsPerSubmission isVerifyingTx) else [])

theorem Accepted.routes {env : Env} {channelId : String} {relayer : Addr} {base : Timestamp}
    {origin : Binary} {storage after : Storage} {response : Response ContractMsg}
    (accepted : Accepted env channelId relayer base origin storage response after) :
    ∃ config, storage.config = some config ∧
      ((∃ randomness, storage.archive[roundNumber base]? = some randomness) ∧
        response.acknowledgement = some (processedAck (roundNumber base)) ∨
      storage.archive[roundNumber base]? = none ∧
        response.acknowledgement = some (queuedAck (roundNumber base)) ∧
        ∀ msg ∈ incentivizeMsgs config (roundNumber base), msg ∈ response.msgs) := by
  cases accepted with
  | @intro receipt routed customer config short route known counted configured =>
      refine ⟨config, configured, ?_⟩
      cases route with
      | processed archived counted time deadline => exact .inl ⟨⟨_, archived⟩, rfl⟩
      | queued missing small free found =>
          rw [configured] at found
          cases found
          refine .inr ⟨missing, rfl, ?_⟩
          intro msg member
          rw [Response.msgs, SubMsg.map_msg_new]
          exact List.mem_append_left _ member

theorem Accepted.queueStep {env : Env} {world : World} {tx : Tx} {msg : IbcPacketReceiveMsg}
    {base : Timestamp} {origin : Binary} {response : Response ContractMsg} {after : Storage}
    (accounts : Accounts world) (action : tx.action = .packetReceive msg)
    (decoded : Wire.inPacket.fromJson msg.data = .ok (.requestBeacon base origin))
    (accepted : Accepted env msg.destChannel msg.relayer base origin world.storage response after) :
    QueueStep world tx response after := by
  have released (round : Nat) : Entry.releasedFor round ⟨tx, response⟩ = [] := by
    simp [Entry.releasedFor, action]
  have archive := accepted.frame.2.1
  obtain ⟨config, configured, routes⟩ := accepted.routes
  rcases accepted.jobs with ⟨⟨randomness, archived⟩, _, answer, jobs, _⟩ |
      ⟨_, _, _, answer, jobs, _⟩
  · refine .steady (by simp [action, Action.verifies]) archive ?_ ?_ released
    · intro round
      simp [Storage.queue, jobs]
    · intro round
      simp [Entry.queuedFor, acknowledgesQueued_processed answer]
  · rcases routes with ⟨_, processed⟩ | ⟨missing, _, messages⟩
    · rw [answer] at processed
      exact (queuedAck_ne_processedAck _ (Option.some.inj processed)).elim
    · refine .pushed msg base config (requestedJob msg.destChannel base origin) action missing
        archive ?_ released ?_ configured messages
      · intro round
        have pushed : after.queue round =
            (world.storage.pushJob (roundNumber base)
              (requestedJob msg.destChannel base origin)).queue round := by
          simp [Storage.queue, jobs]
        rw [pushed]
        by_cases same : roundNumber base = round
        · subst same
          rw [if_pos rfl]
          exact queue_pushJob fun id stored found => (accounts.ids _ id stored found).1
        · rw [if_neg same, List.append_nil]
          exact queue_pushJob_other same
      · intro round
        rw [Entry.queuedFor, acknowledgesQueued_queued answer, if_pos rfl,
          accepted.acceptedFor action decoded]
        split <;> rfl

theorem effect_verified {deps : Deps} {env : Env} {storage after : Storage} {action : Action}
    {info : MessageInfo} {round : Nat} {randomness : Binary} {isVerifyingTx : Bool}
    {response : Response ContractMsg}
    (verifies : action = .execute info (.addVerifiedRound round randomness isVerifyingTx))
    (effect : Effect deps env storage action response after) :
    ∃ config drand, storage.config = some config ∧ info.sender ∈ config.trustedSources.getD [] ∧
      newDrand env round randomness isVerifyingTx storage = .ok drand after ∧
      response.msgs = drand.msgs := by
  cases effect with
  | verified configured trusted processed =>
      cases verifies
      exact ⟨_, _, configured, trusted, processed, SubMsg.map_msg_new _⟩
  | configured configures => simp [verifies, Action.configures] at configures
  | idle idles => simp [verifies, Action.idles] at idles
  | connected connects => cases verifies
  | received receives => cases verifies

theorem drained_queueStep {env : Env} {world : World} {tx : Tx} {info : MessageInfo} {round : Nat}
    {randomness : Binary} {isVerifyingTx : Bool} {config : Config} {drand : NewDrand}
    {response : Response ContractMsg} {after : Storage} (accounts : Accounts world)
    (action : tx.action = .execute info (.addVerifiedRound round randomness isVerifyingTx))
    (configured : world.storage.config = some config)
    (trusted : info.sender ∈ config.trustedSources.getD [])
    (processed : newDrand env round randomness isVerifyingTx world.storage = .ok drand after)
    (messages : response.msgs = drand.msgs) : QueueStep world tx response after := by
  obtain ⟨msgs, drains, queue⟩ := newDrand_takes processed
  have books := accounts.commit_verified action processed messages
  have enqueued (other : Nat) : Entry.queuedFor other ⟨tx, response⟩ = none := by
    simp [Entry.queuedFor, Entry.acceptedFor, action]
  have queues (other : Nat) : after.queue other = if round = other then
      (world.storage.queue round).drop (maxJobsPerSubmission isVerifyingTx)
      else world.storage.queue other := by
    by_cases same : round = other
    · subst same
      rw [if_pos rfl, queue]
    · rw [if_neg same, drains.queue_other same]
      rfl
  refine .drained info round randomness isVerifyingTx config action configured trusted
    drains.frame.2.2.2.1 queues enqueued ?_
  -- what was enqueued is what was released and what is still queued
  intro other
  have before := accounts.order other
  have later := books.order other
  rw [World.enqueued_commit, enqueued other, World.released_commit] at later
  simp only [Option.toList_none, List.append_nil, World.commit] at later
  rw [before, List.append_assoc, List.append_cancel_left_eq, queues other] at later
  by_cases same : round = other
  · subst same
    rw [if_pos rfl] at later ⊢
    have split :=
      List.take_append_drop (maxJobsPerSubmission isVerifyingTx) (world.storage.queue round)
    exact (List.append_cancel_right (later.symm.trans split.symm))
  · rw [if_neg same] at later ⊢
    exact List.append_left_eq_self.mp later.symm

theorem effect_queueStep {deps : Deps} {env : Env} {world : World} {tx : Tx}
    {response : Response ContractMsg} {after : Storage} (registered : Registered world)
    (accounts : Accounts world) (admitted : world.admits tx.action = true)
    (effect : Effect deps env world.storage tx.action response after) :
    QueueStep world tx response after := by
  by_cases verifies : ∃ info round randomness isVerifyingTx,
      tx.action = .execute info (.addVerifiedRound round randomness isVerifyingTx)
  · obtain ⟨info, round, randomness, isVerifyingTx, action⟩ := verifies
    obtain ⟨config, drand, configured, trusted, processed, messages⟩ :=
      effect_verified action effect
    exact drained_queueStep accounts action configured trusted processed messages
  · have unverified : tx.action.verifies = none := by
      unfold Action.verifies
      split
      · rename_i info round randomness isVerifyingTx action
        exact (verifies ⟨info, round, randomness, isVerifyingTx, action⟩).elim
      · rfl
    rcases effect_kinds registered admitted effect with ⟨silent, same⟩ |
      ⟨msg, base, origin, action, decoded, accepted⟩ |
      ⟨info, round, randomness, isVerifyingTx, drand, action, processed, messages⟩
    · refine .steady unverified same.archive ?_ ?_ ?_
      · intro round
        simp [Storage.queue, same.jobs]
      · intro round
        simp [Entry.queuedFor, silent.accepted]
      · intro round
        simp only [Entry.releasedFor, silent.sent]
        split <;> rfl
    · exact accepted.queueStep accounts action decoded
    · exact (verifies ⟨info, round, randomness, isVerifyingTx, action⟩).elim

end NoisContracts.Gateway
