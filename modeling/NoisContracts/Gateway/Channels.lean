import NoisContracts.Gateway.Accounting
import NoisContracts.ProtocolJson

/-!
Closing of channels. The chain sends a packet only on an open channel, and a
message that fails reverts its transaction. A verified round can therefore commit
only if every job that it takes from its queue belongs to an open channel.
-/

namespace NoisContracts.Gateway

open ContractCall ContractCall.Call OrderedStore

def sendable (opened : List String) : Msg → Bool
  | .ibcSendPacket channel _ _ => opened.contains channel
  | _ => true

/-- The chain can send every packet of the response. -/
def World.dispatches (world : World) (response : Response ContractMsg) : Bool :=
  response.msgs.all (sendable world.opened)

theorem mem_queue {storage : Storage} {round : Nat} {job : Job} :
    job ∈ storage.queue round ↔ ∃ id : Nat, storage.jobs[toLex (round, id)]? = some job := by
  simp only [Storage.queue, List.mem_map, Prod.exists, exists_eq_right]
  constructor
  · rintro ⟨id, listed⟩
    exact ⟨id, mem_prefixRange.mp listed⟩
  · rintro ⟨id, found⟩
    exact ⟨id, mem_prefixRange.mpr found⟩

theorem openedAfter_keeps {opened : List String} {action : Action} {channel : String}
    (isOpen : channel ∈ opened)
    (kept : ∀ msg, action = .channelClose msg → channel ≠ msg.channel.channelId) :
    channel ∈ openedAfter opened action := by
  cases action with
  | channelConnect msg => exact List.mem_cons_of_mem _ isOpen
  | channelClose msg => simpa [openedAfter, isOpen] using kept msg rfl
  | _ => exact isOpen

section

variable [Wire]

/-- Packets are received on open channels. -/
def deliversOnOpen (deps : Deps) (contract : Addr) (world : World) (tx : Tx) : Bool :=
  match tx.action with
  | .packetReceive msg =>
      world.opened.contains msg.destChannel || (attempt deps contract world tx).isNone
  | _ => true

/-- No job of a channel is queued when the channel is closed. -/
def closesDrained (deps : Deps) (contract : Addr) (world : World) (tx : Tx) : Bool :=
  match tx.action with
  | .channelClose msg =>
      (world.storage.jobs.toList.all fun entry => entry.2.channel ≠ msg.channel.channelId) ||
        (attempt deps contract world tx).isNone
  | _ => true

theorem newDrandLoop_returns {env : Env} {round : Nat} {randomness : Binary} {limit fuel : Nat}
    {collected : NewDrand} {storage : Storage} (small : round < 2 ^ 32)
    (budget : collected.jobsProcessed + fuel = limit)
    (counted : getProcessedDrandJobs storage round + min (storage.queue round).length fuel < 2 ^ 32)
    (times : storage.queue round ≠ [] →
      1 ≤ round ∧ ∃ timeout, env.block.time.plusSeconds deliverBeaconPacketLifetime = .ok timeout) :
    ∃ result after, newDrandLoop env round randomness limit fuel collected storage =
      .ok result after := by
  induction fuel generalizing collected storage with
  | zero => exact ⟨collected, storage, by simp [newDrandLoop]⟩
  | succ fuel ih =>
      simp only [newDrandLoop, bind_eq_ok]
      cases first : (prefixRange storage.jobs round).head? with
      | none =>
          have dequeued : unprocessedDrandJobsDequeue round storage = .ok none storage :=
            dequeue_eq_ok.mpr ⟨small, by simp [first]⟩
          exact ⟨collected, storage, none, storage, dequeued, by simp⟩
      | some entry =>
          obtain ⟨id, job⟩ := entry
          obtain ⟨others, scanned⟩ := List.head?_eq_some_iff.mp first
          have dequeued : unprocessedDrandJobsDequeue round storage =
              .ok (some job) (storage.popJob round id) :=
            dequeue_eq_ok.mpr ⟨small, by simp [first]⟩
          have length : (storage.queue round).length = others.length + 1 := by
            simp [Storage.queue, scanned]
          obtain ⟨positive, timeout, deadline⟩ := times (by
            intro empty
            simp [empty] at length)
          obtain ⟨published, time⟩ := timeOfRound_u32 positive small
          have increased : incrementProcessedDrandJobs round (storage.popJob round id) =
              .ok () ((storage.popJob round id).countProcessed round) := by
            refine increment_eq_ok.mpr ⟨?_, rfl⟩
            have same : getProcessedDrandJobs (storage.popJob round id) round =
                getProcessedDrandJobs storage round := rfl
            omega
          have created : createDeliverBeaconIbcMessage env.block.time job published randomness =
              .ok (deliverBeaconMsg job published timeout randomness) :=
            createDeliverBeaconIbcMessage_eq_ok.mpr ⟨timeout, deadline, rfl⟩
          let collectedNext : NewDrand :=
            ⟨collected.msgs ++ [deliverBeaconMsg job published timeout randomness],
              collected.jobsProcessed + 1⟩
          by_cases full : collectedNext.jobsProcessed ≥ limit
          · refine ⟨collectedNext, (storage.popJob round id).countProcessed round, some job,
              storage.popJob round id, dequeued, ?_⟩
            simp [increased, time, created, full, collectedNext]
          · have popped : ((storage.popJob round id).countProcessed round).queue round =
                others.map Prod.snd := by
              have erased :
                  prefixRange ((storage.popJob round id).countProcessed round).jobs round =
                  others := prefixRange_erase_head scanned
              simp [Storage.queue, erased]
            have counter :
                getProcessedDrandJobs ((storage.popJob round id).countProcessed round) round =
                  getProcessedDrandJobs storage round + 1 := by
              rw [getProcessed_countProcessed]
              simp [getProcessedDrandJobs, Storage.popJob]
            obtain ⟨result, after, looped⟩ :=
              @ih collectedNext ((storage.popJob round id).countProcessed round)
                (by simp only [collectedNext]; omega)
                (by rw [counter, popped, List.length_map]; omega)
                (fun _ => ⟨positive, timeout, deadline⟩)
            refine ⟨result, after, some job, storage.popJob round id, dequeued, ?_⟩
            simp [increased, time, created, full, collectedNext, looped]

theorem newDrand_returns {env : Env} {round : Nat} {randomness : Binary} {isVerifyingTx : Bool}
    {storage : Storage} (nonempty : randomness ≠ []) (small : round < 2 ^ 32)
    (counted : getProcessedDrandJobs storage round +
      min (storage.queue round).length (maxJobsPerSubmission isVerifyingTx) < 2 ^ 32)
    (times : storage.queue round ≠ [] → 1 ≤ round ∧
      ∃ timeout, env.block.time.plusSeconds deliverBeaconPacketLifetime = .ok timeout) :
    ∃ result after, newDrand env round randomness isVerifyingTx storage = .ok result after := by
  have archived :
      archiveStore round randomness storage = .ok () (storage.setArchive round randomness) :=
    archiveStore_eq_ok.mpr ⟨nonempty, rfl⟩
  obtain ⟨result, after, looped⟩ := @newDrandLoop_returns _ env round randomness
    (maxJobsPerSubmission isVerifyingTx) (maxJobsPerSubmission isVerifyingTx) ⟨[], 0⟩
    (storage.setArchive round randomness) small (Nat.zero_add _) counted times
  exact ⟨result, after, bind_eq_ok.mpr ⟨(), _, archived, looped⟩⟩

/-- The transaction of a verified round commits: the call returns, and the chain can
send the packets of its response. -/
def World.commitsRound (world : World) (env : Env) (info : MessageInfo) (round : Nat)
    (randomness : Binary) (isVerifyingTx : Bool) : Prop :=
  ∃ response after,
    executeAddVerifiedRound env info round randomness isVerifyingTx world.storage =
      .ok response after ∧
      world.dispatches response = true

/-- Every queued job belongs to an open channel and to a round of drand. -/
def QueuedOpen (world : World) : Prop :=
  ∀ (round id : Nat) (job : Job), world.storage.jobs[toLex (round, id)]? = some job →
    job.channel ∈ world.opened ∧ 1 ≤ round

theorem QueuedOpen.step {deps : Deps} {contract : Addr} {world next : World} {tx : Tx}
    (registered : Registered world) (queuedOpen : QueuedOpen world)
    (delivers : deliversOnOpen deps contract world tx = true)
    (drained : closesDrained deps contract world tx = true)
    (committed : attempt deps contract world tx = some next) : QueuedOpen next := by
  obtain ⟨response, after, effect, admitted, rfl⟩ := attempt_effect committed
  -- a job that was queued before stays on an open channel
  have keep (round id : Nat) (job : Job)
      (found : world.storage.jobs[toLex (round, id)]? = some job) :
      job.channel ∈ (world.commit tx response after).opened ∧ 1 ≤ round := by
    obtain ⟨isOpen, positive⟩ := queuedOpen round id job found
    refine ⟨openedAfter_keeps isOpen ?_, positive⟩
    intro msg closes
    simp only [closesDrained, closes, committed, Option.isNone_some, Bool.or_false,
      List.all_eq_true, decide_eq_true_eq] at drained
    exact drained _ (mem_toList_iff.mpr found)
  intro round id job found
  rcases effect_kinds registered admitted effect with ⟨_, same⟩ |
    ⟨msg, base, origin, action, _, accepted⟩ |
    ⟨info, verified, randomness, isVerifyingTx, drand, _, processed, _⟩
  · exact keep round id job (same.jobs ▸ found)
  · rcases accepted.jobs with ⟨_, _, _, jobs, _⟩ | ⟨_, _, _, _, jobs, _⟩
    · exact keep round id job (jobs ▸ found)
    · simp only [World.commit, jobs, Storage.pushJob, get_insert_pair] at found
      split at found
      · rename_i same
        cases found
        refine ⟨?_, same.1 ▸ roundNumber_pos base⟩
        simpa [World.commit, openedAfter, action, requestedJob, deliversOnOpen, committed]
          using delivers
      · exact keep round id job found
  · obtain ⟨_, _, jobs, drains, _⟩ := newDrand_ok processed
    exact keep round id job (drains.stored found)

theorem Drains.dispatched {env : Env} {round : Nat} {randomness : Binary} {storage after : Storage}
    {jobs : List Job} {msgs : List Msg} {opened : List String}
    (drains : Drains env round randomness storage jobs msgs after)
    (isOpen : ∀ job ∈ jobs, job.channel ∈ opened) : msgs.all (sendable opened) = true := by
  induction drains with
  | stop storage => rfl
  | next first counted time deadline rest ih =>
      have here := isOpen _ List.mem_cons_self
      have later := ih fun job member => isOpen job (List.mem_cons_of_mem _ member)
      simp [deliverBeaconMsg, sendable, here, later]

/-- In a run that delivers packets on open channels only and closes a channel only
when none of its jobs is queued, every packet of a verified round can be sent, and
the round commits unless a number of it exceeds its type. -/
theorem verified_round_commits (deps : Deps) (contract : Addr) (txs : List Tx)
    (along : Runs.Along (attempt deps contract)
      (fun world tx => deliversOnOpen deps contract world tx = true ∧
        closesDrained deps contract world tx = true) World.initial txs)
    (env : Env) (info : MessageInfo) (round : Nat) (randomness : Binary) (isVerifyingTx : Bool)
    (config : Config) (configured : (reached deps contract txs).storage.config = some config)
    (trusted : info.sender ∈ config.trustedSources.getD []) :
    (∀ response after,
      executeAddVerifiedRound env info round randomness isVerifyingTx
        (reached deps contract txs).storage = .ok response after →
      (reached deps contract txs).dispatches response = true) ∧
    (randomness ≠ [] → round < 2 ^ 32 →
      getProcessedDrandJobs (reached deps contract txs).storage round +
        min ((reached deps contract txs).storage.queue round).length
          (maxJobsPerSubmission isVerifyingTx) < 2 ^ 32 →
      env.block.time.nanos + deliverBeaconPacketLifetime * 1000000000 < 2 ^ 64 →
      (reached deps contract txs).commitsRound env info round randomness isVerifyingTx) := by
  have both : Registered (reached deps contract txs) ∧ QueuedOpen (reached deps contract txs) := by
    refine @Runs.run_invariant_along _ _ _ _ (fun world => Registered world ∧ QueuedOpen world) ?_
      txs World.initial ⟨reached_registered deps contract [], ?_⟩ along
    · intro world tx next condition before committed
      have queuedOpen := before.2.step before.1 condition.1 condition.2 committed
      obtain ⟨response, after, effect, admitted, rfl⟩ := attempt_effect committed
      exact ⟨before.1.commit admitted effect, queuedOpen⟩
    · intro round id job found
      simp [World.initial, Storage.empty] at found
  obtain ⟨_, queuedOpen⟩ := both
  generalize reached deps contract txs = world at configured queuedOpen ⊢
  have dispatched : ∀ response after,
      executeAddVerifiedRound env info round randomness isVerifyingTx world.storage =
        .ok response after →
        world.dispatches response = true := by
    intro response after returned
    obtain ⟨_, drand, _, _, processed, rfl⟩ := executeAddVerifiedRound_ok returned
    obtain ⟨_, _, jobs, drains, _⟩ := newDrand_ok processed
    rw [World.dispatches, Response.msgs, SubMsg.map_msg_new]
    refine drains.dispatched fun job member => ?_
    have queued : job ∈ (world.storage.setArchive round randomness).queue round := by
      rw [drains.queue]
      exact List.mem_append_left _ member
    obtain ⟨id, found⟩ := mem_queue.mp queued
    exact (queuedOpen round id job found).1
  refine ⟨dispatched, ?_⟩
  intro nonempty small counted fits
  obtain ⟨drand, after, processed⟩ := @newDrand_returns _ env round randomness isVerifyingTx
    world.storage nonempty small counted (by
      intro queued
      obtain ⟨job, member⟩ := List.exists_mem_of_ne_nil _ queued
      obtain ⟨id, found⟩ := mem_queue.mp member
      exact ⟨(queuedOpen round id job found).2, ⟨_, fits⟩, Timestamp.plusSeconds_eq_ok.mpr rfl⟩)
  have loaded : loadConfig world.storage = .ok config world.storage :=
    loadConfig_eq_ok.mpr ⟨configured, rfl⟩
  have returned : ∃ response, executeAddVerifiedRound env info round randomness isVerifyingTx
      world.storage = .ok response after := by
    simp only [executeAddVerifiedRound, bind_eq_ok, mapError_eq_ok, ensure_eq_ok, pure_eq_ok]
    exact ⟨_, config, _, loaded, (), _, ⟨trusted, rfl⟩, drand, after, processed, rfl, rfl⟩
  obtain ⟨response, returned⟩ := returned
  exact ⟨response, after, returned, dispatched response after returned⟩

end

section

open NoisHost

attribute [local instance] jsonWire

def queuedRequest : Tx :=
  { block := openingBlock
    index := some 4
    action := .packetReceive
      { data := Wire.inPacket.toJsonBinary (.requestBeacon requestTime [1, 2, 3])
        destChannel := "channel-0"
        relayer := relayer }
    dispatched := true }

def closing : Tx :=
  { block := openingBlock
    index := some 5
    action := .channelClose (.closeConfirm ⟨"channel-0", .unordered, "nois-v7"⟩)
    dispatched := true }

def submission : Env := ⟨⟨1002, ⟨1680000006000000000, by decide⟩⟩, some 0, gateway⟩

theorem verified_round_commits_while_open :
    (reached deps gateway (opening ++ [queuedRequest])).commitsRound submission ⟨drand, []⟩ 771603
      (List.replicate 32 7) true := by
  have configured : ((reached deps gateway (opening ++ [queuedRequest])).storage.config.map
      fun config => config.trustedSources) = some (some [drand]) := by decide +kernel
  cases found : (reached deps gateway (opening ++ [queuedRequest])).storage.config with
  | none => simp [found] at configured
  | some config =>
      have trusted : config.trustedSources = some [drand] := by simpa [found] using configured
      exact (verified_round_commits deps gateway (opening ++ [queuedRequest]) (by decide +kernel)
        submission ⟨drand, []⟩ 771603 (List.replicate 32 7) true config found (by simp [trusted])).2
        (by decide) (by decide) (by decide +kernel) (by decide)

/-- A job that is left on a closed channel keeps its round from being committed. -/
theorem closed_channel_blocks_round :
    ((reached deps gateway (opening ++ [queuedRequest, closing])).storage.config.bind
      fun config => config.trustedSources) =
      some [drand] ∧
      Runs.Along (attempt deps gateway)
        (fun world tx => deliversOnOpen deps gateway world tx = true) World.initial
        (opening ++ [queuedRequest, closing]) ∧
      ¬(reached deps gateway (opening ++ [queuedRequest, closing])).commitsRound submission
        ⟨drand, []⟩ 771603 (List.replicate 32 7) true := by
  refine ⟨by decide +kernel, by decide +kernel, ?_⟩
  rintro ⟨response, after, returned, dispatched⟩
  have blocked :
      (match executeAddVerifiedRound submission ⟨drand, []⟩ 771603 (List.replicate 32 7) true
        (reached deps gateway (opening ++ [queuedRequest, closing])).storage with
      | .ok response _ =>
          (reached deps gateway (opening ++ [queuedRequest, closing])).dispatches response
      | _ => true) = false := by decide +kernel
  rw [returned] at blocked
  exact absurd dispatched (by simp [blocked])

end

end NoisContracts.Gateway
