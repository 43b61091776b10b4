import NoisContracts.NoisChain.Agreement
import NoisContracts.NoisChain.Changes

/-!
Draining the queue of a round. Each submission of a round makes the gateway send jobs
from the front of the queue: one job for each of the submissions that verify the
signature, ten for every later one. From the first submission on the round is archived
and its queue does not grow any more, so the number of the submissions decides how much
of the queue has been sent.
-/

namespace NoisContracts.NoisChain

open OrderedStore
open Gateway (QueueStep maxJobsPerSubmission)
open Drand (submissionsCountOf)

/-- How many jobs the submissions of a round release together. -/
def drainedBy (submissions : Nat) : Nat := min submissions 3 + 10 * (submissions - 3)

theorem drainedBy_succ (submissions : Nat) :
    drainedBy (submissions + 1) = drainedBy submissions + maxJobsPerSubmission
      (decide (submissions < Drand.numberOfSubmissionVerificationPerRound)) := by
  by_cases verifying : submissions < 3
  · simp only [drainedBy, maxJobsPerSubmission, Drand.numberOfSubmissionVerificationPerRound,
      verifying, decide_true, if_true, Gateway.maxJobsPerSubmissionWithVerification]
    omega
  · simp only [drainedBy, maxJobsPerSubmission, Drand.numberOfSubmissionVerificationPerRound,
      verifying, decide_false, Bool.false_eq_true, if_false,
      Gateway.maxJobsPerSubmissionWithoutVerification]
    omega

/-- The drand contract reports its rounds to the gateway. -/
def attached (chain : Chain) (world : World) : Tx → Bool
  | .drand tx =>
      match tx.action, world.drand.storage.config with
      | .execute _ (.addRound _ _), some config => config.gateway = some chain.gateway
      | _, _ => true
  | .gateway _ => true

def submissions (world : World) (round : Nat) : Nat := submissionsCountOf world.drand.storage round

section

variable [Wire]

theorem Projects.order {chain : Chain} {world : World} (projects : Projects chain world)
    (round : Nat) :
    world.gateway.enqueued round =
      world.gateway.released round ++ world.gateway.storage.queue round := by
  obtain ⟨txs, same⟩ := projects.gateway
  rw [same]
  exact (Gateway.reached_accounts chain.host.toDeps chain.gateway txs).order round

structure Drained (world : World) : Prop where
  archived : ∀ round, (∃ randomness, world.gateway.storage.archive[round]? = some randomness) ↔
    0 < submissions world round
  released : ∀ round, world.gateway.released round =
    (world.gateway.enqueued round).take (drainedBy (submissions world round))

theorem drained_initial : Drained World.initial := by
  refine ⟨?_, ?_⟩
  · intro round
    simp [World.initial, Gateway.World.initial, Gateway.Storage.empty, submissions,
      submissionsCountOf, Drand.Storage.empty]
  · intro round
    simp [World.initial, Gateway.World.initial, Gateway.World.released, Gateway.World.enqueued]

/-- Nothing is enqueued for a round with a submission, the first one included. -/
structure Frozen (world next : World) : Prop where
  enqueued : ∀ round, 0 < submissions next round →
    next.gateway.enqueued round = world.gateway.enqueued round
  grows : ∀ round, submissions world round ≤ submissions next round

theorem Drained.gateway {chain : Chain} {world : World} {tx : Gateway.Tx}
    {response : Response ContractMsg} {storage : Gateway.Storage} {drand : Drand.World}
    (drained : Drained world) (trusts : trustsOnly chain world = true)
    (external : chain.external (.gateway tx) = true)
    (step : QueueStep world.gateway tx response storage)
    (same : Drand.SameRounds world.drand.storage drand.storage) :
    Drained ⟨world.gateway.commit tx response storage, drand⟩ ∧
      Frozen world ⟨world.gateway.commit tx response storage, drand⟩ := by
  have counts (round : Nat) : submissions ⟨world.gateway.commit tx response storage, drand⟩ round =
      submissions world round := by
    simp [submissions, submissionsCountOf, same.submissionsCount]
  cases step with
  | steady unverified archive queue enqueued released =>
      have enqueuedSame (round : Nat) : (world.gateway.commit tx response storage).enqueued round =
          world.gateway.enqueued round := by
        simp [Gateway.World.enqueued_commit, enqueued]
      refine ⟨⟨?_, ?_⟩, fun round _ => enqueuedSame round, fun round => (counts round).ge⟩
      · intro round
        rw [counts, ← drained.archived round]
        simp [Gateway.World.commit, archive]
      · intro round
        rw [counts, enqueuedSame, Gateway.World.released_commit, released, List.append_nil]
        exact drained.released round
  | pushed msg base config job action missing archive queue released enqueued configured
      incentivized =>
      have fresh : submissions world (roundNumber base) = 0 := by
        have unsubmitted := (not_congr (drained.archived (roundNumber base))).mp (by simp [missing])
        omega
      refine ⟨⟨?_, ?_⟩, ?_, fun round => (counts round).ge⟩
      · intro round
        rw [counts, ← drained.archived round]
        simp [Gateway.World.commit, archive]
      · intro round
        rw [counts, Gateway.World.released_commit, released, List.append_nil,
          Gateway.World.enqueued_commit, enqueued round, drained.released round]
        by_cases equal : roundNumber base = round
        · subst equal
          rw [fresh]
          rfl
        · rw [if_neg equal, List.append_nil]
      · intro round submitted
        have different : roundNumber base ≠ round := by
          rintro rfl
          rw [counts] at submitted
          omega
        rw [Gateway.World.enqueued_commit, enqueued round, if_neg different, List.append_nil]
  | drained info round randomness isVerifyingTx config action configured trusted archive queue
      enqueued released =>
      -- an account is not the trusted contract
      simp only [trustsOnly, configured, List.all_eq_true, decide_eq_true_eq] at trusts
      simp [Chain.external, action, Chain.isContract, trusts info.sender trusted] at external

theorem Drained.added {chain : Chain} {world : World} {tx : Drand.Tx} {info : MessageInfo}
    {round : Nat} {signature : Binary} {response : Response ContractMsg} {after : Drand.Storage}
    {config : Drand.Config} {payout : Coin} {gateway : Gateway.World} (drained : Drained world)
    (projects : Projects chain world)
    (submission : Drand.Added chain.host (tx.env chain.drand) tx.balances info round signature
      world.drand.storage response after config payout)
    (attached : config.gateway = some chain.gateway)
    (calls :
      (response.msgs.filterMap (chain.gatewayCall tx)).foldlM chain.gatewayAttempt world.gateway =
        some gateway) :
    Drained ⟨gateway, world.drand.commit tx response after⟩ ∧
      Frozen world ⟨gateway, world.drand.commit tx response after⟩ := by
  have counts (other : Nat) : submissions ⟨gateway, world.drand.commit tx response after⟩ other =
      if round = other then submissions world round + 1 else submissions world other :=
    submission.submissionsCount other
  obtain ⟨call, answer, storage, rfl, step, action⟩ :=
    Change.verified projects submission attached calls
  cases step with
  | steady unverified => simp [action, Gateway.Action.verifies] at unverified
  | pushed msg base other job received => simp [action] at received
  | drained sender verified randomness isVerifyingTx trusting verifies configured trusted archive
      queue enqueued released =>
      rw [action] at verifies
      cases verifies
      have enqueuedSame (other : Nat) : (world.gateway.commit call answer storage).enqueued other =
          world.gateway.enqueued other := by
        simp [Gateway.World.enqueued_commit, enqueued]
      refine ⟨⟨?_, ?_⟩, fun other _ => enqueuedSame other, ?_⟩
      · intro other
        rw [counts]
        simp only [Gateway.World.commit, archive, get_insert]
        by_cases same : round = other
        · simp [same]
        · simpa [same] using drained.archived other
      · intro other
        rw [counts, enqueuedSame, Gateway.World.released_commit, released]
        by_cases same : round = other
        · subst same
          have before := drained.released round
          rw [if_pos rfl, if_pos rfl, drainedBy_succ, List.take_add, ← before]
          have rest : (world.gateway.enqueued round).drop (drainedBy (submissions world round)) =
              world.gateway.storage.queue round := by
            have split := List.take_append_drop (drainedBy (submissions world round))
              (world.gateway.enqueued round)
            rw [← before] at split
            exact List.append_cancel_left (split.trans (projects.order round))
          rw [rest]
          rfl
        · rw [if_neg same, if_neg same, List.append_nil]
          exact drained.released other
      · intro other
        rw [counts]
        by_cases same : round = other
        · subst same
          rw [if_pos rfl]
          omega
        · rw [if_neg same]

theorem Drained.step {chain : Chain} {world next : World} {tx : Tx} (drained : Drained world)
    (projects : Projects chain world) (trusts : trustsOnly chain world = true)
    (reports : attached chain world tx = true) (change : Change chain world tx next) :
    Drained next ∧ Frozen world next := by
  cases change with
  | gateway external step calls =>
      exact drained.gateway trusts external step (drandCalls_sameRounds calls)
  | @added tx info round signature response after config payout gateway action submission calls =>
      simp only [attached, action, submission.configured, decide_eq_true_eq] at reports
      exact drained.added projects submission reports calls
  | @administered tx response after admitted changed =>
      have same := changed.sameRounds
      have counts (round : Nat) :
          submissions ⟨world.gateway, world.drand.commit tx response after⟩ round =
            submissions world round := by
        simp [submissions, submissionsCountOf, same.submissionsCount]
      refine ⟨⟨?_, ?_⟩, fun round _ => rfl, fun round => (counts round).ge⟩
      · intro round
        rw [counts]
        exact drained.archived round
      · intro round
        rw [counts]
        exact drained.released round

theorem reached_drained {chain : Chain} {start : World} {txs : List Tx}
    (projects : Projects chain start) (drained : Drained start)
    (along :
      Runs.Along (attempt chain)
        (fun world tx => trustsOnly chain world = true ∧ attached chain world tx = true) start
        txs) :
    let final := Runs.run (attempt chain) start txs
    Projects chain final ∧ Drained final ∧
      ∀ round, 0 < submissions start round →
        final.gateway.enqueued round = start.gateway.enqueued round ∧
          0 < submissions final round := by
  refine @Runs.run_invariant_along _ _ (attempt chain) _
    (fun world => Projects chain world ∧ Drained world ∧
      ∀ round, 0 < submissions start round →
        world.gateway.enqueued round = start.gateway.enqueued round ∧ 0 < submissions world round)
    ?_ txs start ⟨projects, drained, fun _ submitted => ⟨rfl, submitted⟩⟩ along
  rintro world tx next ⟨trusts, reports⟩ ⟨projected, before, frozen⟩ committed
  obtain ⟨after, still⟩ := before.step projected trusts reports (attempt_change projected committed)
  refine ⟨projected.step (attempt_step committed), after, ?_⟩
  intro round submitted
  obtain ⟨enqueued, positive⟩ := frozen round submitted
  have later := Nat.lt_of_lt_of_le positive (still.grows round)
  exact ⟨(still.enqueued round later).trans enqueued, later⟩

/-- The queue of a round after `count` submissions, where `queued` were waiting before the
first of them. -/
structure DrainedTo (world : World) (round count : Nat) (queued : List Gateway.Job) : Prop where
  sent : world.gateway.released round = queued.take (min count 3 + 10 * (count - 3))
  number :
    (world.gateway.released round).length = min queued.length (min count 3 + 10 * (count - 3))
  waiting : world.gateway.storage.queue round = queued.drop (min count 3 + 10 * (count - 3))
  immediate : ∀ (env : Env) (msg : IbcPacketReceiveMsg) (base : Timestamp) (origin : Binary)
    (response : Response ContractMsg) (after : Gateway.Storage) (data : Binary),
    Wire.inPacket.fromJson msg.data = .ok (.requestBeacon base origin) → roundNumber base = round →
    Gateway.ibcPacketReceive env msg world.gateway.storage = .ok response after →
    response.acknowledgement = some (.success data) →
    response.acknowledgement = some (Gateway.processedAck round) ∧
      after.queue round = world.gateway.storage.queue round
  terminates : ∀ (env : Env) (randomness : Binary) (isVerifyingTx : Bool) (extra : Nat),
    Gateway.newDrandLoop env round randomness (maxJobsPerSubmission isVerifyingTx)
        (maxJobsPerSubmission isVerifyingTx + extra) ⟨[], 0⟩ =
      Gateway.newDrandLoop env round randomness (maxJobsPerSubmission isVerifyingTx)
        (maxJobsPerSubmission isVerifyingTx) ⟨[], 0⟩

theorem Drained.answers {world : World} (drained : Drained world) {env : Env}
    {msg : IbcPacketReceiveMsg} {base : Timestamp} {origin : Binary}
    {response : Response ContractMsg} {after : Gateway.Storage} {data : Binary}
    (submitted : 0 < submissions world (roundNumber base))
    (decoded : Wire.inPacket.fromJson msg.data = .ok (.requestBeacon base origin))
    (returned : Gateway.ibcPacketReceive env msg world.gateway.storage = .ok response after)
    (success : response.acknowledgement = some (.success data)) :
    response.acknowledgement = some (Gateway.processedAck (roundNumber base)) ∧
      after.queue (roundNumber base) = world.gateway.storage.queue (roundNumber base) := by
  obtain ⟨randomness, archived⟩ := (drained.archived (roundNumber base)).mpr submitted
  cases Gateway.ibcPacketReceive_ok returned with
  | request decodedAgain accepted =>
      rw [decoded] at decodedAgain
      cases decodedAgain
      obtain ⟨config, _, ⟨_, answer⟩ | ⟨missing, _⟩⟩ := accepted.routes
      · refine ⟨answer, ?_⟩
        rcases accepted.jobs with ⟨_, _, _, jobs, _⟩ | ⟨_, _, _, queued, _⟩
        · simp [Gateway.Storage.queue, jobs]
        · rw [answer] at queued
          exact (Gateway.queuedAck_ne_processedAck _ (Option.some.inj queued).symm).elim
      · rw [archived] at missing
        cases missing
  | price decodedPrice configured =>
      rw [decoded] at decodedPrice
      cases decodedPrice
  | failure failed => simp [Gateway.failureResponse] at success

theorem Drained.drainedTo {chain : Chain} {world : World} {round : Nat} {queued : List Gateway.Job}
    (drained : Drained world) (projects : Projects chain world)
    (submitted : 0 < submissions world round) (enqueued : world.gateway.enqueued round = queued) :
    DrainedTo world round (submissions world round) queued := by
  have released :
      world.gateway.released round = queued.take (drainedBy (submissions world round)) := by
    rw [← enqueued]
    exact drained.released round
  refine ⟨released, ?_, ?_, ?_, ?_⟩
  · rw [released, List.length_take, Nat.min_comm]
    rfl
  · have split := List.take_append_drop (drainedBy (submissions world round)) queued
    rw [← released] at split
    have order := projects.order round
    rw [enqueued] at order
    exact (List.append_cancel_left (split.trans order)).symm
  · rintro env msg base origin response after data decoded rfl returned success
    exact drained.answers submitted decoded returned success
  · intro env randomness isVerifyingTx extra
    exact Gateway.newDrandLoop_fuel (by simp) (Gateway.maxJobsPerSubmission_pos isVerifyingTx) extra

theorem history_length {chain : Chain} {world : World} (projects : Projects chain world)
    (round : Nat) : (Drand.history world.drand round).length = submissions world round := by
  obtain ⟨txs, same⟩ := projects.drand
  have books := Drand.reached_bookkeeping chain.host chain.drand txs
  rw [← same] at books
  exact (books.counted round).symm

theorem reached_drainedTo (chain : Chain) (earlier later : List Tx) (tx : Tx) (round : Nat)
    (along : Runs.Along (attempt chain) (fun world tx => trustsOnly chain world = true ∧
      attached chain world tx = true) World.initial (earlier ++ tx :: later))
    (unsubmitted : Drand.history (reached chain earlier).drand round = [])
    (submitted : Drand.history (reached chain (earlier ++ [tx])).drand round ≠ []) :
    DrainedTo (reached chain (earlier ++ tx :: later)) round
      (Drand.history (reached chain (earlier ++ tx :: later)).drand round).length
      ((reached chain earlier).gateway.storage.queue round) := by
  obtain ⟨before, rest⟩ := Runs.along_append.mp along
  obtain ⟨projects, drained, _⟩ := reached_drained (projects_initial chain) drained_initial before
  change Projects chain (reached chain earlier) at projects
  change Drained (reached chain earlier) at drained
  obtain ⟨⟨trusts, reports⟩, after⟩ := rest
  change trustsOnly chain (reached chain earlier) = true at trusts
  change attached chain (reached chain earlier) tx = true at reports
  have firstWorld :
      reached chain (earlier ++ [tx]) = Runs.settle (attempt chain) (reached chain earlier) tx := by
    rw [reached, Runs.run_append]
    rfl
  have lastWorld : reached chain (earlier ++ tx :: later) =
      Runs.run (attempt chain) (Runs.settle (attempt chain) (reached chain earlier) tx) later := by
    rw [reached, Runs.run_append]
    rfl
  have fresh : submissions (reached chain earlier) round = 0 := by
    rw [← history_length projects round, unsubmitted]
    rfl
  rw [firstWorld] at submitted
  rw [lastWorld]
  change Runs.Along (attempt chain) _ (Runs.settle (attempt chain) (reached chain earlier) tx) later
    at after
  generalize reached chain earlier = start at *
  cases committed : attempt chain start tx with
  | none =>
      simp only [Runs.settle, committed, Option.getD_none] at submitted
      exact (submitted unsubmitted).elim
  | some first =>
      rw [Runs.settle_of_some committed] at submitted after ⊢
      obtain ⟨firstDrained, frozen⟩ :=
        drained.step projects trusts reports (attempt_change projects committed)
      have firstProjects := projects.step (attempt_step committed)
      have positive : 0 < submissions first round := by
        rw [← history_length firstProjects round]
        exact List.length_pos_iff.mpr submitted
      obtain ⟨finalProjects, finalDrained, finalFrozen⟩ :=
        reached_drained firstProjects firstDrained after
      obtain ⟨enqueuedFinal, positiveFinal⟩ := finalFrozen round positive
      rw [history_length finalProjects round]
      refine finalDrained.drainedTo finalProjects positiveFinal ?_
      -- before the first submission nothing was released
      have waiting := projects.order round
      rw [drained.released round, fresh] at waiting
      rw [enqueuedFinal, frozen.enqueued round positive]
      exact waiting

end

section

attribute [local instance] jsonWire

def queueing (origin : UInt8) : Tx :=
  .gateway
    { block := Gateway.openingBlock
      index := some 6
      action := .packetReceive
        { data := Wire.inPacket.toJsonBinary
            (.requestBeacon ⟨1677903536000000000, by decide⟩ [origin])
          destChannel := "channel-0"
          relayer := NoisHost.relayer }
      dispatched := true }

def submitting (sender : Addr) : Tx :=
  .drand
    { block := Gateway.openingBlock
      index := some 7
      balances := []
      action := .execute ⟨sender, []⟩ (.addRound 72780 signature)
      dispatched := true }

def origins : List UInt8 := [0, 1, 2, 3, 4, 5, 6, 7, 8, 9, 10, 11, 12, 13, 14]

def waitingJobs : List Gateway.Job :=
  origins.map fun origin => ⟨Gateway.sourceIdOf 72780, "channel-0", [origin]⟩

def fifteenRequests : List Tx := servedRequest.take 6 ++ origins.map queueing

def laterSubmissions : List Tx := ["bot-two", "bot-three", "bot-four"].map submitting

theorem fourSubmissions_facts :
    Runs.Along (attempt fastnet)
      (fun world tx => trustsOnly fastnet world = true ∧ attached fastnet world tx = true)
      World.initial (fifteenRequests ++ submitting bot :: laterSubmissions) ∧
      (reached fastnet fifteenRequests).gateway.storage.queue 72780 = waitingJobs ∧
      (Drand.history (reached fastnet fifteenRequests).drand 72780).length = 0 ∧
      (Drand.history (reached fastnet (fifteenRequests ++ [submitting bot])).drand 72780).length =
        1 ∧
      (Drand.history (reached fastnet (fifteenRequests ++ submitting bot :: laterSubmissions)).drand
        72780).length =
        4 := by
  decide +kernel

/-- Three submissions verify the signature and release one job each, the fourth releases
ten of the twelve that are left. -/
theorem reached_drainedTo_four :
    let world := reached fastnet (fifteenRequests ++ submitting bot :: laterSubmissions)
    DrainedTo world 72780 4 waitingJobs ∧ world.gateway.released 72780 = waitingJobs.take 13 ∧
      world.gateway.storage.queue 72780 = waitingJobs.drop 13 := by
  obtain ⟨along, queue, unsubmitted, submitted, count⟩ := fourSubmissions_facts
  have drained :=
    reached_drainedTo fastnet fifteenRequests laterSubmissions (submitting bot) 72780 along
      (List.length_eq_zero_iff.mp unsubmitted) (List.length_pos_iff.mp (by rw [submitted]; decide))
  rw [queue, count] at drained
  exact ⟨drained, drained.sent, drained.waiting⟩

end

end NoisContracts.NoisChain
