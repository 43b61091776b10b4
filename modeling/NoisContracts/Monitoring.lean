import NoisContracts.Library.Journal
import NoisContracts.NoisHost
import NoisContracts.Proxy.Core

/-!
Executable model of `nois-monitoring`, a dapp that requests randomness and records when
each job was requested and delivered. Deliveries come back later, in any order. A job
that is requested again while it is under way has one record of the request and several
possible deliveries.
-/

namespace NoisContracts.Monitoring

open ContractCall ContractCall.Call OrderedStore

structure JobLifecycleRequest where
  height : Nat
  txIndex : Option Nat
  safetyMargin : Nat
  after : Timestamp
deriving DecidableEq, Repr

structure JobLifecycleDelivery where
  published : Timestamp
  height : Nat
  txIndex : Option Nat
deriving DecidableEq, Repr

structure Storage where
  noisProxy : Option Addr
  jobOutcomes : Store String Nat
  jobRequests : Store String JobLifecycleRequest
  jobDeliveries : Store String JobLifecycleDelivery

def Storage.empty : Storage := ⟨none, ∅, ∅, ∅⟩

inductive ContractError where
  | std (error : StdError)
  | invalidProxyAddress
  | jobIdTooLong
  | jobIdAlreadyPresent
  | unauthorizedReceive
  | invalidRandomness
deriving DecidableEq, Repr

def ContractError.toString : ContractError → String
  | .std error => error.toString
  | .invalidProxyAddress => "Proxy address is not valid"
  | .jobIdTooLong => "Job ID exceeds length limit."
  | .jobIdAlreadyPresent => "Round already present"
  | .unauthorizedReceive => "Unauthorized Receive execution"
  | .invalidRandomness => "Received invalid randomness"

inductive ExecuteMsg where
  | rollDice (jobId : String)
  | noisReceive (callback : NoisCallback)
deriving DecidableEq, Repr

def safetyMargin : Nat := 5000000000

def loadProxy : Call Storage ContractError Addr := do
  match ← reads Storage.noisProxy with
  | some proxy => pure proxy
  | none => fail (.std (.notFound "nois_proxy"))

def instantiate (deps : Deps) (info : MessageInfo) (noisProxy : String) :
    Call Storage ContractError (Response Proxy.ExecuteMsg) := do
  let noisProxyAddr ← ofExcept
    ((deps.addrValidate noisProxy).mapError fun _ => .invalidProxyAddress)
  writes fun storage => { storage with noisProxy := some noisProxyAddr }
  pure { attributes := [("method", "instantiate"), ("owner", info.sender)] }

def validateJobId (jobId : String) : Except ContractError Unit :=
  if Proxy.maxJobIdLen < jobId.utf8ByteSize then .error .jobIdTooLong else .ok ()

def executeRollDice (env : Env) (info : MessageInfo) (jobId : String) :
    Call Storage ContractError (Response Proxy.ExecuteMsg) := do
  let noisProxy ← loadProxy
  let outcome ← reads fun storage => storage.jobOutcomes[jobId]?
  ensure (outcome = none) .jobIdAlreadyPresent
  ofExcept (validateJobId jobId)
  let after ← ofPanics (env.block.time.plusNanos safetyMargin)
  let jobLifecycle : JobLifecycleRequest := ⟨env.block.height, env.transaction, safetyMargin, after⟩
  writes fun storage =>
    { storage with jobRequests := storage.jobRequests.insert jobId jobLifecycle }
  let response : Response Proxy.ExecuteMsg := {}
  pure (response.addMessages [.wasmExecute noisProxy (.getRandomnessAfter after jobId) info.funds])

section

-- `roll_dice` of the `nois` package
variable (rollDice : Binary → Nat)

def executeReceive (env : Env) (info : MessageInfo) (callback : NoisCallback) :
    Call Storage ContractError (Response Proxy.ExecuteMsg) := do
  let proxy ← loadProxy
  ensure (info.sender = proxy) .unauthorizedReceive
  ensure (callback.randomness.length = 32) .invalidRandomness
  let diceOutcome := rollDice callback.randomness
  let outcome ← reads fun storage => storage.jobOutcomes[callback.jobId]?
  ensure (outcome = none) .jobIdAlreadyPresent
  writes fun storage =>
    { storage with jobOutcomes := storage.jobOutcomes.insert callback.jobId diceOutcome }
  let delivery : JobLifecycleDelivery := ⟨callback.published, env.block.height, env.transaction⟩
  writes fun storage =>
    { storage with jobDeliveries := storage.jobDeliveries.insert callback.jobId delivery }
  pure {}

def execute (env : Env) (info : MessageInfo) :
    ExecuteMsg → Call Storage ContractError (Response Proxy.ExecuteMsg)
  | .rollDice jobId => executeRollDice env info jobId
  | .noisReceive callback => executeReceive rollDice env info callback

inductive Action where
  | instantiate (info : MessageInfo) (noisProxy : String)
  | execute (info : MessageInfo) (msg : ExecuteMsg)
deriving DecidableEq, Repr

structure Tx where
  block : BlockInfo
  index : Option Nat
  action : Action
  /-- The place in the journal of the request that a callback answers. The contract does not
  see it. -/
  answered : Nat
  dispatched : Bool
deriving DecidableEq, Repr

abbrev World := Journal.World Storage Tx (Response Proxy.ExecuteMsg)

def admits (storage : Storage) (tx : Tx) : Bool :=
  tx.dispatched && match tx.action with
    | .instantiate _ _ => storage.noisProxy.isNone
    | .execute _ _ => true

def perform (deps : Deps) (contract : Addr) (tx : Tx) :
    Call Storage ContractError (Response Proxy.ExecuteMsg) :=
  match tx.action with
  | .instantiate info noisProxy => instantiate deps info noisProxy
  | .execute info msg => execute rollDice ⟨tx.block, tx.index, contract⟩ info msg

def system (deps : Deps) (contract : Addr) :
    Journal.System Storage Tx ContractError (Response Proxy.ExecuteMsg) :=
  ⟨admits, perform rollDice deps contract⟩

def attempt (deps : Deps) (contract : Addr) : World → Tx → Option World :=
  (system rollDice deps contract).attempt

def reached (deps : Deps) (contract : Addr) (txs : List Tx) : World :=
  (system rollDice deps contract).reached Storage.empty txs

end

def Tx.rolls (tx : Tx) : Option String :=
  match tx.action with
  | .execute _ (.rollDice jobId) => some jobId
  | _ => none

def Tx.callback (tx : Tx) : Option NoisCallback :=
  match tx.action with
  | .execute _ (.noisReceive callback) => some callback
  | _ => none

def Tx.after (tx : Tx) : Nat := tx.block.time.nanos + safetyMargin

inductive Effect (tx : Tx) (storage : Storage) : Storage → Prop
  | instantiated {proxy : Addr} (rolls : tx.rolls = none) (received : tx.callback = none) :
      Effect tx storage { storage with noisProxy := some proxy }
  | rolled {jobId : String} {request : JobLifecycleRequest} (rolls : tx.rolls = some jobId)
      (received : tx.callback = none) (unanswered : storage.jobOutcomes[jobId]? = none)
      (time : request.after.nanos = tx.after) :
      Effect tx storage { storage with jobRequests := storage.jobRequests.insert jobId request }
  | received {callback : NoisCallback} {outcome : Nat} {delivery : JobLifecycleDelivery}
      (rolls : tx.rolls = none) (received : tx.callback = some callback)
      (unanswered : storage.jobOutcomes[callback.jobId]? = none)
      (time : delivery.published = callback.published) : Effect tx storage { storage with
        jobOutcomes := storage.jobOutcomes.insert callback.jobId outcome
        jobDeliveries := storage.jobDeliveries.insert callback.jobId delivery }

section

variable {rollDice : Binary → Nat} {deps : Deps} {contract : Addr}

theorem loadProxy_eq_ok {storage after : Storage} {proxy : Addr} :
    loadProxy storage = .ok proxy after ↔ storage.noisProxy = some proxy ∧ storage = after := by
  unfold loadProxy
  cases stored : storage.noisProxy <;> simp [stored]

theorem attempt_effect {world next : World} {tx : Tx}
    (committed : attempt rollDice deps contract world tx = some next) :
    ∃ response after, Effect tx world.storage after ∧ next = world.commit tx response after := by
  obtain ⟨_, response, after, returned, rfl⟩ := Journal.System.attempt_eq_some.mp committed
  refine ⟨response, after, ?_, rfl⟩
  change perform rollDice deps contract tx world.storage = .ok response after at returned
  unfold perform at returned
  cases action : tx.action with
  | instantiate info noisProxy =>
      simp only [action, instantiate, bind_eq_ok, ofExcept_eq_ok, writes_eq_ok, pure_eq_ok]
        at returned
      obtain ⟨proxy, _, ⟨_, rfl⟩, _, _, rfl, _, rfl⟩ := returned
      exact .instantiated (by simp [Tx.rolls, action]) (by simp [Tx.callback, action])
  | execute info msg =>
      cases msg with
      | rollDice jobId =>
          simp only [action, execute, executeRollDice, bind_eq_ok, loadProxy_eq_ok, reads_eq_ok,
            ensure_eq_ok, ofExcept_eq_ok, ofPanics_eq_ok, Timestamp.plusNanos_eq_ok, writes_eq_ok,
            pure_eq_ok] at returned
          obtain ⟨_, _, ⟨_, rfl⟩, _, _, ⟨rfl, rfl⟩, _, _, ⟨unanswered, rfl⟩, _, _, ⟨_, rfl⟩, time,
              _, ⟨sum, rfl⟩, _, _, rfl, _, rfl⟩ := returned
          exact .rolled (by simp [Tx.rolls, action]) (by simp [Tx.callback, action]) unanswered
            sum.symm
      | noisReceive callback =>
          simp only [action, execute, executeReceive, bind_eq_ok, loadProxy_eq_ok, reads_eq_ok,
            ensure_eq_ok, writes_eq_ok, pure_eq_ok] at returned
          obtain ⟨_, _, ⟨_, rfl⟩, _, _, ⟨_, rfl⟩, _, _, ⟨_, rfl⟩, _, _, ⟨rfl, rfl⟩, _, _,
              ⟨unanswered, rfl⟩, _, _, rfl, _, _, rfl, _, rfl⟩ := returned
          exact .received (by simp [Tx.rolls, action]) (by simp [Tx.callback, action]) unanswered
            rfl

/-- The chain's clock does not go back, and a callback answers a request of its job that was
not answered before, with a beacon published after the requested time. -/
def legal (world : World) (tx : Tx) : Bool :=
  (world.log.all fun entry => entry.1.block.time.nanos ≤ tx.block.time.nanos) &&
    match tx.callback with
    | none => true
    | some callback =>
        (world.log.all fun entry => entry.1.callback.isNone || entry.1.answered ≠ tx.answered) &&
          match world.log[tx.answered]? with
          | some (request, _) =>
              request.rolls = some callback.jobId && request.after < callback.published.nanos
          | none => false

/-- No job is requested again at a later time while it is under way. -/
def rollsOnce (rollDice : Binary → Nat) (deps : Deps) (contract : Addr) (world : World) (tx : Tx) :
    Bool :=
  match tx.rolls with
  | none => true
  | some jobId =>
      match world.storage.jobRequests[jobId]? with
      | none => true
      | some request =>
          tx.after ≤ request.after.nanos || (attempt rollDice deps contract world tx).isNone

theorem legal_answers {world : World} {tx : Tx} {callback : NoisCallback}
    (allowed : legal world tx = true) (received : tx.callback = some callback) :
    ∃ entry ∈ world.log, entry.1.rolls = some callback.jobId ∧
      entry.1.after < callback.published.nanos := by
  simp only [legal, received, Bool.and_eq_true] at allowed
  obtain ⟨_, _, answers⟩ := allowed
  split at answers
  · rename_i request response found
    simp only [Bool.and_eq_true, decide_eq_true_eq] at answers
    exact ⟨(request, response), List.mem_of_getElem? found, answers⟩
  · cases answers

def Settled (storage : Storage) : Prop :=
  ∀ (jobId : String) delivery, storage.jobDeliveries[jobId]? = some delivery →
    storage.jobOutcomes[jobId]? ≠ none

structure Recorded (world : World) : Prop where
  requested : ∀ entry ∈ world.log, ∀ jobId : String, entry.1.rolls = some jobId →
    ∃ request, world.storage.jobRequests[jobId]? = some request ∧
      request.after.nanos ≤ entry.1.after
  settled : Settled world.storage
  later : ∀ (jobId : String) request delivery, world.storage.jobRequests[jobId]? = some request →
    world.storage.jobDeliveries[jobId]? = some delivery →
    request.after.nanos < delivery.published.nanos

theorem Recorded.rolled {world : World} {tx : Tx} {response : Response Proxy.ExecuteMsg}
    {jobId : String} {request : JobLifecycleRequest} (recorded : Recorded world)
    (rolls : tx.rolls = some jobId) (unanswered : world.storage.jobOutcomes[jobId]? = none)
    (time : request.after.nanos = tx.after)
    (once : ∀ previous, world.storage.jobRequests[jobId]? = some previous →
      tx.after ≤ previous.after.nanos) :
    Recorded (world.commit tx response
      { world.storage with jobRequests := world.storage.jobRequests.insert jobId request }) := by
  refine ⟨?_, recorded.settled, ?_⟩
  · intro entry member other otherRolls
    simp only [Journal.World.commit_storage, get_insert]
    rw [Journal.World.commit_log, List.mem_append, List.mem_singleton] at member
    by_cases same : jobId = other
    · subst same
      refine ⟨request, by simp, ?_⟩
      rcases member with before | rfl
      · -- the record before was not later than any request, and this one is not later than it
        obtain ⟨previous, stored, bound⟩ := recorded.requested entry before jobId otherRolls
        have notLater := once previous stored
        omega
      · exact Nat.le_of_eq time
    · rcases member with before | rfl
      · obtain ⟨previous, stored, bound⟩ := recorded.requested entry before other otherRolls
        exact ⟨previous, by simp [same, stored], bound⟩
      · rw [rolls] at otherRolls
        cases otherRolls
        exact (same rfl).elim
  · intro other found delivery stored delivered
    have different : jobId ≠ other := by
      rintro rfl
      exact recorded.settled jobId delivery delivered unanswered
    simp only [Journal.World.commit_storage, get_insert, if_neg different] at stored
    exact recorded.later other found delivery stored delivered

theorem Recorded.received {world : World} {tx : Tx} {response : Response Proxy.ExecuteMsg}
    {callback : NoisCallback} {outcome : Nat} {delivery : JobLifecycleDelivery}
    (recorded : Recorded world) (rolls : tx.rolls = none) (received : tx.callback = some callback)
    (time : delivery.published = callback.published) (allowed : legal world tx = true) :
    Recorded (world.commit tx response { world.storage with
      jobOutcomes := world.storage.jobOutcomes.insert callback.jobId outcome
      jobDeliveries := world.storage.jobDeliveries.insert callback.jobId delivery }) := by
  refine ⟨?_, ?_, ?_⟩
  · intro entry member jobId entryRolls
    rw [Journal.World.commit_log, List.mem_append, List.mem_singleton] at member
    rcases member with before | rfl
    · exact recorded.requested entry before jobId entryRolls
    · rw [rolls] at entryRolls
      cases entryRolls
  · intro jobId found stored
    simp only [Journal.World.commit_storage, get_insert] at stored ⊢
    split at stored
    · rename_i same
      simp [same]
    · rename_i different
      rw [if_neg different]
      exact recorded.settled jobId found stored
  · intro jobId request found stored delivered
    simp only [Journal.World.commit_storage, get_insert] at stored delivered
    split at delivered
    · rename_i same
      cases delivered
      obtain ⟨entry, member, entryRolls, published⟩ := legal_answers allowed received
      obtain ⟨recordedRequest, known, bound⟩ :=
        recorded.requested entry member callback.jobId entryRolls
      rw [same, stored] at known
      cases known
      rw [time]
      omega
    · exact recorded.later jobId request found stored delivered

theorem Recorded.step {world next : World} {tx : Tx} (recorded : Recorded world)
    (allowed : legal world tx = true) (once : rollsOnce rollDice deps contract world tx = true)
    (committed : attempt rollDice deps contract world tx = some next) : Recorded next := by
  have notLater {jobId : String} (rolls : tx.rolls = some jobId) (previous : JobLifecycleRequest)
      (stored : world.storage.jobRequests[jobId]? = some previous) :
      tx.after ≤ previous.after.nanos := by
    simpa [rollsOnce, rolls, stored, committed] using once
  obtain ⟨response, after, effect, rfl⟩ := attempt_effect committed
  cases effect with
  | instantiated rolls received =>
      refine ⟨?_, recorded.settled, recorded.later⟩
      intro entry member jobId entryRolls
      rw [Journal.World.commit_log, List.mem_append, List.mem_singleton] at member
      rcases member with before | rfl
      · exact recorded.requested entry before jobId entryRolls
      · rw [rolls] at entryRolls
        cases entryRolls
  | rolled rolls received unanswered time =>
      exact recorded.rolled rolls unanswered time (notLater rolls)
  | received rolls received unanswered time => exact recorded.received rolls received time allowed

/-- What was delivered stays, whatever happens later. -/
structure Kept (before after : Storage) : Prop where
  outcome : ∀ (jobId : String) outcome, before.jobOutcomes[jobId]? = some outcome →
    after.jobOutcomes[jobId]? = some outcome
  delivery : ∀ (jobId : String) delivery, before.jobDeliveries[jobId]? = some delivery →
    after.jobDeliveries[jobId]? = some delivery

theorem effect_kept {tx : Tx} {storage after : Storage} (settled : Settled storage)
    (effect : Effect tx storage after) : Settled after ∧ Kept storage after := by
  cases effect with
  | instantiated => exact ⟨settled, fun _ _ => id, fun _ _ => id⟩
  | rolled => exact ⟨settled, fun _ _ => id, fun _ _ => id⟩
  | @received callback outcome delivery rolls received unanswered time =>
      have fresh (jobId : String) (found : storage.jobOutcomes[jobId]? ≠ none) :
          callback.jobId ≠ jobId := by
        rintro rfl
        exact found unanswered
      refine ⟨?_, ?_, ?_⟩
      · intro jobId found stored
        simp only [get_insert] at stored ⊢
        split at stored
        · rename_i same
          simp [same]
        · rename_i different
          rw [if_neg different]
          exact settled jobId found stored
      · intro jobId found stored
        rw [get_insert, if_neg (fresh jobId (by simp [stored])), stored]
      · intro jobId found stored
        rw [get_insert, if_neg (fresh jobId (settled jobId found stored)), stored]

theorem run_kept (world : World) (txs : List Tx) (settled : Settled world.storage) :
    Settled (Runs.run (attempt rollDice deps contract) world txs).storage ∧
      Kept world.storage (Runs.run (attempt rollDice deps contract) world txs).storage := by
  refine @Runs.run_invariant _ _ (attempt rollDice deps contract)
    (fun state => Settled state.storage ∧ Kept world.storage state.storage) ?_ txs world
    ⟨settled, fun _ _ => id, fun _ _ => id⟩
  rintro state tx next ⟨before, kept⟩ committed
  obtain ⟨response, after, effect, rfl⟩ := attempt_effect committed
  obtain ⟨nextSettled, nextKept⟩ := effect_kept before effect
  exact ⟨nextSettled,
    fun jobId outcome found => nextKept.outcome _ _ (kept.outcome jobId outcome found),
    fun jobId delivery found => nextKept.delivery _ _ (kept.delivery jobId delivery found)⟩

end

theorem delivered_later_than_requested (rollDice : Binary → Nat) (deps : Deps) (contract : Addr) :
    (∀ earlier later,
      Kept (reached rollDice deps contract earlier).storage
        (reached rollDice deps contract (earlier ++ later)).storage) ∧
      ∀ txs,
        Runs.Along (attempt rollDice deps contract)
          (fun world tx => legal world tx = true ∧ rollsOnce rollDice deps contract world tx = true)
          ⟨Storage.empty, []⟩ txs →
          ∀ (jobId : String) request delivery,
            (reached rollDice deps contract txs).storage.jobRequests[jobId]? = some request →
              (reached rollDice deps contract txs).storage.jobDeliveries[jobId]? = some delivery →
              request.after.nanos < delivery.published.nanos := by
  refine ⟨?_, ?_⟩
  · intro earlier later
    have start : Settled Storage.empty := by
      intro jobId delivery stored
      simp [Storage.empty] at stored
    have joined : reached rollDice deps contract (earlier ++ later) =
        Runs.run (attempt rollDice deps contract) (reached rollDice deps contract earlier) later :=
      Runs.run_append _ _ _ _
    rw [joined]
    exact (run_kept _ later (run_kept ⟨Storage.empty, []⟩ earlier start).1).2
  · intro txs along
    refine (@Runs.run_invariant_along _ _ (attempt rollDice deps contract) _ Recorded ?_ txs _ ?_
      along).later
    · intro world tx next allowed recorded committed
      exact recorded.step allowed.1 allowed.2 committed
    · refine ⟨?_, ?_, ?_⟩
      · intro entry member
        cases member
      · intro jobId delivery stored
        simp [Storage.empty] at stored
      · intro jobId request delivery stored
        simp [Storage.empty] at stored

def sumDice (randomness : Binary) : Nat := (randomness.map UInt8.toNat).sum % 6 + 1

def blockAt (height seconds : Nat) (fits : seconds * 1000000000 < 2 ^ 64) : BlockInfo :=
  ⟨height, ⟨seconds * 1000000000, fits⟩⟩

def creation : Tx :=
  ⟨blockAt 100 1681000000 (by decide), some 0, .instantiate ⟨"creator", []⟩ "proxy", 0, true⟩

def firstRoll : Tx :=
  ⟨blockAt 101 1681000000 (by decide), some 0, .execute ⟨"guest", []⟩ (.rollDice "job"), 0, true⟩

def secondRoll : Tx :=
  ⟨blockAt 110 1681000100 (by decide), some 0, .execute ⟨"guest", []⟩ (.rollDice "job"), 0, true⟩

def delivery : Tx :=
  ⟨blockAt 111 1681000110 (by decide), some 0, .execute ⟨"proxy", []⟩ (.noisReceive
    ⟨"job", ⟨1681000006000000000, by decide⟩, List.replicate 32 7⟩), 1, true⟩

theorem repeated_roll_delivered_early :
    Runs.Along (attempt sumDice NoisHost.deps "monitoring") (fun world tx => legal world tx = true)
      ⟨Storage.empty, []⟩ [creation, firstRoll, secondRoll, delivery] ∧
      ∃ request delivered,
        (reached sumDice NoisHost.deps "monitoring"
          [creation, firstRoll, secondRoll, delivery]).storage.jobRequests["job"]? =
          some request ∧
          (reached sumDice NoisHost.deps "monitoring"
            [creation, firstRoll, secondRoll, delivery]).storage.jobDeliveries["job"]? =
            some delivered ∧
          delivered.published.nanos < request.after.nanos := by
  refine ⟨by decide +kernel, ⟨110, some 0, 5000000000, ⟨1681000105000000000, by decide⟩⟩,
    ⟨⟨1681000006000000000, by decide⟩, 111, some 0⟩, by decide +kernel, by decide +kernel,
    by decide⟩

theorem delivered_later_than_requested_once :
    ∃ request delivered,
      (reached sumDice NoisHost.deps "monitoring"
        [creation, firstRoll, delivery]).storage.jobRequests["job"]? = some request ∧
      (reached sumDice NoisHost.deps "monitoring"
        [creation, firstRoll, delivery]).storage.jobDeliveries["job"]? = some delivered ∧
      request.after.nanos < delivered.published.nanos := by
  obtain ⟨_, later⟩ := delivered_later_than_requested sumDice NoisHost.deps "monitoring"
  have requested : (reached sumDice NoisHost.deps "monitoring"
      [creation, firstRoll, delivery]).storage.jobRequests["job"]?.isSome = true := by
    decide +kernel
  have delivered : (reached sumDice NoisHost.deps "monitoring"
      [creation, firstRoll, delivery]).storage.jobDeliveries["job"]?.isSome = true := by
    decide +kernel
  obtain ⟨request, stored⟩ := Option.isSome_iff_exists.mp requested
  obtain ⟨answer, answered⟩ := Option.isSome_iff_exists.mp delivered
  exact ⟨request, answer, stored, answered,
    later [creation, firstRoll, delivery] (by decide +kernel) "job" request answer stored answered⟩

end NoisContracts.Monitoring
