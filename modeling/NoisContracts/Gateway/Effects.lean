import NoisContracts.Gateway.Core

/-!
What the calls of the gateway do to its storage. Each function of the core has one
lemma that says when it returns, with which value and with which storage; later
proofs use these lemmas and never unfold the functions again.
-/

namespace NoisContracts.Gateway

open ContractCall ContractCall.Call OrderedStore

namespace Storage

def nextJobId (storage : Storage) (round : Nat) : Nat := storage.lastJobId[round]?.getD 0 + 1

def queue (storage : Storage) (round : Nat) : List Job :=
  (prefixRange storage.jobs round).map Prod.snd

def countProcessed (storage : Storage) (round : Nat) : Storage :=
  { storage with processedDrandJobsCount :=
      storage.processedDrandJobsCount.insert round (getProcessedDrandJobs storage round + 1) }

def pushJob (storage : Storage) (round : Nat) (job : Job) : Storage :=
  { storage with
    jobs := storage.jobs.insert (toLex (round, storage.nextJobId round)) job
    lastJobId := storage.lastJobId.insert round (storage.nextJobId round) }

def popJob (storage : Storage) (round id : Nat) : Storage :=
  { storage with jobs := storage.jobs.erase (toLex (round, id)) }

def setArchive (storage : Storage) (round : Nat) (randomness : Binary) : Storage :=
  { storage with archive := storage.archive.insert round randomness }

def setConfig (storage : Storage) (config : Config) : Storage :=
  { storage with config := some config }

def setCustomer (storage : Storage) (channelId : String) (customer : Customer) : Storage :=
  { storage with customers := storage.customers.insert channelId customer }

def logRequest (storage : Storage) (channelId : String) (entry : RequestLogEntry) : Storage :=
  { storage with
    requestsLog := storage.requestsLog.insert (requestsLogKey channelId)
      (Deque.pushBack (2 ^ 32) (requestsLogOf storage channelId) entry) }

end Storage

theorem requestsLogKey_injective {first second : String}
    (same : requestsLogKey first = requestsLogKey second) : first = second := by
  have chars := congrArg String.toList same
  simp only [requestsLogKey, String.toList_append, List.append_cancel_left_eq] at chars
  exact String.toList_inj.mp chars

theorem requestsLogOf_logRequest (storage : Storage) (channelId other : String)
    (entry : RequestLogEntry) :
    requestsLogOf (storage.logRequest channelId entry) other =
      if channelId = other then Deque.pushBack (2 ^ 32) (requestsLogOf storage other) entry
      else requestsLogOf storage other := by
  simp only [requestsLogOf, Storage.logRequest, get_insert]
  by_cases same : channelId = other
  · simp [same]
  · have different : requestsLogKey channelId ≠ requestsLogKey other :=
      fun keys => same (requestsLogKey_injective keys)
    simp [same, different]

theorem loadConfig_eq_ok {storage after : Storage} {config : Config} :
    loadConfig storage = .ok config after ↔ storage.config = some config ∧ storage = after := by
  simp only [loadConfig, bind_eq_ok, reads_eq_ok]
  cases storage.config <;> simp

theorem loadConfig_eq_error {storage after : Storage} {cause : StdError} :
    loadConfig storage = .error cause after ↔
      storage.config = none ∧ cause = .notFound "config" ∧ storage = after := by
  simp only [loadConfig, bind_apply, reads_apply, andThen_ok]
  cases storage.config <;> simp [eq_comm]

theorem loadCustomer_eq_ok {channelId : String} {storage after : Storage} {customer : Customer} :
    loadCustomer channelId storage = .ok customer after ↔
      storage.customers[channelId]? = some customer ∧ storage = after := by
  simp only [loadCustomer, bind_apply, reads_apply, andThen_ok]
  cases storage.customers[channelId]? <;> simp

theorem loadCustomer_eq_error {channelId : String} {storage after : Storage} {cause : StdError} :
    loadCustomer channelId storage = .error cause after ↔
      storage.customers[channelId]? = none ∧ cause = .notFound "customers" ∧ storage = after := by
  simp only [loadCustomer, bind_apply, reads_apply, andThen_ok]
  cases storage.customers[channelId]? <;> simp [eq_comm]

theorem roundToU32_eq_ok {round key : Nat} :
    roundToU32 round = .ok key ↔ round < 2 ^ 32 ∧ round = key := by
  unfold roundToU32
  split <;> simp_all

theorem enqueue_eq_ok {round : Nat} {job : Job} {storage after : Storage} {done : Unit} :
    unprocessedDrandJobsEnqueue round job storage = .ok done after ↔
      round < 2 ^ 32 ∧ storage.nextJobId round < 2 ^ 16 ∧ storage.pushJob round job = after := by
  simp only [unprocessedDrandJobsEnqueue, bind_eq_ok, ofPanics_eq_ok, roundToU32_eq_ok, reads_eq_ok,
    checkedAdd_eq_ok, writes_eq_ok]
  constructor
  · rintro ⟨_, _, ⟨⟨small, rfl⟩, rfl⟩, _, _, ⟨rfl, rfl⟩, _, _, ⟨⟨free, rfl⟩, rfl⟩, _, _, rfl, rfl⟩
    exact ⟨small, free, rfl⟩
  · rintro ⟨small, free, rfl⟩
    exact ⟨round, storage, ⟨⟨small, rfl⟩, rfl⟩, _, storage, ⟨rfl, rfl⟩, _, storage,
      ⟨⟨free, rfl⟩, rfl⟩, (), _, rfl, rfl⟩

theorem enqueue_ne_error {round : Nat} {job : Job} {storage after : Storage} {cause : StdError} :
    ¬unprocessedDrandJobsEnqueue round job storage = .error cause after := by
  simp [unprocessedDrandJobsEnqueue, -bind_apply, bind_eq_error, ofPanics_ne_error]

theorem dequeue_eq_ok {round : Nat} {storage after : Storage} {found : Option Job} :
    unprocessedDrandJobsDequeue round storage = .ok found after ↔
      round < 2 ^ 32 ∧
        match (prefixRange storage.jobs round).head? with
        | none => found = none ∧ storage = after
        | some (id, job) => found = some job ∧ storage.popJob round id = after := by
  simp only [unprocessedDrandJobsDequeue, bind_eq_ok, ofPanics_eq_ok, roundToU32_eq_ok, reads_eq_ok]
  constructor
  · rintro ⟨_, _, ⟨⟨small, rfl⟩, rfl⟩, _, _, ⟨rfl, rfl⟩, rest⟩
    refine ⟨small, ?_⟩
    cases first : (prefixRange storage.jobs round).head? with
    | none =>
        simp only [first, pure_eq_ok] at rest
        exact ⟨rest.1.symm, rest.2⟩
    | some entry =>
        simp only [first, bind_eq_ok, writes_eq_ok, pure_eq_ok] at rest
        obtain ⟨_, _, rfl, rfl, rfl⟩ := rest
        exact ⟨rfl, rfl⟩
  · rintro ⟨small, rest⟩
    refine ⟨round, storage, ⟨⟨small, rfl⟩, rfl⟩, _, storage, ⟨rfl, rfl⟩, ?_⟩
    cases first : (prefixRange storage.jobs round).head? with
    | none =>
        simp only [first] at rest
        simp only [pure_eq_ok]
        exact ⟨rest.1.symm, rest.2⟩
    | some entry =>
        simp only [first] at rest
        obtain ⟨rfl, rfl⟩ := rest
        rfl

theorem increment_eq_ok {round : Nat} {storage after : Storage} {done : Unit} :
    incrementProcessedDrandJobs round storage = .ok done after ↔
      getProcessedDrandJobs storage round + 1 < 2 ^ 32 ∧ storage.countProcessed round = after := by
  simp only [incrementProcessedDrandJobs, bind_eq_ok, ofPanics_eq_ok, reads_eq_ok, checkedAdd_eq_ok,
    writes_eq_ok]
  constructor
  · rintro ⟨_, _, ⟨rfl, rfl⟩, _, _, ⟨⟨free, rfl⟩, rfl⟩, rfl⟩
    exact ⟨free, rfl⟩
  · rintro ⟨free, rfl⟩
    exact ⟨_, storage, ⟨rfl, rfl⟩, _, storage, ⟨⟨free, rfl⟩, rfl⟩, rfl⟩

theorem increment_ne_error {round : Nat} {storage after : Storage} {cause : StdError} :
    ¬incrementProcessedDrandJobs round storage = .error cause after := by
  simp [incrementProcessedDrandJobs, -bind_apply, bind_eq_error, ofPanics_ne_error]

theorem archiveStore_eq_ok {round : Nat} {randomness : Binary} {storage after : Storage}
    {done : Unit} :
    archiveStore round randomness storage = .ok done after ↔
      randomness ≠ [] ∧ storage.setArchive round randomness = after := by
  cases randomness <;> simp [archiveStore, Storage.setArchive]

theorem commitToDrandRound_eq (base : Timestamp) :
    commitToDrandRound base = .ok (roundNumber base, sourceIdOf (roundNumber base)) := by
  simp only [commitToDrandRound, roundAfter_eq]
  rfl

theorem sourceIdOf_injective {first second : Nat} (same : sourceIdOf first = sourceIdOf second) :
    first = second := by
  have chars := congrArg String.toList same
  simp only [sourceIdOf, String.toList_append, List.append_cancel_left_eq] at chars
  exact Nat.repr_injective (String.toList_inj.mp chars)

theorem maxJobsPerSubmission_pos (isVerifyingTx : Bool) :
    0 < maxJobsPerSubmission isVerifyingTx := by
  cases isVerifyingTx <;> decide

def burnShare (amount : Uint128) : Uint128 :=
  ⟨amount.val * 40 / 100, by have := amount.isU128; omega⟩

def relayerShare (amount : Uint128) : Uint128 :=
  ⟨amount.val * 20 / 100, by have := amount.isU128; omega⟩

def restShare (amount : Uint128) : Uint128 :=
  ⟨amount.val - (burnShare amount).val - (relayerShare amount).val,
    by have := amount.isU128; omega⟩

theorem shares_sum (amount : Uint128) :
    (burnShare amount).val + (relayerShare amount).val + (restShare amount).val = amount.val := by
  simp only [burnShare, relayerShare, restShare]
  omega

theorem shares_sub (amount : Uint128) : ∃ kept, amount.sub (burnShare amount) = .ok kept ∧
    kept.sub (relayerShare amount) = .ok (restShare amount) := by
  have total := shares_sum amount
  refine ⟨⟨amount.val - (burnShare amount).val, by have := amount.isU128; omega⟩,
    Uint128.sub_eq_ok.mpr ⟨by omega, rfl⟩, Uint128.sub_eq_ok.mpr ⟨by simp only; omega, rfl⟩⟩

def payMsg (payment : Addr) (price : Coin) (relayer : Addr) : Msg :=
  .wasmExecute payment (.pay ⟨price.denom, burnShare price.amount⟩
    ⟨price.denom, restShare price.amount⟩ (relayer, ⟨price.denom, relayerShare price.amount⟩)) []

theorem validateOrigin_eq_ok {origin : Binary} {done : Unit} :
    validateOrigin origin = .ok done ↔ origin.length ≤ maxOriginLen := by
  unfold validateOrigin
  split <;> simp_all

theorem validateOrigin_eq_error {origin : Binary} {cause : ContractError} :
    validateOrigin origin = .error cause ↔
      maxOriginLen < origin.length ∧ cause = .originTooLong := by
  unfold validateOrigin
  split <;> simp_all [eq_comm]

theorem instantiate_ok {deps : Deps} {msg : InstantiateMsg} {storage after : Storage}
    {response : Response ContractMsg}
    (returned : instantiate deps msg storage = .ok response after) :
    ∃ manager sink, deps.addrValidate msg.manager = .ok manager ∧
      deps.addrValidate msg.sink = .ok sink ∧ response = {} ∧ after = { storage with
          config := some
            { drand := none
              trustedSources := none
              manager
              price := msg.price
              paymentCodeId := msg.paymentCodeId
              paymentInitialFunds := msg.paymentInitialFunds
              sink }
          contractVersion := some ("nois-gateway", "0.15.4") } := by
  simp only [instantiate, bind_eq_ok, mapError_eq_ok, ofExcept_eq_ok, saveConfig,
    setContractVersion, writes_eq_ok, pure_eq_ok] at returned
  obtain ⟨manager, _, ⟨validManager, rfl⟩, sink, _, ⟨validSink, rfl⟩, _, _, ⟨_, rfl⟩, _, _, rfl, _,
      _, rfl, rfl, rfl⟩ := returned
  exact ⟨manager, sink, validManager, validSink, rfl, rfl⟩

theorem executeSetConfig_ok {deps : Deps} {info : MessageInfo} {manager : Option String}
    {price : Option Coin} {drand : Option String} {trustedSources : Option (List String)}
    {paymentInitialFunds : Option Coin} {storage after : Storage} {response : Response ContractMsg}
    (returned : executeSetConfig deps info manager price drand trustedSources paymentInitialFunds
      storage = .ok response after) :
    ∃ config changed, storage.config = some config ∧ info.sender = config.manager ∧ response = {} ∧
      after = storage.setConfig changed ∧ changed.price = price.getD config.price ∧
      changed.paymentCodeId = config.paymentCodeId ∧ changed.sink = config.sink := by
  simp only [executeSetConfig, bind_eq_ok, mapError_eq_ok, loadConfig_eq_ok, ensure_eq_ok,
    ofExcept_eq_ok, saveConfig, writes_eq_ok, pure_eq_ok] at returned
  obtain ⟨config, _, ⟨configured, rfl⟩, _, _, ⟨authorized, rfl⟩, _, _, ⟨_, rfl⟩, _, _, ⟨_, rfl⟩, _,
      _, ⟨_, rfl⟩, _, _, rfl, rfl, rfl⟩ := returned
  exact ⟨config, _, configured, authorized, rfl, rfl, rfl, rfl, rfl⟩

theorem migrate_ok {storage after : Storage} {response : Response ContractMsg}
    (returned : migrate storage = .ok response after) :
    ∃ config changed, storage.config = some config ∧
      response = { attributes := [("action", "migrate")] } ∧
      after = { storage with
        config := some changed
        contractVersion := some ("nois-gateway", "0.15.4") } ∧
      (changed = config ∨
        ∃ drand, config.trustedSources.getD [] = [] ∧ config.drand = some drand ∧
          changed = { config with trustedSources := some [drand] }) := by
  simp only [migrate, bind_eq_ok, loadConfig_eq_ok, saveConfig, setContractVersion, writes_eq_ok,
    pure_eq_ok] at returned
  obtain ⟨config, _, ⟨configured, rfl⟩, _, _, rfl, _, _, rfl, rfl, rfl⟩ := returned
  refine ⟨config, _, configured, rfl, rfl, ?_⟩
  split
  · rename_i untrusted
    cases drand : config.drand with
    | none => exact .inl rfl
    | some address =>
        exact .inr ⟨address, List.isEmpty_iff.mp untrusted, rfl, rfl⟩
  · exact .inl rfl

variable [Wire]

def deliverBeaconMsg (job : Job) (published timeout : Timestamp) (randomness : Binary) : Msg :=
  .ibcSendPacket job.channel (Wire.outPacket.toJsonBinary
    (.deliverBeacon job.sourceId published randomness job.origin)) timeout

theorem createDeliverBeaconIbcMessage_eq_ok {blocktime published : Timestamp} {job : Job}
    {randomness : Binary} {msg : Msg} :
    createDeliverBeaconIbcMessage blocktime job published randomness = .ok msg ↔
      ∃ timeout, blocktime.plusSeconds deliverBeaconPacketLifetime = .ok timeout ∧
        deliverBeaconMsg job published timeout randomness = msg := by
  simp only [createDeliverBeaconIbcMessage, except_bind_eq_ok]
  constructor
  · rintro ⟨timeout, deadline, same⟩
    exact ⟨timeout, deadline, Except.ok.inj same⟩
  · rintro ⟨timeout, deadline, same⟩
    exact ⟨timeout, deadline, congrArg Except.ok same⟩

def requestedJob (channel : String) (base : Timestamp) (origin : Binary) : Job :=
  ⟨sourceIdOf (roundNumber base), channel, origin⟩

def incentivizeMsgs (config : Config) (round : Nat) : List Msg :=
  config.drand.toList.map fun drandAddr => .wasmExecute drandAddr (.setIncentivized round) []

inductive Routed (env : Env) (channel : String) (base : Timestamp) (origin : Binary)
    (storage : Storage) : RoutingReceipt → Storage → Prop
  | processed {randomness : Binary} {published timeout : Timestamp}
      (archived : archiveLookup storage (roundNumber base) = some randomness)
      (counted : getProcessedDrandJobs storage (roundNumber base) + 1 < 2 ^ 32)
      (time : timeOfRound (roundNumber base) = .ok published)
      (deadline : env.block.time.plusSeconds deliverBeaconPacketLifetime = .ok timeout) :
      Routed env channel base origin storage
        { queued := false
          sourceId := sourceIdOf (roundNumber base)
          acknowledgement := .success (Wire.inPacketAck.toJsonBinary
            (.requestProcessed (sourceIdOf (roundNumber base))))
          msgs :=
            [deliverBeaconMsg (requestedJob channel base origin) published timeout randomness] }
        (storage.countProcessed (roundNumber base))
  | queued {config : Config}
      (missing : archiveLookup storage (roundNumber base) = none)
      (small : roundNumber base < 2 ^ 32)
      (free : storage.nextJobId (roundNumber base) < 2 ^ 16)
      (configured : storage.config = some config) :
      Routed env channel base origin storage
        { queued := true
          sourceId := sourceIdOf (roundNumber base)
          acknowledgement := .success (Wire.inPacketAck.toJsonBinary
            (.requestQueued (sourceIdOf (roundNumber base))))
          msgs := incentivizeMsgs config (roundNumber base) }
        (storage.pushJob (roundNumber base) (requestedJob channel base origin))

theorem handleDrandRequest_eq_ok {env : Env} {channel : String} {base : Timestamp}
    {origin : Binary} {storage after : Storage} {receipt : RoutingReceipt} :
    handleDrandRequest env channel base origin storage = .ok receipt after ↔
      Routed env channel base origin storage receipt after := by
  simp only [handleDrandRequest, commitToDrandRound_eq, bind_apply, ofPanics_ok, andThen_ok,
    reads_apply]
  constructor
  · intro returned
    cases stored : archiveLookup storage (roundNumber base) with
    | some randomness =>
        simp only [stored] at returned
        simp only [bind_eq_ok, increment_eq_ok, ofPanics_eq_ok, createDeliverBeaconIbcMessage_eq_ok,
          pure_eq_ok] at returned
        obtain ⟨_, _, ⟨counted, rfl⟩, published, _, ⟨time, rfl⟩, _, _,
          ⟨⟨timeout, deadline, rfl⟩, rfl⟩, _, _, ⟨rfl, rfl⟩, rfl, rfl⟩ := returned
        exact .processed stored counted time deadline
    | none =>
        simp only [stored] at returned
        simp only [bind_eq_ok, enqueue_eq_ok, loadConfig_eq_ok] at returned
        obtain ⟨_, _, ⟨small, free, rfl⟩, config, _, ⟨configured, rfl⟩, chosen⟩ := returned
        have routed : Routed env channel base origin storage _ _ :=
          .queued stored small free configured
        cases drand : config.drand with
        | none =>
            simp only [drand, bind_eq_ok, pure_eq_ok] at chosen
            obtain ⟨_, _, ⟨rfl, rfl⟩, rfl, rfl⟩ := chosen
            simpa [incentivizeMsgs, requestedJob, drand] using routed
        | some drandAddr =>
            simp only [drand, bind_eq_ok, pure_eq_ok] at chosen
            obtain ⟨_, _, ⟨rfl, rfl⟩, rfl, rfl⟩ := chosen
            simpa [incentivizeMsgs, requestedJob, drand] using routed
  · intro routed
    cases routed with
    | @processed randomness published timeout archived counted time deadline =>
        have created : createDeliverBeaconIbcMessage env.block.time
            (requestedJob channel base origin) published randomness =
            .ok
              (deliverBeaconMsg (requestedJob channel base origin) published timeout randomness) :=
          createDeliverBeaconIbcMessage_eq_ok.mpr ⟨timeout, deadline, rfl⟩
        have increased : incrementProcessedDrandJobs (roundNumber base) storage =
            .ok () (storage.countProcessed (roundNumber base)) :=
          increment_eq_ok.mpr ⟨counted, rfl⟩
        simp only [requestedJob] at created
        simp [archived, increased, time, created, requestedJob]
    | queued missing small free configured =>
        rename_i config
        have pushed : unprocessedDrandJobsEnqueue (roundNumber base)
            (requestedJob channel base origin) storage =
            .ok () (storage.pushJob (roundNumber base) (requestedJob channel base origin)) :=
          enqueue_eq_ok.mpr ⟨small, free, rfl⟩
        have loaded :
            loadConfig (storage.pushJob (roundNumber base) (requestedJob channel base origin)) =
              .ok config _ :=
          loadConfig_eq_ok.mpr ⟨configured, rfl⟩
        simp only [requestedJob] at pushed loaded
        cases drand : config.drand <;>
          simp [missing, pushed, loaded, drand, requestedJob, incentivizeMsgs]

theorem handleDrandRequest_eq_error {env : Env} {channel : String} {base : Timestamp}
    {origin : Binary} {storage after : Storage} {cause : StdError}
    (failed : handleDrandRequest env channel base origin storage = .error cause after) :
    storage.config = none := by
  simp only [handleDrandRequest, commitToDrandRound_eq, bind_apply, ofPanics_ok, andThen_ok,
    reads_apply] at failed
  cases stored : archiveLookup storage (roundNumber base) with
  | some randomness =>
      simp only [stored] at failed
      simp [-bind_apply, bind_eq_error, increment_ne_error, ofPanics_ne_error] at failed
  | none =>
      simp only [stored] at failed
      simp only [bind_eq_error, enqueue_ne_error, enqueue_eq_ok, loadConfig_eq_error,
        loadConfig_eq_ok, false_or] at failed
      obtain ⟨_, _, ⟨_, _, rfl⟩, absent | ⟨config, _, ⟨_, rfl⟩, chosen⟩⟩ := failed
      · exact absent.1
      · cases drand : config.drand <;> simp [drand] at chosen

/-- Jobs taken from the front of a round's queue, one after the other, with the
packets sent for them. -/
inductive Drains (env : Env) (round : Nat) (randomness : Binary) :
    Storage → List Job → List Msg → Storage → Prop
  | stop (storage : Storage) : Drains env round randomness storage [] [] storage
  | next {storage after : Storage} {id : Nat} {job : Job} {published timeout : Timestamp}
      {jobs : List Job} {msgs : List Msg}
      (first : (prefixRange storage.jobs round).head? = some (id, job))
      (counted : getProcessedDrandJobs storage round + 1 < 2 ^ 32)
      (time : timeOfRound round = .ok published)
      (deadline : env.block.time.plusSeconds deliverBeaconPacketLifetime = .ok timeout)
      (rest : Drains env round randomness ((storage.popJob round id).countProcessed round)
        jobs msgs after) :
      Drains env round randomness storage (job :: jobs)
        (deliverBeaconMsg job published timeout randomness :: msgs) after

theorem newDrandLoop_ok {env : Env} {round : Nat} {randomness : Binary} {limit fuel : Nat}
    {collected result : NewDrand} {storage after : Storage}
    (budget : collected.jobsProcessed + fuel = limit)
    (returned : newDrandLoop env round randomness limit fuel collected storage = .ok result after) :
    ∃ jobs msgs, Drains env round randomness storage jobs msgs after ∧
      result = ⟨collected.msgs ++ msgs, collected.jobsProcessed + jobs.length⟩ ∧
      jobs.length ≤ fuel ∧ (jobs.length < fuel → prefixRange after.jobs round = []) ∧
      (0 < fuel → round < 2 ^ 32) := by
  induction fuel generalizing collected storage with
  | zero =>
      simp only [newDrandLoop, pure_eq_ok] at returned
      obtain ⟨rfl, rfl⟩ := returned
      exact ⟨[], [], .stop storage, by simp, by simp, by simp, by simp⟩
  | succ fuel ih =>
      simp only [newDrandLoop, bind_eq_ok, dequeue_eq_ok] at returned
      obtain ⟨found, middle, ⟨small, dequeued⟩, continued⟩ := returned
      cases first : (prefixRange storage.jobs round).head? with
      | none =>
          simp only [first] at dequeued
          obtain ⟨rfl, rfl⟩ := dequeued
          simp only [pure_eq_ok] at continued
          obtain ⟨rfl, rfl⟩ := continued
          have drained := List.head?_eq_none_iff.mp first
          exact ⟨[], [], .stop storage, by simp, by simp, fun _ => drained, fun _ => small⟩
      | some entry =>
          obtain ⟨id, job⟩ := entry
          simp only [first] at dequeued
          obtain ⟨rfl, rfl⟩ := dequeued
          simp only [bind_eq_ok, increment_eq_ok, ofPanics_eq_ok,
            createDeliverBeaconIbcMessage_eq_ok] at continued
          obtain ⟨_, _, ⟨counted, rfl⟩, published, _, ⟨time, rfl⟩, _, _,
            ⟨⟨timeout, deadline, rfl⟩, rfl⟩, continued⟩ := continued
          split at continued
          · rename_i full
            simp only [pure_eq_ok] at continued
            obtain ⟨rfl, rfl⟩ := continued
            have spent : fuel = 0 := by omega
            refine ⟨[job], _, .next first counted time deadline (.stop _), rfl, by simp, ?_,
              fun _ => small⟩
            intro unused
            simp only [List.length_singleton] at unused
            omega
          · obtain ⟨jobs, msgs, drains, same, bounded, emptied, _⟩ :=
              ih (by simp only; omega) continued
            refine ⟨job :: jobs, _, .next first counted time deadline drains, ?_, ?_, ?_,
              fun _ => small⟩
            · rw [same]
              simp only [List.append_assoc, List.singleton_append, List.length_cons,
                NewDrand.mk.injEq, true_and]
              omega
            · simp only [List.length_cons]
              omega
            · intro unused
              simp only [List.length_cons] at unused
              exact emptied (by omega)

theorem newDrand_ok {env : Env} {round : Nat} {randomness : Binary} {isVerifyingTx : Bool}
    {result : NewDrand} {storage after : Storage}
    (returned : newDrand env round randomness isVerifyingTx storage = .ok result after) :
    randomness ≠ [] ∧ round < 2 ^ 32 ∧
      ∃ jobs,
        Drains env round randomness (storage.setArchive round randomness) jobs result.msgs after ∧
          result.jobsProcessed = jobs.length ∧ jobs.length ≤ maxJobsPerSubmission isVerifyingTx ∧
          (jobs.length < maxJobsPerSubmission isVerifyingTx →
            prefixRange after.jobs round = []) := by
  simp only [newDrand, bind_eq_ok, archiveStore_eq_ok] at returned
  obtain ⟨_, _, ⟨nonempty, rfl⟩, looped⟩ := returned
  obtain ⟨jobs, msgs, drains, rfl, bounded, emptied, small⟩ := newDrandLoop_ok (by simp) looped
  refine ⟨nonempty, small (maxJobsPerSubmission_pos isVerifyingTx), jobs, ?_, by simp, bounded,
    emptied⟩
  simpa using drains

theorem route_config {env : Env} {channel : String} {base : Timestamp} {origin : Binary}
    {storage after : Storage} {receipt : RoutingReceipt}
    (routed : Routed env channel base origin storage receipt after) :
    after.config = storage.config ∧ after.customers = storage.customers ∧
      after.requestsLog = storage.requestsLog ∧ after.archive = storage.archive := by
  cases routed with
  | processed => exact ⟨rfl, rfl, rfl, rfl⟩
  | queued => exact ⟨rfl, rfl, rfl, rfl⟩

/-- The log of a channel after a request that was routed. -/
theorem Routed.requestsLogOf {env : Env} {channel : String} {base : Timestamp} {origin : Binary}
    {storage after : Storage} {receipt : RoutingReceipt}
    (routed : Routed env channel base origin storage receipt after) (channelId : String)
    (entry : RequestLogEntry) (customer : Customer) (other : String) :
    Gateway.requestsLogOf ((after.logRequest channelId entry).setCustomer channelId customer)
      other =
      if channelId = other then Deque.pushBack (2 ^ 32) (Gateway.requestsLogOf storage other) entry
      else Gateway.requestsLogOf storage other := by
  obtain ⟨_, _, log_eq, _⟩ := route_config routed
  have same : Gateway.requestsLogOf after other = Gateway.requestsLogOf storage other := by
    simp [Gateway.requestsLogOf, log_eq]
  rw [← same]
  exact requestsLogOf_logRequest after channelId other entry

def requestLogEntry (env : Env) (origin : Binary) (receipt : RoutingReceipt) : RequestLogEntry :=
  { origin
    tx := (env.block.height, env.transaction)
    sourceId := receipt.sourceId
    queued := receipt.queued }

inductive Accepted (env : Env) (channelId : String) (relayer : Addr) (base : Timestamp)
    (origin : Binary) (storage : Storage) : Response ContractMsg → Storage → Prop
  | intro {receipt : RoutingReceipt} {routed : Storage} {customer : Customer} {config : Config}
      (short : origin.length ≤ maxOriginLen)
      (route : Routed env channelId base origin storage receipt routed)
      (known : storage.customers[channelId]? = some customer)
      (counted : customer.requestedBeacons + 1 < 2 ^ 64)
      (configured : storage.config = some config) :
      Accepted env channelId relayer base origin storage
        { acknowledgement := some receipt.acknowledgement
          messages :=
            (receipt.msgs ++ [payMsg customer.payment config.price relayer]).map SubMsg.new
          attributes := [("action", "receive_request_beacon")] }
        ((routed.logRequest channelId (requestLogEntry env origin receipt)).setCustomer channelId
          { customer with requestedBeacons := customer.requestedBeacons + 1 })

theorem receiveRequestBeacon_eq_ok {env : Env} {channelId : String} {relayer : Addr}
    {base : Timestamp} {origin : Binary} {storage after : Storage}
    {response : Response ContractMsg} :
    receiveRequestBeacon env channelId relayer base origin storage = .ok response after ↔
      Accepted env channelId relayer base origin storage response after := by
  have burnt (amount : Uint128) : amount.mulFloor 40 100 = .ok (burnShare amount) :=
    Uint128.mulFloor_eq_ok.mpr rfl
  have relayed (amount : Uint128) : amount.mulFloor 20 100 = .ok (relayerShare amount) :=
    Uint128.mulFloor_eq_ok.mpr rfl
  simp only [receiveRequestBeacon, route, bind_eq_ok, ofExcept_eq_ok, validateOrigin_eq_ok,
    mapError_eq_ok, handleDrandRequest_eq_ok, requestsLogAdd, writes_eq_ok, loadCustomer_eq_ok,
    ofPanics_eq_ok, checkedAdd_eq_ok, saveCustomer, loadConfig_eq_ok, burnt, relayed, pure_eq_ok]
  constructor
  · rintro ⟨_, _, ⟨short, rfl⟩, receipt, routed, route, _, _, rfl, customer, _, ⟨known, rfl⟩, _, _,
      ⟨⟨counted, rfl⟩, rfl⟩, _, _, rfl, config, _, ⟨configured, rfl⟩, _, _, ⟨burn, rfl⟩, _, _,
      ⟨relay, rfl⟩, withoutBurn, _, ⟨first, rfl⟩, rest, _, ⟨second, rfl⟩, rfl, rfl⟩
    cases burn
    cases relay
    obtain ⟨config_eq, customers_eq, _⟩ := route_config route
    obtain ⟨kept, firstKept, secondKept⟩ := shares_sub config.price.amount
    rw [firstKept] at first
    cases first
    rw [secondKept] at second
    cases second
    exact .intro short route (customers_eq ▸ known) counted (config_eq ▸ configured)
  · intro accepted
    cases accepted with
    | @intro receipt routed customer config short route known counted configured =>
        obtain ⟨config_eq, customers_eq, _⟩ := route_config route
        obtain ⟨kept, firstKept, secondKept⟩ := shares_sub config.price.amount
        exact ⟨(), storage, ⟨short, rfl⟩, receipt, routed, route, (), _, rfl, customer, _,
          ⟨customers_eq ▸ known, rfl⟩, _, _, ⟨⟨counted, rfl⟩, rfl⟩, (), _, rfl, config, _,
          ⟨config_eq ▸ configured, rfl⟩, _, _, ⟨rfl, rfl⟩, _, _, ⟨rfl, rfl⟩, kept, _,
          ⟨firstKept, rfl⟩, _, _, ⟨secondKept, rfl⟩, rfl, rfl⟩

theorem receiveRequestBeacon_eq_error {env : Env} {channelId : String} {relayer : Addr}
    {base : Timestamp} {origin : Binary} {storage after : Storage} {cause : ContractError}
    {customer : Customer} {config : Config} (known : storage.customers[channelId]? = some customer)
    (configured : storage.config = some config) :
    receiveRequestBeacon env channelId relayer base origin storage = .error cause after ↔
      maxOriginLen < origin.length ∧ cause = .originTooLong ∧ storage = after := by
  constructor
  · intro failed
    simp only [receiveRequestBeacon, route, bind_eq_error, ofExcept_eq_error, ofExcept_eq_ok,
      validateOrigin_eq_error] at failed
    obtain ⟨⟨long, same⟩, rfl⟩ | ⟨_, _, ⟨_, rfl⟩, failed⟩ := failed
    · exact ⟨long, same, rfl⟩
    · simp only [mapError_eq_error, mapError_eq_ok, handleDrandRequest_eq_ok] at failed
      obtain ⟨_, failed, _⟩ | ⟨receipt, routed, route, failed⟩ := failed
      · have absent := handleDrandRequest_eq_error failed
        simp [configured] at absent
      · obtain ⟨config_eq, customers_eq, _⟩ := route_config route
        simp only [requestsLogAdd, saveCustomer, writes_apply, Outcome.ok.injEq, reduceCtorEq,
          false_and, exists_false, false_or, loadCustomer_eq_error, loadCustomer_eq_ok,
          ofPanics_ne_error, ofPanics_eq_ok, loadConfig_eq_error, loadConfig_eq_ok,
          pure_apply, true_and, and_false, or_false] at failed
        obtain ⟨_, _, rfl, ⟨_, ⟨absent, _⟩, _⟩ | ⟨_, _, ⟨_, rfl⟩, _, _, ⟨_, rfl⟩, _, _,
          rfl, _, ⟨absent, _⟩, _⟩⟩ := failed
        · simp [customers_eq, known] at absent
        · simp [config_eq, configured] at absent
  · rintro ⟨long, rfl, rfl⟩
    have refused := validateOrigin_eq_error.mpr ⟨long, rfl⟩
    simp [receiveRequestBeacon, refused]

theorem receivePullBeaconPrice_eq_ok {env : Env} {storage after : Storage}
    {response : Response ContractMsg} :
    receivePullBeaconPrice env storage = .ok response after ↔
      ∃ config, storage.config = some config ∧ storage = after ∧
        response =
          { acknowledgement := some (.success (Wire.inPacketAck.toJsonBinary
              (.pullBeaconPrice env.block.time config.price.amount config.price.denom)))
            attributes := [("action", "receive_pull_beacon_price")] } := by
  simp only [receivePullBeaconPrice, bind_eq_ok, mapError_eq_ok, loadConfig_eq_ok, pure_eq_ok]
  constructor
  · rintro ⟨config, _, ⟨configured, rfl⟩, rfl, rfl⟩
    exact ⟨config, configured, rfl, rfl⟩
  · rintro ⟨config, configured, rfl, rfl⟩
    exact ⟨config, storage, ⟨configured, rfl⟩, rfl, rfl⟩

theorem receivePullBeaconPrice_eq_error {env : Env} {storage after : Storage}
    {cause : ContractError} (failed : receivePullBeaconPrice env storage = .error cause after) :
    storage.config = none := by
  simp only [receivePullBeaconPrice, bind_eq_error, mapError_eq_error, loadConfig_eq_error,
    mapError_eq_ok, loadConfig_eq_ok, pure_apply, reduceCtorEq, and_false, exists_false,
    or_false] at failed
  obtain ⟨_, ⟨absent, _⟩, _⟩ := failed
  exact absent

def failureResponse (cause : ContractError) : Response ContractMsg :=
  { acknowledgement := some (.error ("Error processing packet: " ++ cause.toString))
    events := [("ibc", [("packet", "receive")])] }

inductive Received (env : Env) (msg : IbcPacketReceiveMsg) (storage : Storage) :
    Response ContractMsg → Storage → Prop
  | request {base : Timestamp} {origin : Binary} {response : Response ContractMsg} {after : Storage}
      (decoded : Wire.inPacket.fromJson msg.data = .ok (.requestBeacon base origin))
      (accepted : Accepted env msg.destChannel msg.relayer base origin storage response after) :
      Received env msg storage response after
  | price {config : Config} (decoded : Wire.inPacket.fromJson msg.data = .ok .pullBeaconPrice)
      (configured : storage.config = some config) :
      Received env msg storage
        { acknowledgement := some (.success (Wire.inPacketAck.toJsonBinary
            (.pullBeaconPrice env.block.time config.price.amount config.price.denom)))
          attributes := [("action", "receive_pull_beacon_price")] } storage
  | failure {cause : ContractError} {after : Storage}
      (failed : receivePacket env msg storage = .error cause after) :
      Received env msg storage (failureResponse cause) after

theorem ibcPacketReceive_ok {env : Env} {msg : IbcPacketReceiveMsg} {storage after : Storage}
    {response : Response ContractMsg}
    (returned : ibcPacketReceive env msg storage = .ok response after) :
    Received env msg storage response after := by
  simp only [ibcPacketReceive, orElse_eq_ok, pure_eq_ok] at returned
  obtain succeeded | ⟨cause, middle, failed, rfl, rfl⟩ := returned
  · simp only [receivePacket, bind_eq_ok, mapError_eq_ok, ofExcept_eq_ok] at succeeded
    obtain ⟨op, _, ⟨decoded, rfl⟩, handled⟩ := succeeded
    cases op with
    | requestBeacon base origin =>
        exact .request decoded (receiveRequestBeacon_eq_ok.mp handled)
    | pullBeaconPrice =>
        obtain ⟨config, configured, rfl, rfl⟩ := receivePullBeaconPrice_eq_ok.mp handled
        exact .price decoded configured
  · exact .failure failed

theorem ibcPacketReceive_of_ok {env : Env} {msg : IbcPacketReceiveMsg} {storage after : Storage}
    {response : Response ContractMsg}
    (succeeded : receivePacket env msg storage = .ok response after) :
    ibcPacketReceive env msg storage = .ok response after :=
  orElse_eq_ok.mpr (.inl succeeded)

theorem ibcPacketReceive_of_error {env : Env} {msg : IbcPacketReceiveMsg} {storage after : Storage}
    {cause : ContractError} (failed : receivePacket env msg storage = .error cause after) :
    ibcPacketReceive env msg storage = .ok (failureResponse cause) after :=
  orElse_eq_ok.mpr (.inr ⟨cause, after, failed, by simp [failureResponse]⟩)

theorem receivePacket_eq_error {env : Env} {msg : IbcPacketReceiveMsg} {storage after : Storage}
    {cause : ContractError} {customer : Customer} {config : Config}
    (known : storage.customers[msg.destChannel]? = some customer)
    (configured : storage.config = some config)
    (failed : receivePacket env msg storage = .error cause after) :
    storage = after ∧
      ((∃ undecoded, Wire.inPacket.fromJson msg.data = .error undecoded ∧ cause = .std undecoded) ∨
        ∃ base origin, Wire.inPacket.fromJson msg.data = .ok (.requestBeacon base origin) ∧
          maxOriginLen < origin.length ∧ cause = .originTooLong) := by
  simp only [receivePacket, bind_eq_error, mapError_eq_error, ofExcept_eq_error, mapError_eq_ok,
    ofExcept_eq_ok] at failed
  obtain ⟨undecoded, ⟨broken, rfl⟩, same⟩ | ⟨op, _, ⟨decoded, rfl⟩, failed⟩ := failed
  · exact ⟨rfl, .inl ⟨undecoded, broken, same.symm⟩⟩
  · cases op with
    | requestBeacon base origin =>
        obtain ⟨long, same, unchanged⟩ := (receiveRequestBeacon_eq_error known configured).mp failed
        exact ⟨unchanged, .inr ⟨base, origin, decoded, long, same⟩⟩
    | pullBeaconPrice =>
        have absent := receivePullBeaconPrice_eq_error failed
        simp [configured] at absent

/-- A successful channel handshake registers a customer with a fresh payment contract. -/
inductive Connects (deps : Deps) (env : Env) (chanId : String) (storage : Storage) :
    Response ContractMsg → Storage → Prop
  | intro {config : Config} {address : Addr} {welcomeTimeout priceTimeout : Timestamp}
      (configured : storage.config = some config)
      (derived : paymentAddress deps env config.paymentCodeId chanId = .ok address)
      (welcomeDeadline : env.block.time.plusSeconds welcomePacketLifetime = .ok welcomeTimeout)
      (priceDeadline : env.block.time.plusSeconds beaconPricePacketLifetime = .ok priceTimeout) :
      Connects deps env chanId storage
        { messages := [
            .wasmInstantiate2 (some env.contract) config.paymentCodeId ("For " ++ chanId)
              (.instantiatePayment config.sink) config.paymentInitialFunds.toList
              (hashChannel deps chanId),
            .ibcSendPacket chanId (Wire.outPacket.toJsonBinary (.welcome address)) welcomeTimeout,
            .ibcSendPacket chanId (Wire.outPacket.toJsonBinary
              (.pushBeaconPrice env.block.time config.price.amount config.price.denom))
              priceTimeout].map SubMsg.new
          attributes := [("action", "ibc_connect"), ("channel_id", chanId)]
          events := [("ibc", [("channel", "connect")])] }
        (storage.setCustomer chanId { payment := address, requestedBeacons := 0 })

theorem ibcChannelConnect_ok {deps : Deps} {env : Env} {msg : IbcChannelConnectMsg}
    {storage after : Storage} {response : Response ContractMsg}
    (returned : ibcChannelConnect deps env msg storage = .ok response after) :
    ∃ channel, msg = .openConfirm channel ∧
      Connects deps env channel.channelId storage response after := by
  cases msg with
  | openAck channel version => simp [ibcChannelConnect] at returned
  | openConfirm channel =>
      simp only [ibcChannelConnect, bind_eq_ok, mapError_eq_ok, loadConfig_eq_ok, ofExcept_eq_ok,
        saveCustomer, writes_eq_ok, ofPanics_eq_ok, pure_eq_ok] at returned
      obtain ⟨_, _, ⟨rfl, rfl⟩, config, _, ⟨configured, rfl⟩, address, _, ⟨derived, rfl⟩, _, _, rfl,
          welcomeTimeout, _, ⟨welcomeDeadline, rfl⟩, priceTimeout, _, ⟨priceDeadline, rfl⟩, rfl,
          rfl⟩ :=
        returned
      exact ⟨channel, rfl, .intro configured derived welcomeDeadline priceDeadline⟩

theorem executeAddVerifiedRound_ok {env : Env} {info : MessageInfo} {round : Nat}
    {randomness : Binary} {isVerifyingTx : Bool} {storage after : Storage}
    {response : Response ContractMsg}
    (returned : executeAddVerifiedRound env info round randomness isVerifyingTx storage =
      .ok response after) :
    ∃ config drand, storage.config = some config ∧ info.sender ∈ config.trustedSources.getD [] ∧
      newDrand env round randomness isVerifyingTx storage = .ok drand after ∧
      response =
        { messages := drand.msgs.map SubMsg.new
          attributes := [("jobs_processed", Nat.repr drand.jobsProcessed)] } := by
  simp only [executeAddVerifiedRound, bind_eq_ok, mapError_eq_ok, loadConfig_eq_ok, ensure_eq_ok,
    pure_eq_ok] at returned
  obtain ⟨config, _, ⟨configured, rfl⟩, _, _, ⟨trusted, rfl⟩, drand, _, processed, rfl, rfl⟩ :=
    returned
  exact ⟨config, drand, configured, trusted, processed, rfl⟩

end NoisContracts.Gateway
