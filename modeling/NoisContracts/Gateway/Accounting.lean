import NoisContracts.Gateway.Chain

/-!
Accounting of the beacon jobs. The jobs that a run has accepted and sent are read
off the log: an accepted job from a packet with a success acknowledgement, a sent
job from a `DeliverBeacon` packet in the messages of a response.
-/

namespace NoisContracts.Gateway

open ContractCall ContractCall.Call OrderedStore

theorem queue_pushJob {storage : Storage} {round : Nat} {job : Job}
    (below : ∀ id stored, storage.jobs[toLex (round, id)]? = some stored →
      id < storage.nextJobId round) :
    (storage.pushJob round job).queue round = storage.queue round ++ [job] := by
  have last : prefixRange (storage.pushJob round job).jobs round =
      prefixRange storage.jobs round ++ [(storage.nextJobId round, job)] := by
    apply prefixRange_insert_last
    rintro ⟨id, stored⟩ member
    exact below id stored (mem_prefixRange.mp member)
  simp [Storage.queue, last]

theorem queue_pushJob_other {storage : Storage} {round other : Nat} {job : Job}
    (different : round ≠ other) :
    (storage.pushJob round job).queue other = storage.queue other := by
  have same : prefixRange (storage.pushJob round job).jobs other = prefixRange storage.jobs other :=
    prefixRange_insert_other different
  simp [Storage.queue, same]

theorem getProcessed_countProcessed (storage : Storage) (round other : Nat) :
    getProcessedDrandJobs (storage.countProcessed round) other =
      getProcessedDrandJobs storage other + if round = other then 1 else 0 := by
  simp only [getProcessedDrandJobs, Storage.countProcessed, get_insert]
  split
  · rename_i same
    subst same
    rfl
  · rfl

theorem unprocessedDrandJobsLen_eq {storage : Storage} {round : Nat} (small : round < 2 ^ 32)
    (below : ∀ id stored, storage.jobs[toLex (round, id)]? = some stored → id < 2 ^ 16) :
    unprocessedDrandJobsLen round storage = .ok (storage.queue round).length storage := by
  have ids : (prefixRange storage.jobs round).length ≤ 2 ^ 16 := by
    have distinct : ((prefixRange storage.jobs round).map Prod.fst).Nodup := by
      rw [List.Nodup, List.pairwise_map]
      refine (prefixRange_sorted storage.jobs round).imp ?_
      intro left right smaller
      exact smaller.ne
    have inside : (prefixRange storage.jobs round).map Prod.fst ⊆ List.range (2 ^ 16) := by
      intro id member
      simp only [List.mem_map, Prod.exists, exists_and_right, exists_eq_right] at member
      obtain ⟨job, listed⟩ := member
      exact List.mem_range.mpr (below id job (mem_prefixRange.mp listed))
    have shorter := (List.subperm_of_subset distinct inside).length_le
    rwa [List.length_map, List.length_range] at shorter
  have fits :
      (prefixRange storage.jobs round).length % 2 ^ 32 = (prefixRange storage.jobs round).length :=
    Nat.mod_eq_of_lt (lt_of_le_of_lt ids (by decide))
  have key := roundToU32_eq_ok.mpr ⟨small, rfl⟩
  simp only [unprocessedDrandJobsLen, bind_apply, key, ofPanics_ok, andThen_ok, reads_apply,
    pure_apply, fits, Storage.queue, List.length_map]

variable [Wire]

def sentJob : Msg → Option Job
  | .ibcSendPacket channel data _ =>
      match Wire.outPacket.fromJson data with
      | .ok (.deliverBeacon sourceId _ _ origin) => some ⟨sourceId, channel, origin⟩
      | _ => none
  | _ => none

@[simp] theorem sentJob_deliverBeaconMsg (job : Job) (published timeout : Timestamp)
    (randomness : Binary) :
    sentJob (deliverBeaconMsg job published timeout randomness) = some job := by
  simp [sentJob, deliverBeaconMsg, Wire.outPacket.fromJson_toJsonBinary]

theorem payMsg_unsent (payment : Addr) (price : Coin) (relayer : Addr) :
    sentJob (payMsg payment price relayer) = none := by
  simp [sentJob, payMsg]

theorem Drains.sent {env : Env} {round : Nat} {randomness : Binary} {storage after : Storage}
    {jobs : List Job} {msgs : List Msg}
    (drains : Drains env round randomness storage jobs msgs after) :
    msgs.filterMap sentJob = jobs := by
  induction drains with
  | stop storage => rfl
  | next first counted time deadline rest ih => simp [ih]

theorem Drains.queue {env : Env} {round : Nat} {randomness : Binary} {storage after : Storage}
    {jobs : List Job} {msgs : List Msg}
    (drains : Drains env round randomness storage jobs msgs after) :
    storage.queue round = jobs ++ after.queue round := by
  induction drains with
  | stop storage => rfl
  | @next storage after id job published timeout jobs msgs first counted time deadline rest ih =>
      obtain ⟨others, scanned⟩ := List.head?_eq_some_iff.mp first
      have popped :
          prefixRange ((storage.popJob round id).countProcessed round).jobs round = others :=
        prefixRange_erase_head scanned
      have remaining : others.map Prod.snd = jobs ++ after.queue round := by
        simpa [Storage.queue, popped] using ih
      simp [Storage.queue, scanned, remaining]

theorem Drains.queue_other {env : Env} {round other : Nat} {randomness : Binary}
    {storage after : Storage} {jobs : List Job} {msgs : List Msg} (different : round ≠ other)
    (drains : Drains env round randomness storage jobs msgs after) :
    after.queue other = storage.queue other := by
  induction drains with
  | stop storage => rfl
  | @next storage after id job published timeout jobs msgs first counted time deadline rest ih =>
      have kept : prefixRange ((storage.popJob round id).countProcessed round).jobs other =
          prefixRange storage.jobs other := prefixRange_erase_other different
      rw [ih]
      simp [Storage.queue, kept]

theorem Drains.processed {env : Env} {round : Nat} {randomness : Binary} {storage after : Storage}
    {jobs : List Job} {msgs : List Msg}
    (drains : Drains env round randomness storage jobs msgs after) (other : Nat) :
    getProcessedDrandJobs after other =
      getProcessedDrandJobs storage other + if round = other then jobs.length else 0 := by
  induction drains with
  | stop storage => simp
  | @next storage after id job published timeout jobs msgs first counted time deadline rest ih =>
      have popped : getProcessedDrandJobs (storage.popJob round id) other =
          getProcessedDrandJobs storage other := rfl
      rw [ih, getProcessed_countProcessed, popped, List.length_cons]
      split <;> omega

theorem Drains.stored {env : Env} {round : Nat} {randomness : Binary} {storage after : Storage}
    {jobs : List Job} {msgs : List Msg}
    (drains : Drains env round randomness storage jobs msgs after) {other id : Nat} {job : Job}
    (found : after.jobs[toLex (other, id)]? = some job) :
    storage.jobs[toLex (other, id)]? = some job := by
  induction drains with
  | stop storage => exact found
  | @next storage after taken first published timeout jobs msgs head counted time deadline rest
      ih =>
      have earlier := ih found
      simp only [Storage.countProcessed, Storage.popJob, get_erase_pair] at earlier
      split at earlier
      · simp at earlier
      · exact earlier

def Entry.acceptedFor (round : Nat) (entry : Entry) : Option Job :=
  match entry.tx.action with
  | .packetReceive msg =>
      match Wire.inPacket.fromJson msg.data, entry.response.acknowledgement with
      | .ok (.requestBeacon base origin), some (.success _) =>
          if roundNumber base = round then some (requestedJob msg.destChannel base origin) else none
      | _, _ => none
  | _ => none

def acknowledgesQueued (response : Response ContractMsg) : Bool :=
  match response.acknowledgement with
  | some (.success data) =>
      match Wire.inPacketAck.fromJson data with
      | .ok (.requestQueued _) => true
      | _ => false
  | _ => false

def Entry.queuedFor (round : Nat) (entry : Entry) : Option Job :=
  if acknowledgesQueued entry.response then entry.acceptedFor round else none

def Entry.sentFor (round : Nat) (entry : Entry) : List Job :=
  (entry.response.msgs.filterMap sentJob).filter fun job => job.sourceId = sourceIdOf round

def Entry.releasedFor (round : Nat) (entry : Entry) : List Job :=
  match entry.tx.action with
  | .execute _ _ => entry.sentFor round
  | _ => []

namespace World

def accepted (world : World) (round : Nat) : List Job :=
  world.log.filterMap (Entry.acceptedFor round)

def enqueued (world : World) (round : Nat) : List Job := world.log.filterMap (Entry.queuedFor round)

def sent (world : World) (round : Nat) : List Job := world.log.flatMap (Entry.sentFor round)

def released (world : World) (round : Nat) : List Job := world.log.flatMap (Entry.releasedFor round)

theorem accepted_commit (world : World) (tx : Tx) (response : Response ContractMsg)
    (after : Storage) (round : Nat) :
    (world.commit tx response after).accepted round =
      world.accepted round ++ (Entry.acceptedFor round ⟨tx, response⟩).toList := by
  cases job : Entry.acceptedFor round ⟨tx, response⟩ <;> simp [accepted, commit, job]

theorem enqueued_commit (world : World) (tx : Tx) (response : Response ContractMsg)
    (after : Storage) (round : Nat) :
    (world.commit tx response after).enqueued round =
      world.enqueued round ++ (Entry.queuedFor round ⟨tx, response⟩).toList := by
  cases job : Entry.queuedFor round ⟨tx, response⟩ <;> simp [enqueued, commit, job]

theorem sent_commit (world : World) (tx : Tx) (response : Response ContractMsg) (after : Storage)
    (round : Nat) : (world.commit tx response after).sent round =
      world.sent round ++ Entry.sentFor round ⟨tx, response⟩ := by
  simp [sent, commit]

theorem released_commit (world : World) (tx : Tx) (response : Response ContractMsg)
    (after : Storage) (round : Nat) :
    (world.commit tx response after).released round =
      world.released round ++ Entry.releasedFor round ⟨tx, response⟩ := by
  simp [released, commit]

end World

structure Entry.Silent (entry : Entry) : Prop where
  accepted : ∀ round, entry.acceptedFor round = none
  unsent : entry.response.msgs.filterMap sentJob = []

structure SameJobs (before after : Storage) : Prop where
  jobs : after.jobs = before.jobs
  lastJobId : after.lastJobId = before.lastJobId
  processed : after.processedDrandJobsCount = before.processedDrandJobsCount
  archive : after.archive = before.archive

theorem Entry.Silent.sent {entry : Entry} (silent : entry.Silent) (round : Nat) :
    entry.sentFor round = [] := by
  simp [Entry.sentFor, silent.unsent]

theorem Entry.silent_of_no_messages {entry : Entry} (messages : entry.response.messages = [])
    (acknowledgement : entry.response.acknowledgement = none) : entry.Silent := by
  refine ⟨?_, ?_⟩
  · intro round
    simp only [Entry.acceptedFor, acknowledgement]
    cases entry.tx.action <;> simp
  · simp [Response.msgs, messages]

theorem effect_kinds {deps : Deps} {env : Env} {world : World} {tx : Tx}
    {response : Response ContractMsg} {after : Storage} (registered : Registered world)
    (admitted : world.admits tx.action = true)
    (effect : Effect deps env world.storage tx.action response after) :
    (Entry.Silent ⟨tx, response⟩ ∧ SameJobs world.storage after) ∨
      (∃ msg base origin, tx.action = .packetReceive msg ∧
        Wire.inPacket.fromJson msg.data = .ok (.requestBeacon base origin) ∧
        Accepted env msg.destChannel msg.relayer base origin world.storage response after) ∨
      (∃ info round randomness isVerifyingTx drand,
        tx.action = .execute info (.addVerifiedRound round randomness isVerifyingTx) ∧
        newDrand env round randomness isVerifyingTx world.storage = .ok drand after ∧
        response.msgs = drand.msgs) := by
  generalize action_eq : tx.action = action at effect
  cases effect with
  | configured configures kept messages acknowledgement =>
      exact .inl ⟨Entry.silent_of_no_messages messages acknowledgement, rfl, rfl, rfl, rfl⟩
  | idle idles messages acknowledgement =>
      exact .inl ⟨Entry.silent_of_no_messages messages acknowledgement, rfl, rfl, rfl, rfl⟩
  | connected connects =>
      cases connects with
      | intro configured derived welcomeDeadline priceDeadline =>
          refine .inl ⟨⟨?_, ?_⟩, rfl, rfl, rfl, rfl⟩
          · intro round
            simp [Entry.acceptedFor, action_eq]
          · simp [Response.msgs, sentJob, Wire.outPacket.fromJson_toJsonBinary]
  | @received msg response after receives =>
      cases receives with
      | @request base origin response after decoded accepted =>
          exact .inr (.inl ⟨msg, base, origin, rfl, decoded, accepted⟩)
      | price decoded configured =>
          refine .inl ⟨⟨?_, ?_⟩, rfl, rfl, rfl, rfl⟩
          · intro round
            simp [Entry.acceptedFor, action_eq, decoded]
          · simp [Response.msgs]
      | failure failed =>
          rw [action_eq, World.admits_packet] at admitted
          obtain ⟨rfl, _⟩ := registered.received_failure admitted failed
          refine .inl ⟨⟨?_, ?_⟩, rfl, rfl, rfl, rfl⟩
          · intro round
            simp [Entry.acceptedFor, action_eq, failureResponse]
          · simp [Response.msgs, failureResponse]
  | @verified info round randomness isVerifyingTx config drand after configured trusted processed =>
      exact .inr (.inr ⟨info, round, randomness, isVerifyingTx, drand, rfl, processed,
        SubMsg.map_msg_new drand.msgs⟩)

def processedAck (round : Nat) : StdAck :=
  .success (Wire.inPacketAck.toJsonBinary (.requestProcessed (sourceIdOf round)))

def queuedAck (round : Nat) : StdAck :=
  .success (Wire.inPacketAck.toJsonBinary (.requestQueued (sourceIdOf round)))

theorem acknowledgesQueued_processed {response : Response ContractMsg} {round : Nat}
    (answer : response.acknowledgement = some (processedAck round)) :
    acknowledgesQueued response = false := by
  simp [acknowledgesQueued, answer, processedAck, Wire.inPacketAck.fromJson_toJsonBinary]

theorem acknowledgesQueued_queued {response : Response ContractMsg} {round : Nat}
    (answer : response.acknowledgement = some (queuedAck round)) :
    acknowledgesQueued response = true := by
  simp [acknowledgesQueued, answer, queuedAck, Wire.inPacketAck.fromJson_toJsonBinary]

theorem queuedAck_ne_processedAck (round : Nat) : queuedAck round ≠ processedAck round := by
  intro same
  have packets := Wire.inPacketAck.toJsonBinary_injective (StdAck.success.inj same)
  simp at packets

theorem Accepted.acceptedFor {env : Env} {tx : Tx} {msg : IbcPacketReceiveMsg} {base : Timestamp}
    {origin : Binary} {storage after : Storage} {response : Response ContractMsg}
    (action : tx.action = .packetReceive msg)
    (decoded : Wire.inPacket.fromJson msg.data = .ok (.requestBeacon base origin))
    (accepted : Accepted env msg.destChannel msg.relayer base origin storage response after)
    (round : Nat) :
    Entry.acceptedFor round ⟨tx, response⟩ =
      if roundNumber base = round then some (requestedJob msg.destChannel base origin)
        else none := by
  cases accepted with
  | intro short route known counted configured =>
      cases route <;> simp [Entry.acceptedFor, action, decoded]

/-- What an accepted request does to the jobs: it is either sent in the same call,
or appended to the queue of its round. -/
theorem Accepted.jobs {env : Env} {channelId : String} {relayer : Addr} {base : Timestamp}
    {origin : Binary} {storage after : Storage} {response : Response ContractMsg}
    (accepted : Accepted env channelId relayer base origin storage response after) :
    ((∃ randomness, storage.archive[roundNumber base]? = some randomness) ∧
      response.msgs.filterMap sentJob = [requestedJob channelId base origin] ∧
      response.acknowledgement = some (processedAck (roundNumber base)) ∧
      after.jobs = storage.jobs ∧ after.lastJobId = storage.lastJobId ∧
      after.processedDrandJobsCount =
        (storage.countProcessed (roundNumber base)).processedDrandJobsCount) ∨
      (roundNumber base < 2 ^ 32 ∧ storage.nextJobId (roundNumber base) < 2 ^ 16 ∧
        response.msgs.filterMap sentJob = [] ∧
        response.acknowledgement = some (queuedAck (roundNumber base)) ∧
        after.jobs =
          (storage.pushJob (roundNumber base) (requestedJob channelId base origin)).jobs ∧
        after.lastJobId =
          (storage.pushJob (roundNumber base) (requestedJob channelId base origin)).lastJobId ∧
        after.processedDrandJobsCount = storage.processedDrandJobsCount) := by
  cases accepted with
  | intro short route known counted configured =>
      cases route with
      | processed archived counted time deadline =>
          refine .inl ⟨⟨_, archived⟩, ?_, rfl, rfl, rfl, rfl⟩
          simp [Response.msgs, payMsg_unsent]
      | @queued config missing small free found =>
          have unsent : (incentivizeMsgs config (roundNumber base)).filterMap sentJob = [] := by
            cases drand : config.drand <;> simp [incentivizeMsgs, drand, sentJob]
          refine .inr ⟨small, free, ?_, rfl, rfl, rfl, rfl⟩
          rw [Response.msgs, SubMsg.map_msg_new, List.filterMap_append, unsent]
          simp [payMsg_unsent]

structure Accounts (world : World) : Prop where
  ids : ∀ round id job, world.storage.jobs[toLex (round, id)]? = some job →
    id < world.storage.nextJobId round ∧ round < 2 ^ 32 ∧ job.sourceId = sourceIdOf round
  idBound : ∀ round, world.storage.nextJobId round ≤ 2 ^ 16
  archived : ∀ round randomness, world.storage.archive[round]? = some randomness → round < 2 ^ 32
  order : ∀ round, world.enqueued round = world.released round ++ world.storage.queue round
  balance : ∀ round, (world.accepted round).Perm (world.sent round ++ world.storage.queue round)
  processed : ∀ round, getProcessedDrandJobs world.storage round = (world.sent round).length
  large : ∀ round, 2 ^ 32 ≤ round → world.sent round = []

theorem accounts_initial : Accounts World.initial := by
  have queue (round : Nat) : Storage.empty.queue round = [] := by
    simp [Storage.empty, Storage.queue, prefixRange_empty]
  refine ⟨?_, ?_, ?_, ?_, ?_, ?_, ?_⟩
  · intro round id job found
    simp [World.initial, Storage.empty] at found
  · intro round
    simp [World.initial, Storage.empty, Storage.nextJobId]
  · intro round randomness found
    simp [World.initial, Storage.empty] at found
  · intro round
    simp [queue, World.enqueued, World.released, World.initial]
  · intro round
    simp [queue, World.accepted, World.sent, World.initial]
  · intro round
    simp [World.sent, World.initial, getProcessedDrandJobs, Storage.empty]
  · intro round _
    simp [World.sent, World.initial]

theorem Accounts.commit {world : World} {tx : Tx} {response : Response ContractMsg}
    {after : Storage} (accounts : Accounts world)
    (ids : ∀ round id job, after.jobs[toLex (round, id)]? = some job →
      id < after.nextJobId round ∧ round < 2 ^ 32 ∧ job.sourceId = sourceIdOf round)
    (idBound : ∀ round, after.nextJobId round ≤ 2 ^ 16)
    (archived : ∀ round randomness, after.archive[round]? = some randomness → round < 2 ^ 32)
    (order : ∀ round, world.storage.queue round ++ (Entry.queuedFor round ⟨tx, response⟩).toList =
      Entry.releasedFor round ⟨tx, response⟩ ++ after.queue round)
    (balance :
      ∀ round,
        ((Entry.acceptedFor round ⟨tx, response⟩).toList ++ world.storage.queue round).Perm
          (Entry.sentFor round ⟨tx, response⟩ ++ after.queue round))
    (processed : ∀ round, getProcessedDrandJobs after round =
      getProcessedDrandJobs world.storage round + (Entry.sentFor round ⟨tx, response⟩).length)
    (large : ∀ round, 2 ^ 32 ≤ round → Entry.sentFor round ⟨tx, response⟩ = []) :
    Accounts (world.commit tx response after) := by
  refine ⟨ids, idBound, archived, ?_, ?_, ?_, ?_⟩
  · intro round
    rw [World.enqueued_commit, World.released_commit, accounts.order round, List.append_assoc,
      order round, List.append_assoc]
    rfl
  · intro round
    rw [World.accepted_commit, World.sent_commit]
    have appended := (accounts.balance round).append_right
      (Entry.acceptedFor round ⟨tx, response⟩).toList
    rw [List.append_assoc] at appended ⊢
    exact appended.trans (List.Perm.append_left _ (List.perm_append_comm.trans (balance round)))
  · intro round
    rw [World.sent_commit, List.length_append, ← accounts.processed round]
    exact processed round
  · intro round exceeds
    rw [World.sent_commit, accounts.large round exceeds, large round exceeds]
    rfl

theorem Accounts.commit_silent {world : World} {tx : Tx} {response : Response ContractMsg}
    {after : Storage} (accounts : Accounts world) (silent : Entry.Silent ⟨tx, response⟩)
    (same : SameJobs world.storage after) : Accounts (world.commit tx response after) := by
  have nextId (round : Nat) : after.nextJobId round = world.storage.nextJobId round := by
    simp [Storage.nextJobId, same.lastJobId]
  have queue (round : Nat) : after.queue round = world.storage.queue round := by
    simp [Storage.queue, same.jobs]
  have released (round : Nat) : Entry.releasedFor round ⟨tx, response⟩ = [] := by
    simp only [Entry.releasedFor, silent.sent round]
    cases tx.action <;> rfl
  refine accounts.commit ?_ ?_ ?_ ?_ ?_ ?_ ?_
  · intro round id job found
    rw [same.jobs] at found
    simpa only [nextId] using accounts.ids round id job found
  · intro round
    simpa only [nextId] using accounts.idBound round
  · intro round randomness found
    rw [same.archive] at found
    exact accounts.archived round randomness found
  · intro round
    simp [Entry.queuedFor, silent.accepted, queue, released]
  · intro round
    simp [silent.accepted, silent.sent, queue]
  · intro round
    simp [silent.sent, getProcessedDrandJobs, same.processed]
  · intro round _
    exact silent.sent round

theorem Accounts.commit_accepted {env : Env} {world : World} {tx : Tx} {msg : IbcPacketReceiveMsg}
    {base : Timestamp} {origin : Binary} {response : Response ContractMsg} {after : Storage}
    (accounts : Accounts world) (action : tx.action = .packetReceive msg)
    (decoded : Wire.inPacket.fromJson msg.data = .ok (.requestBeacon base origin))
    (request : Accepted env msg.destChannel msg.relayer base origin world.storage response after) :
    Accounts (world.commit tx response after) := by
  have acceptedFor := request.acceptedFor action decoded
  have released (round : Nat) : Entry.releasedFor round ⟨tx, response⟩ = [] := by
    simp [Entry.releasedFor, action]
  have archived (round : Nat) (randomness : Binary)
      (found : after.archive[round]? = some randomness) : round < 2 ^ 32 :=
    accounts.archived round randomness (request.frame.2.1 ▸ found)
  rcases request.jobs with ⟨⟨_, stored⟩, sent, answer, jobs, lastJobId, processed⟩ |
    ⟨small, free, unsent, answer, jobs, lastJobId, processed⟩
  · -- sent at once: the queues stay, the sent jobs and their counter grow together
    have nextId (round : Nat) : after.nextJobId round = world.storage.nextJobId round := by
      simp [Storage.nextJobId, lastJobId]
    have queue (round : Nat) : after.queue round = world.storage.queue round := by
      simp [Storage.queue, jobs]
    have sentFor (round : Nat) : Entry.sentFor round ⟨tx, response⟩ =
        if roundNumber base = round then [requestedJob msg.destChannel base origin] else [] := by
      have tagged : (requestedJob msg.destChannel base origin).sourceId = sourceIdOf round ↔
          roundNumber base = round :=
        ⟨sourceIdOf_injective, fun same => by rw [← same]; rfl⟩
      simp [Entry.sentFor, sent, List.filter_cons, tagged]
    refine accounts.commit ?_ ?_ archived ?_ ?_ ?_ ?_
    · intro round id job found
      rw [jobs] at found
      simpa only [nextId] using accounts.ids round id job found
    · intro round
      simpa only [nextId] using accounts.idBound round
    · intro round
      simp [Entry.queuedFor, acknowledgesQueued_processed answer, queue, released]
    · intro round
      rw [acceptedFor, sentFor, queue]
      by_cases same : roundNumber base = round <;> simp [same]
    · intro round
      have counter : getProcessedDrandJobs after round =
          getProcessedDrandJobs (world.storage.countProcessed (roundNumber base)) round := by
        simp only [getProcessedDrandJobs, processed]
      rw [counter, getProcessed_countProcessed, sentFor]
      by_cases same : roundNumber base = round <;> simp [same]
    · intro round exceeds
      have bound := accounts.archived _ _ stored
      rw [sentFor, if_neg (by omega)]
  · -- queued: the job is the last one of its round
    have sentFor (round : Nat) : Entry.sentFor round ⟨tx, response⟩ = [] := by
      simp [Entry.sentFor, unsent]
    have queue (round : Nat) : after.queue round = world.storage.queue round ++
        if roundNumber base = round then [requestedJob msg.destChannel base origin] else [] := by
      have pushed : after.queue round =
          (world.storage.pushJob (roundNumber base)
            (requestedJob msg.destChannel base origin)).queue round := by
        simp [Storage.queue, jobs]
      rw [pushed]
      by_cases same : roundNumber base = round
      · subst same
        simpa using queue_pushJob fun id stored found => (accounts.ids _ id stored found).1
      · simpa [same] using queue_pushJob_other same
    have nextId (round : Nat) : after.nextJobId round =
        world.storage.nextJobId round + if roundNumber base = round then 1 else 0 := by
      simp only [Storage.nextJobId, lastJobId, Storage.pushJob, get_insert]
      by_cases same : roundNumber base = round <;> simp [same]
    refine accounts.commit ?_ ?_ archived ?_ ?_ ?_ ?_
    · intro round id job found
      simp only [jobs, Storage.pushJob, get_insert_pair] at found
      rw [nextId]
      split at found
      · rename_i same
        obtain ⟨rfl, rfl⟩ := same
        cases found
        exact ⟨by simp, small, rfl⟩
      · obtain ⟨below, bound, source⟩ := accounts.ids round id job found
        exact ⟨by omega, bound, source⟩
    · intro round
      have bound := accounts.idBound round
      rw [nextId]
      by_cases same : roundNumber base = round
      · subst same
        simp only [if_true]
        omega
      · simpa [same] using bound
    · intro round
      rw [queue, released]
      by_cases same : roundNumber base = round <;>
        simp [Entry.queuedFor, acknowledgesQueued_queued answer, acceptedFor, same]
    · intro round
      rw [acceptedFor, sentFor, queue]
      by_cases same : roundNumber base = round
      · simp only [same, if_true, Option.toList_some, List.nil_append]
        exact List.perm_append_comm
      · simp [same]
    · intro round
      simp [sentFor, getProcessedDrandJobs, processed]
    · intro round _
      exact sentFor round

theorem Accounts.commit_verified {env : Env} {world : World} {tx : Tx} {info : MessageInfo}
    {round : Nat} {randomness : Binary} {isVerifyingTx : Bool} {drand : NewDrand}
    {response : Response ContractMsg} {after : Storage} (accounts : Accounts world)
    (action : tx.action = .execute info (.addVerifiedRound round randomness isVerifyingTx))
    (processed : newDrand env round randomness isVerifyingTx world.storage = .ok drand after)
    (messages : response.msgs = drand.msgs) :
    Accounts (world.commit tx response after) := by
  obtain ⟨_, small, jobs, drains, _⟩ := newDrand_ok processed
  obtain ⟨_, _, _, archive, lastJobId⟩ := drains.frame
  have queue : world.storage.queue round = jobs ++ after.queue round := drains.queue
  have acceptedFor (other : Nat) : Entry.acceptedFor other ⟨tx, response⟩ = none := by
    simp [Entry.acceptedFor, action]
  have queuedFor (other : Nat) : Entry.queuedFor other ⟨tx, response⟩ = none := by
    simp [Entry.queuedFor, acceptedFor]
  have nextId (other : Nat) : after.nextJobId other = world.storage.nextJobId other := by
    simp [Storage.nextJobId, lastJobId, Storage.setArchive]
  -- the queue of a round holds jobs of that round only, so all that is sent is for it
  have tagged : ∀ job ∈ jobs, job.sourceId = sourceIdOf round := by
    intro job member
    have queued : job ∈ world.storage.queue round := by
      rw [queue]
      exact List.mem_append_left _ member
    simp only [Storage.queue, List.mem_map, Prod.exists] at queued
    obtain ⟨id, stored, listed, rfl⟩ := queued
    exact (accounts.ids round id stored (mem_prefixRange.mp listed)).2.2
  have sentFor (other : Nat) :
      Entry.sentFor other ⟨tx, response⟩ = if round = other then jobs else [] := by
    simp only [Entry.sentFor, messages, drains.sent]
    by_cases same : round = other
    · subst same
      simpa [List.filter_eq_self] using tagged
    · simp only [same, if_false, List.filter_eq_nil_iff, decide_eq_true_eq]
      intro job member equal
      exact same (sourceIdOf_injective ((tagged job member).symm.trans equal))
  have releasedFor (other : Nat) : Entry.releasedFor other ⟨tx, response⟩ =
      if round = other then jobs else [] := by
    simp [Entry.releasedFor, action, sentFor]
  have split (other : Nat) : world.storage.queue other =
      (if round = other then jobs else []) ++ after.queue other := by
    by_cases same : round = other
    · subst same
      simpa using queue
    · simpa [same, Storage.queue, Storage.setArchive] using (drains.queue_other same).symm
  refine accounts.commit ?_ ?_ ?_ ?_ ?_ ?_ ?_
  · intro other id job found
    rw [nextId]
    exact accounts.ids other id job (drains.stored found)
  · intro other
    rw [nextId]
    exact accounts.idBound other
  · intro other stored found
    rw [archive] at found
    simp only [Storage.setArchive, get_insert] at found
    split at found
    · rename_i same
      exact same ▸ small
    · exact accounts.archived other stored found
  · intro other
    rw [queuedFor, releasedFor]
    simpa using split other
  · intro other
    rw [acceptedFor, sentFor, ← split other]
    simp
  · intro other
    rw [drains.processed other, sentFor]
    by_cases same : round = other <;> simp [same, getProcessedDrandJobs, Storage.setArchive]
  · intro other exceeds
    rw [sentFor, if_neg (by omega)]

theorem Accounts.commit_effect {deps : Deps} {env : Env} {world : World} {tx : Tx}
    {response : Response ContractMsg} {after : Storage} (accounts : Accounts world)
    (registered : Registered world) (admitted : world.admits tx.action = true)
    (effect : Effect deps env world.storage tx.action response after) :
    Accounts (world.commit tx response after) := by
  rcases effect_kinds registered admitted effect with ⟨silent, same⟩ |
    ⟨msg, base, origin, action, decoded, accepted⟩ |
    ⟨info, round, randomness, isVerifyingTx, drand, action, processed, messages⟩
  · exact accounts.commit_silent silent same
  · exact accounts.commit_accepted action decoded accepted
  · exact accounts.commit_verified action processed messages

theorem reached_accounts (deps : Deps) (contract : Addr) (txs : List Tx) :
    Accounts (reached deps contract txs) := by
  refine reached_invariant_registered accounts_initial ?_ txs
  intro world tx response after registered accounts admitted effect
  exact accounts.commit_effect registered admitted effect

theorem Accounts.accepted_length {world : World} (accounts : Accounts world) (round : Nat) :
    (world.accepted round).length =
      getProcessedDrandJobs world.storage round + (world.storage.queue round).length := by
  rw [(accounts.balance round).length_eq, List.length_append, accounts.processed round]

theorem Accounts.beyond {world : World} (accounts : Accounts world) {round : Nat}
    (exceeds : 2 ^ 32 ≤ round) :
    world.accepted round = [] ∧ getProcessedDrandJobs world.storage round = 0 ∧
      world.storage.queue round = [] := by
  have unsent := accounts.large round exceeds
  have unqueued : world.storage.queue round = [] := by
    rw [Storage.queue, List.map_eq_nil_iff, List.eq_nil_iff_forall_not_mem]
    rintro ⟨id, job⟩ listed
    have bound := (accounts.ids round id job (mem_prefixRange.mp listed)).2.1
    omega
  refine ⟨?_, ?_, unqueued⟩
  · have none := accounts.balance round
    rwa [unsent, unqueued, List.append_nil, List.perm_nil] at none
  · rw [accounts.processed round, unsent]
    rfl

/-- What an accepted request tells its sender, its log and its queue. -/
structure Answered (channelId : String) (base : Timestamp) (origin : Binary)
    (before after : Storage) (response : Response ContractMsg) (entry : RequestLogEntry) :
    Prop where
  logged : requestsLogOf after channelId =
    Deque.pushBack (2 ^ 32) (requestsLogOf before channelId) entry
  echoed : entry.origin = origin
  sourceId : entry.sourceId = sourceIdOf (roundNumber base)
  processed : response.acknowledgement = some (processedAck (roundNumber base)) ↔
    response.msgs.filterMap sentJob = [requestedJob channelId base origin]
  unsent : response.acknowledgement ≠ some (processedAck (roundNumber base)) →
    response.msgs.filterMap sentJob = []
  queued : response.acknowledgement = some (queuedAck (roundNumber base)) ↔
    after.queue (roundNumber base) =
      before.queue (roundNumber base) ++ [requestedJob channelId base origin]
  unqueued : response.acknowledgement ≠ some (queuedAck (roundNumber base)) →
    after.queue (roundNumber base) = before.queue (roundNumber base)
  flag : entry.queued = true ↔ response.acknowledgement = some (queuedAck (roundNumber base))
  unflagged :
    entry.queued = false ↔ response.acknowledgement = some (processedAck (roundNumber base))

theorem Accepted.logged {env : Env} {channelId : String} {relayer : Addr} {base : Timestamp}
    {origin : Binary} {storage after : Storage} {response : Response ContractMsg}
    (accepted : Accepted env channelId relayer base origin storage response after) :
    ∃ entry,
      requestsLogOf after channelId =
        Deque.pushBack (2 ^ 32) (requestsLogOf storage channelId) entry ∧
        entry.origin = origin ∧ entry.sourceId = sourceIdOf (roundNumber base) ∧
        response.acknowledgement =
          some (if entry.queued then queuedAck (roundNumber base)
            else processedAck (roundNumber base)) := by
  cases accepted with
  | @intro receipt routed customer config short route known counted configured =>
      refine ⟨requestLogEntry env origin receipt, ?_, rfl, ?_⟩
      · rw [route.requestsLogOf, if_pos rfl]
      · cases route with
        | processed => exact ⟨rfl, rfl⟩
        | queued => exact ⟨rfl, rfl⟩

theorem Accepted.answered {env : Env} {channelId : String} {relayer : Addr} {base : Timestamp}
    {origin : Binary} {storage after : Storage} {response : Response ContractMsg}
    (below : ∀ id stored, storage.jobs[toLex (roundNumber base, id)]? = some stored →
      id < storage.nextJobId (roundNumber base))
    (accepted : Accepted env channelId relayer base origin storage response after) :
    ∃ entry, Answered channelId base origin storage after response entry := by
  obtain ⟨entry, logged, echoed, sourceId, flagged⟩ := accepted.logged
  have different := queuedAck_ne_processedAck (roundNumber base)
  refine ⟨entry, ?_⟩
  rcases accepted.jobs with ⟨_, sent, answer, jobs, _⟩ | ⟨_, _, unsent, answer, jobs, _⟩
  · have queue : after.queue (roundNumber base) = storage.queue (roundNumber base) := by
      simp [Storage.queue, jobs]
    have flag : entry.queued = false := by
      cases queued : entry.queued
      · rfl
      · simp [queued, answer, different.symm] at flagged
    exact ⟨logged, echoed, sourceId, by simp [answer, sent], by simp [answer],
      by simp [answer, different.symm, queue], fun _ => queue,
      by simp [flag, answer, different.symm], by simp [flag, answer]⟩
  · have queue : after.queue (roundNumber base) =
        storage.queue (roundNumber base) ++ [requestedJob channelId base origin] := by
      rw [← queue_pushJob below]
      simp [Storage.queue, jobs]
    have flag : entry.queued = true := by
      cases queued : entry.queued
      · simp [queued, answer, different] at flagged
      · rfl
    exact ⟨logged, echoed, sourceId, by simp [answer, different, unsent], fun _ => unsent,
      by simp [answer, queue], by simp [answer], by simp [flag, answer],
      by simp [flag, answer, different]⟩

/-- The accepted jobs of a round are the sent ones and the queued ones, the counters
agree with them, queued jobs are sent in their order, and every accepted request is
answered and logged as what happened to it. Rounds beyond 32 bits have no jobs. -/
structure JobAccounting (world : World) (round : Nat) : Prop where
  balance : (world.accepted round).Perm (world.sent round ++ world.storage.queue round)
  counted : round < 2 ^ 32 → ∃ unprocessed,
    unprocessedDrandJobsLen round world.storage = .ok unprocessed world.storage ∧
      (world.accepted round).length = getProcessedDrandJobs world.storage round + unprocessed
  beyond : 2 ^ 32 ≤ round →
    world.accepted round = [] ∧ getProcessedDrandJobs world.storage round = 0
  order : world.enqueued round = world.released round ++ world.storage.queue round
  answered : ∀ env msg base origin response after data,
    msg.destChannel ∈ world.connected →
    Wire.inPacket.fromJson msg.data = .ok (.requestBeacon base origin) →
    ibcPacketReceive env msg world.storage = .ok response after →
    response.acknowledgement = some (.success data) →
    ∃ entry, Answered msg.destChannel base origin world.storage after response entry

theorem reached_jobAccounting (deps : Deps) (contract : Addr) (txs : List Tx) (round : Nat) :
    JobAccounting (reached deps contract txs) round := by
  have accounts := reached_accounts deps contract txs
  generalize reached deps contract txs = world at accounts
  refine ⟨accounts.balance round, ?_, ?_, accounts.order round, ?_⟩
  · intro small
    refine ⟨(world.storage.queue round).length, unprocessedDrandJobsLen_eq small ?_,
      accounts.accepted_length round⟩
    intro id stored found
    exact lt_of_lt_of_le (accounts.ids round id stored found).1 (accounts.idBound round)
  · intro exceeds
    obtain ⟨accepted, processed, _⟩ := accounts.beyond exceeds
    exact ⟨accepted, processed⟩
  · intro env msg base origin response after data connected decoded returned success
    cases ibcPacketReceive_ok returned with
    | request decodedAgain accepted =>
        rw [decoded] at decodedAgain
        cases decodedAgain
        exact accepted.answered fun id stored found => (accounts.ids _ id stored found).1
    | price decodedPrice configured =>
        rw [decoded] at decodedPrice
        cases decodedPrice
    | failure failed =>
        simp [failureResponse] at success

end NoisContracts.Gateway
