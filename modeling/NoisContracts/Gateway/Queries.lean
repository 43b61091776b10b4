import NoisContracts.Library.Pages
import NoisContracts.Gateway.Customers

/-!
The list queries of the gateway. They show windows of two lists that are read off the
log: the jobs that are queued and not yet sent, by round and then in the order of
their arrival, and the accepted requests of a channel in the order of their arrival, as
far as the deque of the channel keeps them.
-/

namespace NoisContracts.Gateway

open ContractCall ContractCall.Call OrderedStore

def allUnprocessedDrandJobs (storage : Storage) (order : Order) (offset limit : Nat) : List Job :=
  (((range storage.jobs none none order).drop offset).take limit).map Prod.snd

def requestsLogAsc (storage : Storage) (channelId : String) (offset limit : Nat) :
    List RequestLogEntry :=
  ((requestsLogOf storage channelId).drop offset).take limit

def requestsLogDesc (storage : Storage) (channelId : String) (offset limit : Nat) :
    List RequestLogEntry :=
  ((requestsLogOf storage channelId).reverse.drop offset).take limit

def queryJobs (storage : Storage) (order : Order) (offset limit : Option Nat) : List Job :=
  allUnprocessedDrandJobs storage order (offset.getD 0) (limit.getD 50)

def queryRequestsAsc (storage : Storage) (channelId : String) (offset limit : Option Nat) :
    List RequestLogEntry :=
  requestsLogAsc storage channelId (offset.getD 0) (limit.getD 50)

def queryRequestsDesc (storage : Storage) (channelId : String) (offset limit : Option Nat) :
    List RequestLogEntry :=
  requestsLogDesc storage channelId (offset.getD 0) (limit.getD 50)

def directed {α : Type} (order : Order) (list : List α) : List α :=
  match order with
  | .ascending => list
  | .descending => list.reverse

theorem range_jobs {storage : Storage} {bound : Nat}
    (below : ∀ (round id : Nat) (job : Job), storage.jobs[toLex (round, id)]? = some job →
      round < bound) (order : Order) :
    (range storage.jobs none none order).map Prod.snd =
      directed order ((List.range bound).flatMap storage.queue) := by
  have entries : storage.jobs.toList.map Prod.snd = (List.range bound).flatMap storage.queue := by
    rw [toList_eq_flatMap_prefixRange below, List.map_flatMap]
    congr 1
    funext round
    rw [List.map_map]
    rfl
  change (listing storage.jobs order).map Prod.snd = _
  cases order with
  | ascending => rw [listing_ascending, entries]; rfl
  | descending => rw [listing_descending, List.map_reverse, entries]; rfl

section

variable [Wire]

/-- The jobs of a round that were queued and not sent since. -/
def World.unprocessed (world : World) (round : Nat) : List Job :=
  (world.enqueued round).drop (world.released round).length

/-- The unprocessed jobs of all rounds, which are 32 bit numbers here. -/
def World.unprocessedJobs (world : World) : List Job :=
  (List.range (2 ^ 32)).flatMap world.unprocessed

theorem Accounts.unprocessed {world : World} (accounts : Accounts world) (round : Nat) :
    world.unprocessed round = world.storage.queue round := by
  rw [World.unprocessed, accounts.order round, List.drop_left]

theorem Accounts.queryJobs {world : World} (accounts : Accounts world) (order : Order)
    (offset limit : Option Nat) :
    Gateway.queryJobs world.storage order offset limit =
      window (directed order world.unprocessedJobs) (offset.getD 0) (limit.getD 50) := by
  have same : world.unprocessed = world.storage.queue := funext accounts.unprocessed
  have below (round id : Nat) (job : Job)
      (found : world.storage.jobs[toLex (round, id)]? = some job) : round < 2 ^ 32 :=
    (accounts.ids round id job found).2.1
  rw [World.unprocessedJobs, same, ← range_jobs below order, Gateway.queryJobs,
    allUnprocessedDrandJobs, window, List.map_take, List.map_drop]

theorem Logged.queryRequests {world : World} (logged : Logged world) (channel : String)
    (offset limit : Option Nat) :
    queryRequestsAsc world.storage channel offset limit =
      window (world.loggedOf channel) (offset.getD 0) (limit.getD 50) ∧
      queryRequestsDesc world.storage channel offset limit =
        window (world.loggedOf channel).reverse (offset.getD 0) (limit.getD 50) := by
  rw [queryRequestsAsc, queryRequestsDesc, requestsLogAsc, requestsLogDesc, logged channel]
  exact ⟨rfl, rfl⟩

/-- The list queries of a world. -/
structure FaithfulLists (world : World) : Prop where
  order : ∀ round, world.enqueued round = world.released round ++ world.unprocessed round
  jobs : ∀ order offset limit, queryJobs world.storage order offset limit =
    window (directed order world.unprocessedJobs) (offset.getD 0) (limit.getD 50)
  requestsAsc : ∀ channel offset limit, queryRequestsAsc world.storage channel offset limit =
    window (world.loggedOf channel) (offset.getD 0) (limit.getD 50)
  requestsDesc : ∀ channel offset limit, queryRequestsDesc world.storage channel offset limit =
    window (world.loggedOf channel).reverse (offset.getD 0) (limit.getD 50)
  /-- A log that was never full has all the accepted requests of its channel. -/
  complete : ∀ channel, (world.acceptedOf channel).length < 2 ^ 32 →
    world.loggedOf channel = world.acceptedOf channel
  allJobs : ∀ order limit count, world.unprocessedJobs.length ≤ count * limit →
    ((List.range count).flatMap
      fun index => queryJobs world.storage order (some (index * limit)) (some limit)) =
      directed order world.unprocessedJobs
  allRequestsAsc : ∀ channel limit count, (world.loggedOf channel).length ≤ count * limit →
    ((List.range count).flatMap fun index =>
      queryRequestsAsc world.storage channel (some (index * limit)) (some limit)) =
        world.loggedOf channel
  allRequestsDesc : ∀ channel limit count, (world.loggedOf channel).length ≤ count * limit →
    ((List.range count).flatMap fun index =>
      queryRequestsDesc world.storage channel (some (index * limit)) (some limit)) =
        (world.loggedOf channel).reverse
  ownChannel : ∀ channel offset limit request,
    request ∈ queryRequestsAsc world.storage channel offset limit ++
      queryRequestsDesc world.storage channel offset limit →
    ∃ entry ∈ world.log, ∃ msg, entry.tx.action = .packetReceive msg ∧ msg.destChannel = channel ∧
      entry.loggedFor channel = some request

theorem loggedFor_channel {entry : Entry} {channel : String} {request : RequestLogEntry}
    (logged : entry.loggedFor channel = some request) :
    ∃ msg, entry.tx.action = .packetReceive msg ∧ msg.destChannel = channel := by
  unfold Entry.loggedFor at logged
  split at logged
  · rename_i msg action
    split at logged
    · rw [Option.ite_none_right_eq_some] at logged
      exact ⟨msg, action, logged.1⟩
    · cases logged
  · cases logged

theorem reached_faithfulLists (deps : Deps) (contract : Addr) (txs : List Tx) :
    FaithfulLists (reached deps contract txs) := by
  have accounts := reached_accounts deps contract txs
  have logged := reached_logged deps contract txs
  generalize reached deps contract txs = world at accounts logged
  have asc (channel : String) (offset limit : Option Nat) :=
    (logged.queryRequests channel offset limit).1
  have desc (channel : String) (offset limit : Option Nat) :=
    (logged.queryRequests channel offset limit).2
  refine ⟨?_, accounts.queryJobs, asc, desc, fun _ below => Deque.kept_of_lt below, ?_, ?_, ?_, ?_⟩
  · intro round
    rw [accounts.unprocessed]
    exact accounts.order round
  · intro order limit count enough
    simp only [accounts.queryJobs, Option.getD_some]
    apply windows_complete
    cases order with
    | ascending => exact enough
    | descending => rwa [directed, List.length_reverse]
  · intro channel limit count enough
    simp only [asc, Option.getD_some]
    exact windows_complete _ enough
  · intro channel limit count enough
    simp only [desc, Option.getD_some]
    apply windows_complete
    rwa [List.length_reverse]
  · intro channel offset limit request member
    rw [asc, desc, List.mem_append] at member
    have listed : request ∈ world.loggedOf channel := by
      rcases member with first | second
      · exact List.mem_of_mem_drop (List.mem_of_mem_take first)
      · exact List.mem_reverse.mp (List.mem_of_mem_drop (List.mem_of_mem_take second))
    obtain ⟨entry, present, found⟩ := List.mem_filterMap.mp (Deque.kept_subset _ _ listed)
    obtain ⟨msg, action, channel_eq⟩ := loggedFor_channel found
    exact ⟨entry, present, msg, action, channel_eq, found⟩

end

section

attribute [local instance] jsonWire

open NoisHost

/-- After 2^32 accepted requests the first window of the log is empty. -/
theorem filled_log_hides_requests :
    (window ((reached deps gateway fillingLog).acceptedOf "channel-0") 0 1).length = 1 ∧
      queryRequestsAsc (reached deps gateway fillingLog).storage "channel-0" (some 0) (some 1) =
        [] := by
  obtain ⟨_, _, answered⟩ := fillingLog_facts
  refine ⟨?_, ?_⟩
  · rw [window, List.length_take, List.length_drop, World.acceptedOf_length, answered]
    decide
  · rw [queryRequestsAsc, requestsLogAsc, fillingLog_empty]
    rfl

end

end NoisContracts.Gateway
