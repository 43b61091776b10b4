import NoisContracts.Library.Ranking
import NoisContracts.Drand.Effects

/-!
Bookkeeping of the submissions. The history of a round is the list of its successful
submissions, read off the journal. The contract keeps it in three maps: one entry per
round and bot with the position of the submission, a count per round and the beacon
of the first submission.
-/

namespace NoisContracts.Drand

open ContractCall ContractCall.Call OrderedStore Ranking

def submissionOf (round : Nat) (entry : Tx × Response ContractMsg) : Option QueriedSubmission :=
  match entry.1.action with
  | .execute info (.addRound submitted _) =>
      if submitted = round then
        some ⟨info.sender, entry.1.block.time, entry.1.block.height, entry.1.index⟩
      else none
  | _ => none

def history (world : World) (round : Nat) : List QueriedSubmission :=
  world.log.filterMap (submissionOf round)

def storedAs (ranked : QueriedSubmission × Nat) : Addr × StoredSubmission :=
  (ranked.1.bot, ⟨ranked.2, ranked.1.time, ranked.1.height, ranked.1.txIndex⟩)

theorem history_commit (world : World) (tx : Tx) (response : Response ContractMsg) (after : Storage)
    (round : Nat) : history (world.commit tx response after) round =
      history world round ++ (submissionOf round (tx, response)).toList := by
  cases submission : submissionOf round (tx, response) <;>
    simp [history, submission]

/-- The maps of the contract against the history of every round. -/
structure Bookkeeping (world : World) : Prop where
  stored : ∀ round, (prefixRange world.storage.submissions round).Perm
    ((ranked (history world round)).map storedAs)
  counted : ∀ round, submissionsCountOf world.storage round = (history world round).length
  beacons : ∀ round, (∃ beacon, world.storage.beacons[round]? = some beacon) ↔
    0 < (history world round).length

theorem bookkeeping_initial : Bookkeeping ⟨Storage.empty, []⟩ := by
  refine ⟨?_, ?_, ?_⟩
  · intro round
    simp [history, Storage.empty, prefixRange_empty, ranked]
  · intro round
    simp [history, Storage.empty, submissionsCountOf]
  · intro round
    simp [history, Storage.empty]

section

variable {host : Host} {env : Env} {balances : List Coin} {info : MessageInfo} {round : Nat}
  {signature : Binary} {storage after : Storage} {response : Response ContractMsg} {config : Config}
  {payout : Coin}

theorem creditBot_sameRounds (storage : Storage) (sender : Addr) (points : Nat) :
    SameRounds storage (storage.creditBot sender points) := by
  unfold Storage.creditBot
  split <;> exact ⟨rfl, rfl, rfl⟩

theorem Added.submissions
    (added : Added host env balances info round signature storage response after config payout) :
    after.submissions =
      storage.submissions.insert (toLex (round, info.sender)) ⟨submissionsCountOf storage round + 1,
        env.block.time, env.block.height, env.transaction⟩ := by
  have kept :=
    creditBot_sameRounds
      (storage.recordSubmission round info.sender
        ⟨submissionsCountOf storage round + 1, env.block.time, env.block.height, env.transaction⟩)
      info.sender (grantedPoints host storage config info.sender round)
  rw [added.changed, Storage.keepBeacon]
  split <;> exact kept.submissions

theorem Added.submissionsCount
    (added : Added host env balances info round signature storage response after config payout)
    (other : Nat) :
    submissionsCountOf after other =
      if round = other then submissionsCountOf storage round + 1
        else submissionsCountOf storage other := by
  have kept :=
    creditBot_sameRounds
      (storage.recordSubmission round info.sender
        ⟨submissionsCountOf storage round + 1, env.block.time, env.block.height, env.transaction⟩)
      info.sender (grantedPoints host storage config info.sender round)
  have counts : after.submissionsCount =
      storage.submissionsCount.insert round (submissionsCountOf storage round + 1) := by
    rw [added.changed, Storage.keepBeacon]
    split <;> exact kept.submissionsCount
  rw [submissionsCountOf, counts, get_insert]
  split <;> rfl

theorem Added.beacons (added : Added host env balances info round signature storage response after
    config payout) (other : Nat) :
    after.beacons[other]? =
      if round = other then
        some (storage.beacons[round]?.getD ⟨env.block.time, host.deriveRandomness signature⟩)
      else storage.beacons[other]? := by
  have kept :=
    (creditBot_sameRounds
      (storage.recordSubmission round info.sender
        ⟨submissionsCountOf storage round + 1, env.block.time, env.block.height, env.transaction⟩)
      info.sender (grantedPoints host storage config info.sender round)).beacons
  rw [added.changed, Storage.keepBeacon, kept]
  have same : (storage.recordSubmission round info.sender ⟨submissionsCountOf storage round + 1,
      env.block.time, env.block.height, env.transaction⟩).beacons = storage.beacons := rfl
  rw [same]
  cases found : storage.beacons[round]? with
  | some beacon =>
      rw [if_pos (contains_eq_true.mpr ⟨beacon, found⟩), kept, same]
      split
      · rename_i equal
        rw [← equal, found]
        rfl
      · rfl
  | none =>
      have absent := contains_eq_false.mpr found
      simp only [absent, Bool.false_eq_true, if_false, get_insert]
      split <;> rfl

end

theorem Bookkeeping.commit_added {host : Host} {env : Env} {world : World} {tx : Tx}
    {info : MessageInfo} {round : Nat} {signature : Binary} {response : Response ContractMsg}
    {after : Storage} {config : Config} {payout : Coin} (books : Bookkeeping world)
    (env_eq : env.block = tx.block ∧ env.transaction = tx.index)
    (action : tx.action = .execute info (.addRound round signature))
    (added : Added host env tx.balances info round signature world.storage response after config
      payout) : Bookkeeping (world.commit tx response after) := by
  have grown : history (world.commit tx response after) round = history world round ++
      [⟨info.sender, env.block.time, env.block.height, env.transaction⟩] := by
    rw [history_commit]
    simp [submissionOf, action, env_eq]
  have unchanged {other : Nat} (different : round ≠ other) :
      history (world.commit tx response after) other = history world other := by
    rw [history_commit]
    simp [submissionOf, action, different]
  refine ⟨?_, ?_, ?_⟩
  · intro other
    have scanned : prefixRange (world.commit tx response after).storage.submissions other =
        prefixRange (world.storage.submissions.insert (toLex (round, info.sender))
          ⟨submissionsCountOf world.storage round + 1, env.block.time, env.block.height,
            env.transaction⟩) other := by
      rw [← added.submissions, Journal.World.commit_storage]
    rw [scanned]
    by_cases same : round = other
    · subst same
      rw [grown, ranked_append, List.map_append, books.counted round]
      refine (prefixRange_insert_perm added.first).trans ?_
      exact ((books.stored round).cons _).trans (List.perm_append_singleton _ _).symm
    · rw [prefixRange_insert_other same, unchanged same]
      exact books.stored other
  · intro other
    have count := added.submissionsCount other
    by_cases same : round = other
    · subst same
      rw [grown, List.length_append, ← books.counted round]
      simpa using count
    · rw [unchanged same, ← books.counted other]
      simpa [same] using count
  · intro other
    have beacon := added.beacons other
    by_cases same : round = other
    · subst same
      rw [grown, List.length_append]
      simp only [if_true] at beacon
      exact ⟨fun _ => by simp, fun _ => ⟨_, beacon⟩⟩
    · rw [unchanged same, ← books.beacons other]
      simp only [same, if_false] at beacon
      exact ⟨fun ⟨stored, found⟩ => ⟨stored, beacon ▸ found⟩,
        fun ⟨stored, found⟩ => ⟨stored, beacon.trans found⟩⟩

theorem submissionOf_unrelated {tx : Tx} {response : Response ContractMsg} {round : Nat}
    (unrelated : ∀ info round signature, tx.action ≠ .execute info (.addRound round signature)) :
    submissionOf round (tx, response) = none := by
  unfold submissionOf
  split
  · rename_i info submitted signature action
    exact (unrelated info submitted signature action).elim
  · rfl

theorem Bookkeeping.commit_other {world : World} {tx : Tx} {response : Response ContractMsg}
    {after : Storage} (books : Bookkeeping world)
    (unrelated : ∀ info round signature, tx.action ≠ .execute info (.addRound round signature))
    (same : SameRounds world.storage after) : Bookkeeping (world.commit tx response after) := by
  have unchanged (round : Nat) :
      history (world.commit tx response after) round = history world round := by
    rw [history_commit, submissionOf_unrelated unrelated, Option.toList_none, List.append_nil]
  refine ⟨?_, ?_, ?_⟩
  · intro round
    rw [unchanged]
    simpa [same.submissions] using books.stored round
  · intro round
    rw [unchanged]
    simpa [submissionsCountOf, same.submissionsCount] using books.counted round
  · intro round
    rw [unchanged]
    simpa [same.beacons] using books.beacons round

theorem Bookkeeping.commit {host : Host} {contract : Addr} {world : World} {tx : Tx}
    {response : Response ContractMsg} {after : Storage} (books : Bookkeeping world)
    (returned : perform host contract tx world.storage = .ok response after) :
    Bookkeeping (world.commit tx response after) := by
  have effect := perform_effect returned
  generalize action : tx.action = performed at effect
  cases effect with
  | added submission => exact books.commit_added ⟨rfl, rfl⟩ action submission
  | other unrelated messages same => exact books.commit_other (action ▸ unrelated) same

theorem reached_bookkeeping (host : Host) (contract : Addr) (txs : List Tx) :
    Bookkeeping (reached host contract txs) := by
  refine Journal.System.reached_invariant bookkeeping_initial ?_ txs
  intro world tx response after books _ returned
  exact books.commit returned

/-- The bookkeeping of one round: the count is the number of stored submissions, their
positions run from 1 to the count, a beacon is stored as soon as there is a submission,
no bot submits twice and the query lists the submissions in the order of their success. -/
structure SubmissionBooks (world : World) (round : Nat) : Prop where
  counted : submissionsCountOf world.storage round =
    (prefixRange world.storage.submissions round).length
  positions : ((prefixRange world.storage.submissions round).map fun entry => entry.2.pos).Perm
    (List.range' 1 (submissionsCountOf world.storage round))
  beacon : (∃ beacon, world.storage.beacons[round]? = some beacon) ↔
    0 < submissionsCountOf world.storage round
  loads : numberOfSubmissionVerificationPerRound ≤ submissionsCountOf world.storage round →
    ∃ beacon, loadBeacon round world.storage = .ok beacon world.storage
  once : ((history world round).map QueriedSubmission.bot).Nodup
  listed : querySubmissions world.storage round = history world round

theorem reached_submissionBooks (host : Host) (contract : Addr) (txs : List Tx) (round : Nat) :
    SubmissionBooks (reached host contract txs) round := by
  have books := reached_bookkeeping host contract txs
  generalize reached host contract txs = world at books
  have stored := books.stored round
  have beacon : (∃ beacon, world.storage.beacons[round]? = some beacon) ↔
      0 < submissionsCountOf world.storage round := by
    rw [books.counted round]
    exact books.beacons round
  refine ⟨?_, ?_, beacon, ?_, ?_, ?_⟩
  · rw [books.counted round, stored.length_eq, List.length_map, ← List.length_map Prod.fst,
      ranked_entries]
  · rw [books.counted round, ← ranked_ranks]
    have positions := stored.map fun entry => entry.2.pos
    rwa [List.map_map] at positions
  · intro verified
    have positive : 0 < submissionsCountOf world.storage round := by
      simp only [numberOfSubmissionVerificationPerRound] at verified
      omega
    obtain ⟨found, present⟩ := beacon.mpr positive
    exact ⟨found, loadBeacon_eq_ok.mpr ⟨present, rfl⟩⟩
  · -- the scan has every bot once, and it has the bots of the history
    have bots : ((prefixRange world.storage.submissions round).map Prod.fst).Perm
        ((history world round).map QueriedSubmission.bot) := by
      have firsts := stored.map Prod.fst
      rw [List.map_map] at firsts
      rw [← ranked_entries (history world round), List.map_map]
      exact firsts
    refine bots.nodup_iff.mp ?_
    rw [List.Nodup, List.pairwise_map]
    exact (prefixRange_sorted world.storage.submissions round).imp fun smaller => smaller.ne
  · have ascending : ((ranked (history world round)).map storedAs).Pairwise
        fun first second => first.2.pos < second.2.pos := by
      rw [List.pairwise_map]
      exact ranked_ascending (history world round)
    rw [querySubmissions, mergeSort_eq_of_perm stored ascending, List.map_map]
    exact ranked_entries (history world round)

end NoisContracts.Drand
