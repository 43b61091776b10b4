import NoisContracts.Drand.Submissions

/-!
The stored beacons. Where at most one signature per round passes the check of the
drand network, every successful submission of a round has the randomness of the
beacon that the first one stored.
-/

namespace NoisContracts.Drand

open ContractCall ContractCall.Call OrderedStore

/-- What the signature check of the drand network promises. -/
def Host.UniqueSignatures (host : Host) : Prop :=
  ∀ round first second, host.verifies round first = true → host.verifies round second = true →
    first = second

/-- A submission of the round whose randomness is the one of the stored beacon. -/
def SubmittedAs (host : Host) (storage : Storage) (tx : Tx) (round : Nat) (randomness : Binary) :
    Prop :=
  ∃ info signature beacon, tx.action = .execute info (.addRound round signature) ∧
    storage.beacons[round]? = some beacon ∧ beacon.randomness = randomness ∧
    host.deriveRandomness signature = randomness

structure Beacons (host : Host) (world : World) : Prop where
  signed : ∀ (round : Nat) (beacon : VerifiedBeacon), world.storage.beacons[round]? = some beacon →
    ∃ signature, host.verifies round signature = true ∧
      beacon.randomness = host.deriveRandomness signature
  dated : ∀ (round : Nat) (beacon : VerifiedBeacon), world.storage.beacons[round]? = some beacon →
    (history world round).head?.map QueriedSubmission.time = some beacon.verified
  emitted : ∀ tx response, (tx, response) ∈ world.log →
    ∀ contract round randomness isVerifyingTx funds,
      .wasmExecute contract (.addVerifiedRound round randomness isVerifyingTx) funds ∈
        response.msgs →
        SubmittedAs host world.storage tx round randomness

theorem beacons_initial (host : Host) : Beacons host ⟨Storage.empty, []⟩ := by
  refine ⟨?_, ?_, ?_⟩
  · intro round beacon found
    simp [Storage.empty] at found
  · intro round beacon found
    simp [Storage.empty] at found
  · intro tx response member
    simp at member

section

variable {host : Host} {env : Env} {balances : List Coin} {info : MessageInfo} {round : Nat}
  {signature : Binary} {storage after : Storage} {response : Response ContractMsg} {config : Config}
  {payout : Coin}

theorem Added.keeps
    (added : Added host env balances info round signature storage response after config payout)
    {other : Nat} {beacon : VerifiedBeacon} (found : storage.beacons[other]? = some beacon) :
    after.beacons[other]? = some beacon := by
  rw [added.beacons other]
  split
  · rename_i same
    rw [same, found, Option.getD_some]
  · exact found

theorem Added.agrees
    (added : Added host env balances info round signature storage response after config payout)
    (unique : host.UniqueSignatures)
    (signed : ∀ beacon, storage.beacons[round]? = some beacon →
      ∃ earlier, host.verifies round earlier = true ∧
        beacon.randomness = host.deriveRandomness earlier) :
    ∃ beacon, after.beacons[round]? = some beacon ∧
      beacon.randomness = host.deriveRandomness signature := by
  have accepted := added.accepted
  unfold SignatureAccepted at accepted
  cases found : storage.beacons[round]? with
  | some beacon =>
      refine ⟨beacon, added.keeps found, ?_⟩
      split at accepted
      · obtain ⟨earlier, verified, randomness⟩ := signed beacon found
        rw [randomness, unique round earlier signature verified accepted]
      · obtain ⟨stored, present, same⟩ := accepted
        rw [found] at present
        cases present
        exact same.symm
  | none =>
      refine ⟨⟨env.block.time, host.deriveRandomness signature⟩, ?_, rfl⟩
      rw [added.beacons round, if_pos rfl, found, Option.getD_none]

theorem Added.verifies
    (added : Added host env balances info round signature storage response after config payout)
    (missing : storage.beacons[round]? = none) : host.verifies round signature = true := by
  have accepted := added.accepted
  unfold SignatureAccepted at accepted
  split at accepted
  · exact accepted
  · obtain ⟨beacon, present, _⟩ := accepted
    rw [missing] at present
    cases present

theorem Added.emits
    (added : Added host env balances info round signature storage response after config payout)
    {contract : Addr} {emitted : Nat} {randomness : Binary} {isVerifyingTx : Bool}
    {funds : List Coin}
    (member : .wasmExecute contract (.addVerifiedRound emitted randomness isVerifyingTx) funds ∈
      response.msgs) : emitted = round ∧ randomness = host.deriveRandomness signature := by
  rw [added.messages, List.mem_append] at member
  rcases member with verified | reward
  · simp only [verifiedMsgs, List.mem_map, CosmosMsg.wasmExecute.injEq,
      ContractMsg.addVerifiedRound.injEq] at verified
    obtain ⟨_, _, _, ⟨rfl, rfl, _⟩, _⟩ := verified
    exact ⟨rfl, rfl⟩
  · unfold rewardMsgs at reward
    split at reward <;> simp at reward

end

theorem SubmittedAs.mono {host : Host} {storage after : Storage} {tx : Tx} {round : Nat}
    {randomness : Binary} (submitted : SubmittedAs host storage tx round randomness)
    (kept : ∀ (round : Nat) (beacon : VerifiedBeacon), storage.beacons[round]? = some beacon →
      after.beacons[round]? = some beacon) : SubmittedAs host after tx round randomness := by
  obtain ⟨info, signature, beacon, action, found, same, derived⟩ := submitted
  exact ⟨info, signature, beacon, action, kept round beacon found, same, derived⟩

theorem Beacons.commit_added {host : Host} {contract : Addr} {world : World} {tx : Tx}
    {info : MessageInfo} {round : Nat} {signature : Binary} {response : Response ContractMsg}
    {after : Storage} {config : Config} {payout : Coin} (beacons : Beacons host world)
    (books : Bookkeeping world) (unique : host.UniqueSignatures)
    (action : tx.action = .execute info (.addRound round signature))
    (added : Added host (tx.env contract) tx.balances info round signature world.storage response
      after config payout) : Beacons host (world.commit tx response after) := by
  have agreed := added.agrees unique (beacons.signed round)
  refine ⟨?_, ?_, ?_⟩
  · intro other beacon found
    rw [Journal.World.commit_storage, added.beacons other] at found
    split at found
    · rename_i same
      subst same
      cases earlier : world.storage.beacons[round]? with
      | some stored =>
          rw [earlier, Option.getD_some] at found
          cases found
          exact beacons.signed round beacon earlier
      | none =>
          rw [earlier, Option.getD_none] at found
          cases found
          exact ⟨signature, added.verifies earlier, rfl⟩
    · exact beacons.signed other beacon found
  · intro other beacon found
    rw [Journal.World.commit_storage, added.beacons other] at found
    rw [history_commit]
    split at found
    · rename_i same
      subst same
      have last : submissionOf round (tx, response) =
          some ⟨info.sender, tx.block.time, tx.block.height, tx.index⟩ := by
        simp [submissionOf, action]
      cases earlier : world.storage.beacons[round]? with
      | some stored =>
          rw [earlier, Option.getD_some] at found
          cases found
          have head := beacons.dated round beacon earlier
          cases listed : history world round with
          | nil => simp [listed] at head
          | cons first rest => simpa [listed] using head
      | none =>
          rw [earlier, Option.getD_none] at found
          cases found
          -- the round had no submission before, so this one is the first
          have empty : history world round = [] := by
            by_contra listed
            obtain ⟨stored, present⟩ := (books.beacons round).mpr (List.length_pos_iff.mpr listed)
            rw [earlier] at present
            cases present
          rw [empty, last]
          rfl
    · rename_i different
      have skipped : submissionOf other (tx, response) = none := by
        simp [submissionOf, action, different]
      rw [skipped, Option.toList_none, List.append_nil]
      exact beacons.dated other beacon found
  · intro entry answer member contract emitted randomness isVerifyingTx funds sent
    rw [Journal.World.commit_log, List.mem_append, List.mem_singleton] at member
    rcases member with earlier | latest
    · exact (beacons.emitted entry answer earlier contract emitted randomness isVerifyingTx funds
        sent).mono fun _ _ found => added.keeps found
    · cases latest
      obtain ⟨rfl, rfl⟩ := added.emits sent
      obtain ⟨beacon, found, same⟩ := agreed
      exact ⟨info, signature, beacon, action, found, same, rfl⟩

theorem Beacons.commit_other {host : Host} {world : World} {tx : Tx}
    {response : Response ContractMsg} {after : Storage} (beacons : Beacons host world)
    (unrelated : ∀ info round signature, tx.action ≠ .execute info (.addRound round signature))
    (messages : response.messages = []) (same : SameRounds world.storage after) :
    Beacons host (world.commit tx response after) := by
  refine ⟨?_, ?_, ?_⟩
  · intro round beacon found
    rw [Journal.World.commit_storage, same.beacons] at found
    exact beacons.signed round beacon found
  · intro round beacon found
    rw [Journal.World.commit_storage, same.beacons] at found
    rw [history_commit, submissionOf_unrelated unrelated, Option.toList_none, List.append_nil]
    exact beacons.dated round beacon found
  · intro entry answer member contract round randomness isVerifyingTx funds sent
    rw [Journal.World.commit_log, List.mem_append, List.mem_singleton] at member
    rcases member with earlier | latest
    · refine (beacons.emitted entry answer earlier contract round randomness isVerifyingTx funds
        sent).mono ?_
      intro other beacon found
      rw [Journal.World.commit_storage, same.beacons]
      exact found
    · cases latest
      simp [Response.msgs, messages] at sent

theorem reached_beacons {host : Host} (unique : host.UniqueSignatures) (contract : Addr)
    (txs : List Tx) : Beacons host (reached host contract txs) := by
  have both :
      Bookkeeping (reached host contract txs) ∧ Beacons host (reached host contract txs) := by
    refine @Journal.System.reached_invariant _ _ _ _ (system host contract) _
      (fun world => Bookkeeping world ∧ Beacons host world)
      ⟨bookkeeping_initial, beacons_initial host⟩ ?_ txs
    rintro world tx response after ⟨books, beacons⟩ _ returned
    refine ⟨books.commit returned, ?_⟩
    have effect := perform_effect returned
    generalize action : tx.action = performed at effect
    cases effect with
    | added submission => exact beacons.commit_added books unique action submission
    | other unrelated messages same => exact beacons.commit_other (action ▸ unrelated) messages same
  exact both.2

theorem attempt_keeps {host : Host} {contract : Addr} {world next : World} {tx : Tx}
    (committed : (system host contract).attempt world tx = some next) {round : Nat}
    {beacon : VerifiedBeacon} (found : world.storage.beacons[round]? = some beacon) :
    next.storage.beacons[round]? = some beacon := by
  obtain ⟨_, response, after, returned, rfl⟩ := Journal.System.attempt_eq_some.mp committed
  have effect := perform_effect returned
  generalize tx.action = performed at effect
  rw [Journal.World.commit_storage]
  cases effect with
  | added submission => exact submission.keeps found
  | other unrelated messages same => rw [same.beacons, found]

/-- The submission that has stored a beacon. -/
structure VerifiedBy (host : Host) (world : World) (round : Nat) (beacon : VerifiedBeacon)
    (entry : Tx × Response ContractMsg) (bot : Addr) (signature : Binary) : Prop where
  listed : entry ∈ world.log
  submits : ∃ funds, entry.1.action = .execute ⟨bot, funds⟩ (.addRound round signature)
  verified : host.verifies round signature = true
  time : beacon.verified = entry.1.block.time
  randomness : beacon.randomness = host.deriveRandomness signature

theorem VerifiedBy.commit {host : Host} {world : World} {round : Nat} {beacon : VerifiedBeacon}
    {entry : Tx × Response ContractMsg} {bot : Addr} {signature : Binary}
    (verifiedBy : VerifiedBy host world round beacon entry bot signature) (tx : Tx)
    (response : Response ContractMsg) (after : Storage) :
    VerifiedBy host (world.commit tx response after) round beacon entry bot signature :=
  ⟨List.mem_append_left _ verifiedBy.listed, verifiedBy.submits, verifiedBy.verified,
    verifiedBy.time, verifiedBy.randomness⟩

/-- Every beacon is in the journal with a signature that the check has accepted. -/
theorem reached_verifiedBy (host : Host) (contract : Addr) (txs : List Tx) (round : Nat)
    (beacon : VerifiedBeacon)
    (stored : (reached host contract txs).storage.beacons[round]? = some beacon) :
    ∃ entry bot signature, VerifiedBy host (reached host contract txs) round beacon entry bot
      signature := by
  have initially :
      ∀ (round : Nat) (beacon : VerifiedBeacon), Storage.empty.beacons[round]? = some beacon →
        ∃ entry bot signature, VerifiedBy host ⟨Storage.empty, []⟩ round beacon entry bot
          signature := by
    intro round beacon found
    simp [Storage.empty] at found
  refine @Journal.System.reached_invariant _ _ _ _ (system host contract) _
    (fun world =>
      ∀ (round : Nat) (beacon : VerifiedBeacon), world.storage.beacons[round]? = some beacon →
        ∃ entry bot signature, VerifiedBy host world round beacon entry bot signature) initially ?_
    txs round beacon stored
  intro world tx response after before _ returned round beacon found
  have kept (earlier : world.storage.beacons[round]? = some beacon) :
      ∃ entry bot signature, VerifiedBy host (world.commit tx response after) round beacon entry bot
        signature := by
    obtain ⟨entry, bot, signature, verifiedBy⟩ := before round beacon earlier
    exact ⟨entry, bot, signature, verifiedBy.commit tx response after⟩
  have effect := perform_effect returned
  generalize action : tx.action = performed at effect
  rw [Journal.World.commit_storage] at found
  cases effect with
  | @added info submitted signature response after config payout submission =>
      rw [submission.beacons round] at found
      split at found
      · rename_i same
        subst same
        cases earlier : world.storage.beacons[submitted]? with
        | some present =>
            rw [earlier, Option.getD_some] at found
            exact kept (earlier.trans found)
        | none =>
            rw [earlier, Option.getD_none] at found
            cases found
            exact ⟨(tx, response), info.sender, signature, by simp, ⟨info.funds, action⟩,
              submission.verifies earlier, rfl, rfl⟩
      · exact kept found
  | other unrelated messages same =>
      rw [same.beacons] at found
      exact kept found

end NoisContracts.Drand
