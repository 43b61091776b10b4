import NoisContracts.Gateway.Deliveries
import NoisContracts.Drand.Beacons
import NoisContracts.NoisChain.Core
import NoisContracts.ProtocolJson

/-!
Agreement on the randomness of a round. The drand contract stores one beacon per
round. Where the gateway trusts nobody else, its archive holds the randomness of the
stored beacons and so does everything that it delivers.
-/

namespace NoisContracts.NoisChain

open OrderedStore
open Gateway (deliveryOf DeliversRound Registered Accounts)
open Drand (VerifiedBeacon Beacons SubmittedAs)

def trustsOnly (chain : Chain) (world : World) : Bool :=
  match world.gateway.storage.config with
  | some config => (config.trustedSources.getD []).all (· = chain.drand)
  | none => true

def HasRandomness (beacons : Store Nat VerifiedBeacon) (round : Nat) (randomness : Binary) : Prop :=
  ∃ beacon, beacons[round]? = some beacon ∧ beacon.randomness = randomness

/-- What is stored in the first world is stored in the second one as well. -/
structure Kept (earlier later : World) : Prop where
  beacons :
    ∀ (round : Nat) (beacon : VerifiedBeacon), earlier.drand.storage.beacons[round]? = some beacon →
      later.drand.storage.beacons[round]? = some beacon
  archive : ∀ (round : Nat) (randomness : Binary),
    earlier.gateway.storage.archive[round]? = some randomness →
      later.gateway.storage.archive[round]? = some randomness

theorem Kept.refl (world : World) : Kept world world :=
  ⟨fun _ _ found => found, fun _ _ found => found⟩

theorem Kept.trans {first second third : World} (before : Kept first second)
    (after : Kept second third) : Kept first third :=
  ⟨fun round beacon found => after.beacons round beacon (before.beacons round beacon found),
    fun round randomness found => after.archive round randomness
      (before.archive round randomness found)⟩

theorem drandMsgs_emitted {host : Drand.Host} {world : Drand.World} (beacons : Beacons host world)
    {contract : Addr} {round : Nat} {randomness : Binary} {isVerifyingTx : Bool} {funds : List Coin}
    (member : .wasmExecute contract (.addVerifiedRound round randomness isVerifyingTx) funds ∈
      drandMsgs world) : HasRandomness world.storage.beacons round randomness := by
  unfold drandMsgs at member
  cases last : world.log.getLast? with
  | none => simp [last] at member
  | some entry =>
      obtain ⟨tx, response⟩ := entry
      simp only [last, Option.map_some, Option.getD_some] at member
      obtain ⟨_, _, beacon, _, found, same, _⟩ :=
        beacons.emitted tx response (List.mem_of_getLast? last) contract round randomness
          isVerifyingTx funds member
      exact ⟨beacon, found, same⟩

section

variable [Wire]

structure Archived (beacons : Store Nat VerifiedBeacon) (gateway : Gateway.World) : Prop where
  archived : ∀ round randomness, gateway.storage.archive[round]? = some randomness →
    HasRandomness beacons round randomness
  delivered : ∀ entry ∈ gateway.log, ∀ delivery ∈ entry.response.msgs.filterMap deliveryOf,
    ∃ round, DeliversRound gateway.storage.archive round delivery

theorem archived_initial (beacons : Store Nat VerifiedBeacon) :
    Archived beacons Gateway.World.initial := by
  refine ⟨?_, ?_⟩
  · intro round randomness found
    simp [Gateway.World.initial, Gateway.Storage.empty] at found
  · intro entry member
    simp [Gateway.World.initial] at member

theorem Archived.mono {beacons later : Store Nat VerifiedBeacon} {gateway : Gateway.World}
    (archive : Archived beacons gateway)
    (kept : ∀ (round : Nat) (beacon : VerifiedBeacon), beacons[round]? = some beacon →
      later[round]? = some beacon) : Archived later gateway := by
  refine ⟨?_, archive.delivered⟩
  intro round randomness found
  obtain ⟨beacon, stored, same⟩ := archive.archived round randomness found
  exact ⟨beacon, kept round beacon stored, same⟩

theorem Archived.commit {beacons : Store Nat VerifiedBeacon} {deps : Deps} {contract : Addr}
    {gateway next : Gateway.World} {tx : Gateway.Tx} (archive : Archived beacons gateway)
    (registered : Registered gateway) (accounts : Accounts gateway)
    (sourced : ∀ info round randomness isVerifyingTx config,
      tx.action = .execute info (.addVerifiedRound round randomness isVerifyingTx) →
      gateway.storage.config = some config → info.sender ∈ config.trustedSources.getD [] →
      HasRandomness beacons round randomness)
    (committed : Gateway.attempt deps contract gateway tx = some next) :
    Archived beacons next ∧
      ∀ (round : Nat) (randomness : Binary), gateway.storage.archive[round]? = some randomness →
        next.storage.archive[round]? = some randomness := by
  obtain ⟨response, after, effect, admitted, rfl⟩ := Gateway.attempt_effect committed
  -- a round that is archived again gets the randomness it had
  have stored : (∀ round randomness, after.archive[round]? = some randomness →
        HasRandomness beacons round randomness) ∧
      ∀ (round : Nat) (randomness : Binary), gateway.storage.archive[round]? = some randomness →
        after.archive[round]? = some randomness := by
    rcases Gateway.effect_archive registered admitted effect with ⟨_, same⟩ |
      ⟨info, verified, randomness, isVerifyingTx, config, action, configured, trusted, inserted⟩
    · rw [same]
      exact ⟨archive.archived, fun _ _ found => found⟩
    · have source := sourced info verified randomness isVerifyingTx config action configured trusted
      refine ⟨?_, ?_⟩
      · intro round other found
        rw [inserted, get_insert] at found
        split at found
        · rename_i same
          cases found
          exact same ▸ source
        · exact archive.archived round other found
      · intro round other found
        rw [inserted, get_insert]
        split
        · rename_i same
          obtain ⟨beacon, present, equal⟩ := source
          obtain ⟨_, again, equalAgain⟩ := archive.archived round other found
          rw [← same, present] at again
          cases again
          rw [← equal, equalAgain]
        · exact found
  refine ⟨⟨stored.1, ?_⟩, stored.2⟩
  intro entry member delivery delivered
  simp only [Gateway.World.commit, List.mem_append, List.mem_singleton] at member
  rcases member with earlier | rfl
  · obtain ⟨round, delivers⟩ := archive.delivered entry earlier delivery delivered
    exact ⟨round, delivers.sourceId, delivers.published, stored.2 round _ delivers.randomness⟩
  · exact Gateway.effect_deliveries registered accounts admitted effect delivered

/-- One transaction of the chain keeps the agreement and everything that is stored. -/
theorem Archived.step {chain : Chain} {world next : World}
    (archive : Archived world.drand.storage.beacons world.gateway) (projects : Projects chain world)
    (unique : chain.host.UniqueSignatures) (trusts : trustsOnly chain world = true)
    (step : Step chain world next) :
    Archived next.drand.storage.beacons next.gateway ∧ Kept world next := by
  have later := projects.step step
  cases step with
  | @gateway tx gateway drand external committed calls =>
      have kept : ∀ (round : Nat) (beacon : VerifiedBeacon),
          world.drand.storage.beacons[round]? = some beacon →
          drand.storage.beacons[round]? = some beacon := by
        intro round beacon found
        refine @Runs.foldlM_invariant _ _ chain.drandAttempt
          (fun state => state.storage.beacons[round]? = some beacon) _ _ _ ?_ found calls
        intro before tx after _ found committed
        exact Drand.attempt_keeps committed found
      obtain ⟨txs, reached⟩ := projects.gateway
      have registered := Gateway.reached_registered chain.host.toDeps chain.gateway txs
      have accounts := Gateway.reached_accounts chain.host.toDeps chain.gateway txs
      rw [← reached] at registered accounts
      -- an account is not the trusted contract
      have sourced : ∀ info round randomness isVerifyingTx config,
          tx.action = .execute info (.addVerifiedRound round randomness isVerifyingTx) →
          world.gateway.storage.config = some config → info.sender ∈ config.trustedSources.getD [] →
          HasRandomness world.drand.storage.beacons round randomness := by
        intro info round randomness isVerifyingTx config action configured trusted
        simp only [trustsOnly, configured, List.all_eq_true, decide_eq_true_eq] at trusts
        simp [Chain.external, action, Chain.isContract, trusts info.sender trusted] at external
      obtain ⟨agreed, same⟩ := archive.commit registered accounts sourced committed
      exact ⟨agreed.mono kept, kept, same⟩
  | @drand tx gateway drand external committed calls =>
      have kept : ∀ (round : Nat) (beacon : VerifiedBeacon),
          world.drand.storage.beacons[round]? = some beacon →
          drand.storage.beacons[round]? = some beacon :=
        fun _ _ found => Drand.attempt_keeps committed found
      obtain ⟨drandTxs, drandReached⟩ := later.drand
      have beacons : Beacons chain.host drand := by
        rw [show drand = _ from drandReached]
        exact Drand.reached_beacons unique chain.drand drandTxs
      have result := @Runs.foldlM_invariant _ _ chain.gatewayAttempt
        (fun state => (∃ txs, state = Gateway.reached chain.host.toDeps chain.gateway txs) ∧
          Archived drand.storage.beacons state ∧
          ∀ (round : Nat) (randomness : Binary),
            world.gateway.storage.archive[round]? = some randomness →
              state.storage.archive[round]? = some randomness) _ _ _ ?_
        ⟨projects.gateway, archive.mono kept, fun _ _ found => found⟩ calls
      · exact ⟨result.2.1, kept, result.2.2⟩
      · rintro before call after member ⟨reaches, agreed, same⟩ performed
        have single : [call].foldlM chain.gatewayAttempt before = some after := by
          simpa using performed
        refine ⟨gateway_extends reaches single, ?_⟩
        obtain ⟨txs, reached⟩ := reaches
        have registered := Gateway.reached_registered chain.host.toDeps chain.gateway txs
        have accounts := Gateway.reached_accounts chain.host.toDeps chain.gateway txs
        rw [← reached] at registered accounts
        have sourced : ∀ info round randomness isVerifyingTx config,
            call.action = .execute info (.addVerifiedRound round randomness isVerifyingTx) →
            before.storage.config = some config → info.sender ∈ config.trustedSources.getD [] →
            HasRandomness drand.storage.beacons round randomness := by
          intro info round randomness isVerifyingTx config action _ _
          obtain ⟨msg, emitted, called⟩ := List.mem_filterMap.mp member
          unfold Chain.gatewayCall at called
          split at called
          · split at called
            · cases called
              cases action
              exact drandMsgs_emitted beacons emitted
            · cases called
          · cases called
        obtain ⟨agreedAfter, sameAfter⟩ := agreed.commit registered accounts sourced performed
        refine ⟨agreedAfter, ?_⟩
        intro round randomness found
        exact sameAfter round randomness (same round randomness found)

/-- The randomness of a round is the same wherever the two contracts use it. -/
structure RandomnessAgreement (chain : Chain) (world : World) : Prop where
  emitted : ∀ tx response, (tx, response) ∈ world.drand.log →
    ∀ contract round randomness isVerifyingTx funds,
      .wasmExecute contract (.addVerifiedRound round randomness isVerifyingTx) funds ∈
        response.msgs →
        SubmittedAs chain.host world.drand.storage tx round randomness
  signed : ∀ (round : Nat) (beacon : VerifiedBeacon),
    world.drand.storage.beacons[round]? = some beacon →
    ∃ signature, chain.host.verifies round signature = true ∧
      beacon.randomness = chain.host.deriveRandomness signature
  dated : ∀ (round : Nat) (beacon : VerifiedBeacon),
    world.drand.storage.beacons[round]? = some beacon →
    (Drand.history world.drand round).head?.map Drand.QueriedSubmission.time = some beacon.verified
  archived : ∀ round randomness, world.gateway.storage.archive[round]? = some randomness →
    HasRandomness world.drand.storage.beacons round randomness
  delivered : ∀ first ∈ world.gateway.log,
    ∀ second ∈ world.gateway.log,
      ∀ one ∈ first.response.msgs.filterMap deliveryOf,
        ∀ two ∈ second.response.msgs.filterMap deliveryOf, one.sourceId = two.sourceId →
          one.randomness = two.randomness

theorem reached_archived {chain : Chain} {start : World} {txs : List Tx}
    (unique : chain.host.UniqueSignatures) (projects : Projects chain start)
    (archive : Archived start.drand.storage.beacons start.gateway)
    (trusted : Runs.Along (attempt chain) (fun world _ => trustsOnly chain world = true) start
      txs) :
    let final := Runs.run (attempt chain) start txs
    Projects chain final ∧ Archived final.drand.storage.beacons final.gateway ∧
      Kept start final := by
  refine @Runs.run_invariant_along _ _ (attempt chain) _
    (fun world => Projects chain world ∧ Archived world.drand.storage.beacons world.gateway ∧
      Kept start world) ?_ txs start ⟨projects, archive, Kept.refl start⟩ trusted
  rintro world tx next trusts ⟨projected, agreed, kept⟩ committed
  have step := attempt_step committed
  obtain ⟨agreedNext, keptNext⟩ := agreed.step projected unique trusts step
  exact ⟨projected.step step, agreedNext, kept.trans keptNext⟩

theorem reached_randomnessAgreement (chain : Chain) (txs : List Tx)
    (unique : chain.host.UniqueSignatures)
    (trusted : Runs.Along (attempt chain) (fun world _ => trustsOnly chain world = true)
      World.initial txs) :
    RandomnessAgreement chain (reached chain txs) ∧
      ∀ earlier later, txs = earlier ++ later →
        Kept (reached chain earlier) (reached chain txs) := by
  have initially := archived_initial World.initial.drand.storage.beacons
  refine ⟨?_, ?_⟩
  · obtain ⟨projects, archive, _⟩ :=
      reached_archived unique (projects_initial chain) initially trusted
    change Projects chain (reached chain txs) at projects
    change Archived (reached chain txs).drand.storage.beacons (reached chain txs).gateway at archive
    generalize reached chain txs = world at projects archive
    obtain ⟨drandTxs, drandReached⟩ := projects.drand
    have beacons : Beacons chain.host world.drand :=
      drandReached ▸ Drand.reached_beacons unique chain.drand drandTxs
    refine ⟨beacons.emitted, beacons.signed, beacons.dated, archive.archived, ?_⟩
    intro first firstMember second secondMember one oneSent two twoSent same
    obtain ⟨oneRound, oneDelivers⟩ := archive.delivered first firstMember one oneSent
    obtain ⟨twoRound, twoDelivers⟩ := archive.delivered second secondMember two twoSent
    rw [oneDelivers.sourceId, twoDelivers.sourceId] at same
    have rounds := Gateway.sourceIdOf_injective same
    subst rounds
    have values := oneDelivers.randomness.symm.trans twoDelivers.randomness
    exact Option.some.inj values
  · rintro earlier later rfl
    obtain ⟨before, after⟩ := Runs.along_append.mp trusted
    obtain ⟨projects, archive, _⟩ :=
      reached_archived unique (projects_initial chain) initially before
    have kept := (reached_archived unique projects archive after).2.2
    rw [reached, reached, Runs.run_append]
    exact kept

end

section

attribute [local instance] jsonWire

def bot : Addr := "nois1wpy3gwlw4tt3uy0u5jrspfz0w9azztvlr0d04s"

def botHash : Binary :=
  [180, 227, 193, 72, 228, 250, 219, 22, 191, 133, 79, 57, 28, 233, 134, 141, 43, 241, 2, 67,
    211, 24, 210, 5, 14, 137, 171, 28, 253, 81, 17, 134]

def signature : Binary :=
  [134, 172, 0, 90, 175, 250, 94, 157, 227, 75, 85, 140, 71, 10, 17, 28, 134, 46, 151, 105, 34,
    232, 218, 52, 249, 220, 225, 167, 133, 7, 219, 213, 59, 173, 213, 84, 134, 43, 197, 75, 216,
    228, 79, 68, 221, 216, 177, 0]

def randomness : Binary :=
  [47, 58, 105, 118, 186, 246, 132, 125, 117, 181, 234, 230, 12, 14, 70, 11, 181, 90, 182, 3,
    78, 226, 138, 239, 47, 13, 16, 176, 181, 204, 87, 193]

def fastnet : Chain where
  host :=
    { NoisHost.deps with
      sha256 := fun data =>
        if data = signature then randomness
        else if data = asBytes bot then botHash
        else NoisHost.sha256 data
      fastnetPubkey :=
        some fun round checked => some (decide (round = 72780 ∧ checked = signature)) }
  gateway := NoisHost.gateway
  drand := NoisHost.drand

def servedRequest : List Tx :=
  let block := Gateway.openingBlock
  let unois : Coin := ⟨"unois", ⟨1000000000, by decide⟩⟩
  let request : IbcPacketReceiveMsg :=
    { data := Wire.inPacket.toJsonBinary (.requestBeacon ⟨1677903535000000000, by decide⟩ [1, 2, 3])
      destChannel := "channel-0"
      relayer := NoisHost.relayer }
  Gateway.opening.map .gateway ++
    [.drand ⟨block, some 4, [unois],
      .instantiate ⟨NoisHost.manager, 72750, ⟨20000, by decide⟩, "unois"⟩, true⟩,
      .drand ⟨block, some 5, [unois],
        .execute ⟨NoisHost.manager, []⟩ (.setConfig none (some NoisHost.gateway) none none none),
        true⟩, .gateway ⟨block, some 6, .packetReceive request, true⟩,
      .drand ⟨block, some 7, [unois], .execute ⟨bot, []⟩ (.addRound 72780 signature), true⟩]

theorem fastnet_uniqueSignatures : fastnet.host.UniqueSignatures := by
  intro round first second firstVerified secondVerified
  simp only [Drand.Host.verifies, fastnet, Option.getD_some, decide_eq_true_eq]
    at firstVerified secondVerified
  rw [firstVerified.2, secondVerified.2]

theorem reached_randomnessAgreement_served :
    (reached fastnet servedRequest).gateway.storage.archive[72780]? = some randomness ∧
      (reached fastnet servedRequest).gateway.storage.queue 72780 = [] ∧
      RandomnessAgreement fastnet (reached fastnet servedRequest) := by
  refine ⟨by decide +kernel, by decide +kernel, ?_⟩
  exact (reached_randomnessAgreement fastnet servedRequest fastnet_uniqueSignatures
    (by decide +kernel)).1

end

end NoisContracts.NoisChain
