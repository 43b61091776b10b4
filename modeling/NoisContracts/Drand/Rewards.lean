import NoisContracts.Drand.Submissions

/-!
Rewards of the bots. A submission reports its points in the attributes of the response,
so what was granted is read off the journal. The points depend on the position of the
submission only; whether they are granted depends on the query that the bots ask, on
the registration and on the allowlist. The balance of the contract decides about the
payout and about nothing else.
-/

namespace NoisContracts.Drand

open ContractCall ContractCall.Call OrderedStore

def positionPoints (position : Nat) : Nat :=
  (if position ≤ 3 then 35 else 0) + if position ≤ 6 then 15 else 0

theorem submissionPoints_eq (count : Nat) :
    submissionPoints count = positionPoints (count + 1) := by
  simp only [submissionPoints, positionPoints, numberOfSubmissionVerificationPerRound,
    numberOfIncentivesPerRound, incentivePointsForVerification, incentivePointsForFastBot,
    Nat.lt_iff_add_one_le]

theorem submissionPoints_le (count : Nat) : submissionPoints count ≤ 50 := by
  rw [submissionPoints_eq, positionPoints]
  split <;> split <;> omega

theorem submissionPoints_sum (count : Nat) :
    ((List.range count).map submissionPoints).sum =
      min count 3 * 50 + (min count 6 - min count 3) * 15 := by
  induction count with
  | zero => rfl
  | succ count ih =>
      rw [List.range_succ, List.map_append, List.sum_append, ih]
      simp only [List.map_cons, List.map_nil, List.sum_cons, List.sum_nil, submissionPoints_eq,
        positionPoints]
      split <;> split <;> omega

def reportedPoints (response : Response ContractMsg) : Nat :=
  ((response.attributes.lookup "reward_points").bind fun text =>
    TextFormat.readDecimal text.toList).getD 0

theorem reportedPoints_added {response : Response ContractMsg} {info : MessageInfo}
    {round points : Nat} {randomness : Binary} {payout : Coin}
    (attributes : response.attributes = addedAttributes info round randomness points payout) :
    reportedPoints response = points := by
  have digits : TextFormat.readDecimal (Nat.repr points).toList = some points := by
    have written : (Nat.repr points).toList = TextFormat.writeDecimal points := by
      simp [TextFormat.writeDecimal, Nat.repr]
    rw [written, TextFormat.readDecimal_writeDecimal]
  have found : response.attributes.lookup "reward_points" = some (Nat.repr points) := by
    rw [attributes]
    rfl
  rw [reportedPoints, found, Option.bind_some, digits, Option.getD_some]

structure Reward where
  bot : Addr
  round : Nat
  points : Nat
deriving DecidableEq, Repr

def rewardOf (entry : Tx × Response ContractMsg) : Option Reward :=
  match entry.1.action with
  | .execute info (.addRound round _) => some ⟨info.sender, round, reportedPoints entry.2⟩
  | _ => none

def rewards (world : World) : List Reward := world.log.filterMap rewardOf

def pointsOfRound (world : World) (round : Nat) : Nat :=
  (((rewards world).filter fun reward => reward.round = round).map Reward.points).sum

def pointsOfBot (world : World) (bot : Addr) : Nat :=
  (((rewards world).filter fun reward => reward.bot = bot).map Reward.points).sum

theorem rewards_commit (world : World) (tx : Tx) (response : Response ContractMsg)
    (after : Storage) :
    rewards (world.commit tx response after) =
      rewards world ++ (rewardOf (tx, response)).toList := by
  cases reward : rewardOf (tx, response) <;> simp [rewards, reward]

theorem rewardOf_unrelated {tx : Tx} {response : Response ContractMsg}
    (unrelated : ∀ info round signature, tx.action ≠ .execute info (.addRound round signature)) :
    rewardOf (tx, response) = none := by
  unfold rewardOf
  split
  · rename_i info round signature action
    exact (unrelated info round signature action).elim
  · rfl

section

variable {host : Host} {env : Env} {balances : List Coin} {info : MessageInfo} {round : Nat}
  {signature : Binary} {storage after : Storage} {response : Response ContractMsg} {config : Config}
  {payout : Coin}

theorem Added.bots (added : Added host env balances info round signature storage response after
    config payout) (other : Addr) :
    after.bots[other]? =
      if info.sender = other then
        storage.bots[info.sender]?.map fun bot =>
          ⟨bot.moniker, bot.roundsAdded + 1,
            bot.rewardPoints + grantedPoints host storage config info.sender round⟩
      else storage.bots[other]? := by
  have kept (before : Storage) (beacon : VerifiedBeacon) :
      (before.keepBeacon round beacon).bots = before.bots := by
    unfold Storage.keepBeacon
    split <;> rfl
  have recorded (submission : StoredSubmission) :
      (storage.recordSubmission round info.sender submission).bots = storage.bots := rfl
  rw [added.changed, kept, Storage.creditBot, recorded]
  cases registered : storage.bots[info.sender]? with
  | none =>
      simp only [Option.map_none]
      split
      · rename_i same
        rw [recorded, ← same, registered]
      · rw [recorded]
  | some bot =>
      simp only [Option.map_some]
      rw [get_insert]

theorem Added.position (added : Added host env balances info round signature storage response after
    config payout) :
    after.submissions[toLex (round, info.sender)]? = some ⟨submissionsCountOf storage round + 1,
      env.block.time, env.block.height, env.transaction⟩ := by
  rw [added.submissions, get_insert, if_pos rfl]

theorem Added.granted
    (added : Added host env balances info round signature storage response after config payout)
    (valid : host.addrValidate info.sender = .ok info.sender) :
    grantedPoints host storage config info.sender round =
      if queryIsIncentivized host storage info.sender [round] = .ok [true] ∧
        storage.bots[info.sender]?.isSome = true ∧
        storage.allowlist.contains info.sender = true then
        positionPoints (submissionsCountOf storage round + 1)
      else 0 := by
  have query : queryIsIncentivized host storage info.sender [round] =
      .ok [isIncentivizedFor host storage info.sender round config.minRound] := by
    simp [queryIsIncentivized, valid, added.configured, bind, Except.bind, pure, Except.pure]
  rw [query, grantedPoints, eligible, submissionPoints_eq]
  by_cases none : positionPoints (submissionsCountOf storage round + 1) = 0
  · simp [none]
  · simp [none, and_assoc]

theorem grantedPoints_unregistered (unregistered : storage.bots[info.sender]? = none) :
    grantedPoints host storage config info.sender round = 0 := by
  simp [grantedPoints, eligible, unregistered]

theorem grantedPoints_le : grantedPoints host storage config info.sender round ≤
    submissionPoints (submissionsCountOf storage round) := by
  unfold grantedPoints
  split
  · exact Nat.le_refl _
  · exact Nat.zero_le _

theorem payoutOf_eq_ok {isEligible : Bool} {points : Nat} (idle : isEligible = false → points = 0)
    (paid : payoutOf config isEligible points balances = .ok payout) :
    payout.denom = config.incentiveDenom ∧
      payout.amount.val =
        if points * config.incentivePointPrice.val ≤
          (balanceIn config.incentiveDenom balances).val then
          points * config.incentivePointPrice.val
        else 0 := by
  cases isEligible with
  | false =>
      simp only [payoutOf, Bool.false_eq_true, if_false, Except.ok.injEq] at paid
      subst paid
      simp [idle rfl, Uint128.zero]
  | true =>
      simp only [payoutOf, if_true] at paid
      split at paid
      · rw [except_bind_eq_ok] at paid
        obtain ⟨desired, product, paid⟩ := paid
        rw [Uint128.mul_eq_ok] at product
        simp only at product
        rw [product]
        split at paid
        · rename_i covered
          cases paid
          simp [covered]
        · rename_i uncovered
          cases paid
          simp [uncovered, Uint128.zero]
      · cases paid

theorem payoutOf_returns (isEligible : Bool) {points : Nat} (few : points ≤ 50)
    (fits : 50 * config.incentivePointPrice.val < 2 ^ 128) (balances : List Coin) :
    ∃ payout, payoutOf config isEligible points balances = .ok payout := by
  have product : points * config.incentivePointPrice.val < 2 ^ 128 :=
    Nat.lt_of_le_of_lt (Nat.mul_le_mul_right _ few) fits
  have small : points < 2 ^ 128 := by omega
  cases isEligible with
  | false => exact ⟨_, rfl⟩
  | true =>
      simp only [payoutOf, if_true, dif_pos small, Uint128.mul, dif_pos product]
      by_cases covered : points * config.incentivePointPrice.val ≤
          (balanceIn config.incentiveDenom balances).val
      · exact ⟨_, if_pos covered⟩
      · exact ⟨_, if_neg covered⟩

end

/-- A submission goes through, with the same changes, whatever the balances are. -/
theorem executeAddRound_balances {host : Host} {env : Env} {balances : List Coin}
    {info : MessageInfo} {round : Nat} {signature : Binary} {storage after : Storage}
    {response : Response ContractMsg} {config : Config} (configured : storage.config = some config)
    (fits : 50 * config.incentivePointPrice.val < 2 ^ 128)
    (returned : executeAddRound host env balances info round signature storage = .ok response after)
    (others : List Coin) :
    ∃ answer, executeAddRound host env others info round signature storage = .ok answer after := by
  simp only [executeAddRound, bind_eq_ok, reads_eq_ok, ofPanics_eq_ok, checkedAdd_eq_ok,
    saveSubmission_eq_ok, pure_eq_ok] at returned ⊢
  obtain ⟨⟨stored, count⟩, _, checked, returned⟩ := returned
  obtain ⟨_, loaded, _, _, _, counts, rfl⟩ := checkSubmission_ok checked
  rw [configured] at loaded
  cases loaded
  obtain ⟨bot, _, ⟨rfl, rfl⟩, listed, _, ⟨rfl, rfl⟩, newCount, _, ⟨⟨counted, rfl⟩, rfl⟩, _,
      recorded, rfl, incentivized, _, ⟨rfl, rfl⟩, _, credited, rewarded, _, _, ⟨_, rfl⟩, _, _,
      saved, _, rfl⟩ := returned
  have few (isEligible : Bool) : (if isEligible then submissionPoints count else 0) ≤ 50 := by
    have most := submissionPoints_le count
    split <;> omega
  obtain ⟨payout, paid⟩ := payoutOf_returns _ (few _) fits others
  exact ⟨_, (stored, count), storage, checked, _, storage, ⟨rfl, rfl⟩, _, storage, ⟨rfl, rfl⟩, _,
    storage, ⟨⟨counted, rfl⟩, rfl⟩, (), _, rfl, _, _, ⟨rfl, rfl⟩, (), credited, rewarded, payout,
    credited, ⟨paid, rfl⟩, (), _, saved, rfl, rfl⟩

structure PointsKept (world : World) : Prop where
  rounds : ∀ round, pointsOfRound world round ≤
    ((List.range (submissionsCountOf world.storage round)).map submissionPoints).sum
  bots : ∀ bot, pointsOfBot world bot = (world.storage.bots[bot]?.map Bot.rewardPoints).getD 0

theorem pointsKept_initial : PointsKept ⟨Storage.empty, []⟩ := by
  refine ⟨?_, ?_⟩
  · intro round
    simp [pointsOfRound, rewards]
  · intro bot
    simp [pointsOfBot, rewards, Storage.empty]

theorem PointsKept.commit_added {host : Host} {env : Env} {world : World} {tx : Tx}
    {info : MessageInfo} {round : Nat} {signature : Binary} {response : Response ContractMsg}
    {after : Storage} {config : Config} {payout : Coin} (kept : PointsKept world)
    (action : tx.action = .execute info (.addRound round signature))
    (added : Added host env tx.balances info round signature world.storage response after config
      payout)
    (reported : reportedPoints response =
      grantedPoints host world.storage config info.sender round) :
    PointsKept (world.commit tx response after) := by
  have reward : rewardOf (tx, response) =
      some ⟨info.sender, round, grantedPoints host world.storage config info.sender round⟩ := by
    simp [rewardOf, action, reported]
  refine ⟨?_, ?_⟩
  · intro other
    have before := kept.rounds other
    have few := @grantedPoints_le host info round world.storage config
    rw [pointsOfRound] at before
    rw [pointsOfRound, rewards_commit, reward, Journal.World.commit_storage,
      added.submissionsCount other]
    by_cases same : round = other
    · subst same
      simp only [if_true, List.range_succ, List.map_append, List.sum_append, List.filter_append]
      simp only [Option.toList_some, List.filter_singleton, decide_true, cond_true, List.map_cons,
        List.map_nil, List.sum_cons, List.sum_nil]
      omega
    · simpa [same] using before
  · intro other
    have before := kept.bots other
    rw [pointsOfBot] at before
    rw [pointsOfBot, rewards_commit, reward, Journal.World.commit_storage, added.bots other,
      List.filter_append, List.map_append, List.sum_append, before]
    by_cases same : info.sender = other
    · subst same
      cases registered : world.storage.bots[info.sender]? with
      | none =>
          have none := @grantedPoints_unregistered host info round world.storage config registered
          simp [none]
      | some bot => simp
    · simp [same]

theorem PointsKept.commit_other {world : World} {tx : Tx} {response : Response ContractMsg}
    {after : Storage} (kept : PointsKept world)
    (unrelated : ∀ info round signature, tx.action ≠ .execute info (.addRound round signature))
    (administered : Administered world.storage tx.action after) :
    PointsKept (world.commit tx response after) := by
  have unchanged : rewards (world.commit tx response after) = rewards world := by
    rw [rewards_commit, rewardOf_unrelated unrelated, Option.toList_none, List.append_nil]
  have counts := administered.sameRounds.submissionsCount
  refine ⟨?_, ?_⟩
  · intro round
    have before := kept.rounds round
    rw [pointsOfRound] at before
    rw [pointsOfRound, unchanged, Journal.World.commit_storage, submissionsCountOf, counts]
    exact before
  · intro other
    have before := kept.bots other
    rw [pointsOfBot] at before
    rw [pointsOfBot, unchanged, Journal.World.commit_storage, before]
    generalize tx.action = performed at administered
    cases administered with
    | @registered info moniker bot rounds points =>
        rw [get_insert]
        by_cases same : info.sender = other
        · subst same
          simp [points]
        · simp [same]
    | _ => rfl

theorem reached_pointsKept (host : Host) (contract : Addr) (txs : List Tx) :
    PointsKept (reached host contract txs) := by
  refine Journal.System.reached_invariant pointsKept_initial ?_ txs
  intro world tx response after kept _ returned
  rcases perform_cases returned with
      ⟨info, round, signature, config, payout, action, added, attributes⟩ |
      ⟨unrelated, _, administered⟩
  · exact kept.commit_added action added (reportedPoints_added attributes)
  · exact kept.commit_other unrelated administered

structure Earned (host : Host) (storage : Storage) (balances : List Coin) (info : MessageInfo)
    (round position points : Nat) (config : Config) (response : Response ContractMsg)
    (after : Storage) : Prop where
  reported : reportedPoints response = points
  formula : points =
    if queryIsIncentivized host storage info.sender [round] = .ok [true] ∧
      storage.bots[info.sender]?.isSome = true ∧ storage.allowlist.contains info.sender = true then
      positionPoints position
    else 0
  bot : after.bots[info.sender]? = storage.bots[info.sender]?.map fun bot =>
    ⟨bot.moniker, bot.roundsAdded + 1, bot.rewardPoints + points⟩
  others : ∀ other, other ≠ info.sender → after.bots[other]? = storage.bots[other]?
  sends : ∀ target coins, .bankSend target coins ∈ response.msgs ↔
    0 < points * config.incentivePointPrice.val ∧
      points * config.incentivePointPrice.val ≤ (balanceIn config.incentiveDenom balances).val ∧
      target = info.sender ∧ ∃ amount : Uint128, coins = [⟨config.incentiveDenom, amount⟩] ∧
        amount.val = points * config.incentivePointPrice.val
  once : response.msgs.countP CosmosMsg.isBank ≤ 1

theorem Added.earned {host : Host} {env : Env} {balances : List Coin} {info : MessageInfo}
    {round : Nat} {signature : Binary} {storage after : Storage} {response : Response ContractMsg}
    {config : Config} {payout : Coin}
    (added : Added host env balances info round signature storage response after config payout)
    (attributes : response.attributes =
      addedAttributes info round (host.deriveRandomness signature)
        (grantedPoints host storage config info.sender round) payout)
    (valid : host.addrValidate info.sender = .ok info.sender) :
    Earned host storage balances info round (submissionsCountOf storage round + 1)
      (grantedPoints host storage config info.sender round) config response after := by
  have idle : eligible host storage config info.sender round = false →
      grantedPoints host storage config info.sender round = 0 := by
    intro ineligible
    simp [grantedPoints, ineligible]
  obtain ⟨denom, amount⟩ := payoutOf_eq_ok idle added.paid
  have sends (target : String) (coins : List Coin) : .bankSend target coins ∈ response.msgs ↔
      payout.amount.val ≠ 0 ∧ target = info.sender ∧ coins = [payout] := by
    rw [added.messages, List.mem_append, rewardMsgs]
    by_cases zero : payout.amount.val = 0
    · simp [verifiedMsgs, Uint128.isZero, zero]
    · simp [verifiedMsgs, Uint128.isZero, zero]
  refine ⟨reportedPoints_added attributes, added.granted valid, ?_, ?_, ?_, ?_⟩
  · rw [added.bots, if_pos rfl]
  · intro other different
    rw [added.bots, if_neg different.symm]
  · intro target coins
    rw [sends, amount]
    constructor
    · rintro ⟨nonzero, same, rfl⟩
      split at nonzero
      · rename_i covered
        rw [if_pos covered] at amount
        refine ⟨by omega, covered, same, payout.amount, ?_, amount⟩
        rw [← denom]
      · exact (nonzero rfl).elim
    · rintro ⟨positive, covered, same, exact, rfl, value⟩
      rw [if_pos covered] at amount ⊢
      refine ⟨by omega, same, ?_⟩
      have equal : exact = payout.amount := Uint128.ext (value.trans amount.symm)
      rw [equal, ← denom]
  · have none : (verifiedMsgs config round (host.deriveRandomness signature)
        (decide (submissionsCountOf storage round < numberOfSubmissionVerificationPerRound))).countP
          CosmosMsg.isBank = 0 := by
      simp [verifiedMsgs, CosmosMsg.isBank]
    rw [added.messages, List.countP_append, none, rewardMsgs]
    split <;> simp [CosmosMsg.isBank]

/-- The rewards in a reachable world. -/
structure BotRewards (host : Host) (contract : Addr) (world : World) : Prop where
  earned : ∀ (tx : Tx) (info : MessageInfo) (round : Nat) (signature : Binary)
    (response : Response ContractMsg) (after : Storage),
    tx.action = .execute info (.addRound round signature) →
    perform host contract tx world.storage = .ok response after →
    host.addrValidate info.sender = .ok info.sender →
    ∃ config submission points, world.storage.config = some config ∧
      after.submissions[toLex (round, info.sender)]? = some submission ∧
      Earned host world.storage tx.balances info round submission.pos points config response after
  unfailing : ∀ (tx : Tx) (info : MessageInfo) (round : Nat) (signature : Binary)
    (response : Response ContractMsg) (after : Storage) (config : Config) (balances : List Coin),
    tx.action = .execute info (.addRound round signature) →
    perform host contract tx world.storage = .ok response after →
    world.storage.config = some config → 50 * config.incentivePointPrice.val < 2 ^ 128 →
    ∃ answer, perform host contract { tx with balances } world.storage = .ok answer after
  perRound : ∀ round, pointsOfRound world round ≤ 195
  perBot : ∀ (address : Addr) (bot : Bot), world.storage.bots[address]? = some bot →
    bot.rewardPoints = pointsOfBot world address

theorem reached_botRewards (host : Host) (contract : Addr) (txs : List Tx) :
    BotRewards host contract (reached host contract txs) := by
  have kept := reached_pointsKept host contract txs
  generalize reached host contract txs = world at kept
  refine ⟨?_, ?_, ?_, ?_⟩
  · intro tx info round signature response after action returned valid
    simp only [perform, action] at returned
    obtain ⟨config, payout, added, attributes⟩ := executeAddRound_ok returned
    exact ⟨config, _, _, added.configured, added.position, added.earned attributes valid⟩
  · intro tx info round signature response after config balances action returned configured fits
    simp only [perform, action] at returned ⊢
    exact executeAddRound_balances configured fits returned balances
  · intro round
    refine Nat.le_trans (kept.rounds round) ?_
    rw [submissionPoints_sum]
    omega
  · intro address bot found
    rw [kept.bots address, found]
    rfl

end NoisContracts.Drand
