import NoisContracts.DrandCommon

/-!
The schedule of drand as an adjoint pair: a round comes after a time if and only if
`round_after` of the time is at most this round. Everything else about the two
functions follows from this equivalence.
-/

namespace NoisContracts

open ContractCall

/-- The publish time of a round in nanoseconds, without a bound. -/
def roundNanos (round : Nat) : Nat := drandGenesis.nanos + (round - 1) * drandRoundLength

theorem timeOfRound_nanos {round : Nat} {time : Timestamp}
    (published : timeOfRound round = .ok time) : 1 ≤ round ∧ roundNanos round = time.nanos :=
  timeOfRound_eq_ok.mp published

theorem roundNanos_lt_iff {first second : Nat} (positive : 1 ≤ first) :
    roundNanos first < roundNanos second ↔ first < second := by
  unfold roundNanos drandRoundLength
  omega

theorem roundNumber_le_iff {base : Timestamp} {round : Nat} (positive : 1 ≤ round) :
    roundNumber base ≤ round ↔ base.nanos < roundNanos round := by
  unfold roundNumber roundNanos drandRoundLength
  split
  · omega
  · omega

theorem lt_roundNanos_roundNumber (base : Timestamp) : base.nanos < roundNanos (roundNumber base) :=
  (roundNumber_le_iff (roundNumber_pos base)).mp (Nat.le_refl _)

theorem roundNanos_le_of_lt {base : Timestamp} {round : Nat} (positive : 1 ≤ round)
    (earlier : round < roundNumber base) : roundNanos round ≤ base.nanos := by
  by_contra later
  have least := (roundNumber_le_iff positive).mpr (Nat.lt_of_not_le later)
  omega

theorem timeOfRound_of_lt {round : Nat} (positive : 1 ≤ round) (fits : roundNanos round < 2 ^ 64) :
    timeOfRound round = .ok ⟨roundNanos round, fits⟩ :=
  timeOfRound_eq_ok.mpr ⟨positive, rfl⟩

theorem roundNanos_roundNumber_le (base : Timestamp) :
    roundNanos (roundNumber base) ≤ max drandGenesis.nanos (base.nanos + drandRoundLength) := by
  unfold roundNumber roundNanos drandRoundLength
  split
  · omega
  · omega

theorem roundNumber_timeOfRound {round : Nat} {time : Timestamp}
    (published : timeOfRound round = .ok time) : roundNumber time = round + 1 := by
  obtain ⟨positive, nanos⟩ := timeOfRound_nanos published
  apply Nat.le_antisymm
  · rw [roundNumber_le_iff (Nat.le_add_left 1 round), ← nanos, roundNanos_lt_iff positive]
    exact Nat.lt_succ_self round
  · have later := lt_roundNanos_roundNumber time
    rw [← nanos, roundNanos_lt_iff positive] at later
    exact later

theorem roundNumber_before {round : Nat} {time before : Timestamp}
    (published : timeOfRound round = .ok time) (nanosecond : before.nanos + 1 = time.nanos) :
    roundNumber before = round := by
  obtain ⟨positive, nanos⟩ := timeOfRound_nanos published
  apply Nat.le_antisymm
  · rw [roundNumber_le_iff positive]
    omega
  · by_contra smaller
    have later := lt_roundNanos_roundNumber before
    have earlier := (roundNanos_lt_iff (roundNumber_pos before)).mpr (Nat.lt_of_not_le smaller)
    omega

theorem roundNumber_mono {first second : Timestamp} (ordered : first.nanos ≤ second.nanos) :
    roundNumber first ≤ roundNumber second := by
  rw [roundNumber_le_iff (roundNumber_pos second)]
  exact Nat.lt_of_le_of_lt ordered (lt_roundNanos_roundNumber second)

/-- Two times get the same round unless a round is published between them. -/
theorem roundNumber_eq_iff {first second : Timestamp} (ordered : first.nanos ≤ second.nanos) :
    roundNumber first = roundNumber second ↔ ∀ round, 1 ≤ round → first.nanos < roundNanos round →
      second.nanos < roundNanos round := by
  constructor
  · intro same round positive later
    rw [← roundNumber_le_iff positive] at later ⊢
    omega
  · intro unseparated
    apply Nat.le_antisymm (roundNumber_mono ordered)
    rw [roundNumber_le_iff (roundNumber_pos first)]
    exact unseparated _ (roundNumber_pos first) (lt_roundNanos_roundNumber first)

/-- `round_after` and `time_of_round` as functions of 64 bit times and rounds. -/
structure AdjointSchedule : Prop where
  least : ∀ base : Timestamp, base.nanos ≤ 2 ^ 64 - 1 - 3 * 10 ^ 9 →
    ∃ round time, roundAfter base = .ok round ∧ timeOfRound round = .ok time ∧ 1 ≤ round ∧
      base.nanos < time.nanos ∧ ∀ earlier, 1 ≤ earlier → earlier < round →
        ∃ earlierTime, timeOfRound earlier = .ok earlierTime ∧ earlierTime.nanos ≤ base.nanos
  atTime :
    ∀ round time, 1 ≤ round → timeOfRound round = .ok time → roundAfter time = .ok (round + 1)
  beforeTime : ∀ round time, 1 ≤ round → timeOfRound round = .ok time →
    ∃ before : Timestamp, before.nanos + 1 = time.nanos ∧ roundAfter before = .ok round
  monotone : ∀ first second : Timestamp, first.nanos ≤ second.nanos →
    ∃ firstRound secondRound, roundAfter first = .ok firstRound ∧
      roundAfter second = .ok secondRound ∧ firstRound ≤ secondRound
  increasing : ∀ first second firstTime secondTime, timeOfRound first = .ok firstTime →
    timeOfRound second = .ok secondTime → (firstTime.nanos < secondTime.nanos ↔ first < second)
  sameRound : ∀ first second : Timestamp, first.nanos ≤ second.nanos →
    (roundAfter first = roundAfter second ↔
      ¬∃ round time, 1 ≤ round ∧ timeOfRound round = .ok time ∧ first.nanos < time.nanos ∧
        time.nanos ≤ second.nanos)

theorem schedule_adjoint : AdjointSchedule := by
  refine ⟨?_, ?_, ?_, ?_, ?_, ?_⟩
  · intro base bounded
    have genesis : drandGenesis.nanos = 1677685200 * 1000000000 := rfl
    have above := roundNanos_roundNumber_le base
    have fits : roundNanos (roundNumber base) < 2 ^ 64 := by
      unfold drandRoundLength at above
      omega
    refine ⟨roundNumber base, _, roundAfter_eq base, timeOfRound_of_lt (roundNumber_pos base) fits,
      roundNumber_pos base, lt_roundNanos_roundNumber base, ?_⟩
    intro earlier positive below
    have past := roundNanos_le_of_lt positive below
    have bound := base.isU64
    exact ⟨_, timeOfRound_of_lt positive (by omega), past⟩
  · intro round time positive published
    rw [roundAfter_eq, roundNumber_timeOfRound published]
  · intro round time positive published
    have bound := time.isU64
    have started : 0 < time.nanos := by
      rw [← (timeOfRound_nanos published).2]
      exact Nat.add_pos_left (by decide) _
    let before : Timestamp := ⟨time.nanos - 1, by omega⟩
    have nanosecond : before.nanos + 1 = time.nanos := Nat.sub_add_cancel started
    exact ⟨before, nanosecond, by rw [roundAfter_eq, roundNumber_before published nanosecond]⟩
  · intro first second ordered
    exact ⟨_, _, roundAfter_eq first, roundAfter_eq second, roundNumber_mono ordered⟩
  · intro first second firstTime secondTime firstPublished secondPublished
    obtain ⟨positive, firstNanos⟩ := timeOfRound_nanos firstPublished
    obtain ⟨_, secondNanos⟩ := timeOfRound_nanos secondPublished
    rw [← firstNanos, ← secondNanos, roundNanos_lt_iff positive]
  · intro first second ordered
    rw [roundAfter_eq, roundAfter_eq, Except.ok.injEq, roundNumber_eq_iff ordered]
    constructor
    · rintro unseparated ⟨round, time, positive, published, later, notLater⟩
      rw [← (timeOfRound_nanos published).2] at later notLater
      have beyond := unseparated round positive later
      omega
    · intro unseparated round positive later
      by_contra notLater
      have bound := second.isU64
      have fits : roundNanos round < 2 ^ 64 := by omega
      exact unseparated
        ⟨round, _, positive, timeOfRound_of_lt positive fits, later, Nat.le_of_not_lt notLater⟩

end NoisContracts
