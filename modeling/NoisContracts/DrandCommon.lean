import NoisContracts.CosmWasm

/-!
The `drand-common` package: the schedule of the drand rounds. Rounds are counted
from 1 and are `u64` values; round 1 is published at the genesis time.
-/

namespace NoisContracts

open ContractCall

def drandChainHash : String := "dbd506d6ef76e5f386f41c651dcb808c5bcbd75471cc4eafa3f4df7ad4e4c493"

def drandGenesis : Timestamp := ⟨1677685200 * 1000000000, by norm_num⟩

def drandRoundLength : Nat := 3000000000

def timeOfRound (round : Nat) : Panics Timestamp := do
  let index ← checkedSub round 1
  let offset ← checkedMul 64 index drandRoundLength
  drandGenesis.plusNanos offset

def roundAfter (base : Timestamp) : Panics Nat :=
  if base.nanos < drandGenesis.nanos then .ok 1
  else do
    let fromGenesis ← checkedSub base.nanos drandGenesis.nanos
    let periodsSinceGenesis := fromGenesis / drandRoundLength
    let nextPeriodIndex ← checkedAdd 64 periodsSinceGenesis 1
    checkedAdd 64 nextPeriodIndex 1

/-- Only every 25th round is incentivized by its number. There is no round 0. -/
def isIncentivized (round : Nat) : Bool := round != 0 && round % 25 == 0

/-- The number that `round_after` computes; none of its checks can fail on a `u64`. -/
def roundNumber (base : Timestamp) : Nat :=
  if base.nanos < drandGenesis.nanos then 1
  else (base.nanos - drandGenesis.nanos) / drandRoundLength + 2

theorem roundAfter_eq (base : Timestamp) : roundAfter base = .ok (roundNumber base) := by
  unfold roundAfter roundNumber
  split
  · rfl
  · rename_i started
    have bound := base.isU64
    have elapsed : drandGenesis.nanos ≤ base.nanos := by omega
    have periods : (base.nanos - drandGenesis.nanos) / drandRoundLength + 2 < 2 ^ 64 := by
      simp only [drandRoundLength]
      omega
    simp only [except_bind_eq_ok, checkedSub_eq_ok, checkedAdd_eq_ok]
    exact ⟨_, ⟨elapsed, rfl⟩, _, ⟨by omega, rfl⟩, periods, rfl⟩

theorem roundNumber_pos (base : Timestamp) : 1 ≤ roundNumber base := by
  unfold roundNumber
  split
  · exact Nat.le_refl 1
  · exact Nat.le_add_left_of_le (by decide)

theorem timeOfRound_eq_ok {round : Nat} {time : Timestamp} :
    timeOfRound round = .ok time ↔
      1 ≤ round ∧ drandGenesis.nanos + (round - 1) * drandRoundLength = time.nanos := by
  unfold timeOfRound
  simp only [except_bind_eq_ok, checkedSub_eq_ok, checkedMul_eq_ok, Timestamp.plusNanos_eq_ok]
  constructor
  · rintro ⟨index, ⟨positive, rfl⟩, offset, ⟨_, rfl⟩, sum⟩
    exact ⟨positive, sum⟩
  · rintro ⟨positive, sum⟩
    have bound := time.isU64
    exact ⟨round - 1, ⟨positive, rfl⟩, (round - 1) * drandRoundLength, ⟨by omega, rfl⟩, sum⟩

/-- The round that is published at a time. -/
def roundAt (time : Timestamp) : Nat := (time.nanos - drandGenesis.nanos) / drandRoundLength + 1

theorem roundAt_timeOfRound {round : Nat} {time : Timestamp}
    (published : timeOfRound round = .ok time) : roundAt time = round := by
  obtain ⟨positive, sum⟩ := timeOfRound_eq_ok.mp published
  unfold drandRoundLength at sum
  unfold roundAt drandRoundLength
  omega

theorem timeOfRound_u32 {round : Nat} (positive : 1 ≤ round) (bound : round < 2 ^ 32) :
    ∃ time, timeOfRound round = .ok time := by
  refine ⟨⟨drandGenesis.nanos + (round - 1) * drandRoundLength, ?_⟩, ?_⟩
  · simp only [drandGenesis, drandRoundLength]
    omega
  · exact timeOfRound_eq_ok.mpr ⟨positive, rfl⟩

/-- The round that a request commits to is published after the requested time and,
from the genesis on, at most one round length later. -/
theorem published_bounds {base time : Timestamp}
    (published : timeOfRound (roundNumber base) = .ok time) :
    base.nanos < time.nanos ∧
      (drandGenesis.nanos ≤ base.nanos → time.nanos ≤ base.nanos + drandRoundLength) ∧
      (base.nanos < drandGenesis.nanos → time = drandGenesis) := by
  rw [timeOfRound_eq_ok] at published
  obtain ⟨positive, sum⟩ := published
  unfold roundNumber at sum
  split at sum
  · rename_i early
    refine ⟨by omega, fun late => by omega, fun _ => ?_⟩
    ext
    omega
  · rename_i started
    simp only [drandRoundLength] at sum ⊢
    refine ⟨by omega, fun _ => by omega, fun early => (started early).elim⟩

end NoisContracts
