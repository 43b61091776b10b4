import Mathlib

/-!
Keys of a storage of bytes. Numbers are written with a fixed width, the most significant
byte first, so the order of the bytes is the order of the numbers. The parts of a key
before the last one carry their length in two bytes, so a key determines its parts.
-/

namespace RawKeys

abbrev Bytes := List UInt8

def bigEndian : Nat → Nat → Bytes
  | 0, _ => []
  | width + 1, value => UInt8.ofNat (value / 256 ^ width) :: bigEndian width (value % 256 ^ width)

@[simp] theorem length_bigEndian (width value : Nat) : (bigEndian width value).length = width := by
  induction width generalizing value with
  | zero => rfl
  | succ width ih => rw [bigEndian, List.length_cons, ih]

theorem lt_iff_div_mod (base first second : Nat) (positive : 0 < base) :
    first < second ↔ first / base < second / base ∨
      first / base = second / base ∧ first % base < second % base := by
  have firstSplit := Nat.div_add_mod first base
  have secondSplit := Nat.div_add_mod second base
  have firstBound := Nat.mod_lt first positive
  have secondBound := Nat.mod_lt second positive
  rcases Nat.lt_trichotomy (first / base) (second / base) with smaller | same | larger
  · have step := Nat.mul_le_mul_left base (Nat.succ_le_of_lt smaller)
    rw [Nat.mul_succ] at step
    omega
  · rw [same] at firstSplit
    omega
  · have step := Nat.mul_le_mul_left base (Nat.succ_le_of_lt larger)
    rw [Nat.mul_succ] at step
    omega

/-- The most significant digit is a byte. -/
theorem toNat_digit {width value : Nat} (fits : value < 256 ^ (width + 1)) :
    (UInt8.ofNat (value / 256 ^ width)).toNat = value / 256 ^ width := by
  have digit : value / 256 ^ width < 256 := by
    rw [Nat.div_lt_iff_lt_mul (Nat.pow_pos (by decide)), ← pow_succ']
    exact fits
  rw [UInt8.toNat_ofNat', Nat.mod_eq_of_lt digit]

theorem bigEndian_lt_iff {width first second : Nat} (firstFits : first < 256 ^ width)
    (secondFits : second < 256 ^ width) :
    bigEndian width first < bigEndian width second ↔ first < second := by
  induction width generalizing first second with
  | zero =>
      rw [pow_zero, Nat.lt_one_iff] at firstFits secondFits
      simp [bigEndian, firstFits, secondFits]
  | succ width ih =>
      have positive : 0 < 256 ^ width := Nat.pow_pos (by decide)
      have firstByte := toNat_digit firstFits
      have secondByte := toNat_digit secondFits
      rw [bigEndian, bigEndian, List.cons_lt_cons_iff, UInt8.lt_iff_toNat_lt, ← UInt8.toNat_inj,
        firstByte, secondByte, ih (Nat.mod_lt _ positive) (Nat.mod_lt _ positive),
        ← lt_iff_div_mod _ _ _ positive]

theorem bigEndian_inj {width first second : Nat} (firstFits : first < 256 ^ width)
    (secondFits : second < 256 ^ width) (same : bigEndian width first = bigEndian width second) :
    first = second := by
  have irreflexive : ¬bigEndian width second < bigEndian width second := by
    rw [bigEndian_lt_iff secondFits secondFits]
    omega
  have below := bigEndian_lt_iff firstFits secondFits
  have above := bigEndian_lt_iff secondFits firstFits
  rw [same] at below above
  have notBelow := below.not.mp irreflexive
  have notAbove := above.not.mp irreflexive
  omega

theorem append_lt_append_iff {first second firstRest secondRest : Bytes}
    (lengths : first.length = second.length) :
    first ++ firstRest < second ++ secondRest ↔
      first < second ∨ first = second ∧ firstRest < secondRest := by
  induction first generalizing second with
  | nil =>
      rw [List.length_nil] at lengths
      rw [List.length_eq_zero_iff.mp lengths.symm]
      simp
  | cons byte rest ih =>
      cases second with
      | nil => cases lengths
      | cons otherByte otherRest =>
          rw [List.cons_append, List.cons_append, List.cons_lt_cons_iff, List.cons_lt_cons_iff,
            ih (Nat.succ.inj lengths), List.cons.injEq]
          tauto

theorem append_lt_append_left_iff (first firstRest secondRest : Bytes) :
    first ++ firstRest < first ++ secondRest ↔ firstRest < secondRest := by
  have irreflexive : ¬first < first := by
    induction first with
    | nil => simp
    | cons byte rest ih =>
        rw [List.cons_lt_cons_iff, UInt8.lt_iff_toNat_lt]
        simp [ih]
  rw [append_lt_append_iff rfl]
  tauto

def lengthPrefixed (part : Bytes) : Bytes := bigEndian 2 part.length ++ part

def leadingLength : Bytes → Nat
  | high :: low :: _ => high.toNat * 256 + low.toNat
  | _ => 0

theorem leadingLength_lengthPrefixed {part : Bytes} (short : part.length < 256 ^ 2) (rest : Bytes) :
    leadingLength (lengthPrefixed part ++ rest) = part.length := by
  have high : part.length / 256 < 256 := by omega
  have highByte : (UInt8.ofNat (part.length / 256)).toNat = part.length / 256 := by
    rw [UInt8.toNat_ofNat', Nat.mod_eq_of_lt high]
  have lowByte : (UInt8.ofNat (part.length % 256)).toNat = part.length % 256 := by
    rw [UInt8.toNat_ofNat', Nat.mod_eq_of_lt (Nat.mod_lt _ (by decide))]
  simp only [lengthPrefixed, bigEndian, List.cons_append, leadingLength, pow_one, pow_zero,
    Nat.div_one, highByte, lowByte]
  omega

theorem lengthPrefixed_append_inj {first second firstRest secondRest : Bytes}
    (firstShort : first.length < 256 ^ 2) (secondShort : second.length < 256 ^ 2)
    (same : lengthPrefixed first ++ firstRest = lengthPrefixed second ++ secondRest) :
    first = second ∧ firstRest = secondRest := by
  have lengths : first.length = second.length := by
    rw [← leadingLength_lengthPrefixed firstShort firstRest, same,
      leadingLength_lengthPrefixed secondShort]
  have parts := List.append_inj same (by simp [lengthPrefixed, lengths])
  refine ⟨?_, parts.2⟩
  have names := parts.1
  rw [lengthPrefixed, lengthPrefixed, lengths] at names
  exact List.append_cancel_left names

theorem lengthPrefixed_prefix_iff {first second rest : Bytes} (firstShort : first.length < 256 ^ 2)
    (secondShort : second.length < 256 ^ 2) :
    lengthPrefixed first <+: lengthPrefixed second ++ rest ↔ first = second := by
  constructor
  · rintro ⟨firstRest, same⟩
    exact (lengthPrefixed_append_inj firstShort secondShort same).1
  · rintro rfl
    exact List.prefix_append _ _

/-- The key of an entry of a map: the namespace and the inner parts with their lengths,
then the last part. -/
def mapKey (name : Bytes) (inner : List Bytes) (last : Bytes) : Bytes :=
  (name :: inner).flatMap lengthPrefixed ++ last

theorem mapKey_eq (name : Bytes) (inner : List Bytes) (last : Bytes) :
    mapKey name inner last = lengthPrefixed name ++ (inner.flatMap lengthPrefixed ++ last) := by
  rw [mapKey, List.flatMap_cons, List.append_assoc]

/-! The storage itself. -/

abbrev RawStorage := Bytes → Option Bytes

def RawStorage.set (storage : RawStorage) (key value : Bytes) : RawStorage := fun other =>
  if other = key then some value else storage other

def RawStorage.remove (storage : RawStorage) (key : Bytes) : RawStorage := fun other =>
  if other = key then none else storage other

def RawStorage.scan (storage : RawStorage) (front : Bytes) : Set (Bytes × Bytes) :=
  {entry | front <+: entry.1 ∧ storage entry.1 = some entry.2}

theorem RawStorage.set_other {storage : RawStorage} {key other value : Bytes}
    (different : other ≠ key) : storage.set key value other = storage other :=
  if_neg different

theorem RawStorage.remove_other {storage : RawStorage} {key other : Bytes}
    (different : other ≠ key) : storage.remove key other = storage other :=
  if_neg different

theorem RawStorage.scan_congr {storage changed : RawStorage} {front : Bytes}
    (agree : ∀ key, front <+: key → changed key = storage key) :
    changed.scan front = storage.scan front := by
  ext entry
  constructor
  · rintro ⟨covered, found⟩
    exact ⟨covered, agree entry.1 covered ▸ found⟩
  · rintro ⟨covered, found⟩
    exact ⟨covered, (agree entry.1 covered).trans found⟩

end RawKeys
