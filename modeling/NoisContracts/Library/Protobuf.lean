import Mathlib

/-!
The protobuf wire format for messages whose fields are all length-delimited: a
message is a sequence of fields, a field is a tag, the length of its payload and the
payload. Tags and lengths are varints with seven bits to the byte.
-/

namespace Protobuf

abbrev Bytes := List UInt8

/-- The groups of seven bits of a number, lowest first. A number has fewer groups than
its value, so its value is fuel enough. -/
def writeGroups : Nat → Nat → Bytes
  | 0, _ => []
  | fuel + 1, value =>
      if value < 128 then [UInt8.ofNat value]
      else UInt8.ofNat (value % 128 + 128) :: writeGroups fuel (value / 128)

def writeVarint (value : Nat) : Bytes := writeGroups (value + 1) value

def readVarint : Bytes → Option (Nat × Bytes)
  | [] => none
  | byte :: rest =>
      if byte.toNat < 128 then some (byte.toNat, rest)
      else (readVarint rest).map fun read => (byte.toNat - 128 + 128 * read.1, read.2)

theorem readVarint_writeGroups (fuel value : Nat) (enough : value < fuel) (rest : Bytes) :
    readVarint (writeGroups fuel value ++ rest) = some (value, rest) := by
  induction fuel generalizing value with
  | zero => omega
  | succ fuel ih =>
      rw [writeGroups]
      split
      · rename_i small
        have byte : (UInt8.ofNat value).toNat = value := by
          rw [UInt8.toNat_ofNat']
          omega
        simp [readVarint, byte, small]
      · rename_i large
        have byte : (UInt8.ofNat (value % 128 + 128)).toNat = value % 128 + 128 := by
          rw [UInt8.toNat_ofNat']
          omega
        have continued : ¬value % 128 + 128 < 128 := by omega
        have joined : value % 128 + 128 - 128 + 128 * (value / 128) = value := by omega
        rw [List.cons_append, readVarint, byte, if_neg continued, ih (value / 128) (by omega)]
        simp only [Option.map_some, joined]

theorem readVarint_writeVarint (value : Nat) (rest : Bytes) :
    readVarint (writeVarint value ++ rest) = some (value, rest) :=
  readVarint_writeGroups (value + 1) value (Nat.lt_succ_self value) rest

theorem writeVarint_ne_nil (value : Nat) : writeVarint value ≠ [] := by
  rw [writeVarint, writeGroups]
  split <;> simp

theorem length_writeVarint {value : Nat} (large : 128 ≤ value) :
    2 ≤ (writeVarint value).length := by
  rw [writeVarint, writeGroups, if_neg (by omega), List.length_cons]
  have positive : (writeGroups value (value / 128)) ≠ [] := by
    obtain ⟨fuel, rfl⟩ : ∃ fuel, value = fuel + 1 := ⟨value - 1, by omega⟩
    rw [writeGroups]
    split <;> simp
  have length := List.length_pos_iff.mpr positive
  omega

structure Field where
  number : Nat
  payload : Bytes
deriving DecidableEq, Repr

def writeField (field : Field) : Bytes :=
  writeVarint (field.number * 8 + 2) ++ (writeVarint field.payload.length ++ field.payload)

def readField (bytes : Bytes) : Option (Field × Bytes) := do
  let (tag, afterTag) ← readVarint bytes
  let (length, content) ← readVarint afterTag
  if tag % 8 = 2 ∧ length ≤ content.length then
    some (⟨tag / 8, content.take length⟩, content.drop length)
  else none

theorem readField_writeField (field : Field) (rest : Bytes) :
    readField (writeField field ++ rest) = some (field, rest) := by
  have wireType : (field.number * 8 + 2) % 8 = 2 := by omega
  have number : (field.number * 8 + 2) / 8 = field.number := by omega
  simp [readField, writeField, List.append_assoc, readVarint_writeVarint, wireType, number]

def readFieldsIn : Nat → Bytes → Option (List Field)
  | _, [] => some []
  | 0, _ :: _ => none
  | fuel + 1, byte :: bytes => do
      let (field, rest) ← readField (byte :: bytes)
      let fields ← readFieldsIn fuel rest
      some (field :: fields)

def writeFields (fields : List Field) : Bytes := fields.flatMap writeField

/-- A field takes at least one byte, so there are not more fields than bytes. -/
def readFields (bytes : Bytes) : Option (List Field) := readFieldsIn bytes.length bytes

theorem length_writeField (field : Field) : 1 ≤ (writeField field).length := by
  have tag := List.length_pos_iff.mpr (writeVarint_ne_nil (field.number * 8 + 2))
  rw [writeField, List.length_append]
  omega

theorem readFieldsIn_writeFields (fields : List Field) (fuel : Nat)
    (enough : (writeFields fields).length ≤ fuel) :
    readFieldsIn fuel (writeFields fields) = some fields := by
  induction fields generalizing fuel with
  | nil => cases fuel <;> rfl
  | cons field fields ih =>
      have positive := length_writeField field
      rw [writeFields, List.flatMap_cons, List.length_append] at enough
      change (writeField field).length + (writeFields fields).length ≤ fuel at enough
      have read := readField_writeField field (writeFields fields)
      rw [writeFields, List.flatMap_cons]
      change readFieldsIn fuel (writeField field ++ writeFields fields) = _
      cases written : writeField field ++ writeFields fields with
      | nil =>
          have lengths := congrArg List.length written
          rw [List.length_append, List.length_nil] at lengths
          omega
      | cons byte bytes =>
          cases fuel with
          | zero => omega
          | succ fuel =>
              rw [written] at read
              simp [readFieldsIn, read, ih fuel (by omega)]

theorem readFields_writeFields (fields : List Field) :
    readFields (writeFields fields) = some fields :=
  readFieldsIn_writeFields fields _ (Nat.le_refl _)

def payloadOf (number : Nat) (fields : List Field) : Bytes :=
  ((fields.filter fun field => field.number = number).getLast?.map Field.payload).getD []

def payloadsOf (number : Nat) (fields : List Field) : List Bytes :=
  (fields.filter fun field => field.number = number).map Field.payload

end Protobuf
