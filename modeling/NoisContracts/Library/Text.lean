import Mathlib

/-!
A text format for flat records: JSON objects whose values are strings, and objects
under one tag. Bytes inside a string are written in hexadecimal or base64. Reading
back what was written gives the same record.
-/

namespace TextFormat

abbrev Text := List Char

/-! Digits of an alphabet. -/

def digitChar (alphabet : Text) (value : Nat) : Char := alphabet.getD value '0'

def digitValue (alphabet : Text) (digit : Char) : Option Nat :=
  if digit ∈ alphabet then some (alphabet.idxOf digit) else none

theorem digitValue_digitChar {alphabet : Text} (distinct : alphabet.Nodup) {value : Nat}
    (bound : value < alphabet.length) :
    digitValue alphabet (digitChar alphabet value) = some value := by
  have found : digitChar alphabet value = alphabet[value] := by
    simp [digitChar, List.getD_eq_getElem?_getD, bound]
  rw [found, digitValue, if_pos (List.getElem_mem bound), distinct.idxOf_getElem]

def upperHex : Text := "0123456789ABCDEF".toList

def lowerHex : Text := "0123456789abcdef".toList

def base64 : Text := "ABCDEFGHIJKLMNOPQRSTUVWXYZabcdefghijklmnopqrstuvwxyz0123456789+/".toList

theorem upperHex_nodup : upperHex.Nodup := by decide

theorem lowerHex_nodup : lowerHex.Nodup := by decide

theorem upperHex_value (value : Nat) (bound : value < 16) :
    digitValue upperHex (digitChar upperHex value) = some value :=
  digitValue_digitChar upperHex_nodup (Nat.lt_of_lt_of_le bound (by decide))

theorem lowerHex_value (value : Nat) (bound : value < 16) :
    digitValue lowerHex (digitChar lowerHex value) = some value :=
  digitValue_digitChar lowerHex_nodup (Nat.lt_of_lt_of_le bound (by decide))

set_option maxRecDepth 8000 in
theorem base64_nodup : base64.Nodup := by decide

theorem base64_value (value : Nat) (bound : value < 64) :
    digitValue base64 (digitChar base64 value) = some value :=
  digitValue_digitChar base64_nodup (Nat.lt_of_lt_of_le bound (by decide))

/-! Quoted strings. -/

def escapeChar (char : Char) : Text :=
  if char = '"' then ['\\', '"']
  else if char = '\\' then ['\\', '\\']
  else if char = '\n' then ['\\', 'n']
  else if char = '\r' then ['\\', 'r']
  else if char = '\t' then ['\\', 't']
  else if char.toNat = 8 then ['\\', 'b']
  else if char.toNat = 12 then ['\\', 'f']
  else if char.toNat < 32 then
    ['\\', 'u', '0', '0', digitChar upperHex (char.toNat / 16),
      digitChar upperHex (char.toNat % 16)]
  else [char]

def escape : Text → Text
  | [] => []
  | char :: rest => escapeChar char ++ escape rest

def quote (text : Text) : Text := '"' :: (escape text ++ ['"'])

def unescapeOne : Char → Option Char
  | '"' => some '"'
  | '\\' => some '\\'
  | 'n' => some '\n'
  | 'r' => some '\r'
  | 't' => some '\t'
  | 'b' => some (Char.ofNat 8)
  | 'f' => some (Char.ofNat 12)
  | _ => none

def readBody : Text → Option (Text × Text)
  | [] => none
  | '"' :: rest => some ([], rest)
  | '\\' :: 'u' :: '0' :: '0' :: high :: low :: rest => do
      let high ← digitValue upperHex high
      let low ← digitValue upperHex low
      let (text, rest) ← readBody rest
      some (Char.ofNat (16 * high + low) :: text, rest)
  | '\\' :: char :: rest => do
      let char ← unescapeOne char
      let (text, rest) ← readBody rest
      some (char :: text, rest)
  | char :: rest => do
      let (text, rest) ← readBody rest
      some (char :: text, rest)

def readQuoted : Text → Option (Text × Text)
  | '"' :: rest => readBody rest
  | _ => none

theorem readBody_escapeChar (char : Char) (rest : Text) :
    readBody (escapeChar char ++ rest) =
      (readBody rest).map fun result => (char :: result.1, result.2) := by
  unfold escapeChar
  split
  · subst char
    cases found : readBody rest <;> simp [readBody, unescapeOne, found]
  split
  · subst char
    cases found : readBody rest <;> simp [readBody, unescapeOne, found]
  split
  · subst char
    cases found : readBody rest <;> simp [readBody, unescapeOne, found]
  split
  · subst char
    cases found : readBody rest <;> simp [readBody, unescapeOne, found]
  split
  · subst char
    cases found : readBody rest <;> simp [readBody, unescapeOne, found]
  split
  · rename_i code
    obtain rfl : Char.ofNat 8 = char := by rw [← code, Char.ofNat_toNat]
    cases found : readBody rest <;> simp [readBody, unescapeOne, found]
  split
  · rename_i code
    obtain rfl : Char.ofNat 12 = char := by rw [← code, Char.ofNat_toNat]
    cases found : readBody rest <;> simp [readBody, unescapeOne, found]
  split
  · rename_i control
    have high := upperHex_value (char.toNat / 16) (by omega)
    have low := upperHex_value (char.toNat % 16) (by omega)
    have same : Char.ofNat (16 * (char.toNat / 16) + char.toNat % 16) = char := by
      rw [Nat.div_add_mod, Char.ofNat_toNat]
    cases found : readBody rest <;> simp [readBody, high, low, same, found]
  · rename_i noQuote noBackslash _ _ _ _ _ _
    cases found : readBody rest <;> simp [readBody, noBackslash, found]

theorem readBody_escape (text rest : Text) :
    readBody (escape text ++ '"' :: rest) = some (text, rest) := by
  induction text with
  | nil => simp [escape, readBody]
  | cons char text ih => simp [escape, readBody_escapeChar, ih]

theorem readQuoted_quote (text rest : Text) :
    readQuoted (quote text ++ rest) = some (text, rest) := by
  simp [quote, readQuoted, readBody_escape]

/-! Objects with string members, and tagged objects. -/

abbrev Record := List (String × String)

def writeMember (name value : String) : Text := quote name.toList ++ ':' :: quote value.toList

def writeMembers : Record → Text
  | [] => ['}']
  | (name, value) :: rest => ',' :: (writeMember name value ++ writeMembers rest)

def writeRecord : Record → Text
  | [] => ['{', '}']
  | (name, value) :: rest => '{' :: (writeMember name value ++ writeMembers rest)

def readMember (text : Text) : Option ((String × String) × Text) := do
  let (name, text) ← readQuoted text
  match text with
  | ':' :: text =>
      let (value, text) ← readQuoted text
      some ((String.ofList name, String.ofList value), text)
  | _ => none

def readMembers : Nat → Text → Option (Record × Text)
  | _, '}' :: rest => some ([], rest)
  | fuel + 1, ',' :: text => do
      let (member, text) ← readMember text
      let (members, rest) ← readMembers fuel text
      some (member :: members, rest)
  | _, _ => none

def readRecord : Text → Option (Record × Text)
  | '{' :: '}' :: rest => some ([], rest)
  | '{' :: text => do
      let (member, text) ← readMember text
      let (members, rest) ← readMembers text.length text
      some (member :: members, rest)
  | _ => none

def writeTagged (tag : String) (record : Record) : Text :=
  '{' :: (quote tag.toList ++ ':' :: (writeRecord record ++ ['}']))

def readTagged : Text → Option ((String × Record) × Text)
  | '{' :: text => do
      let (tag, text) ← readQuoted text
      match text with
      | ':' :: text =>
          let (record, text) ← readRecord text
          match text with
          | '}' :: rest => some ((String.ofList tag, record), rest)
          | _ => none
      | _ => none
  | _ => none

theorem readMember_writeMember (name value : String) (rest : Text) :
    readMember (writeMember name value ++ rest) = some ((name, value), rest) := by
  simp [readMember, writeMember, readQuoted_quote]

theorem length_writeMembers (record : Record) : record.length < (writeMembers record).length := by
  induction record with
  | nil => simp [writeMembers]
  | cons member rest ih =>
      simp only [writeMembers, List.length_cons, List.length_append]
      omega

theorem readMembers_writeMembers (record : Record) (rest : Text) (fuel : Nat)
    (enough : record.length ≤ fuel) :
    readMembers fuel (writeMembers record ++ rest) = some (record, rest) := by
  induction record generalizing fuel with
  | nil => cases fuel <;> simp [writeMembers, readMembers]
  | cons member record ih =>
      cases fuel with
      | zero => simp at enough
      | succ fuel =>
          have tail := ih fuel (by simpa using enough)
          simp [writeMembers, readMembers, readMember_writeMember, tail]

theorem readRecord_writeRecord (record : Record) (rest : Text) :
    readRecord (writeRecord record ++ rest) = some (record, rest) := by
  cases record with
  | nil => simp [writeRecord, readRecord]
  | cons member record =>
      have enough : record.length ≤ (writeMembers record ++ rest).length := by
        have shorter := length_writeMembers record
        simp only [List.length_append]
        omega
      have tail := readMembers_writeMembers record rest _ enough
      have opened :
          readRecord ('{' :: (writeMember member.1 member.2 ++ (writeMembers record ++ rest))) =
            some (member :: record, rest) := by
        rw [readRecord]
        · rw [readMember_writeMember]
          simp only [Option.bind_eq_bind, Option.bind_some, tail]
        · simp [writeMember, quote]
      simpa [writeRecord] using opened

theorem readTagged_writeTagged (tag : String) (record : Record) (rest : Text) :
    readTagged (writeTagged tag record ++ rest) = some ((tag, record), rest) := by
  simp [writeTagged, readTagged, readQuoted_quote, readRecord_writeRecord]

def whole {α : Type} (read : Text → Option (α × Text)) (text : Text) : Option α :=
  match read text with
  | some (value, []) => some value
  | _ => none

theorem whole_of_read {α : Type} {read : Text → Option (α × Text)} {text : Text} {value : α}
    (done : read text = some (value, [])) : whole read text = some value := by
  simp [whole, done]

/-! Bytes of a text. -/

def encodeUtf8 (text : Text) : List UInt8 := (String.ofList text).toUTF8.data.toList

def decodeUtf8 (bytes : List UInt8) : Option Text :=
  (String.fromUTF8? ⟨bytes.toArray⟩).map String.toList

theorem decodeUtf8_encodeUtf8 (text : Text) : decodeUtf8 (encodeUtf8 text) = some text := by
  have bytes : (⟨(encodeUtf8 text).toArray⟩ : ByteArray) = (String.ofList text).toUTF8 := by
    simp [encodeUtf8]
  have valid : (String.ofList text).toUTF8.IsValidUTF8 := (String.ofList text).isValidUTF8
  have decoded : String.fromUTF8? (String.ofList text).toUTF8 = some (String.ofList text) := by
    simp only [String.fromUTF8?, valid, dif_pos]
    rfl
  rw [decodeUtf8, bytes, decoded]
  simp

/-! The length of a text in bytes. -/

def byteLength (text : Text) : Nat := (text.map Char.utf8Size).sum

@[simp] theorem byteLength_nil : byteLength [] = 0 := rfl

@[simp] theorem byteLength_cons (char : Char) (rest : Text) :
    byteLength (char :: rest) = char.utf8Size + byteLength rest := rfl

@[simp] theorem byteLength_append (first second : Text) :
    byteLength (first ++ second) = byteLength first + byteLength second := by
  simp [byteLength]

theorem size_utf8Encode (text : Text) : (List.utf8Encode text).size = byteLength text := by
  simp [byteLength, List.utf8Encode, List.length_flatMap]

theorem length_encodeUtf8 (text : Text) : (encodeUtf8 text).length = byteLength text := by
  rw [← size_utf8Encode]
  simp [encodeUtf8]

theorem byteLength_toList (text : String) : byteLength text.toList = text.utf8ByteSize := by
  rw [← size_utf8Encode, ← String.toByteArray_ofList, String.ofList_toList]
  rfl

theorem byteLength_le (text : Text) : byteLength text ≤ 4 * text.length := by
  induction text with
  | nil => rfl
  | cons char rest ih =>
      have size := char.utf8Size_le_four
      rw [byteLength_cons, List.length_cons]
      omega

theorem utf8Size_upperHex (value : Nat) (bound : value < 16) :
    (digitChar upperHex value).utf8Size = 1 := by
  interval_cases value <;> rfl

theorem byteLength_escapeChar (char : Char) : byteLength (escapeChar char) ≤ 6 * char.utf8Size := by
  have positive : 1 ≤ char.utf8Size := char.utf8Size_pos
  have short (escaped : Text) (bound : byteLength escaped ≤ 6) :
      byteLength escaped ≤ 6 * char.utf8Size := by
    omega
  unfold escapeChar
  split_ifs <;> try exact short _ (by decide)
  · rename_i control
    apply short
    simp only [byteLength_cons, byteLength_nil, utf8Size_upperHex (char.toNat / 16) (by omega),
      utf8Size_upperHex (char.toNat % 16) (by omega)]
    decide
  · simp only [byteLength_cons, byteLength_nil]
    omega

theorem byteLength_escape (text : Text) : byteLength (escape text) ≤ 6 * byteLength text := by
  induction text with
  | nil => exact Nat.le_refl 0
  | cons char rest ih =>
      have first := byteLength_escapeChar char
      simp only [escape, byteLength_append, byteLength_cons]
      omega

theorem byteLength_quote (text : Text) :
    byteLength (quote text) = byteLength (escape text) + 2 := by
  have mark : ('"').utf8Size = 1 := rfl
  simp only [quote, byteLength_cons, byteLength_append, byteLength_nil]
  omega

theorem escape_plain {text : Text} (plain : ∀ char ∈ text, escapeChar char = [char]) :
    escape text = text := by
  induction text with
  | nil => rfl
  | cons char rest ih =>
      rw [escape, plain char List.mem_cons_self,
        ih fun other member => plain other (List.mem_cons_of_mem _ member)]
      rfl

/-! Numbers and bytes inside a string. -/

def writeDecimal (value : Nat) : Text := Nat.toDigits 10 value

def readDecimal (text : Text) : Option Nat :=
  if text ≠ [] ∧ text.all Char.isDigit then some (Nat.ofDigitChars 10 text 0) else none

theorem readDecimal_writeDecimal (value : Nat) : readDecimal (writeDecimal value) = some value := by
  have digits : (Nat.toDigits 10 value).all Char.isDigit = true := by
    rw [List.all_eq_true]
    intro digit member
    exact Nat.isDigit_of_mem_toDigits (by decide) (by decide) member
  rw [readDecimal, writeDecimal, if_pos ⟨Nat.toDigits_ne_nil, digits⟩]
  simp

def writeHex : List UInt8 → Text
  | [] => []
  | byte :: rest =>
      digitChar lowerHex (byte.toNat / 16) :: digitChar lowerHex (byte.toNat % 16) :: writeHex rest

def readHex : Text → Option (List UInt8)
  | [] => some []
  | high :: low :: rest => do
      let high ← digitValue lowerHex high
      let low ← digitValue lowerHex low
      let bytes ← readHex rest
      some (UInt8.ofNat (16 * high + low) :: bytes)
  | _ => none

theorem readHex_writeHex (bytes : List UInt8) : readHex (writeHex bytes) = some bytes := by
  induction bytes with
  | nil => rfl
  | cons byte bytes ih =>
      have size : byte.toNat < 256 := byte.toNat_lt
      have high := lowerHex_value (byte.toNat / 16) (by omega)
      have low := lowerHex_value (byte.toNat % 16) (by omega)
      have joined : UInt8.ofNat (16 * (byte.toNat / 16) + byte.toNat % 16) = byte := by
        rw [Nat.div_add_mod, UInt8.ofNat_toNat]
      simp only [writeHex, readHex, high, low, ih, Option.bind_eq_bind, Option.bind_some, joined]

theorem base64_padding : digitValue base64 '=' = none := by decide

def writeBase64 : List UInt8 → Text
  | [] => []
  | [first] =>
      [digitChar base64 (first.toNat / 4), digitChar base64 (first.toNat % 4 * 16), '=', '=']
  | [first, second] =>
      [digitChar base64 (first.toNat / 4),
        digitChar base64 (first.toNat % 4 * 16 + second.toNat / 16),
        digitChar base64 (second.toNat % 16 * 4), '=']
  | first :: second :: third :: rest =>
      digitChar base64 (first.toNat / 4) ::
        digitChar base64 (first.toNat % 4 * 16 + second.toNat / 16) ::
        digitChar base64 (second.toNat % 16 * 4 + third.toNat / 64) ::
        digitChar base64 (third.toNat % 64) :: writeBase64 rest

def readBase64 : Text → Option (List UInt8)
  | [] => some []
  | first :: second :: third :: fourth :: rest => do
      let x ← digitValue base64 first
      let y ← digitValue base64 second
      match digitValue base64 third, digitValue base64 fourth with
      | some z, some w =>
          let bytes ← readBase64 rest
          some (UInt8.ofNat (x * 4 + y / 16) :: UInt8.ofNat (y % 16 * 16 + z / 4) ::
            UInt8.ofNat (z % 4 * 64 + w) :: bytes)
      | some z, none =>
          if fourth = '=' ∧ rest = [] ∧ z % 4 = 0 then
            some [UInt8.ofNat (x * 4 + y / 16), UInt8.ofNat (y % 16 * 16 + z / 4)]
          else none
      | none, none =>
          if third = '=' ∧ fourth = '=' ∧ rest = [] ∧ y % 16 = 0 then
            some [UInt8.ofNat (x * 4 + y / 16)]
          else none
      | none, some _ => none
  | _ => none

theorem readBase64_writeBase64 (bytes : List UInt8) :
    readBase64 (writeBase64 bytes) = some bytes := by
  have number (byte : UInt8) (value : Nat) (same : value = byte.toNat) :
      UInt8.ofNat value = byte := by
    rw [same, UInt8.ofNat_toNat]
  fun_induction writeBase64 bytes with
  | case1 => rfl
  | case2 first =>
      have size : first.toNat < 256 := first.toNat_lt
      have x := base64_value (first.toNat / 4) (by omega)
      have y := base64_value (first.toNat % 4 * 16) (by omega)
      have joined := number first (first.toNat / 4 * 4 + first.toNat % 4 * 16 / 16) (by omega)
      simp only [readBase64, x, y, base64_padding, Option.bind_eq_bind, Option.bind_some, joined,
        Nat.mul_mod_left, and_self, if_true]
  | case3 first second =>
      have size : first.toNat < 256 := first.toNat_lt
      have sizeSecond : second.toNat < 256 := second.toNat_lt
      have x := base64_value (first.toNat / 4) (by omega)
      have y := base64_value (first.toNat % 4 * 16 + second.toNat / 16) (by omega)
      have z := base64_value (second.toNat % 16 * 4) (by omega)
      have joined := number first
        (first.toNat / 4 * 4 + (first.toNat % 4 * 16 + second.toNat / 16) / 16) (by omega)
      have joinedSecond :=
        number second
          ((first.toNat % 4 * 16 + second.toNat / 16) % 16 * 16 + second.toNat % 16 * 4 / 4)
          (by omega)
      simp only [readBase64, x, y, z, base64_padding, Option.bind_eq_bind, Option.bind_some, joined,
        joinedSecond, Nat.mul_mod_left, and_self, if_true]
  | case4 first second third rest ih =>
      have size : first.toNat < 256 := first.toNat_lt
      have sizeSecond : second.toNat < 256 := second.toNat_lt
      have sizeThird : third.toNat < 256 := third.toNat_lt
      have x := base64_value (first.toNat / 4) (by omega)
      have y := base64_value (first.toNat % 4 * 16 + second.toNat / 16) (by omega)
      have z := base64_value (second.toNat % 16 * 4 + third.toNat / 64) (by omega)
      have w := base64_value (third.toNat % 64) (by omega)
      have joined := number first
        (first.toNat / 4 * 4 + (first.toNat % 4 * 16 + second.toNat / 16) / 16) (by omega)
      have joinedSecond := number second
        ((first.toNat % 4 * 16 + second.toNat / 16) % 16 * 16 +
          (second.toNat % 16 * 4 + third.toNat / 64) / 4) (by omega)
      have joinedThird := number third
        ((second.toNat % 16 * 4 + third.toNat / 64) % 4 * 64 + third.toNat % 64) (by omega)
      simp only [readBase64, x, y, z, w, ih, Option.bind_eq_bind, Option.bind_some, joined,
        joinedSecond, joinedThird]

end TextFormat
