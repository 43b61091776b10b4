import NoisContracts.Library.RawKeys
import NoisContracts.Library.Text
import NoisContracts.Gateway.Effects

/-!
The keys under which the gateway stores its state. The storage library writes an item
under its name and an entry of a map or a deque under a namespace with its length. The
archive of the randomness has keys of its own making, and the namespace of a requests log
contains the id of a channel. No two of these keys are equal.
-/

namespace NoisContracts.Gateway

open RawKeys TextFormat

/-- The id of a channel, which IBC limits to 64 characters. -/
structure ChannelId where
  id : String
  short : id.length ≤ 64
deriving DecidableEq, Repr

inductive DequeKey where
  | head
  | tail
  | position (index : UInt32)
deriving DecidableEq, Repr

inductive Cell where
  | config
  | contractInfo
  | customer (channel : ChannelId)
  | job (round : UInt32) (id : UInt16)
  | lastJobId (round : UInt32)
  | processedDrandJobsCount (round : UInt64)
  | requestsLog (channel : ChannelId) (key : DequeKey)
  | archive (round : UInt64)
deriving DecidableEq, Repr

def DequeKey.bytes : DequeKey → Bytes
  | .head => asBytes "h"
  | .tail => asBytes "t"
  | .position index => bigEndian 4 index.toNat

def drandMainnetRandomnessKey (round : UInt64) : Bytes :=
  [7, 100, 109] ++ bigEndian 8 round.toNat

def rawKey : Cell → Bytes
  | .config => asBytes "config"
  | .contractInfo => asBytes "contract_info"
  | .customer channel => mapKey (asBytes "customers") [] (asBytes channel.id)
  | .job round id => mapKey (asBytes "djobs") [bigEndian 4 round.toNat] (bigEndian 2 id.toNat)
  | .lastJobId round => mapKey (asBytes "djids") [] (bigEndian 4 round.toNat)
  | .processedDrandJobsCount round => mapKey (asBytes "drand_jobs_pc") [] (bigEndian 8 round.toNat)
  | .requestsLog channel key => mapKey (asBytes (requestsLogKey channel.id)) [] key.bytes
  | .archive round => drandMainnetRandomnessKey round

/-! The bytes of texts. -/

theorem asBytes_inj {first second : String} (same : asBytes first = asBytes second) :
    first = second := by
  have encoded (text : String) : asBytes text = encodeUtf8 text.toList := by
    simp [asBytes, encodeUtf8]
  have decoded := congrArg decodeUtf8 same
  rw [encoded, encoded, decodeUtf8_encodeUtf8, decodeUtf8_encodeUtf8, Option.some.injEq] at decoded
  exact String.toList_inj.mp decoded

theorem length_asBytes_le (text : String) : (asBytes text).length ≤ 4 * text.length := by
  have encoded : asBytes text = encodeUtf8 text.toList := by
    simp [asBytes, encodeUtf8]
  rw [encoded, length_encodeUtf8, ← String.length_toList]
  exact byteLength_le text.toList

/-! The collections: every key below a namespace belongs to one of them. -/

inductive Collection where
  | customers
  | jobs
  | lastJobIds
  | processedDrandJobsCounts
  | requestsLog (channel : ChannelId)
deriving DecidableEq, Repr

def Collection.name : Collection → String
  | .customers => "customers"
  | .jobs => "djobs"
  | .lastJobIds => "djids"
  | .processedDrandJobsCounts => "drand_jobs_pc"
  | .requestsLog channel => requestsLogKey channel.id

def Cell.collection : Cell → Option Collection
  | .config => none
  | .contractInfo => none
  | .customer _ => some .customers
  | .job _ _ => some .jobs
  | .lastJobId _ => some .lastJobIds
  | .processedDrandJobsCount _ => some .processedDrandJobsCounts
  | .requestsLog channel _ => some (.requestsLog channel)
  | .archive _ => none

def Cell.rest : Cell → Bytes
  | .config => asBytes "config"
  | .contractInfo => asBytes "contract_info"
  | .customer channel => asBytes channel.id
  | .job round id => lengthPrefixed (bigEndian 4 round.toNat) ++ bigEndian 2 id.toNat
  | .lastJobId round => bigEndian 4 round.toNat
  | .processedDrandJobsCount round => bigEndian 8 round.toNat
  | .requestsLog _ key => key.bytes
  | .archive round => drandMainnetRandomnessKey round

theorem requestsLogKey_ne (channel name : String) (other : name.toList.head? ≠ some 'r') :
    requestsLogKey channel ≠ name := by
  rintro rfl
  apply other
  simp [requestsLogKey, String.toList_append]

theorem Collection.eq_requestsLog {channel : ChannelId} {collection : Collection}
    (same : requestsLogKey channel.id = collection.name) : collection = .requestsLog channel := by
  cases collection with
  | customers => exact (requestsLogKey_ne _ _ (by decide) same).elim
  | jobs => exact (requestsLogKey_ne _ _ (by decide) same).elim
  | lastJobIds => exact (requestsLogKey_ne _ _ (by decide) same).elim
  | processedDrandJobsCounts => exact (requestsLogKey_ne _ _ (by decide) same).elim
  | requestsLog other =>
      obtain ⟨id, short⟩ := channel
      obtain ⟨otherId, otherShort⟩ := other
      have ids : id = otherId := requestsLogKey_injective same
      subst ids
      rfl

theorem Collection.name_inj {first second : Collection} (same : first.name = second.name) :
    first = second := by
  cases first with
  | requestsLog channel => exact (Collection.eq_requestsLog same).symm
  | _ =>
      cases second with
      | requestsLog channel => exact Collection.eq_requestsLog same.symm
      | _ => simp [Collection.name] at same ⊢

theorem Collection.length_name (collection : Collection) :
    (asBytes collection.name).length < 270 := by
  have bytes := length_asBytes_le collection.name
  cases collection with
  | requestsLog channel =>
      have short := channel.short
      rw [Collection.name, requestsLogKey] at bytes ⊢
      rw [String.length_append] at bytes
      have fixed : "rl_".length = 3 := rfl
      omega
  | _ =>
      refine Nat.lt_of_le_of_lt bytes ?_
      decide

theorem rawKey_eq (cell : Cell) : rawKey cell =
    match cell.collection with
    | some collection => lengthPrefixed (asBytes collection.name) ++ cell.rest
    | none => cell.rest := by
  cases cell <;> simp [rawKey, Cell.collection, Cell.rest, Collection.name, mapKey_eq]

/-- A key without a namespace begins with bytes that no length has. -/
theorem leadingLength_rest {cell : Cell} (alone : cell.collection = none) :
    270 ≤ leadingLength cell.rest := by
  cases cell with
  | config => decide
  | contractInfo => decide
  | archive round =>
      rw [Cell.rest, drandMainnetRandomnessKey, List.cons_append, List.cons_append]
      simp [leadingLength]
  | _ => cases alone

theorem collection_of_front {collection : Collection} {cell : Cell}
    (front : lengthPrefixed (asBytes collection.name) <+: rawKey cell) :
    cell.collection = some collection := by
  obtain ⟨rest, same⟩ := front
  have short := collection.length_name
  have leading :=
    leadingLength_lengthPrefixed (show (asBytes collection.name).length < 256 ^ 2 by omega) rest
  rw [rawKey_eq] at same
  cases found : cell.collection with
  | none =>
      have large := leadingLength_rest found
      rw [found] at same
      simp only at same
      rw [same] at leading
      omega
  | some other =>
      have otherShort := other.length_name
      rw [found] at same
      obtain ⟨names, _⟩ := lengthPrefixed_append_inj (by omega) (by omega) same
      rw [Collection.name_inj (asBytes_inj names)]

theorem rawKey_of_collection {cell : Cell} {collection : Collection}
    (found : cell.collection = some collection) :
    rawKey cell = lengthPrefixed (asBytes collection.name) ++ cell.rest := by
  rw [rawKey_eq, found]

theorem rawKey_collection {first second : Cell} (same : rawKey first = rawKey second) :
    first.collection = second.collection := by
  have shared {cell other : Cell} {collection : Collection} (equal : rawKey cell = rawKey other)
      (found : cell.collection = some collection) : other.collection = some collection := by
    apply collection_of_front
    rw [← equal, rawKey_of_collection found]
    exact List.prefix_append _ _
  cases firstIn : first.collection with
  | some collection => exact (shared same firstIn).symm
  | none =>
      cases secondIn : second.collection with
      | none => rfl
      | some collection =>
          rw [shared same.symm secondIn] at firstIn
          cases firstIn

theorem rawKey_rest {first second : Cell} (same : rawKey first = rawKey second) :
    first.rest = second.rest := by
  have collections := rawKey_collection same
  rw [rawKey_eq, rawKey_eq, collections] at same
  cases found : second.collection with
  | none =>
      rw [found] at same
      exact same
  | some collection =>
      rw [found] at same
      exact List.append_cancel_left same

theorem bigEndian_u16_inj {first second : UInt16}
    (same : bigEndian 2 first.toNat = bigEndian 2 second.toNat) : first = second :=
  UInt16.toNat_inj.mp (bigEndian_inj first.toNat_lt second.toNat_lt same)

theorem bigEndian_u32_inj {first second : UInt32}
    (same : bigEndian 4 first.toNat = bigEndian 4 second.toNat) : first = second :=
  UInt32.toNat_inj.mp (bigEndian_inj first.toNat_lt second.toNat_lt same)

theorem bigEndian_u64_inj {first second : UInt64}
    (same : bigEndian 8 first.toNat = bigEndian 8 second.toNat) : first = second :=
  UInt64.toNat_inj.mp (bigEndian_inj first.toNat_lt second.toNat_lt same)

theorem DequeKey.bytes_inj {first second : DequeKey} (same : first.bytes = second.bytes) :
    first = second := by
  have lengths := congrArg List.length same
  have letters : asBytes "h" = [104] ∧ asBytes "t" = [116] := by decide
  cases first with
  | head =>
      cases second with
      | head => rfl
      | tail => simp [DequeKey.bytes, letters] at same
      | position index => simp [DequeKey.bytes, letters] at lengths
  | tail =>
      cases second with
      | head => simp [DequeKey.bytes, letters] at same
      | tail => rfl
      | position index => simp [DequeKey.bytes, letters] at lengths
  | position index =>
      cases second with
      | head => simp [DequeKey.bytes, letters] at lengths
      | tail => simp [DequeKey.bytes, letters] at lengths
      | position other => rw [bigEndian_u32_inj same]

theorem rawKey_injective : Function.Injective rawKey := by
  intro first second same
  have collections := rawKey_collection same
  have rests := rawKey_rest same
  have heads := congrArg List.head? rests
  have letters :
      (asBytes "config").head? = some 99 ∧ (asBytes "contract_info").head? = some 99 := by
    decide
  cases first with
  | config =>
      cases second with
      | config => rfl
      | contractInfo => exact absurd rests (by decide)
      | archive round => simp [Cell.rest, drandMainnetRandomnessKey, letters] at heads
      | _ => cases collections
  | contractInfo =>
      cases second with
      | config => exact absurd rests (by decide)
      | contractInfo => rfl
      | archive round => simp [Cell.rest, drandMainnetRandomnessKey, letters] at heads
      | _ => cases collections
  | archive round =>
      cases second with
      | config => simp [Cell.rest, drandMainnetRandomnessKey, letters] at heads
      | contractInfo => simp [Cell.rest, drandMainnetRandomnessKey, letters] at heads
      | archive other => rw [bigEndian_u64_inj (List.append_cancel_left rests)]
      | _ => cases collections
  | customer channel =>
      cases second with
      | customer other =>
          obtain ⟨id, short⟩ := channel
          obtain ⟨otherId, otherShort⟩ := other
          have ids : id = otherId := asBytes_inj rests
          subst ids
          rfl
      | _ => cases collections
  | job round id =>
      cases second with
      | job otherRound otherId =>
          obtain ⟨rounds, ids⟩ := lengthPrefixed_append_inj (by simp) (by simp) rests
          rw [bigEndian_u32_inj rounds, bigEndian_u16_inj ids]
      | _ => cases collections
  | lastJobId round =>
      cases second with
      | lastJobId other => rw [bigEndian_u32_inj rests]
      | _ => cases collections
  | processedDrandJobsCount round =>
      cases second with
      | processedDrandJobsCount other => rw [bigEndian_u64_inj rests]
      | _ => cases collections
  | requestsLog channel key =>
      cases second with
      | requestsLog other otherKey =>
          cases collections
          rw [DequeKey.bytes_inj rests]
      | _ => cases collections

theorem rawKey_job_lt_iff (round otherRound : UInt32) (id otherId : UInt16) :
    rawKey (.job round id) < rawKey (.job otherRound otherId) ↔
      toLex (round.toNat, id.toNat) < toLex (otherRound.toNat, otherId.toNat) := by
  have rounds :
      bigEndian 4 round.toNat < bigEndian 4 otherRound.toNat ↔ round.toNat < otherRound.toNat :=
    bigEndian_lt_iff round.toNat_lt otherRound.toNat_lt
  have sameRounds :
      bigEndian 4 round.toNat = bigEndian 4 otherRound.toNat ↔ round.toNat = otherRound.toNat :=
    ⟨bigEndian_inj round.toNat_lt otherRound.toNat_lt, congrArg (bigEndian 4)⟩
  have ids : bigEndian 2 id.toNat < bigEndian 2 otherId.toNat ↔ id.toNat < otherId.toNat :=
    bigEndian_lt_iff id.toNat_lt otherId.toNat_lt
  rw [rawKey_eq, rawKey_eq]
  simp only [Cell.collection, Cell.rest]
  rw [append_lt_append_left_iff, lengthPrefixed, lengthPrefixed, length_bigEndian, length_bigEndian,
    List.append_assoc, List.append_assoc, append_lt_append_left_iff, append_lt_append_iff (by simp),
    rounds, sameRounds, ids, Prod.Lex.lt_iff]
  rfl

/-! Writes and reads through the keys. -/

/-- The iterations of the contract: over the customers, over all queues and over the
queue of a round. -/
inductive Scan where
  | customers
  | jobs
  | jobsOf (round : UInt32)
deriving DecidableEq, Repr

def Scan.front : Scan → Bytes
  | .customers => lengthPrefixed (asBytes "customers")
  | .jobs => lengthPrefixed (asBytes "djobs")
  | .jobsOf round => lengthPrefixed (asBytes "djobs") ++ lengthPrefixed (bigEndian 4 round.toNat)

def Scan.covers : Scan → Cell → Bool
  | .customers, .customer _ => true
  | .jobs, .job _ _ => true
  | .jobsOf round, .job other _ => round = other
  | _, _ => false

theorem Scan.front_iff (scan : Scan) (cell : Cell) :
    scan.front <+: rawKey cell ↔ scan.covers cell = true := by
  cases scan with
  | customers =>
      constructor
      · intro front
        have found := @collection_of_front .customers cell front
        cases cell with
        | customer channel => rfl
        | _ => cases found
      · intro covered
        cases cell with
        | customer channel =>
            rw [rawKey, mapKey_eq]
            exact List.prefix_append _ _
        | _ => cases covered
  | jobs =>
      constructor
      · intro front
        have found := @collection_of_front .jobs cell front
        cases cell with
        | job round id => rfl
        | _ => cases found
      · intro covered
        cases cell with
        | job round id =>
            rw [rawKey, mapKey_eq]
            exact List.prefix_append _ _
        | _ => cases covered
  | jobsOf round =>
      cases cell with
      | job other id =>
          rw [Scan.front, rawKey_of_collection rfl, Collection.name, Cell.rest,
            List.prefix_append_right_inj, lengthPrefixed_prefix_iff (by simp) (by simp)]
          simp only [Scan.covers, decide_eq_true_eq]
          exact ⟨bigEndian_u32_inj, fun same => by rw [same]⟩
      | _ =>
          constructor
          · intro front
            have found := @collection_of_front .jobs _ ((List.prefix_append _ _).trans front)
            cases found
          · intro covered
            cases covered

/-- The keys of the gateway, and what it means for its reads that they are distinct. -/
structure KeysApart : Prop where
  distinct : ∀ cell other, cell ≠ other → rawKey cell ≠ rawKey other
  ordered :
    ∀ round id otherRound otherId, rawKey (.job round id) < rawKey (.job otherRound otherId) ↔
      toLex (round.toNat, id.toNat) < toLex (otherRound.toNat, otherId.toNat)
  written : ∀ (storage : RawStorage) cell other value, cell ≠ other →
    storage.set (rawKey cell) value (rawKey other) = storage (rawKey other)
  removed : ∀ (storage : RawStorage) cell other, cell ≠ other →
    storage.remove (rawKey cell) (rawKey other) = storage (rawKey other)
  scanned : ∀ (storage : RawStorage) (scan : Scan) cell value, scan.covers cell = false →
    (storage.set (rawKey cell) value).scan scan.front = storage.scan scan.front ∧
      (storage.remove (rawKey cell)).scan scan.front = storage.scan scan.front

theorem keys_apart : KeysApart := by
  have distinct (cell other : Cell) (different : cell ≠ other) : rawKey cell ≠ rawKey other :=
    fun same => different (rawKey_injective same)
  refine ⟨distinct, fun _ _ _ _ => rawKey_job_lt_iff _ _ _ _, ?_, ?_, ?_⟩
  · intro storage cell other value different
    exact RawStorage.set_other (distinct other cell different.symm)
  · intro storage cell other different
    exact RawStorage.remove_other (distinct other cell different.symm)
  · intro storage scan cell value uncovered
    have outside (key : Bytes) (front : scan.front <+: key) : key ≠ rawKey cell := by
      rintro rfl
      rw [scan.front_iff, uncovered] at front
      cases front
    refine ⟨RawStorage.scan_congr ?_, RawStorage.scan_congr ?_⟩
    · intro key front
      exact RawStorage.set_other (outside key front)
    · intro key front
      exact RawStorage.remove_other (outside key front)

end NoisContracts.Gateway
