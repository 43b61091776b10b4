import Mathlib

/-!
Ordered key-value stores. A store keeps its entries in key order, so a scan under
the first part of a composite key meets the second parts in ascending order. The
lemmas below say what an insertion or a removal does to such a scan.
-/

namespace OrderedStore

/-- A finite map whose entries are listed in key order. -/
abbrev Store (κ ν : Type) [LinearOrder κ] := Std.ExtTreeMap κ ν compare

variable {κ ι ν : Type} [LinearOrder κ] [LinearOrder ι]

theorem get_insert (store : Store κ ν) (key other : κ) (value : ν) :
    (store.insert key value)[other]? = if key = other then some value else store[other]? := by
  simp [Std.ExtTreeMap.getElem?_insert]

theorem get_erase (store : Store κ ν) (key other : κ) :
    (store.erase key)[other]? = if key = other then none else store[other]? := by
  simp [Std.ExtTreeMap.getElem?_erase]

theorem insert_self {store : Store κ ν} {key : κ} {value : ν} (found : store[key]? = some value) :
    store.insert key value = store := by
  refine Std.ExtTreeMap.ext_getElem? ?_
  intro other
  rw [get_insert]
  by_cases same : key = other
  · rw [if_pos same, ← same, found]
  · rw [if_neg same]

theorem contains_eq_true {store : Store κ ν} {key : κ} :
    store.contains key = true ↔ ∃ value, store[key]? = some value := by
  rw [Std.ExtTreeMap.contains_eq_isSome_getElem?, Option.isSome_iff_exists]

theorem contains_eq_false {store : Store κ ν} {key : κ} :
    store.contains key = false ↔ store[key]? = none := by
  rw [Std.ExtTreeMap.contains_eq_isSome_getElem?, Option.isSome_eq_false_iff,
    Option.isNone_iff_eq_none]

theorem contains_insert (store : Store κ ν) (key other : κ) (value : ν) :
    (store.insert key value).contains other = (decide (key = other) || store.contains other) := by
  rw [Bool.eq_iff_iff, Std.ExtTreeMap.contains_insert]
  simp

theorem contains_erase (store : Store κ ν) (key other : κ) :
    (store.erase key).contains other = (decide (key ≠ other) && store.contains other) := by
  rw [Bool.eq_iff_iff, Std.ExtTreeMap.contains_erase]
  simp

theorem mem_toList_iff {store : Store κ ν} {key : κ} {value : ν} :
    (key, value) ∈ store.toList ↔ store[key]? = some value :=
  Std.ExtTreeMap.mem_toList_iff_getElem?_eq_some

theorem toList_sorted (store : Store κ ν) :
    store.toList.Pairwise fun left right => left.1 < right.1 := by
  have ordered := Std.ExtTreeMap.ordered_keys_toList (t := store)
  exact ordered.imp fun before => compare_lt_iff_lt.mp before

theorem keys_nodup (store : Store κ ν) : (store.toList.map Prod.fst).Nodup := by
  rw [List.Nodup, List.pairwise_map]
  refine (toList_sorted store).imp ?_
  intro left right smaller
  exact smaller.ne

theorem mem_keys {store : Store κ ν} {key : κ} :
    key ∈ store.toList.map Prod.fst ↔ ∃ value, store[key]? = some value := by
  simp only [List.mem_map, Prod.exists, exists_and_right, exists_eq_right, mem_toList_iff]

theorem keys_perm {store : Store κ ν} {keys : List κ} (distinct : keys.Nodup)
    (stored : ∀ key, key ∈ keys ↔ ∃ value, store[key]? = some value) :
    (store.toList.map Prod.fst).Perm keys := by
  rw [List.perm_ext_iff_of_nodup (keys_nodup store) distinct]
  intro key
  rw [mem_keys, stored]

theorem eq_of_sorted_of_mem_iff {first second : List (κ × ν)}
    (firstSorted : first.Pairwise fun left right => left.1 < right.1)
    (secondSorted : second.Pairwise fun left right => left.1 < right.1)
    (same : ∀ entry, entry ∈ first ↔ entry ∈ second) : first = second := by
  have irreflexive : Std.Irrefl fun left right : κ × ν => left.1 < right.1 :=
    ⟨fun entry => lt_irrefl entry.1⟩
  have antisymmetric : Std.Antisymm fun left right : κ × ν => left.1 < right.1 :=
    ⟨fun _ _ before after => (lt_asymm before after).elim⟩
  exact firstSorted.eq_of_mem_iff secondSorted same

def prefixRange (store : Store (κ ×ₗ ι) ν) (key : κ) : List (ι × ν) :=
  store.toList.filterMap fun entry =>
    if (ofLex entry.1).1 = key then some ((ofLex entry.1).2, entry.2) else none

theorem mem_prefixRange {store : Store (κ ×ₗ ι) ν} {key : κ} {rest : ι} {value : ν} :
    (rest, value) ∈ prefixRange store key ↔ store[toLex (key, rest)]? = some value := by
  rw [← mem_toList_iff]
  simp only [prefixRange, List.mem_filterMap]
  constructor
  · rintro ⟨⟨whole, stored⟩, member, selected⟩
    split at selected
    · rename_i starts
      simp only [Option.some.injEq, Prod.mk.injEq] at selected
      have split : whole = toLex (key, rest) := by
        rw [← starts, ← selected.1]
        rfl
      rw [← split, ← selected.2]
      exact member
    · simp at selected
  · intro member
    exact ⟨(toLex (key, rest), value), member, by simp⟩

theorem prefixRange_sorted (store : Store (κ ×ₗ ι) ν) (key : κ) :
    (prefixRange store key).Pairwise fun left right => left.1 < right.1 := by
  refine List.Pairwise.filterMap _ ?_ (toList_sorted store)
  intro left right before leftRest leftSelected rightRest rightSelected
  split at leftSelected
  · split at rightSelected
    · rename_i leftStarts rightStarts
      simp only [Option.some.injEq] at leftSelected rightSelected
      subst leftRest rightRest
      rcases Prod.Lex.lt_iff.mp before with smaller | ⟨_, smaller⟩
      · rw [leftStarts, rightStarts] at smaller
        exact (lt_irrefl _ smaller).elim
      · exact smaller
    · simp at rightSelected
  · simp at leftSelected

theorem prefixRange_empty (key : κ) : prefixRange (∅ : Store (κ ×ₗ ι) ν) key = [] := by
  simp [prefixRange]

theorem get_insert_pair (store : Store (κ ×ₗ ι) ν) (key other : κ) (rest another : ι) (value : ν) :
    (store.insert (toLex (key, rest)) value)[toLex (other, another)]? =
      if key = other ∧ rest = another then some value else store[toLex (other, another)]? := by
  rw [get_insert]
  simp only [toLex_inj, Prod.mk.injEq]

theorem get_erase_pair (store : Store (κ ×ₗ ι) ν) (key other : κ) (rest another : ι) :
    (store.erase (toLex (key, rest)))[toLex (other, another)]? =
      if key = other ∧ rest = another then none else store[toLex (other, another)]? := by
  rw [get_erase]
  simp only [toLex_inj, Prod.mk.injEq]

theorem toList_insert_last {store : Store κ ν} {key : κ} {value : ν}
    (above : ∀ entry ∈ store.toList, entry.1 < key) :
    (store.insert key value).toList = store.toList ++ [(key, value)] := by
  apply eq_of_sorted_of_mem_iff (toList_sorted _)
  · rw [List.pairwise_append]
    refine ⟨toList_sorted _, by simp, ?_⟩
    intro earlier member last isLast
    rw [List.mem_singleton] at isLast
    subst last
    exact above earlier member
  · rintro ⟨candidate, stored⟩
    rw [List.mem_append, List.mem_singleton, mem_toList_iff, mem_toList_iff, get_insert]
    by_cases same : key = candidate
    · subst candidate
      have absent : ¬store[key]? = some stored := fun present =>
        lt_irrefl key (above (key, stored) (mem_toList_iff.mpr present))
      simp [absent, eq_comm]
    · have different : ¬((candidate, stored) = (key, value)) := fun equal =>
        same (congrArg Prod.fst equal).symm
      simp [same, different]

theorem prefixRange_insert_last {store : Store (κ ×ₗ ι) ν} {key : κ} {rest : ι} {value : ν}
    (above : ∀ entry ∈ prefixRange store key, entry.1 < rest) :
    prefixRange (store.insert (toLex (key, rest)) value) key =
      prefixRange store key ++ [(rest, value)] := by
  apply eq_of_sorted_of_mem_iff (prefixRange_sorted _ _)
  · rw [List.pairwise_append]
    refine ⟨prefixRange_sorted _ _, by simp, ?_⟩
    intro earlier member last isLast
    rw [List.mem_singleton] at isLast
    subst last
    exact above earlier member
  · rintro ⟨candidate, stored⟩
    rw [List.mem_append, List.mem_singleton, mem_prefixRange, mem_prefixRange,
      get_insert_pair]
    by_cases same : rest = candidate
    · subst candidate
      have absent : ¬store[toLex (key, rest)]? = some stored := fun present =>
        lt_irrefl rest (above (rest, stored) (mem_prefixRange.mpr present))
      simp [absent, eq_comm]
    · have different : ¬((candidate, stored) = (rest, value)) := fun equal =>
        same (congrArg Prod.fst equal).symm
      simp [same, different]

theorem prefixRange_insert_perm {store : Store (κ ×ₗ ι) ν} {key : κ} {rest : ι} {value : ν}
    (absent : store[toLex (key, rest)]? = none) :
    (prefixRange (store.insert (toLex (key, rest)) value) key).Perm
      ((rest, value) :: prefixRange store key) := by
  have distinct (map : Store (κ ×ₗ ι) ν) : (prefixRange map key).Nodup := by
    refine (prefixRange_sorted map key).imp ?_
    intro left right smaller equal
    rw [equal] at smaller
    exact lt_irrefl _ smaller
  have fresh : (rest, value) ∉ prefixRange store key := by
    rw [mem_prefixRange, absent]
    simp
  rw [List.perm_ext_iff_of_nodup (distinct _) (List.nodup_cons.mpr ⟨fresh, distinct _⟩)]
  rintro ⟨candidate, stored⟩
  rw [List.mem_cons, mem_prefixRange, mem_prefixRange, get_insert_pair]
  by_cases same : rest = candidate
  · subst candidate
    simp [absent, eq_comm]
  · have different : ¬((candidate, stored) = (rest, value)) := fun equal =>
      same (congrArg Prod.fst equal).symm
    simp [same, different]

theorem prefixRange_insert_other {store : Store (κ ×ₗ ι) ν} {key other : κ} {rest : ι} {value : ν}
    (different : other ≠ key) :
    prefixRange (store.insert (toLex (other, rest)) value) key = prefixRange store key := by
  apply eq_of_sorted_of_mem_iff (prefixRange_sorted _ _) (prefixRange_sorted _ _)
  rintro ⟨candidate, stored⟩
  rw [mem_prefixRange, mem_prefixRange, get_insert_pair]
  simp [different]

theorem prefixRange_erase_head {store : Store (κ ×ₗ ι) ν} {key : κ} {first : ι × ν}
    {others : List (ι × ν)} (scanned : prefixRange store key = first :: others) :
    prefixRange (store.erase (toLex (key, first.1))) key = others := by
  have sorted := prefixRange_sorted store key
  rw [scanned, List.pairwise_cons] at sorted
  apply eq_of_sorted_of_mem_iff (prefixRange_sorted _ _) sorted.2
  rintro ⟨candidate, stored⟩
  rw [mem_prefixRange, get_erase_pair]
  by_cases same : first.1 = candidate
  · have absent : (candidate, stored) ∉ others := fun member =>
      lt_irrefl first.1 (by simpa [same] using sorted.1 (candidate, stored) member)
    simp [same, absent]
  · have listed : (candidate, stored) ∈ prefixRange store key ↔ (candidate, stored) ∈ others := by
      rw [scanned, List.mem_cons]
      constructor
      · rintro (equal | member)
        · exact (same (congrArg Prod.fst equal).symm).elim
        · exact member
      · exact Or.inr
    simp [same, ← listed, mem_prefixRange]

theorem prefixRange_erase_other {store : Store (κ ×ₗ ι) ν} {key other : κ} {rest : ι}
    (different : other ≠ key) :
    prefixRange (store.erase (toLex (other, rest))) key = prefixRange store key := by
  apply eq_of_sorted_of_mem_iff (prefixRange_sorted _ _) (prefixRange_sorted _ _)
  rintro ⟨candidate, stored⟩
  rw [mem_prefixRange, mem_prefixRange, get_erase_pair]
  simp [different]

end OrderedStore
