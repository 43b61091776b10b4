import NoisContracts.Library.Store

/-!
Pages of an ordered store. A scan runs over the keys between two exclusive bounds, in
either order. A reader that asks for pages, with the key of the last element as the
next cursor, gets every element once; so does one that asks for offset windows.
-/

namespace OrderedStore

inductive Order where
  | ascending
  | descending
deriving DecidableEq, Repr

variable {κ ν ε : Type} [LinearOrder κ]

/-- Whether a key comes before another one in the direction of a scan. -/
def Order.precedes : Order → κ → κ → Bool
  | .ascending, first, second => first < second
  | .descending, first, second => second < first

def Order.beyond (order : Order) (cursor : Option κ) (key : κ) : Bool :=
  cursor.all fun last => order.precedes last key

def range (store : Store κ ν) (low top : Option κ) (order : Order) : List (κ × ν) :=
  let inside := store.toList.filter fun entry => low.all (· < entry.1) && top.all (entry.1 < ·)
  match order with
  | .ascending => inside
  | .descending => inside.reverse

def listing (store : Store κ ν) (order : Order) : List (κ × ν) := range store none none order

theorem listing_ascending (store : Store κ ν) : listing store .ascending = store.toList := by
  simp [listing, range]

theorem listing_descending (store : Store κ ν) :
    listing store .descending = store.toList.reverse := by
  simp [listing, range]

theorem listing_sorted (store : Store κ ν) (order : Order) :
    (listing store order).Pairwise fun first second => order.precedes first.1 second.1 = true := by
  cases order with
  | ascending =>
      rw [listing_ascending]
      exact (toList_sorted store).imp fun before => by simpa [Order.precedes] using before
  | descending =>
      rw [listing_descending, List.pairwise_reverse]
      exact (toList_sorted store).imp fun before => by simpa [Order.precedes] using before

theorem range_ascending (store : Store κ ν) (cursor : Option κ) :
    range store cursor none .ascending =
      (listing store .ascending).filter fun entry => Order.ascending.beyond cursor entry.1 := by
  rw [listing_ascending]
  simp [range, Order.beyond, Order.precedes]

theorem range_descending (store : Store κ ν) (cursor : Option κ) :
    range store none cursor .descending =
      (listing store .descending).filter fun entry => Order.descending.beyond cursor entry.1 := by
  rw [listing_descending, List.filter_reverse]
  simp [range, Order.beyond, Order.precedes]

theorem Order.precedes_trans {order : Order} {first second third : κ}
    (before : order.precedes first second = true) (after : order.precedes second third = true) :
    order.precedes first third = true := by
  cases order with
  | ascending =>
      simp only [Order.precedes, decide_eq_true_eq] at before after ⊢
      exact lt_trans before after
  | descending =>
      simp only [Order.precedes, decide_eq_true_eq] at before after ⊢
      exact lt_trans after before

theorem Order.precedes_irrefl (order : Order) (key : κ) : order.precedes key key = false := by
  cases order <;> simp [Order.precedes]

/-! Cursors. The elements of a page may be views of the entries, with the key in them. -/

variable {keyOf : ε → κ} {order : Order}

def Sorted (keyOf : ε → κ) (order : Order) (elements : List ε) : Prop :=
  elements.Pairwise fun first second => order.precedes (keyOf first) (keyOf second) = true

theorem filter_beyond {front back : List ε} {last : ε}
    (sorted : Sorted keyOf order (front ++ last :: back)) :
    (front ++ last :: back).filter
      (fun element => order.beyond (some (keyOf last)) (keyOf element)) =
      back := by
  rw [Sorted, List.pairwise_append, List.pairwise_cons] at sorted
  obtain ⟨_, ⟨after, _⟩, across⟩ := sorted
  have frontOut :
      front.filter (fun element => order.beyond (some (keyOf last)) (keyOf element)) = [] := by
    rw [List.filter_eq_nil_iff]
    intro element member beyond
    have cycle := Order.precedes_trans (across element member last List.mem_cons_self) beyond
    rw [Order.precedes_irrefl] at cycle
    cases cycle
  have backIn :
      back.filter (fun element => order.beyond (some (keyOf last)) (keyOf element)) = back := by
    rw [List.filter_eq_self]
    intro element member
    exact after element member
  have lastOut : order.beyond (some (keyOf last)) (keyOf last) = false :=
    Order.precedes_irrefl order _
  rw [List.filter_append, frontOut, List.filter_cons, lastOut, backIn]
  rfl

theorem split_beyond {elements : List ε} (sorted : Sorted keyOf order elements)
    (cursor : Option κ) :
    ∃ front,
      elements = front ++ elements.filter (fun element => order.beyond cursor (keyOf element)) ∧
        ∀ element ∈ front, order.beyond cursor (keyOf element) = false := by
  induction elements with
  | nil => exact ⟨[], rfl, by simp⟩
  | cons element rest ih =>
      obtain ⟨after, ordered⟩ := List.pairwise_cons.mp sorted
      obtain ⟨front, split, out⟩ := ih ordered
      by_cases beyond : order.beyond cursor (keyOf element) = true
      · refine ⟨[], ?_, by simp⟩
        have whole : rest.filter (fun element => order.beyond cursor (keyOf element)) = rest := by
          rw [List.filter_eq_self]
          intro other member
          cases cursor with
          | none => rfl
          | some last => exact Order.precedes_trans beyond (after other member)
        rw [List.filter_cons, if_pos beyond, whole, List.nil_append]
      · refine ⟨element :: front, ?_, ?_⟩
        · rw [List.filter_cons, if_neg beyond, List.cons_append, ← split]
        · intro other member
          rcases List.mem_cons.mp member with rfl | member
          · simpa using beyond
          · exact out other member

/-- The pages of a reader who passes the key of the last element on, until a page is
empty. There is no result when a page fails or the fuel does not suffice. -/
def walk (keyOf : ε → κ) (page : Option κ → Option (List ε)) :
    Nat → Option κ → Option (List (List ε))
  | 0, _ => none
  | fuel + 1, cursor => do
      let elements ← page cursor
      match elements.getLast? with
      | none => pure []
      | some last =>
          let rest ← walk keyOf page fuel (some (keyOf last))
          pure (elements :: rest)

/-- The pages of a query with a cursor: each holds the next elements beyond the cursor,
and together they hold everything once. -/
structure Paginates (keyOf : ε → κ) (order : Order) (limit : Nat)
    (page : Option κ → Option (List ε)) (elements : List ε) : Prop where
  sorted : Sorted keyOf order elements
  next : ∀ cursor, ∃ front found back, elements = front ++ found ++ back ∧
    page cursor = some found ∧ (∀ element ∈ front, order.beyond cursor (keyOf element) = false) ∧
    (∀ element ∈ found ++ back, order.beyond cursor (keyOf element) = true) ∧ found.length ≤ limit ∧
    (found.length < limit → back = [])
  complete : ∀ fuel, elements.length < fuel →
    ∃ pages, walk keyOf page fuel none = some pages ∧ pages.flatten = elements

section

variable {elements : List ε} {limit : Nat} {page : Option κ → Option (List ε)}

theorem walk_from (sorted : Sorted keyOf order elements) (positive : 0 < limit)
    (pages : ∀ cursor, page cursor =
      some ((elements.filter fun element => order.beyond cursor (keyOf element)).take limit))
    {fuel : Nat} {cursor : Option κ} {rest : List ε}
    (ahead : elements.filter (fun element => order.beyond cursor (keyOf element)) = rest)
    (enough : rest.length < fuel) :
    ∃ read, walk keyOf page fuel cursor = some read ∧ read.flatten = rest := by
  induction fuel generalizing cursor rest with
  | zero => omega
  | succ fuel ih =>
      have first : page cursor = some (rest.take limit) := by rw [pages, ahead]
      rw [walk, first]
      cases last : (rest.take limit).getLast? with
      | none =>
          refine ⟨[], by simp [last], ?_⟩
          rcases List.take_eq_nil_iff.mp (List.getLast?_eq_none_iff.mp last) with zero | empty
          · omega
          · exact empty.symm
      | some element =>
          obtain ⟨initial, taken⟩ := List.getLast?_eq_some_iff.mp last
          obtain ⟨front, split, _⟩ := split_beyond sorted cursor
          -- the next cursor leaves what the page has not taken
          have whole : elements = front ++ initial ++ element :: rest.drop limit := by
            rw [ahead, ← List.take_append_drop limit rest, taken] at split
            simpa using split
          have next :
              elements.filter (fun other => order.beyond (some (keyOf element)) (keyOf other)) =
                rest.drop limit := by
            rw [whole] at sorted ⊢
            exact filter_beyond sorted
          have nonempty : 0 < rest.length := by
            have length := congrArg List.length taken
            simp only [List.length_take, List.length_append, List.length_singleton] at length
            omega
          have shorter : (rest.drop limit).length < fuel := by
            rw [List.length_drop]
            omega
          obtain ⟨read, walked, flat⟩ := ih next shorter
          refine ⟨rest.take limit :: read, by simp [last, walked], ?_⟩
          rw [List.flatten_cons, flat, List.take_append_drop]

theorem paginates_of_pages (sorted : Sorted keyOf order elements) (positive : 0 < limit)
    (pages : ∀ cursor, page cursor =
      some ((elements.filter fun element => order.beyond cursor (keyOf element)).take limit)) :
    Paginates keyOf order limit page elements := by
  refine ⟨sorted, ?_, ?_⟩
  · intro cursor
    obtain ⟨front, split, out⟩ := split_beyond sorted cursor
    refine ⟨front, _,
      (elements.filter fun element => order.beyond cursor (keyOf element)).drop limit, ?_,
      pages cursor, out, ?_, List.length_take_le _ _, ?_⟩
    · rw [List.append_assoc, List.take_append_drop]
      exact split
    · rw [List.take_append_drop]
      intro element member
      exact (List.mem_filter.mp member).2
    · intro short
      rw [List.length_take] at short
      exact List.drop_eq_nil_of_le (by omega)
  · intro fuel enough
    have everything :
        elements.filter (fun element => order.beyond none (keyOf element)) = elements := by
      rw [List.filter_eq_self]
      intro element _
      rfl
    exact walk_from sorted positive pages everything enough

end

theorem paginates_listing {store : Store κ ν} {limit : Nat} {page : Option κ → Option (List ε)}
    (view : κ × ν → ε) (keyed : ∀ entry, keyOf (view entry) = entry.1) (positive : 0 < limit)
    (pages : ∀ cursor, page cursor =
      some ((((listing store order).filter fun entry => order.beyond cursor entry.1).take limit).map
        view)) : Paginates keyOf order limit page ((listing store order).map view) := by
  refine paginates_of_pages ?_ positive ?_
  · rw [Sorted, List.pairwise_map]
    exact (listing_sorted store order).imp fun before => by rwa [keyed, keyed]
  · intro cursor
    rw [pages, List.filter_map, List.map_take]
    congr 4
    funext entry
    simp [keyed]

/-! Offsets. -/

variable {α : Type}

def window (list : List α) (offset limit : Nat) : List α := (list.drop offset).take limit

theorem windows_take (list : List α) (limit count : Nat) :
    ((List.range count).flatMap fun index => window list (index * limit) limit) =
      list.take (count * limit) := by
  induction count with
  | zero => simp
  | succ count ih =>
      rw [List.range_succ, List.flatMap_append, ih, Nat.succ_mul, List.take_add]
      simp [window]

/-- Consecutive windows hold everything once. -/
theorem windows_complete (list : List α) {limit count : Nat}
    (enough : list.length ≤ count * limit) :
    ((List.range count).flatMap fun index => window list (index * limit) limit) = list := by
  rw [windows_take, List.take_of_length_le enough]

/-! Stores with numbers as the first part of the key. -/

theorem toList_eq_flatMap_prefixRange {store : Store (Nat ×ₗ κ) ν} {bound : Nat}
    (below : ∀ (key : Nat) (rest : κ) (value : ν), store[toLex (key, rest)]? = some value →
      key < bound) : store.toList = (List.range bound).flatMap fun key =>
      (prefixRange store key).map fun entry => (toLex (key, entry.1), entry.2) := by
  apply eq_of_sorted_of_mem_iff (toList_sorted store)
  · rw [List.pairwise_flatMap]
    refine ⟨?_, ?_⟩
    · intro key _
      rw [List.pairwise_map]
      refine (prefixRange_sorted store key).imp ?_
      intro left right before
      exact Prod.Lex.toLex_lt_toLex.mpr (.inr ⟨rfl, before⟩)
    · refine List.pairwise_lt_range.imp ?_
      intro first second before left leftMember right rightMember
      obtain ⟨_, _, rfl⟩ := List.mem_map.mp leftMember
      obtain ⟨_, _, rfl⟩ := List.mem_map.mp rightMember
      exact Prod.Lex.toLex_lt_toLex.mpr (.inl before)
  · rintro ⟨key, value⟩
    rw [mem_toList_iff, List.mem_flatMap]
    constructor
    · intro found
      refine ⟨(ofLex key).1, List.mem_range.mpr (below _ _ _ found), ?_⟩
      exact List.mem_map.mpr ⟨((ofLex key).2, value), mem_prefixRange.mpr found, rfl⟩
    · rintro ⟨first, _, member⟩
      obtain ⟨⟨rest, stored⟩, listed, same⟩ := List.mem_map.mp member
      cases same
      exact mem_prefixRange.mp listed

end OrderedStore
