import Mathlib.Data.List.Basic

/-!
A deque that is only pushed to, with a fixed number of positions. A push writes the
position of the tail and moves the tail on, modulo the number of positions. What is read
are the entries from the first position up to the tail, so the deque reads as empty when
its last position has been written, and it fills up again from there.
-/

namespace Deque

variable {α : Type}

def pushBack (size : Nat) (entries : List α) (entry : α) : List α :=
  if entries.length + 1 < size then entries ++ [entry] else []

/-- The entries that can be read, out of all that were pushed. -/
def kept (size : Nat) (pushed : List α) : List α := pushed.drop (pushed.length / size * size)

@[simp] theorem kept_nil (size : Nat) : kept size ([] : List α) = [] := by
  simp [kept]

theorem kept_length (size : Nat) (pushed : List α) :
    (kept size pushed).length = pushed.length % size := by
  rw [kept, List.length_drop, Nat.mod_eq_sub_div_mul]

theorem kept_of_lt {size : Nat} {pushed : List α} (below : pushed.length < size) :
    kept size pushed = pushed := by
  rw [kept, Nat.div_eq_of_lt below, Nat.zero_mul, List.drop_zero]

theorem kept_subset (size : Nat) (pushed : List α) : kept size pushed ⊆ pushed :=
  List.drop_subset _ _

/-- A push is what one more entry does to the entries that can be read. -/
theorem pushBack_kept {size : Nat} (positive : 0 < size) (pushed : List α) (entry : α) :
    pushBack size (kept size pushed) entry = kept size (pushed ++ [entry]) := by
  have whole := Nat.div_add_mod' pushed.length size
  have below := Nat.mod_lt pushed.length positive
  rw [pushBack, kept_length]
  by_cases room : pushed.length % size + 1 < size
  · -- the tail moves on within the same turn
    have turns : (pushed.length + 1) / size = pushed.length / size := by
      rw [Nat.div_eq_iff positive]
      omega
    rw [if_pos room, kept, kept, List.length_append, List.length_singleton, turns,
      List.drop_append_of_le_length (by omega)]
  · -- the last position is written
    have turns : (pushed.length + 1) / size = pushed.length / size + 1 := by
      rw [Nat.div_eq_iff positive, Nat.add_mul]
      omega
    rw [if_neg room, kept, List.length_append, List.length_singleton, turns, Nat.add_mul]
    refine (List.drop_eq_nil_of_le ?_).symm
    rw [List.length_append, List.length_singleton]
    omega

theorem kept_append_toList {size : Nat} (positive : 0 < size) (pushed : List α) (entry : Option α) :
    kept size (pushed ++ entry.toList) =
      entry.elim (kept size pushed) (pushBack size (kept size pushed)) := by
  cases entry with
  | none => simp
  | some entry => exact (pushBack_kept positive pushed entry).symm

end Deque
