import Mathlib

/-!
Registers that keep the newest write. A write carries a time; it replaces the content
unless the content is newer. The writes may arrive in any order and more than once.
-/

namespace Register

@[ext] structure Stamped (τ ν : Type) where
  time : τ
  value : ν
deriving DecidableEq, Repr

variable {τ ν : Type} [LinearOrder τ]

def write (current next : Stamped τ ν) : Stamped τ ν :=
  if current.time ≤ next.time then next else current

def writeAll (start : Stamped τ ν) (writes : List (Stamped τ ν)) : Stamped τ ν :=
  writes.foldl write start

theorem le_time_write (current next : Stamped τ ν) : current.time ≤ (write current next).time := by
  unfold write
  split
  · assumption
  · exact le_refl _

theorem le_time_writeAll (start : Stamped τ ν) (writes : List (Stamped τ ν)) :
    start.time ≤ (writeAll start writes).time := by
  induction writes generalizing start with
  | nil => exact le_refl _
  | cons next rest ih => exact le_trans (le_time_write start next) (ih (write start next))

def Newest (start : Stamped τ ν) (writes : List (Stamped τ ν)) (content : Stamped τ ν) : Prop :=
  (content ∈ writes ∧ start.time ≤ content.time ∧ ∀ other ∈ writes, other.time ≤ content.time) ∨
    (content = start ∧ ∀ other ∈ writes, other.time < start.time)

theorem writeAll_newest (start : Stamped τ ν) (writes : List (Stamped τ ν)) :
    Newest start writes (writeAll start writes) := by
  induction writes generalizing start with
  | nil => exact .inr ⟨rfl, by simp⟩
  | cons next rest ih =>
      change Newest start (next :: rest) (writeAll (write start next) rest)
      by_cases recent : start.time ≤ next.time
      · have content : write start next = next := if_pos recent
        rw [content]
        rcases ih next with ⟨member, later, newest⟩ | ⟨same, older⟩
        · refine .inl ⟨List.mem_cons_of_mem _ member, le_trans recent later, ?_⟩
          intro other known
          rcases List.mem_cons.mp known with rfl | known
          · exact later
          · exact newest other known
        · rw [same]
          refine .inl ⟨List.mem_cons_self, recent, ?_⟩
          intro other known
          rcases List.mem_cons.mp known with rfl | known
          · exact le_refl _
          · exact (older other known).le
      · have content : write start next = start := if_neg recent
        rw [content]
        rcases ih start with ⟨member, later, newest⟩ | ⟨same, older⟩
        · refine .inl ⟨List.mem_cons_of_mem _ member, later, ?_⟩
          intro other known
          rcases List.mem_cons.mp known with rfl | known
          · exact le_trans (not_le.mp recent).le later
          · exact newest other known
        · refine .inr ⟨same, ?_⟩
          intro other known
          rcases List.mem_cons.mp known with rfl | known
          · exact not_le.mp recent
          · exact older other known

/-- Writes of one time agree on the value. -/
def Consistent (writes : List (Stamped τ ν)) : Prop :=
  ∀ first ∈ writes, ∀ second ∈ writes, first.time = second.time → first.value = second.value

theorem Newest.unique {start first second : Stamped τ ν} {writes : List (Stamped τ ν)}
    (consistent : Consistent writes) (one : Newest start writes first)
    (two : Newest start writes second) : first = second := by
  rcases one with ⟨firstMember, firstLater, firstNewest⟩ | ⟨rfl, firstOlder⟩
  · rcases two with ⟨secondMember, _, secondNewest⟩ | ⟨rfl, secondOlder⟩
    · have same : first.time = second.time :=
        le_antisymm (secondNewest first firstMember) (firstNewest second secondMember)
      exact Stamped.ext same (consistent first firstMember second secondMember same)
    · exact absurd firstLater (not_le.mpr (secondOlder first firstMember))
  · rcases two with ⟨secondMember, secondLater, _⟩ | ⟨rfl, _⟩
    · exact absurd secondLater (not_le.mpr (firstOlder second secondMember))
    · rfl

/-- Neither the order of the writes nor their repetition matters. -/
theorem writeAll_congr {start : Stamped τ ν} {first second : List (Stamped τ ν)}
    (consistent : Consistent first) (same : ∀ written, written ∈ first ↔ written ∈ second) :
    writeAll start first = writeAll start second := by
  refine Newest.unique consistent (writeAll_newest start first) ?_
  rcases writeAll_newest start second with ⟨member, later, newest⟩ | ⟨unchanged, older⟩
  · refine .inl ⟨(same _).mpr member, later, ?_⟩
    intro other known
    exact newest other ((same other).mp known)
  · refine .inr ⟨unchanged, ?_⟩
    intro other known
    exact older other ((same other).mp known)

end Register
