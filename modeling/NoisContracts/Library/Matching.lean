import Mathlib

/-!
Matching answers to questions. In a history where no key has more answers than questions
at any time, every answer can be assigned an earlier question with its key such that no
question is used twice.
-/

namespace Matching

variable {α κ : Type}

def keyAt (keyOf : α → Option κ) (history : List α) (position : Nat) : Option κ :=
  history[position]?.bind keyOf

theorem keyAt_append (keyOf : α → Option κ) (history : List α) (event : α) (position : Nat) :
    keyAt keyOf (history ++ [event]) position =
      if position = history.length then keyOf event else keyAt keyOf history position := by
  unfold keyAt
  split
  · rename_i last
    simp [last]
  · rename_i other
    rcases Nat.lt_or_gt_of_ne other with before | after
    · rw [List.getElem?_append_left before]
    · rw [List.getElem?_eq_none (by simp; omega), List.getElem?_eq_none (by omega)]

theorem keyAt_append_none {keyOf : α → Option κ} {event : α} (silent : keyOf event = none)
    (history : List α) (position : Nat) :
    keyAt keyOf (history ++ [event]) position = keyAt keyOf history position := by
  rw [keyAt_append]
  split
  · rename_i last
    simp [silent, last, keyAt]
  · rfl

theorem keyAt_append_of_lt {keyOf : α → Option κ} {history : List α} {position : Nat} (event : α)
    (before : position < history.length) :
    keyAt keyOf (history ++ [event]) position = keyAt keyOf history position := by
  rw [keyAt_append, if_neg (by omega)]

theorem keyAt_lt {keyOf : α → Option κ} {history : List α} {position : Nat} {key : κ}
    (found : keyAt keyOf history position = some key) : position < history.length := by
  obtain ⟨event, present, _⟩ := Option.bind_eq_some_iff.mp found
  exact (List.getElem?_eq_some_iff.mp present).1

variable (asks answers : α → Option κ)

/-- An assignment of earlier questions to the answers. -/
structure Assigns (history : List α) (assigned : Nat → Nat) : Prop where
  earlier : ∀ position key, keyAt answers history position = some key →
    assigned position < position ∧ keyAt asks history (assigned position) = some key
  distinct : ∀ first second, (keyAt answers history first).isSome = true →
    (keyAt answers history second).isSome = true → assigned first = assigned second → first = second

variable [DecidableEq κ]

def tally (keyOf : α → Option κ) (key : κ) (history : List α) : Nat :=
  (history.filterMap keyOf).count key

theorem tally_append (keyOf : α → Option κ) (key : κ) (history : List α) (event : α) :
    tally keyOf key (history ++ [event]) =
      tally keyOf key history + if keyOf event = some key then 1 else 0 := by
  unfold tally
  cases found : keyOf event with
  | none => simp [found]
  | some other => simp [found, List.count_append, List.count_singleton]

theorem tally_concat (keyOf : α → Option κ) (key : κ) (first second : List α) :
    tally keyOf key (first ++ second) = tally keyOf key first + tally keyOf key second := by
  simp [tally, List.count_append]

theorem tally_perm (keyOf : α → Option κ) (key : κ) {first second : List α}
    (same : first.Perm second) : tally keyOf key first = tally keyOf key second :=
  (same.filterMap keyOf).count_eq key

theorem tally_erase [BEq α] [LawfulBEq α] (keyOf : α → Option κ) (key : κ) {history : List α}
    {event : α} (member : event ∈ history) :
    tally keyOf key history =
      tally keyOf key (history.erase event) + if keyOf event = some key then 1 else 0 := by
  rw [tally_perm keyOf key
    ((List.perm_cons_erase member).trans (List.perm_append_singleton event _).symm), tally_append]

theorem tally_pos {keyOf : α → Option κ} {key : κ} {history : List α} {event : α}
    (member : event ∈ history) (found : keyOf event = some key) : 0 < tally keyOf key history :=
  List.count_pos_iff.mpr (List.mem_filterMap.mpr ⟨event, member, found⟩)

theorem exists_of_tally_pos {keyOf : α → Option κ} {key : κ} {history : List α}
    (positive : 0 < tally keyOf key history) : ∃ event ∈ history, keyOf event = some key :=
  List.mem_filterMap.mp (List.count_pos_iff.mp positive)

theorem tally_filterMap {β : Type} (first : β → Option α) (keyOf : α → Option κ) (key : κ)
    (history : List β) :
    tally keyOf key (history.filterMap first) =
      tally (fun event => (first event).bind keyOf) key history := by
  simp [tally, List.filterMap_filterMap]

theorem tally_le_tally {ι : Type} [DecidableEq ι] {keyOf : α → Option κ} {otherOf : α → Option ι}
    {key : κ} {other : ι} {history : List α}
    (counts : ∀ event ∈ history, keyOf event = some key → otherOf event = some other) :
    tally keyOf key history ≤ tally otherOf other history := by
  induction history using List.reverseRecOn with
  | nil => exact Nat.le_refl 0
  | append_singleton history event ih =>
      have before := ih fun event member => counts event (List.mem_append_left _ member)
      have last := counts event (List.mem_append_right _ List.mem_cons_self)
      rw [tally_append, tally_append]
      by_cases found : keyOf event = some key
      · rw [if_pos found, if_pos (last found)]
        omega
      · rw [if_neg found]
        omega

/-- At every time there were at least as many questions as answers, key by key. -/
def Balanced (history : List α) : Prop :=
  ∀ earlier, earlier <+: history → ∀ key, tally answers key earlier ≤ tally asks key earlier

theorem Balanced.append {asks answers : α → Option κ} {history : List α} {event : α}
    (balanced : Balanced asks answers history)
    (enough : ∀ key, tally answers key (history ++ [event]) ≤ tally asks key (history ++ [event])) :
    Balanced asks answers (history ++ [event]) := by
  intro earlier before key
  rcases List.prefix_concat_iff.mp before with rfl | before
  · exact enough key
  · exact balanced earlier before key

/-- An assignment with the questions that it leaves open. -/
structure Open (history : List α) (assigned : Nat → Nat) (free : κ → List Nat) : Prop where
  assigns : Assigns asks answers history assigned
  asked : ∀ key, ∀ position ∈ free key, keyAt asks history position = some key
  unused : ∀ key, ∀ position ∈ free key, ∀ other, (keyAt answers history other).isSome = true →
    assigned other ≠ position
  nodup : ∀ key, (free key).Nodup
  size : ∀ key, (free key).length + tally answers key history = tally asks key history

variable {asks answers} {history : List α} {assigned : Nat → Nat} {free : κ → List Nat} {event : α}

theorem Open.idle (opened : Open asks answers history assigned free)
    (noQuestion : asks event = none) (noAnswer : answers event = none) :
    Open asks answers (history ++ [event]) assigned free := by
  have question := keyAt_append_none noQuestion history
  have answer := keyAt_append_none noAnswer history
  refine ⟨⟨?_, ?_⟩, ?_, ?_, opened.nodup, ?_⟩
  · intro position key found
    rw [answer] at found
    rw [question]
    exact opened.assigns.earlier position key found
  · intro first second
    rw [answer, answer]
    exact opened.assigns.distinct first second
  · intro key position member
    rw [question]
    exact opened.asked key position member
  · intro key position member other
    rw [answer]
    exact opened.unused key position member other
  · intro key
    simp [tally_append, noQuestion, noAnswer, opened.size]

theorem Open.ask {key : κ} (opened : Open asks answers history assigned free)
    (question : asks event = some key) (noAnswer : answers event = none) :
    Open asks answers (history ++ [event]) assigned
      (Function.update free key (history.length :: free key)) := by
  have answer := keyAt_append_none noAnswer history
  have kept {position : Nat} {other : κ} (found : keyAt asks history position = some other) :
      keyAt asks (history ++ [event]) position = some other := by
    rw [keyAt_append_of_lt event (keyAt_lt found), found]
  refine ⟨⟨?_, ?_⟩, ?_, ?_, ?_, ?_⟩
  · intro position other found
    rw [answer] at found
    obtain ⟨before, asked⟩ := opened.assigns.earlier position other found
    exact ⟨before, kept asked⟩
  · intro first second
    rw [answer, answer]
    exact opened.assigns.distinct first second
  · intro other position member
    by_cases same : other = key
    · subst same
      rw [Function.update_self, List.mem_cons] at member
      rcases member with rfl | before
      · rw [keyAt_append, if_pos rfl, question]
      · exact kept (opened.asked other position before)
    · rw [Function.update_of_ne same] at member
      exact kept (opened.asked other position member)
  · intro other position member position' answered
    rw [answer] at answered
    by_cases same : other = key
    · subst same
      rw [Function.update_self, List.mem_cons] at member
      rcases member with rfl | before
      · -- the new question is later than everything that was assigned
        obtain ⟨found, present⟩ := Option.isSome_iff_exists.mp answered
        have earlier := (opened.assigns.earlier position' found present).1
        have bound := keyAt_lt present
        omega
      · exact opened.unused other position before position' answered
    · rw [Function.update_of_ne same] at member
      exact opened.unused other position member position' answered
  · intro other
    by_cases same : other = key
    · subst same
      rw [Function.update_self, List.nodup_cons]
      refine ⟨?_, opened.nodup other⟩
      intro member
      have bound := keyAt_lt (opened.asked other _ member)
      omega
    · rw [Function.update_of_ne same]
      exact opened.nodup other
  · intro other
    have size := opened.size other
    rw [tally_append, tally_append, question, noAnswer]
    by_cases same : other = key
    · subst same
      simp only [Function.update_self, List.length_cons, reduceCtorEq, if_false, if_true]
      omega
    · simp only [Function.update_of_ne same, Option.some.injEq, Ne.symm same, reduceCtorEq,
        if_false]
      omega

theorem Open.answer {key : κ} {position : Nat} {rest : List Nat}
    (opened : Open asks answers history assigned free) (noQuestion : asks event = none)
    (answered : answers event = some key) (next : free key = position :: rest) :
    Open asks answers (history ++ [event]) (Function.update assigned history.length position)
      (Function.update free key rest) := by
  have question := keyAt_append_none noQuestion history
  have listed : position ∈ free key := next ▸ List.mem_cons_self
  have asked := opened.asked key position listed
  have remaining {other : κ} {place : Nat} (member : place ∈ Function.update free key rest other) :
      place ∈ free other ∧ place ≠ position := by
    by_cases same : other = key
    · subst same
      have nodup := opened.nodup other
      rw [next, List.nodup_cons] at nodup
      rw [Function.update_self] at member
      refine ⟨next ▸ List.mem_cons_of_mem position member, ?_⟩
      rintro rfl
      exact nodup.1 member
    · rw [Function.update_of_ne same] at member
      refine ⟨member, ?_⟩
      rintro rfl
      have found := opened.asked other place member
      rw [asked] at found
      cases found
      exact same rfl
  -- an answer is the new one or one of before
  have cases {other : Nat} (found : (keyAt answers (history ++ [event]) other).isSome = true) :
      other = history.length ∨
        (keyAt answers history other).isSome = true ∧ other ≠ history.length := by
    rw [keyAt_append] at found
    split at found
    · exact .inl ‹_›
    · exact .inr ⟨found, ‹_›⟩
  refine ⟨⟨?_, ?_⟩, ?_, ?_, ?_, ?_⟩
  · intro other found present
    rw [question]
    rcases cases (Option.isSome_iff_exists.mpr ⟨found, present⟩) with rfl | ⟨before, different⟩
    · rw [keyAt_append, if_pos rfl, answered] at present
      cases present
      rw [Function.update_self]
      exact ⟨keyAt_lt asked, asked⟩
    · rw [keyAt_append, if_neg different] at present
      rw [Function.update_of_ne different]
      exact opened.assigns.earlier other found present
  · intro first second firstAnswer secondAnswer same
    rcases cases firstAnswer with rfl | ⟨firstBefore, firstOther⟩ <;>
      rcases cases secondAnswer with rfl | ⟨secondBefore, secondOther⟩
    · rfl
    · rw [Function.update_self, Function.update_of_ne secondOther] at same
      exact (opened.unused key position listed second secondBefore same.symm).elim
    · rw [Function.update_self, Function.update_of_ne firstOther] at same
      exact (opened.unused key position listed first firstBefore same).elim
    · rw [Function.update_of_ne firstOther, Function.update_of_ne secondOther] at same
      exact opened.assigns.distinct first second firstBefore secondBefore same
  · intro other place member
    rw [question]
    exact opened.asked other place (remaining member).1
  · intro other place member place' found
    obtain ⟨free', different⟩ := remaining member
    rcases cases found with rfl | ⟨before, distinct⟩
    · rw [Function.update_self]
      exact Ne.symm different
    · rw [Function.update_of_ne distinct]
      exact opened.unused other place free' place' before
  · intro other
    by_cases same : other = key
    · subst same
      have nodup := opened.nodup other
      rw [next, List.nodup_cons] at nodup
      rw [Function.update_self]
      exact nodup.2
    · rw [Function.update_of_ne same]
      exact opened.nodup other
  · intro other
    have size := opened.size other
    rw [tally_append, tally_append, noQuestion, answered]
    by_cases same : other = key
    · subst same
      rw [next, List.length_cons] at size
      simp only [Function.update_self, reduceCtorEq, if_false, if_true]
      omega
    · simp only [Function.update_of_ne same, Option.some.injEq, Ne.symm same, reduceCtorEq,
        if_false]
      omega

/-- The questions and the answers of a balanced history can be matched. -/
theorem exists_assignment (separate : ∀ event, asks event = none ∨ answers event = none)
    (history : List α) (balanced : Balanced asks answers history) :
    ∃ assigned, Assigns asks answers history assigned := by
  suffices ∃ assigned free, Open asks answers history assigned free by
    obtain ⟨assigned, free, opened⟩ := this
    exact ⟨assigned, opened.assigns⟩
  induction history using List.reverseRecOn with
  | nil =>
      refine ⟨id, fun _ => [], ⟨?_, ?_⟩, ?_, ?_, fun _ => List.nodup_nil, fun _ => rfl⟩
      · intro position key found
        simp [keyAt] at found
      · intro first second found
        simp [keyAt] at found
      · intro key position member
        cases member
      · intro key position member
        cases member
  | append_singleton history event ih =>
      have before : Balanced asks answers history := by
        intro earlier initial
        exact balanced earlier (initial.trans (List.prefix_append history [event]))
      obtain ⟨assigned, free, opened⟩ := ih before
      cases question : asks event with
      | some key =>
          have noAnswer : answers event = none := by
            rcases separate event with unasked | unanswered
            · rw [question] at unasked
              cases unasked
            · exact unanswered
          exact ⟨_, _, opened.ask question noAnswer⟩
      | none =>
          cases answered : answers event with
          | none => exact ⟨_, _, opened.idle question answered⟩
          | some key =>
              have enough := balanced (history ++ [event]) (List.prefix_refl _) key
              rw [tally_append, tally_append, question, answered, if_pos rfl, if_neg (by simp)]
                at enough
              have size := opened.size key
              cases next : free key with
              | nil =>
                  rw [next, List.length_nil] at size
                  omega
              | cons position rest => exact ⟨_, _, opened.answer question answered next⟩

end Matching
