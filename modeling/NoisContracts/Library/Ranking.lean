import Mathlib

/-!
Ranked entries. Entries that arrive one after the other get the ranks 1, 2, 3 and so
on. However they are stored, sorting by rank gives them back in order of arrival.
-/

namespace Ranking

variable {α β : Type}

def ranked (entries : List α) : List (α × Nat) := entries.zipIdx 1

theorem ranked_append (entries : List α) (entry : α) :
    ranked (entries ++ [entry]) = ranked entries ++ [(entry, entries.length + 1)] := by
  simp [ranked, List.zipIdx_append, Nat.add_comm]

theorem ranked_entries (entries : List α) : (ranked entries).map Prod.fst = entries := by
  simp [ranked]

theorem ranked_ranks (entries : List α) :
    (ranked entries).map Prod.snd = List.range' 1 entries.length := by
  simp [ranked]

theorem ranked_ascending (entries : List α) :
    (ranked entries).Pairwise fun first second => first.2 < second.2 := by
  have ranks : ((ranked entries).map Prod.snd).Pairwise (· < ·) := by
    rw [ranked_ranks]
    exact List.pairwise_lt_range'
  exact List.pairwise_map.mp ranks

theorem mergeSort_eq_of_perm {key : β → Nat} {stored listed : List β} (same : stored.Perm listed)
    (ascending : listed.Pairwise fun first second => key first < key second) :
    stored.mergeSort (fun first second => decide (key first ≤ key second)) = listed := by
  have sorted : (stored.mergeSort fun first second => decide (key first ≤ key second)).Pairwise
      fun first second => key first ≤ key second := by
    refine (List.pairwise_mergeSort ?_ ?_ stored).imp ?_
    · intro first second third before after
      simp only [decide_eq_true_eq] at before after ⊢
      omega
    · intro first second
      simp only [Bool.or_eq_true, decide_eq_true_eq]
      omega
    · intro first second ordered
      exact of_decide_eq_true ordered
  have distinct : (listed.map key).Nodup := by
    rw [List.Nodup, List.pairwise_map]
    exact ascending.imp fun ordered => Nat.ne_of_lt ordered
  refine List.Perm.eq_of_pairwise ?_ sorted (ascending.imp fun ordered => Nat.le_of_lt ordered)
    ((List.mergeSort_perm stored _).trans same)
  intro first second firstMember secondMember before after
  have member := ((List.mergeSort_perm stored _).trans same).mem_iff.mp firstMember
  exact List.inj_on_of_nodup_map distinct member secondMember (by omega)

end Ranking
