import Mathlib

/-!
Books of a bank. For every account and denom a book holds the total that was received
and the total that was spent; the balance is the difference. What an account does not
have, it cannot spend, and there are no payments of nothing.
-/

namespace Ledger

structure Book (α δ : Type) where
  received : α → δ → Nat
  spent : α → δ → Nat

variable {α δ : Type}

def Book.balance (book : Book α δ) (account : α) (denom : δ) : Nat :=
  book.received account denom - book.spent account denom

theorem Book.balance_mono {book after : Book α δ} {account : α} {denom : δ}
    (spent : after.spent account denom = book.spent account denom)
    (received : book.received account denom ≤ after.received account denom) :
    book.balance account denom ≤ after.balance account denom := by
  unfold Book.balance
  omega

variable [DecidableEq α] [DecidableEq δ]

def add (totals : α → δ → Nat) (account : α) (denom : δ) (amount : Nat) : α → δ → Nat :=
  fun other unit => totals other unit + if other = account ∧ unit = denom then amount else 0

def amountIn (denom : δ) (amounts : List (δ × Nat)) : Nat :=
  (amounts.map fun entry => if entry.1 = denom then entry.2 else 0).sum

@[simp] theorem amountIn_nil (denom : δ) : amountIn denom [] = 0 := rfl

@[simp] theorem amountIn_append (denom : δ) (first second : List (δ × Nat)) :
    amountIn denom (first ++ second) = amountIn denom first + amountIn denom second := by
  simp [amountIn]

theorem add_amountIn (totals : α → δ → Nat) (account other : α) (denom : δ) (entry : δ × Nat)
    (amounts : List (δ × Nat)) :
    add totals account entry.1 entry.2 other denom +
        (if other = account then amountIn denom amounts else 0) =
      totals other denom + if other = account then amountIn denom (entry :: amounts) else 0 := by
  simp only [add, amountIn, List.map_cons, List.sum_cons]
  by_cases same : other = account
  · by_cases unit : denom = entry.1
    · simp [same, unit, Nat.add_assoc]
    · simp [same, unit, Ne.symm unit]
  · simp [same]

namespace Book

def empty : Book α δ := ⟨fun _ _ => 0, fun _ _ => 0⟩

def deposit (book : Book α δ) (account : α) (denom : δ) (amount : Nat) : Book α δ :=
  { book with received := add book.received account denom amount }

def withdraw (book : Book α δ) (account : α) (denom : δ) (amount : Nat) : Option (Book α δ) :=
  if 0 < amount ∧ amount ≤ book.balance account denom then
    some { book with spent := add book.spent account denom amount }
  else none

def take (book : Book α δ) (account : α) (amounts : List (δ × Nat)) : Option (Book α δ) :=
  amounts.foldlM (fun book entry => book.withdraw account entry.1 entry.2) book

def send (book : Book α δ) (source target : α) (amounts : List (δ × Nat)) : Option (Book α δ) :=
  amounts.foldlM (fun book entry =>
    (book.withdraw source entry.1 entry.2).map fun book => book.deposit target entry.1 entry.2) book

def Solvent (book : Book α δ) : Prop :=
  ∀ account denom, book.spent account denom ≤ book.received account denom

theorem withdraw_eq_some {book after : Book α δ} {account : α} {denom : δ} {amount : Nat} :
    book.withdraw account denom amount = some after ↔
      0 < amount ∧ amount ≤ book.balance account denom ∧
        { book with spent := add book.spent account denom amount } = after := by
  unfold withdraw
  split
  · rename_i covered
    simp [covered]
  · rename_i uncovered
    simp only [reduceCtorEq, false_iff]
    rintro ⟨positive, enough, _⟩
    exact uncovered ⟨positive, enough⟩

structure Takes (book after : Book α δ) (account : α) (amounts : List (δ × Nat)) : Prop where
  spent : ∀ other denom, after.spent other denom =
    book.spent other denom + if other = account then amountIn denom amounts else 0
  received : after.received = book.received
  positive : ∀ entry ∈ amounts, 0 < entry.2
  solvent : book.Solvent → after.Solvent

theorem take_eq_some {book after : Book α δ} {account : α} {amounts : List (δ × Nat)}
    (taken : book.take account amounts = some after) : Takes book after account amounts := by
  induction amounts generalizing book with
  | nil =>
      simp only [take, List.foldlM_nil, Option.pure_def, Option.some.injEq] at taken
      subst taken
      exact ⟨by simp [amountIn], rfl, by simp, id⟩
  | cons entry amounts ih =>
      rw [take, List.foldlM_cons] at taken
      obtain ⟨middle, first, rest⟩ := Option.bind_eq_some_iff.mp taken
      obtain ⟨positive, enough, rfl⟩ := withdraw_eq_some.mp first
      have later := ih rest
      refine ⟨?_, later.received, ?_, ?_⟩
      · intro other denom
        rw [later.spent other denom]
        exact add_amountIn book.spent account other denom entry amounts
      · intro other member
        rcases List.mem_cons.mp member with rfl | member
        · exact positive
        · exact later.positive other member
      · intro solvent
        refine later.solvent ?_
        intro other denom
        have before := solvent other denom
        simp only [add]
        split
        · rename_i same
          obtain ⟨rfl, rfl⟩ := same
          unfold balance at enough
          omega
        · simpa using before

structure Sends (book after : Book α δ) (source target : α) (amounts : List (δ × Nat)) : Prop where
  spent : ∀ other denom, after.spent other denom =
    book.spent other denom + if other = source then amountIn denom amounts else 0
  received : ∀ other denom, after.received other denom =
    book.received other denom + if other = target then amountIn denom amounts else 0
  positive : ∀ entry ∈ amounts, 0 < entry.2
  solvent : book.Solvent → after.Solvent

theorem send_eq_some {book after : Book α δ} {source target : α} {amounts : List (δ × Nat)}
    (sent : book.send source target amounts = some after) :
    Sends book after source target amounts := by
  induction amounts generalizing book with
  | nil =>
      simp only [send, List.foldlM_nil, Option.pure_def, Option.some.injEq] at sent
      subst sent
      exact ⟨by simp [amountIn], by simp [amountIn], by simp, id⟩
  | cons entry amounts ih =>
      rw [send, List.foldlM_cons] at sent
      obtain ⟨middle, first, rest⟩ := Option.bind_eq_some_iff.mp sent
      obtain ⟨_, withdrawn, rfl⟩ := Option.map_eq_some_iff.mp first
      obtain ⟨positive, enough, rfl⟩ := withdraw_eq_some.mp withdrawn
      have later := ih rest
      refine ⟨?_, ?_, ?_, ?_⟩
      · intro other denom
        rw [later.spent other denom]
        exact add_amountIn book.spent source other denom entry amounts
      · intro other denom
        rw [later.received other denom]
        exact add_amountIn book.received target other denom entry amounts
      · intro other member
        rcases List.mem_cons.mp member with rfl | member
        · exact positive
        · exact later.positive other member
      · intro solvent
        refine later.solvent ?_
        intro other denom
        have before := solvent other denom
        simp only [deposit, add]
        by_cases same : other = source ∧ denom = entry.1
        · obtain ⟨rfl, rfl⟩ := same
          unfold balance at enough
          simp only [and_self, if_true]
          omega
        · simp only [same, if_false]
          omega

theorem withdraw_of_le {book : Book α δ} {account : α} {denom : δ} {amount : Nat}
    (positive : 0 < amount) (covered : amount ≤ book.balance account denom) :
    book.withdraw account denom amount =
      some { book with spent := add book.spent account denom amount } :=
  withdraw_eq_some.mpr ⟨positive, covered, rfl⟩

end Book

end Ledger
