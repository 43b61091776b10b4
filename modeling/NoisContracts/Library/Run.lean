import Mathlib

/-!
Runs of a transaction system. A transaction is attempted on a state; one that
fails leaves the state as it was. A run is the list of the attempted transactions.
-/

namespace Runs

variable {σ τ : Type}

def settle (attempt : σ → τ → Option σ) (state : σ) (tx : τ) : σ := (attempt state tx).getD state

def run (attempt : σ → τ → Option σ) (start : σ) (txs : List τ) : σ :=
  txs.foldl (settle attempt) start

/-- Every transaction of the run meets a condition on it and the state before it. -/
def Along (attempt : σ → τ → Option σ) (condition : σ → τ → Prop) : σ → List τ → Prop
  | _, [] => True
  | state, tx :: txs => condition state tx ∧ Along attempt condition (settle attempt state tx) txs

instance decidableAlong (attempt : σ → τ → Option σ) (condition : σ → τ → Prop)
    [∀ state tx, Decidable (condition state tx)] :
    (state : σ) → (txs : List τ) → Decidable (Along attempt condition state txs)
  | _, [] => .isTrue trivial
  | state, tx :: txs =>
      have := decidableAlong attempt condition (settle attempt state tx) txs
      inferInstanceAs
        (Decidable (condition state tx ∧ Along attempt condition (settle attempt state tx) txs))

@[simp] theorem run_nil (attempt : σ → τ → Option σ) (start : σ) : run attempt start [] = start :=
  rfl

@[simp] theorem run_cons (attempt : σ → τ → Option σ) (start : σ) (tx : τ) (txs : List τ) :
    run attempt start (tx :: txs) = run attempt (settle attempt start tx) txs := rfl

theorem run_append (attempt : σ → τ → Option σ) (start : σ) (first second : List τ) :
    run attempt start (first ++ second) = run attempt (run attempt start first) second := by
  simp [run, List.foldl_append]

theorem settle_of_some {attempt : σ → τ → Option σ} {state next : σ} {tx : τ}
    (committed : attempt state tx = some next) : settle attempt state tx = next := by
  simp [settle, committed]

theorem run_of_foldlM {attempt : σ → τ → Option σ} {state next : σ} {txs : List τ}
    (committed : txs.foldlM attempt state = some next) : run attempt state txs = next := by
  induction txs generalizing state with
  | nil => simpa using committed
  | cons tx txs ih =>
      rw [List.foldlM_cons] at committed
      obtain ⟨middle, first, rest⟩ := Option.bind_eq_some_iff.mp committed
      rw [run_cons, settle_of_some first]
      exact ih rest

theorem foldlM_invariant {attempt : σ → τ → Option σ} {holds : σ → Prop} {state next : σ}
    {txs : List τ}
    (step : ∀ before tx after, tx ∈ txs → holds before → attempt before tx = some after →
      holds after) (initially : holds state) (committed : txs.foldlM attempt state = some next) :
    holds next := by
  induction txs generalizing state with
  | nil =>
      simp only [List.foldlM_nil, Option.pure_def, Option.some.injEq] at committed
      exact committed ▸ initially
  | cons tx txs ih =>
      rw [List.foldlM_cons] at committed
      obtain ⟨middle, first, rest⟩ := Option.bind_eq_some_iff.mp committed
      refine ih ?_ (step state tx middle List.mem_cons_self initially first) rest
      intro before other after member
      exact step before other after (List.mem_cons_of_mem tx member)

theorem along_append {attempt : σ → τ → Option σ} {condition : σ → τ → Prop} {start : σ}
    {first second : List τ} :
    Along attempt condition start (first ++ second) ↔
      Along attempt condition start first ∧
        Along attempt condition (run attempt start first) second := by
  induction first generalizing start with
  | nil => simp [Along]
  | cons tx txs ih => simp [Along, ih, and_assoc]

theorem along_of_forall {attempt : σ → τ → Option σ} {condition : σ → τ → Prop}
    (everywhere : ∀ state tx, condition state tx) (start : σ) (txs : List τ) :
    Along attempt condition start txs := by
  induction txs generalizing start with
  | nil => trivial
  | cons tx txs ih => exact ⟨everywhere start tx, ih _⟩

theorem settle_invariant {attempt : σ → τ → Option σ} {holds : σ → Prop} {state : σ} {tx : τ}
    (before : holds state) (step : ∀ next, attempt state tx = some next → holds next) :
    holds (settle attempt state tx) := by
  unfold settle
  cases committed : attempt state tx with
  | none => simpa using before
  | some next => simpa using step next committed

theorem run_invariant_along {attempt : σ → τ → Option σ} {condition : σ → τ → Prop}
    {holds : σ → Prop}
    (step : ∀ state tx next, condition state tx → holds state → attempt state tx = some next →
      holds next) (txs : List τ) (start : σ) (initially : holds start)
    (along : Along attempt condition start txs) : holds (run attempt start txs) := by
  induction txs generalizing start with
  | nil => exact initially
  | cons tx txs ih =>
      obtain ⟨here, later⟩ := along
      exact ih _ (settle_invariant initially fun next => step start tx next here initially) later

theorem run_invariant {attempt : σ → τ → Option σ} {holds : σ → Prop}
    (step : ∀ state tx next, holds state → attempt state tx = some next → holds next)
    (txs : List τ) (start : σ) (initially : holds start) : holds (run attempt start txs) := by
  induction txs generalizing start with
  | nil => exact initially
  | cons tx txs ih =>
      exact ih _ (settle_invariant initially fun next => step start tx next initially)

/-- The transactions lead to the goal, and each of them meets the condition. -/
def Leads (attempt : σ → τ → Option σ) (condition : σ → τ → Prop) (start : σ) (txs : List τ)
    (goal : σ → Prop) : Prop :=
  Along attempt condition start txs ∧ goal (run attempt start txs)

theorem Leads.step {attempt : σ → τ → Option σ} {condition : σ → τ → Prop} {start next : σ} {tx : τ}
    {txs : List τ} {goal : σ → Prop} (here : condition start tx)
    (committed : attempt start tx = some next) (later : Leads attempt condition next txs goal) :
    Leads attempt condition start (tx :: txs) goal := by
  have moved := settle_of_some committed
  exact ⟨⟨here, moved.symm ▸ later.1⟩, by rw [run_cons, moved]; exact later.2⟩

theorem Leads.trans {attempt : σ → τ → Option σ} {condition : σ → τ → Prop} {start : σ}
    {first second : List τ} {middle goal : σ → Prop}
    (leads : Leads attempt condition start first middle)
    (later : Leads attempt condition (run attempt start first) second goal) :
    Leads attempt condition start (first ++ second) goal := by
  refine ⟨along_append.mpr ⟨leads.1, later.1⟩, ?_⟩
  rw [run_append]
  exact later.2

section

variable {α β : Type}

def observed (attempt : σ → τ → Option σ) (observe : σ → τ → List α) : σ → List τ → List α
  | _, [] => []
  | state, tx :: txs =>
      match attempt state tx with
      | some next => observe state tx ++ observed attempt observe next txs
      | none => observed attempt observe state txs

/-- A view of the state is the fold of the observations if every step is. -/
theorem run_observed {attempt : σ → τ → Option σ} {condition : σ → τ → Prop} {holds : σ → Prop}
    {observe : σ → τ → List α} {view : σ → β} {apply : β → α → β}
    (step : ∀ state tx next, condition state tx → holds state → attempt state tx = some next →
      holds next ∧ view next = (observe state tx).foldl apply (view state)) (txs : List τ)
    (start : σ) (initially : holds start) (along : Along attempt condition start txs) :
    holds (run attempt start txs) ∧
      view (run attempt start txs) =
        (observed attempt observe start txs).foldl apply (view start) := by
  induction txs generalizing start with
  | nil => exact ⟨initially, rfl⟩
  | cons tx txs ih =>
      obtain ⟨here, later⟩ := along
      rw [run_cons, observed]
      cases committed : attempt start tx with
      | none =>
          have stays : settle attempt start tx = start := by simp [settle, committed]
          rw [stays] at later ⊢
          exact ih start initially later
      | some next =>
          obtain ⟨kept, seen⟩ := step start tx next here initially committed
          rw [settle_of_some committed] at later ⊢
          obtain ⟨holdsLast, folded⟩ := ih next kept later
          exact ⟨holdsLast, by rw [folded, seen, List.foldl_append]⟩

/-- The value of the last write that carries one. -/
def lastWrite (written : α → Option β) (writes : List α) : Option β :=
  writes.reverse.findSome? written

theorem lastWrite_append (written : α → Option β) (writes : List α) (write : α) :
    lastWrite written (writes ++ [write]) = (written write).or (lastWrite written writes) := by
  rw [lastWrite, lastWrite, List.reverse_append, List.reverse_singleton, List.singleton_append,
    List.findSome?_cons]
  cases written write <;> rfl

theorem foldl_lastWrite {γ : Type} {apply : γ → α → γ} {field : γ → β} {written : α → Option β}
    (step : ∀ state write, field (apply state write) = (written write).getD (field state))
    (start : γ) (writes : List α) :
    field (writes.foldl apply start) = (lastWrite written writes).getD (field start) := by
  induction writes generalizing start with
  | nil => rfl
  | cons write rest ih =>
      rw [List.foldl_cons, ih, step, lastWrite, lastWrite, List.reverse_cons, List.findSome?_append]
      cases rest.reverse.findSome? written with
      | some value => rfl
      | none => cases carried : written write <;> simp [carried]

theorem foldl_lastWrite_or {γ : Type} {apply : γ → α → γ} {field : γ → Option β}
    {written : α → Option β}
    (step : ∀ state write, field (apply state write) = (written write).or (field state)) (start : γ)
    (writes : List α) :
    field (writes.foldl apply start) = (lastWrite written writes).or (field start) := by
  induction writes generalizing start with
  | nil => rfl
  | cons write rest ih =>
      rw [List.foldl_cons, ih, step, lastWrite, lastWrite, List.reverse_cons, List.findSome?_append]
      cases rest.reverse.findSome? written with
      | some value => rfl
      | none => cases carried : written write <;> simp [carried]

end

end Runs
