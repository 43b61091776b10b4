import Mathlib

/-!
Calls of a contract. A call reads and writes one storage and ends in a value, in
an error that the contract returns to its caller, or in a panic. A returned error
keeps the writes made before it: whoever runs the call decides whether they are
reverted. A panic has no storage to hand back.
-/

namespace ContractCall

/-- Why a call aborts without returning to its caller. -/
inductive Panic where
  | overflow
  | expect (message : String)
deriving DecidableEq, Repr

abbrev Panics (α : Type) := Except Panic α

def checkedAdd (bits left right : Nat) : Panics Nat :=
  if left + right < 2 ^ bits then .ok (left + right) else .error .overflow

def checkedSub (left right : Nat) : Panics Nat :=
  if right ≤ left then .ok (left - right) else .error .overflow

def checkedMul (bits left right : Nat) : Panics Nat :=
  if left * right < 2 ^ bits then .ok (left * right) else .error .overflow

theorem checkedAdd_eq_ok {bits left right sum : Nat} :
    checkedAdd bits left right = .ok sum ↔ left + right < 2 ^ bits ∧ left + right = sum := by
  unfold checkedAdd
  split <;> simp_all

theorem checkedSub_eq_ok {left right difference : Nat} :
    checkedSub left right = .ok difference ↔ right ≤ left ∧ left - right = difference := by
  unfold checkedSub
  split <;> simp_all

theorem checkedMul_eq_ok {bits left right product : Nat} :
    checkedMul bits left right = .ok product ↔
      left * right < 2 ^ bits ∧ left * right = product := by
  unfold checkedMul
  split <;> simp_all

theorem except_bind_eq_ok {ε α β : Type} {first : Except ε α} {next : α → Except ε β} {result : β} :
    (first >>= next) = .ok result ↔ ∃ value, first = .ok value ∧ next value = .ok result := by
  cases first <;> simp [bind, Except.bind]

theorem except_mapError_eq_ok {ε δ α : Type} {f : ε → δ} {computed : Except ε α} {result : α} :
    computed.mapError f = .ok result ↔ computed = .ok result := by
  cases computed <;> simp [Except.mapError]

inductive Outcome (σ ε α : Type) where
  | ok (value : α) (storage : σ)
  | error (cause : ε) (storage : σ)
  | panic (reason : Panic)

variable {σ ε δ α β : Type}

def Outcome.andThen : Outcome σ ε α → (α → σ → Outcome σ ε β) → Outcome σ ε β
  | .ok value storage, next => next value storage
  | .error cause storage, _ => .error cause storage
  | .panic reason, _ => .panic reason

def Call (σ ε α : Type) := σ → Outcome σ ε α

instance : Monad (Call σ ε) where
  pure value := fun storage => .ok value storage
  bind call next := fun storage => (call storage).andThen fun value after => next value after

namespace Call

def reads (view : σ → α) : Call σ ε α := fun storage => .ok (view storage) storage

def writes (change : σ → σ) : Call σ ε Unit := fun storage => .ok () (change storage)

def fail (cause : ε) : Call σ ε α := fun storage => .error cause storage

def ofPanics : Panics α → Call σ ε α
  | .ok value => fun storage => .ok value storage
  | .error reason => fun _ => .panic reason

def ofExcept : Except ε α → Call σ ε α
  | .ok value => fun storage => .ok value storage
  | .error cause => fun storage => .error cause storage

def ensure (condition : Prop) [Decidable condition] (cause : ε) : Call σ ε Unit :=
  if condition then pure () else fail cause

/-- The `?` conversion from one error type to another. -/
def mapError (convert : ε → δ) (call : Call σ ε α) : Call σ δ α := fun storage =>
  match call storage with
  | .ok value after => .ok value after
  | .error cause after => .error (convert cause) after
  | .panic reason => .panic reason

/-- Continues after a returned error from the storage the failed call left. -/
def orElse (call : Call σ ε α) (handler : ε → Call σ δ α) : Call σ δ α := fun storage =>
  match call storage with
  | .ok value after => .ok value after
  | .error cause after => handler cause after
  | .panic reason => .panic reason

@[simp] theorem pure_apply (value : α) (storage : σ) :
    (pure value : Call σ ε α) storage = .ok value storage := by
  simp only [pure]

@[simp] theorem bind_apply (call : Call σ ε α) (next : α → Call σ ε β) (storage : σ) :
    (call >>= next) storage =
      (call storage).andThen fun value after => next value after := by
  simp only [bind]

@[simp] theorem andThen_ok (value : α) (storage : σ) (next : α → σ → Outcome σ ε β) :
    (Outcome.ok value storage).andThen next = next value storage := by
  rw [Outcome.andThen]

@[simp] theorem andThen_error (cause : ε) (storage : σ) (next : α → σ → Outcome σ ε β) :
    (Outcome.error cause storage).andThen next = .error cause storage := by
  rw [Outcome.andThen]

@[simp] theorem andThen_panic (reason : Panic) (next : α → σ → Outcome σ ε β) :
    (Outcome.panic reason : Outcome σ ε α).andThen next = .panic reason := by
  rw [Outcome.andThen]

@[simp] theorem reads_apply (view : σ → α) (storage : σ) :
    (reads view : Call σ ε α) storage = .ok (view storage) storage := by
  rw [reads]

@[simp] theorem writes_apply (change : σ → σ) (storage : σ) :
    (writes change : Call σ ε Unit) storage = .ok () (change storage) := by
  rw [writes]

@[simp] theorem fail_apply (cause : ε) (storage : σ) :
    (fail cause : Call σ ε α) storage = .error cause storage := by
  rw [fail]

@[simp] theorem ofPanics_ok (value : α) (storage : σ) :
    (ofPanics (.ok value) : Call σ ε α) storage = .ok value storage := by
  rw [ofPanics]

@[simp] theorem ofPanics_error (reason : Panic) (storage : σ) :
    (ofPanics (.error reason) : Call σ ε α) storage = .panic reason := by
  rw [ofPanics]

@[simp] theorem ofExcept_ok (value : α) (storage : σ) :
    (ofExcept (.ok value) : Call σ ε α) storage = .ok value storage := by
  rw [ofExcept]

@[simp] theorem ofExcept_error (cause : ε) (storage : σ) :
    (ofExcept (.error cause) : Call σ ε α) storage = .error cause storage := by
  rw [ofExcept]

theorem bind_eq_ok {call : Call σ ε α} {next : α → Call σ ε β} {storage final : σ} {result : β} :
    (call >>= next) storage = .ok result final ↔
      ∃ value middle, call storage = .ok value middle ∧ next value middle = .ok result final := by
  rw [bind_apply]
  cases call storage <;> simp

theorem pure_eq_ok {value result : α} {storage final : σ} :
    (pure value : Call σ ε α) storage = .ok result final ↔ value = result ∧ storage = final := by
  simp

theorem reads_eq_ok {view : σ → α} {storage final : σ} {result : α} :
    (reads view : Call σ ε α) storage = .ok result final ↔
      view storage = result ∧ storage = final := by
  simp

theorem writes_eq_ok {change : σ → σ} {storage final : σ} {result : Unit} :
    (writes change : Call σ ε Unit) storage = .ok result final ↔ change storage = final := by
  simp

@[simp] theorem fail_ne_ok {cause : ε} {storage final : σ} {result : α} :
    ¬(fail cause : Call σ ε α) storage = .ok result final := by
  simp

theorem ofPanics_eq_ok {computed : Panics α} {storage final : σ} {result : α} :
    (ofPanics computed : Call σ ε α) storage = .ok result final ↔
      computed = .ok result ∧ storage = final := by
  cases computed <;> simp

theorem ofExcept_eq_ok {computed : Except ε α} {storage final : σ} {result : α} :
    (ofExcept computed : Call σ ε α) storage = .ok result final ↔
      computed = .ok result ∧ storage = final := by
  cases computed <;> simp

theorem ensure_eq_ok {condition : Prop} [Decidable condition] {cause : ε} {storage final : σ}
    {result : Unit} :
    (ensure condition cause : Call σ ε Unit) storage = .ok result final ↔
      condition ∧ storage = final := by
  unfold ensure
  split <;> simp_all

theorem mapError_eq_ok {convert : ε → δ} {call : Call σ ε α} {storage final : σ} {result : α} :
    (mapError convert call) storage = .ok result final ↔ call storage = .ok result final := by
  unfold mapError
  cases call storage <;> simp

theorem bind_eq_error {call : Call σ ε α} {next : α → Call σ ε β} {storage final : σ} {cause : ε} :
    (call >>= next) storage = .error cause final ↔
      call storage = .error cause final ∨
        ∃ value middle, call storage = .ok value middle ∧
          next value middle = .error cause final := by
  rw [bind_apply]
  cases call storage <;> simp

theorem ofPanics_ne_error {computed : Panics α} {storage final : σ} {cause : ε} :
    ¬(ofPanics computed : Call σ ε α) storage = .error cause final := by
  cases computed <;> simp

theorem ofExcept_eq_error {computed : Except ε α} {storage final : σ} {cause : ε} :
    (ofExcept computed : Call σ ε α) storage = .error cause final ↔
      computed = .error cause ∧ storage = final := by
  cases computed <;> simp

theorem ensure_eq_error {condition : Prop} [Decidable condition] {cause other : ε}
    {storage final : σ} :
    (ensure condition cause : Call σ ε Unit) storage = .error other final ↔
      ¬condition ∧ cause = other ∧ storage = final := by
  unfold ensure
  split <;> simp_all

theorem mapError_eq_error {convert : ε → δ} {call : Call σ ε α} {storage final : σ} {cause : δ} :
    (mapError convert call) storage = .error cause final ↔
      ∃ original, call storage = .error original final ∧ convert original = cause := by
  unfold mapError
  cases call storage <;> simp [and_comm]

theorem orElse_eq_ok {call : Call σ ε α} {handler : ε → Call σ δ α} {storage final : σ}
    {result : α} :
    (call.orElse handler) storage = .ok result final ↔
      call storage = .ok result final ∨
        ∃ cause middle, call storage = .error cause middle ∧
          handler cause middle = .ok result final := by
  unfold orElse
  cases call storage <;> simp

def Fails (call : Call σ ε α) (storage : σ) : Prop :=
  ∃ cause after, call storage = .error cause after

theorem Fails.bind {call : Call σ ε α} {storage : σ} (failed : Fails call storage)
    (next : α → Call σ ε β) : Fails (call >>= next) storage := by
  obtain ⟨cause, after, failed⟩ := failed
  exact ⟨cause, after, bind_eq_error.mpr (.inl failed)⟩

theorem Fails.later {call : Call σ ε α} {next : α → Call σ ε β} {storage middle : σ} {value : α}
    (returned : call storage = .ok value middle) (failed : Fails (next value) middle) :
    Fails (call >>= next) storage := by
  obtain ⟨cause, after, failed⟩ := failed
  exact ⟨cause, after, bind_eq_error.mpr (.inr ⟨value, middle, returned, failed⟩)⟩

theorem Fails.mapError {call : Call σ ε α} {storage : σ} (failed : Fails call storage)
    (convert : ε → δ) : Fails (Call.mapError convert call) storage := by
  obtain ⟨cause, after, failed⟩ := failed
  exact ⟨convert cause, after, mapError_eq_error.mpr ⟨cause, failed, rfl⟩⟩

end Call

end ContractCall
