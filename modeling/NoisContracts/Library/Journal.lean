import NoisContracts.Library.Call
import NoisContracts.Library.Run

/-!
Contracts with a journal. A system performs transactions on a storage. What commits
is written to the journal, oldest first, with the response of the contract; what
fails or is not admitted leaves the storage and the journal as they were.
-/

namespace Journal

open ContractCall

structure System (σ τ ε ρ : Type) where
  admits : σ → τ → Bool
  perform : τ → Call σ ε ρ

structure World (σ τ ρ : Type) where
  storage : σ
  log : List (τ × ρ)

variable {σ τ ε ρ : Type}

def World.commit (world : World σ τ ρ) (tx : τ) (response : ρ) (after : σ) : World σ τ ρ :=
  ⟨after, world.log ++ [(tx, response)]⟩

@[simp] theorem World.commit_storage (world : World σ τ ρ) (tx : τ) (response : ρ) (after : σ) :
    (world.commit tx response after).storage = after := rfl

@[simp] theorem World.commit_log (world : World σ τ ρ) (tx : τ) (response : ρ) (after : σ) :
    (world.commit tx response after).log = world.log ++ [(tx, response)] := rfl

namespace System

def attempt (system : System σ τ ε ρ) (world : World σ τ ρ) (tx : τ) : Option (World σ τ ρ) :=
  if system.admits world.storage tx then
    match system.perform tx world.storage with
    | .ok response after => some (world.commit tx response after)
    | .error _ _ => none
    | .panic _ => none
  else none

def reached (system : System σ τ ε ρ) (start : σ) (txs : List τ) : World σ τ ρ :=
  Runs.run system.attempt ⟨start, []⟩ txs

theorem attempt_eq_some {system : System σ τ ε ρ} {world next : World σ τ ρ} {tx : τ} :
    system.attempt world tx = some next ↔
      system.admits world.storage tx = true ∧
        ∃ response after, system.perform tx world.storage = .ok response after ∧
          world.commit tx response after = next := by
  unfold attempt
  split
  · rename_i admitted
    cases system.perform tx world.storage <;> simp [admitted]
  · rename_i refused
    simp [refused]

/-- What every committed transaction keeps holds in every reached world. -/
theorem reached_invariant {system : System σ τ ε ρ} {start : σ} {holds : World σ τ ρ → Prop}
    (initially : holds ⟨start, []⟩)
    (step : ∀ world tx response after, holds world → system.admits world.storage tx = true →
      system.perform tx world.storage = .ok response after → holds (world.commit tx response after))
    (txs : List τ) : holds (system.reached start txs) := by
  refine Runs.run_invariant ?_ txs _ initially
  intro world tx next before committed
  obtain ⟨admitted, response, after, returned, rfl⟩ := attempt_eq_some.mp committed
  exact step world tx response after before admitted returned

end System

end Journal
