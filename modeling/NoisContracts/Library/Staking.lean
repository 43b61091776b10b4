import Mathlib

/-!
Stakes of one delegator. What is delegated is bonded to a validator; it can move to
another validator, be unbonded and mature after some time, or be slashed. The total of
what was ever delegated does not change on the way.
-/

namespace Staking

structure Stakes (ν : Type) where
  bonded : ν → Nat
  unbonding : Nat
  matured : Nat
  slashed : Nat

variable {ν : Type}

def Stakes.none : Stakes ν := ⟨fun _ => 0, 0, 0, 0⟩

namespace Stakes

def total (validators : Finset ν) (stakes : Stakes ν) : Nat :=
  (∑ validator ∈ validators, stakes.bonded validator) + stakes.unbonding + stakes.matured +
    stakes.slashed

def mature (stakes : Stakes ν) (amount : Nat) : Option (Stakes ν) :=
  if amount ≤ stakes.unbonding then
    some { stakes with unbonding := stakes.unbonding - amount, matured := stakes.matured + amount }
  else Option.none

def slashUnbonding (stakes : Stakes ν) (amount : Nat) : Option (Stakes ν) :=
  if amount ≤ stakes.unbonding then
    some { stakes with unbonding := stakes.unbonding - amount, slashed := stakes.slashed + amount }
  else Option.none

@[simp] theorem total_none (validators : Finset ν) :
    (Stakes.none : Stakes ν).total validators = 0 := by
  simp [total, Stakes.none]

theorem mature_total {validators : Finset ν} {stakes after : Stakes ν} {amount : Nat}
    (matured : stakes.mature amount = some after) :
    after.total validators = stakes.total validators := by
  simp only [mature, Option.ite_none_right_eq_some, Option.some.injEq] at matured
  obtain ⟨enough, rfl⟩ := matured
  simp only [total]
  omega

theorem slashUnbonding_total {validators : Finset ν} {stakes after : Stakes ν} {amount : Nat}
    (slashed : stakes.slashUnbonding amount = some after) :
    after.total validators = stakes.total validators := by
  simp only [slashUnbonding, Option.ite_none_right_eq_some, Option.some.injEq] at slashed
  obtain ⟨enough, rfl⟩ := slashed
  simp only [total]
  omega

variable [DecidableEq ν] (validators : Finset ν)

def delegate (stakes : Stakes ν) (validator : ν) (amount : Nat) : Option (Stakes ν) :=
  if validator ∈ validators ∧ 0 < amount then
    some { stakes with
      bonded := Function.update stakes.bonded validator (stakes.bonded validator + amount) }
  else Option.none

def undelegate (stakes : Stakes ν) (validator : ν) (amount : Nat) : Option (Stakes ν) :=
  if validator ∈ validators ∧ 0 < amount ∧ amount ≤ stakes.bonded validator then
    some { stakes with
      bonded := Function.update stakes.bonded validator (stakes.bonded validator - amount)
      unbonding := stakes.unbonding + amount }
  else Option.none

def redelegate (stakes : Stakes ν) (source target : ν) (amount : Nat) : Option (Stakes ν) :=
  if source ∈ validators ∧ source ≠ target ∧ amount ≤ stakes.bonded source then
    ({stakes with bonded :=
      Function.update stakes.bonded source (stakes.bonded source - amount) }).delegate validators
      target amount
  else Option.none

def slash (stakes : Stakes ν) (validator : ν) (amount : Nat) : Option (Stakes ν) :=
  if validator ∈ validators ∧ amount ≤ stakes.bonded validator then
    some { stakes with
      bonded := Function.update stakes.bonded validator (stakes.bonded validator - amount)
      slashed := stakes.slashed + amount }
  else Option.none

variable {validators} {stakes after : Stakes ν} {validator : ν} {amount : Nat}

theorem sum_update (member : validator ∈ validators) (bonded : ν → Nat) (value : Nat) :
    (∑ other ∈ validators, Function.update bonded validator value other) + bonded validator =
      (∑ other ∈ validators, bonded other) + value := by
  rw [Finset.sum_update_of_mem member, Finset.sdiff_singleton_eq_erase,
    ← Finset.add_sum_erase validators bonded member]
  omega

theorem delegate_total (delegated : stakes.delegate validators validator amount = some after) :
    after.total validators = stakes.total validators + amount := by
  simp only [delegate, Option.ite_none_right_eq_some, Option.some.injEq] at delegated
  obtain ⟨⟨member, _⟩, rfl⟩ := delegated
  have moved := sum_update member stakes.bonded (stakes.bonded validator + amount)
  simp only [total]
  omega

theorem undelegate_total
    (undelegated : stakes.undelegate validators validator amount = some after) :
    after.total validators = stakes.total validators := by
  simp only [undelegate, Option.ite_none_right_eq_some, Option.some.injEq] at undelegated
  obtain ⟨⟨member, _, enough⟩, rfl⟩ := undelegated
  have moved := sum_update member stakes.bonded (stakes.bonded validator - amount)
  simp only [total]
  omega

theorem redelegate_total {source target : ν}
    (redelegated : stakes.redelegate validators source target amount = some after) :
    after.total validators = stakes.total validators := by
  simp only [redelegate, Option.ite_none_right_eq_some] at redelegated
  obtain ⟨⟨member, _, enough⟩, moved⟩ := redelegated
  have left := sum_update member stakes.bonded (stakes.bonded source - amount)
  rw [delegate_total moved]
  simp only [total]
  omega

theorem slash_total (slashed : stakes.slash validators validator amount = some after) :
    after.total validators = stakes.total validators := by
  simp only [slash, Option.ite_none_right_eq_some, Option.some.injEq] at slashed
  obtain ⟨⟨member, enough⟩, rfl⟩ := slashed
  have moved := sum_update member stakes.bonded (stakes.bonded validator - amount)
  simp only [total]
  omega

end Stakes

end Staking
