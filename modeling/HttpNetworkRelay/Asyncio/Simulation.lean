import Mathlib.Data.List.Forall2
import HttpNetworkRelay.Asyncio.Machine

/-!
# Runs that are alike

A relation between the states of two machines that every step preserves, when both take events that
are alike, leads from a run of the one to a run of the other: `run_simulates`. With one machine and
the relation "alike but for what is secret" it is noninterference.
-/

namespace Asyncio

variable {σ σ' ε ε' : Type*} {step : σ → ε → Option σ} {step' : σ' → ε' → Option σ'}
  {R : σ → σ' → Prop} {Q : ε → ε' → Prop}

/-- A run is followed by a run on events that are alike, through states that are alike. -/
theorem run_simulates
    (hstep : ∀ s₁ s₂ e₁ e₂ s₁', R s₁ s₂ → Q e₁ e₂ → step s₁ e₁ = some s₁' →
      ∃ s₂', step' s₂ e₂ = some s₂' ∧ R s₁' s₂')
    {s₁ s₁' : σ} {s₂ : σ'} {es₁ : List ε} {es₂ : List ε'} (hR : R s₁ s₂)
    (hes : List.Forall₂ Q es₁ es₂) (hrun : run step s₁ es₁ = some s₁') :
    ∃ s₂', run step' s₂ es₂ = some s₂' ∧ R s₁' s₂' := by
  induction hes generalizing s₁ s₂ with
  | nil =>
    obtain rfl : s₁ = s₁' := by simpa [run] using hrun
    exact ⟨s₂, rfl, hR⟩
  | cons hQ _ ih =>
    obtain ⟨t₁, ht₁, hrest⟩ := Option.bind_eq_some_iff.mp hrun
    obtain ⟨t₂, ht₂, hR'⟩ := hstep _ _ _ _ _ hR hQ ht₁
    obtain ⟨s₂', hrun₂, hR₂⟩ := ih hR' hrest
    refine ⟨s₂', ?_, hR₂⟩
    rw [run, ht₂]
    exact hrun₂

end Asyncio
