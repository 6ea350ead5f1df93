import Mathlib.Tactic.Common

/-!
# Loops that take turns

Library `Base`. A loop is given by what one turn comes to. Where every turn keeps an invariant and
lowers a measure, the number of turns is bounded by the measure and the loop comes to an end.
-/

namespace RtmpRecv.Base

/-- What a turn of a loop comes to: another turn, or the end. -/
inductive Turn (σ ρ : Type) where
  | again (s : σ)
  | done (r : ρ)

/-- `Turns step n s s'`: in `n` turns the loop comes from `s` to `s'`. -/
inductive Turns {σ ρ : Type} (step : σ → Turn σ ρ) : Nat → σ → σ → Prop
  | refl (s : σ) : Turns step 0 s s
  | again {n : Nat} {s s₁ s' : σ} (h : step s = .again s₁) (ht : Turns step n s₁ s') :
      Turns step (n + 1) s s'

namespace Turns

variable {σ ρ : Type} {step : σ → Turn σ ρ} {I : σ → Prop} {μ : σ → Nat} {n : Nat} {s s' : σ}

/-- What each turn keeps holds after all of them. -/
theorem invariant (hstep : ∀ s s', I s → step s = .again s' → I s') (h : Turns step n s s')
    (hs : I s) : I s' := by
  induction h with
  | refl s => exact hs
  | again h _ ih => exact ih (hstep _ _ hs h)

/-- Each turn lowers the measure at least by one. -/
theorem add_measure_le (hstep : ∀ s s', I s → step s = .again s' → I s')
    (hless : ∀ s s', I s → step s = .again s' → μ s' < μ s) (h : Turns step n s s') (hs : I s) :
    n + μ s' ≤ μ s := by
  induction h with
  | refl s => exact Nat.le_of_eq (Nat.zero_add _)
  | again h _ ih =>
    have hrest := ih (hstep _ _ hs h)
    have hfirst := hless _ _ hs h
    omega

/-- The loop comes to an end. -/
theorem exists_done (hstep : ∀ s s', I s → step s = .again s' → I s')
    (hless : ∀ s s', I s → step s = .again s' → μ s' < μ s) (hs : I s) :
    ∃ n s' r, Turns step n s s' ∧ step s' = .done r := by
  induction hμ : μ s using Nat.strongRecOn generalizing s with
  | ind k ih =>
    cases hturn : step s with
    | done r => exact ⟨0, s, r, .refl s, hturn⟩
    | again s₁ =>
      have hlower := hless s s₁ hs hturn
      obtain ⟨n, s', r, hturns, hdone⟩ := ih (μ s₁) (by omega) (hstep s s₁ hs hturn) rfl
      exact ⟨n + 1, s', r, .again hturn hturns, hdone⟩

end Turns

end RtmpRecv.Base
