import Mathlib.Tactic.Common

/-!
# Parsers that are called again with more input

Library `Base`. A parser is called with a state and the input that is there. It takes a part of
the input, or asks to be called again with more, or stops. Which end it comes to depends on the
whole input and not on how the input arrived, as long as every call that takes a part or stops
is stable under more input, and every call that asks for more can be repeated.
-/

namespace RtmpRecv.Base

/-- What a call comes to: more input is wanted, `n` elements have been taken, or the end. -/
inductive Outcome (σ ρ : Type) where
  | more (s : σ)
  | next (s : σ) (n : Nat)
  | stop (r : ρ) (s : σ)

namespace Resume

variable {σ α ρ : Type} (call : σ → List α → Outcome σ ρ)

/-- More input behind `w` does not change the call. -/
def Stable (s : σ) (w : List α) : Prop := ∀ x, call s (w ++ x) = call s w

/-- The states `s` and `s'` cannot be told apart by calls on `w` and more input behind it. -/
def Alike (w : List α) (s s' : σ) : Prop := ∀ x, call s (w ++ x) = call s' (w ++ x)

/-- Stable calls that take parts of the input lead from one state and input to another. -/
inductive Reach : σ → List α → σ → List α → Prop
  | refl (s : σ) (w : List α) : Reach s w s w
  | next {s s₁ s' : σ} {w w' : List α} {n : Nat} (h : call s w = .next s₁ n) (hn : n ≤ w.length)
      (hs : Stable call s w) (hr : Reach s₁ (w.drop n) s' w') : Reach s w s' w'

/-- The parser, started in `s₀` on `data`, has come to a state like `s` with `w` left. -/
def Pending (s₀ : σ) (data : List α) (s : σ) (w : List α) : Prop :=
  ∃ s', Reach call s₀ data s' w ∧ Alike call w s s'

variable {call}

theorem Alike.call_eq {w : List α} {s s' : σ} (h : Alike call w s s') : call s w = call s' w := by
  have h0 := h []
  rwa [List.append_nil] at h0

theorem Stable.append {s : σ} {w : List α} (h : Stable call s w) (x : List α) :
    Stable call s (w ++ x) := by
  intro y
  rw [List.append_assoc, h, h]

theorem Stable.alike {s s' : σ} {w : List α} (h : Stable call s w) (ha : Alike call w s s') :
    Stable call s' w := by
  intro x
  rw [← ha x, ← ha.call_eq, h]

theorem Reach.append {s s' : σ} {w w' : List α} (h : Reach call s w s' w') (x : List α) :
    Reach call s (w ++ x) s' (w' ++ x) := by
  induction h with
  | refl s w => exact .refl s _
  | next h hn hs _ ih =>
    refine .next ((hs x).trans h) ?_ (hs.append x) ?_
    · rw [List.length_append]
      omega
    · rw [List.drop_append_of_le_length hn]
      exact ih

theorem Reach.trans {s s₁ s' : σ} {w w₁ w' : List α} (h : Reach call s w s₁ w₁)
    (h' : Reach call s₁ w₁ s' w') : Reach call s w s' w' := by
  induction h with
  | refl => exact h'
  | next h hn hs _ ih => exact .next h hn hs (ih h')

/-- There is only one end: a state whose call takes nothing. -/
theorem Reach.unique {s s₁ s₂ : σ} {w w₁ w₂ : List α} (h₁ : Reach call s w s₁ w₁)
    (h₂ : Reach call s w s₂ w₂) (he₁ : ∀ s' n, call s₁ w₁ ≠ .next s' n)
    (he₂ : ∀ s' n, call s₂ w₂ ≠ .next s' n) : s₁ = s₂ ∧ w₁ = w₂ := by
  induction h₁ with
  | refl s w =>
    cases h₂ with
    | refl => exact ⟨rfl, rfl⟩
    | next h _ _ _ => exact absurd h (he₁ _ _)
  | next h _ _ _ ih =>
    cases h₂ with
    | refl => exact absurd h (he₂ _ _)
    | next h' _ _ hr' =>
      rw [h] at h'
      cases h'
      exact ih hr' he₁

/-! ### Pending input -/

theorem Pending.start (s : σ) (w : List α) : Pending call s w s w := ⟨s, .refl s w, fun _ ↦ rfl⟩

/-- A stable call takes a part of what is left. -/
theorem Pending.next {s₀ s s' : σ} {data w : List α} {n : Nat} (hp : Pending call s₀ data s w)
    (h : call s w = .next s' n) (hn : n ≤ w.length) (hs : Stable call s w) :
    Pending call s₀ data s' (w.drop n) := by
  obtain ⟨t, hr, ha⟩ := hp
  exact ⟨s', hr.trans (.next (ha.call_eq ▸ h) hn (hs.alike ha) (.refl _ _)), fun _ ↦ rfl⟩

/-- A call asked for more, can be repeated, and more arrives. -/
theorem Pending.more {s₀ s s' : σ} {data w : List α} (hp : Pending call s₀ data s w)
    (ha : Alike call w s' s) (x : List α) : Pending call s₀ (data ++ x) s' (w ++ x) := by
  obtain ⟨t, hr, ht⟩ := hp
  refine ⟨t, hr.append x, fun y ↦ ?_⟩
  rw [List.append_assoc, ha, ht]

/-- More arrives behind a call that has stopped. -/
theorem Pending.append {s₀ s : σ} {data w : List α} (hp : Pending call s₀ data s w)
    (x : List α) : Pending call s₀ (data ++ x) s (w ++ x) :=
  hp.more (fun _ ↦ rfl) x

/-- The call on which the parser ends is the same however the input arrived. -/
theorem Pending.unique {s₀ s₁ s₂ : σ} {data w₁ w₂ : List α} (h₁ : Pending call s₀ data s₁ w₁)
    (h₂ : Pending call s₀ data s₂ w₂) (he₁ : ∀ s' n, call s₁ w₁ ≠ .next s' n)
    (he₂ : ∀ s' n, call s₂ w₂ ≠ .next s' n) : call s₁ w₁ = call s₂ w₂ := by
  obtain ⟨t₁, hr₁, ha₁⟩ := h₁
  obtain ⟨t₂, hr₂, ha₂⟩ := h₂
  have heq₁ := ha₁.call_eq
  have heq₂ := ha₂.call_eq
  obtain ⟨rfl, rfl⟩ := hr₁.unique hr₂ (heq₁ ▸ he₁) (heq₂ ▸ he₂)
  rw [heq₁, heq₂]

end Resume
end RtmpRecv.Base
