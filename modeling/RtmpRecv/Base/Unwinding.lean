import Mathlib.Data.List.Basic

/-!
# What one kind of events does to a machine

Library `Base`. A machine takes events one after the other. When the events outside of a set leave
a view of the state alone, and those of the set change it by what it shows, then the view behind a
run is that behind the events of the set alone.
-/

namespace RtmpRecv.Base

variable {σ ε β : Type}

/-- The view of the states with `Inv` depends on the events of `shows` alone. -/
structure Unwinds (step : σ → ε → σ) (Inv : σ → Prop) (shows : ε → Prop) (view : σ → β) :
    Prop where
  kept : ∀ s e, Inv s → Inv (step s e)
  hidden : ∀ s e, Inv s → ¬shows e → view (step s e) = view s
  shown : ∀ s t e, Inv s → Inv t → shows e → view s = view t → view (step s e) = view (step t e)

namespace Unwinds

variable {step : σ → ε → σ} {Inv : σ → Prop} {shows : ε → Prop} {view : σ → β}

/-- The hidden events can be left out. -/
theorem purge [DecidablePred shows] (h : Unwinds step Inv shows view) {s t : σ} (hs : Inv s)
    (ht : Inv t) (hview : view s = view t) (events : List ε) :
    view (events.foldl step s) =
      view ((events.filter fun e ↦ decide (shows e)).foldl step t) := by
  induction events generalizing s t with
  | nil => exact hview
  | cons e events ih =>
    by_cases he : shows e
    · rw [List.filter_cons_of_pos (by simpa using he)]
      exact ih (h.kept s e hs) (h.kept t e ht) (h.shown s t e hs ht he hview)
    · rw [List.filter_cons_of_neg (by simpa using he)]
      exact ih (h.kept s e hs) ht ((h.hidden s e hs he).trans hview)

end Unwinds
end RtmpRecv.Base
