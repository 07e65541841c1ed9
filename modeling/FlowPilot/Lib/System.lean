import Mathlib.Logic.Relation

/-!
# Transition systems

Reachable states of a step relation, the induction rule for invariants, the same rule for runs
whose steps all meet a condition, and the rule that lifts what one step relates to whole runs.
-/

open Relation

namespace FlowPilot.Lib

variable {σ : Type} {step : σ → σ → Prop} {I : σ → Prop}

/-- The steps of `step` taken from states where `cond` allows them. -/
def Guarded (cond : σ → σ → Prop) (step : σ → σ → Prop) (s t : σ) : Prop :=
  cond s t ∧ step s t

theorem invariant_of_run (hstep : ∀ s t, I s → step s t → I t) {s t : σ} (hs : I s)
    (hrun : ReflTransGen step s t) : I t := by
  induction hrun with
  | refl => exact hs
  | tail _ hlast ih => exact hstep _ _ ih hlast

/-- A reflexive and transitive relation that every step from an invariant state respects holds
between the two ends of a run. -/
theorem relation_of_run {R : σ → σ → Prop} (hrefl : ∀ s, R s s)
    (htrans : ∀ s t u, R s t → R t u → R s u)
    (hstep : ∀ s t, I s → step s t → I t ∧ R s t) {s t : σ} (hs : I s)
    (hrun : ReflTransGen step s t) : R s t := by
  have hI : I t ∧ R s t := by
    induction hrun with
    | refl => exact ⟨hs, hrefl s⟩
    | tail _ hlast ih =>
      obtain ⟨hinv, hrel⟩ := hstep _ _ ih.1 hlast
      exact ⟨hinv, htrans _ _ _ ih.2 hrel⟩
  exact hI.2

theorem run_of_guarded {cond : σ → σ → Prop} {s t : σ}
    (hrun : ReflTransGen (Guarded cond step) s t) : ReflTransGen step s t :=
  ReflTransGen.mono (fun _ _ h => h.2) _ _ hrun

end FlowPilot.Lib
