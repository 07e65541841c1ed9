import Mathlib.Data.Finset.Card
import Mathlib.Logic.Function.Basic
import Mathlib.Order.WithBot

/-!
# Serving the least recently served client

`last` gives the time of a client's last turn, `⊥` for a client that had none.  Every turn goes to
a client whose last turn is the least among the waiting ones, at a time after all turns so far.
While one client waits, every other client gets at most one turn before it.
-/

namespace FlowPilot.Lib.LeastRecent

variable {ι τ : Type} [DecidableEq ι] [LinearOrder τ]

/-- A turn of client `i` at time `t`. -/
structure Turn (waiting : ι → Prop) (last after : ι → WithBot τ) (i : ι) (t : τ) : Prop where
  least : ∀ j, waiting j → last i ≤ last j
  later : ∀ j, last j < (t : WithBot τ)
  after : after = Function.update last i (t : WithBot τ)

/-- Client `a` has been passed over in favour of `served`, in this order. -/
structure Passed (a : ι) (last : ι → WithBot τ) (served : List ι) : Prop where
  distinct : served.Nodup
  absent : a ∉ served
  behind : ∀ i ∈ served, last a < last i

variable {waiting : ι → Prop} {last after : ι → WithBot τ} {a i : ι} {t : τ} {served : List ι}

omit [DecidableEq ι] in
theorem Passed.start (a : ι) (last : ι → WithBot τ) : Passed a last [] where
  distinct := List.nodup_nil
  absent := by simp
  behind := by simp

theorem Turn.own (h : Turn waiting last after i t) : after i = (t : WithBot τ) := by
  rw [h.after, Function.update_self]

theorem Turn.other (h : Turn waiting last after i t) {j : ι} (hj : j ≠ i) : after j = last j := by
  rw [h.after, Function.update_of_ne hj]

/-- No turn is later than the last one. -/
theorem Turn.le (h : Turn waiting last after i t) (j : ι) : after j ≤ (t : WithBot τ) := by
  by_cases hj : j = i
  · rw [hj, h.own]
  · rw [h.other hj]
    exact le_of_lt (h.later j)

/-- The turn of another client while `a` waits. -/
theorem Passed.turn (h : Passed a last served) (hturn : Turn waiting last after i t)
    (ha : waiting a) (hi : i ≠ a) : i ∉ served ∧ Passed a after (served ++ [i]) := by
  have hkept : after a = last a := hturn.other (Ne.symm hi)
  -- the turn goes to a client that is not behind `a` yet
  have hnew : i ∉ served := fun hmem => absurd (hturn.least a ha) (not_le_of_gt (h.behind i hmem))
  refine ⟨hnew, ?_, ?_, ?_⟩
  · rw [List.nodup_append]
    refine ⟨h.distinct, List.nodup_singleton i, fun j hj k hk hjk => ?_⟩
    rw [hjk, List.mem_singleton.mp hk] at hj
    exact hnew hj
  · intro hmem
    rcases List.mem_append.mp hmem with hold | hlast
    · exact h.absent hold
    · exact hi (List.mem_singleton.mp hlast).symm
  · intro j hj
    rw [hkept]
    rcases List.mem_append.mp hj with hold | hlast
    · have hji : j ≠ i := fun he => hnew (he ▸ hold)
      rw [hturn.other hji]
      exact h.behind j hold
    · rw [List.mem_singleton.mp hlast, hturn.own]
      exact hturn.later a

/-- A turn that is not counted. -/
theorem Passed.skip (h : Passed a last served) (hturn : Turn waiting last after i t)
    (ha : waiting a) (hi : i ≠ a) : Passed a after served := by
  have hpassed := (h.turn hturn ha hi).2
  exact ⟨h.distinct, h.absent, fun j hj => hpassed.behind j (List.mem_append_left _ hj)⟩

/-- Of the clients that get the turns, each other one gets at most one. -/
theorem Passed.length_lt (h : Passed a last served) {clients : Finset ι} (ha : a ∈ clients)
    (hserved : ∀ i ∈ served, i ∈ clients) : served.length < clients.card := by
  have hsub : (a :: served).toFinset ⊆ clients := by
    intro i hi
    rcases List.mem_cons.mp (List.mem_toFinset.mp hi) with rfl | hmem
    · exact ha
    · exact hserved i hmem
  have hcard := Finset.card_le_card hsub
  rw [List.toFinset_card_of_nodup (List.nodup_cons.mpr ⟨h.absent, h.distinct⟩)] at hcard
  exact hcard

end FlowPilot.Lib.LeastRecent
