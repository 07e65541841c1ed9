import FlowPilot.Lib.System
import Mathlib.Logic.Function.Basic

/-!
# One-time permits

A permit is asked for and then refused or granted.  A granted permit is withdrawn, or it is taken
by one execution, which spends it or fails.  A registry holds one permit under each key, and an
execution takes at most one of them.
-/

open Relation

namespace FlowPilot.Lib

inductive Permit (E : Type) where
  | asked
  | refused
  | granted
  | withdrawn
  | taken (execution : E)
  | spent (execution : E)
  | failed (execution : E)
  deriving DecidableEq

namespace Permit

variable {K E : Type}

/-- One decision about a permit. -/
inductive Next : Permit E → Permit E → Prop where
  | refuse : Next .asked .refused
  | grant : Next .asked .granted
  | withdraw : Next .granted .withdrawn
  | take (e : E) : Next .granted (.taken e)
  | spend (e : E) : Next (.taken e) (.spent e)
  | fail (e : E) : Next (.taken e) (.failed e)

/-- The execution that took the permit. -/
def execution : Permit E → Option E
  | .taken e | .spent e | .failed e => some e
  | _ => none

def Closed : Permit E → Prop
  | .refused | .withdrawn | .spent _ | .failed _ => True
  | _ => False

theorem Next.not_closed {p q : Permit E} (h : Next p q) : ¬ p.Closed := by
  cases h <;> exact fun hclosed => hclosed

theorem Next.execution_kept {p q : Permit E} {e : E} (h : Next p q)
    (he : p.execution = some e) : q.execution = some e := by
  cases h with
  | refuse | grant | withdraw | take _ => cases he
  | spend e' => exact he
  | fail e' => exact he

/-- The execution of a permit that was not taken before is new. -/
theorem Next.takes {p q : Permit E} {e : E} (h : Next p q) (hp : p.execution = none)
    (he : q.execution = some e) : p = .granted ∧ q = .taken e := by
  cases h with
  | refuse | grant | withdraw => cases he
  | take e' =>
      cases he
      exact ⟨rfl, rfl⟩
  | spend e' => cases hp
  | fail e' => cases hp

/-- A permit that nobody has after the step is not taken in it. -/
theorem fresh_of_free {p q : Permit E} {P : E → Prop} (h : q.execution = none) :
    ∀ e, p.execution = none → q.execution = some e → P e := by
  intro e _ he
  rw [h] at he
  cases he

/-- A permit that was taken before the step is not taken in it. -/
theorem fresh_of_taken {p q : Permit E} {P : E → Prop} {e : E} (h : p.execution = some e) :
    ∀ e', p.execution = none → q.execution = some e' → P e' := by
  intro e' hp _
  rw [h] at hp
  cases hp

/-! ## Runs -/

theorem execution_kept {p q : Permit E} {e : E} (h : ReflTransGen Next p q)
    (he : p.execution = some e) : q.execution = some e :=
  invariant_of_run (I := fun r => r.execution = some e)
    (fun _ _ hr hnext => hnext.execution_kept hr) he h

theorem closed_final {p q : Permit E} (h : ReflTransGen Next p q) (hp : p.Closed) : q = p := by
  induction h with
  | refl => rfl
  | tail _ hlast ih =>
      rw [ih] at hlast
      exact absurd hp hlast.not_closed

/-! ## Registries -/

abbrev Registry (K E : Type) := K → Option (Permit E)

namespace Registry

variable [DecidableEq K] {r r' : Registry K E}

/-- The execution that has taken the permit of the key. -/
def executionAt (r : Registry K E) (k : K) : Option E := (r k).bind execution

inductive Step : Registry K E → Registry K E → Prop where
  | ask {r : Registry K E} {k : K} (hnew : r k = none) :
      Step r (Function.update r k (some .asked))
  | move {r : Registry K E} {k : K} {p q : Permit E} (hp : r k = some p) (hnext : Next p q)
      (hfresh : ∀ e, p.execution = none → q.execution = some e → ∀ k', r.executionAt k' ≠ some e) :
      Step r (Function.update r k (some q))

/-- No execution has taken two permits. -/
def Exclusive (r : Registry K E) : Prop :=
  ∀ k k' e, r.executionAt k = some e → r.executionAt k' = some e → k = k'

omit [DecidableEq K] in
theorem exclusive_empty : Exclusive (fun _ => none : Registry K E) := by
  intro k k' e h
  cases h

theorem executionAt_update (r : Registry K E) (k k' : K) (p : Permit E) :
    executionAt (Function.update r k (some p)) k' =
      if k' = k then p.execution else r.executionAt k' := by
  unfold executionAt
  rw [Function.update_apply]
  by_cases hk : k' = k
  · rw [if_pos hk, if_pos hk]
    rfl
  · rw [if_neg hk, if_neg hk]

theorem Step.exclusive (h : Step r r') (hr : r.Exclusive) : r'.Exclusive := by
  cases h with
  | @ask k hnew =>
      have hsame : ∀ k' e, executionAt (Function.update r k (some .asked)) k' = some e →
          r.executionAt k' = some e := by
        intro k' e he
        rw [executionAt_update] at he
        split at he
        · cases he
        · exact he
      intro k₁ k₂ e h₁ h₂
      exact hr k₁ k₂ e (hsame k₁ e h₁) (hsame k₂ e h₂)
  | @move k p q hp hnext hfresh =>
      -- Before the step `e` was at the same key, or nowhere.
      have hbefore : ∀ k' e, executionAt (Function.update r k (some q)) k' = some e →
          r.executionAt k' = some e ∨ k' = k ∧ ∀ j, r.executionAt j ≠ some e := by
        intro k' e he
        rw [executionAt_update] at he
        split at he
        · next hk =>
          cases hexec : p.execution with
          | none => exact .inr ⟨hk, hfresh e hexec he⟩
          | some e' =>
              have hkept := hnext.execution_kept hexec
              rw [he] at hkept
              rw [hk, ← Option.some.inj hkept.symm]
              refine .inl ?_
              unfold executionAt
              rw [hp]
              exact hexec
        · exact .inl he
      intro k₁ k₂ e h₁ h₂
      rcases hbefore k₁ e h₁ with hold₁ | ⟨hk₁, hnew₁⟩
      · rcases hbefore k₂ e h₂ with hold₂ | ⟨_, hnew₂⟩
        · exact hr k₁ k₂ e hold₁ hold₂
        · exact absurd hold₁ (hnew₂ k₁)
      · rcases hbefore k₂ e h₂ with hold₂ | ⟨hk₂, _⟩
        · exact absurd hold₂ (hnew₁ k₂)
        · rw [hk₁, hk₂]

/-- Every permit is still there and has only moved on. -/
def Advances (r r' : Registry K E) : Prop :=
  ∀ k p, r k = some p → ∃ q, r' k = some q ∧ ReflTransGen Next p q

omit [DecidableEq K] in
theorem Advances.refl (r : Registry K E) : Advances r r := fun _ p hp => ⟨p, hp, .refl⟩

omit [DecidableEq K] in
theorem Advances.trans {r'' : Registry K E} (h : Advances r r') (h' : Advances r' r'') :
    Advances r r'' := by
  intro k p hp
  obtain ⟨q, hq, hpq⟩ := h k p hp
  obtain ⟨s, hs, hqs⟩ := h' k q hq
  exact ⟨s, hs, hpq.trans hqs⟩

theorem Step.advances (h : Step r r') : Advances r r' := by
  intro k' p' hp'
  cases h with
  | @ask k hnew =>
      have hk : k' ≠ k := by
        intro hk
        rw [hk, hnew] at hp'
        cases hp'
      exact ⟨p', by rw [Function.update_of_ne hk, hp'], .refl⟩
  | @move k p q hp hnext hfresh =>
      by_cases hk : k' = k
      · rw [hk, hp] at hp'
        cases hp'
        refine ⟨q, ?_, .single hnext⟩
        rw [hk, Function.update_self]
      · exact ⟨p', by rw [Function.update_of_ne hk, hp'], .refl⟩

/-- No permit is taken, and none that was taken ends. -/
structure Spares (r r' : Registry K E) : Prop where
  advances : Advances r r'
  executions : ∀ k p q, r k = some p → r' k = some q → q.execution = p.execution
  taken : ∀ k e, r k = some (.taken e) → r' k = some (.taken e)

/-- No permit is taken by anybody. -/
def SameExecutions (r r' : Registry K E) : Prop := ∀ k, r'.executionAt k = r.executionAt k

theorem sameExecutions_update {k : K} {q : Permit E} (h : r.executionAt k = q.execution) :
    SameExecutions r (Function.update r k (some q)) := by
  intro k'
  rw [executionAt_update]
  by_cases hk : k' = k
  · rw [if_pos hk, hk, h]
  · rw [if_neg hk]

theorem exclusive_of_run (hr : r.Exclusive) (hrun : ReflTransGen Step r r') : r'.Exclusive :=
  invariant_of_run (fun _ _ h hstep => hstep.exclusive h) hr hrun

theorem advances_of_run (hrun : ReflTransGen Step r r') : Advances r r' :=
  relation_of_run (I := fun _ => True) Advances.refl (fun _ _ _ h h' => h.trans h')
    (fun _ _ _ hstep => ⟨trivial, hstep.advances⟩) trivial hrun

end Registry

end Permit

end FlowPilot.Lib
