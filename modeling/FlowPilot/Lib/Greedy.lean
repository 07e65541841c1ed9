import Mathlib.Data.List.Basic
import Mathlib.Data.List.Infix

/-!
# Greedy selection

Items are offered one after the other, and each is taken if what has been taken so far admits it.
-/

namespace FlowPilot.Lib

variable {α : Type}

/-- What is taken of the items. -/
def greedy (admits : List α → α → Bool) (items : List α) : List α :=
  items.foldl (fun taken x => if admits taken x = true then taken ++ [x] else taken) []

variable {admits : List α → α → Bool} {items : List α} {x : α}

theorem greedy_nil : greedy admits [] = [] := rfl

theorem greedy_snoc (items : List α) (x : α) :
    greedy admits (items ++ [x]) =
      if admits (greedy admits items) x = true then greedy admits items ++ [x]
      else greedy admits items := by
  unfold greedy
  rw [List.foldl_append]
  rfl

theorem greedy_taken (h : admits (greedy admits items) x = true) :
    greedy admits (items ++ [x]) = greedy admits items ++ [x] := by
  rw [greedy_snoc, if_pos h]

theorem greedy_dropped (h : admits (greedy admits items) x = false) :
    greedy admits (items ++ [x]) = greedy admits items := by
  rw [greedy_snoc, h]
  rfl

/-- What is taken stays taken. -/
theorem greedy_prefix (items more : List α) :
    greedy admits items <+: greedy admits (items ++ more) := by
  induction more using List.reverseRecOn with
  | nil =>
    rw [List.append_nil]
  | append_singleton more x ih =>
    rw [← List.append_assoc, greedy_snoc]
    split
    · exact ih.trans (List.prefix_append _ _)
    · exact ih

theorem greedy_sublist (items : List α) : (greedy admits items).Sublist items := by
  induction items using List.reverseRecOn with
  | nil => exact List.Sublist.refl _
  | append_singleton items x ih =>
    rw [greedy_snoc]
    split
    · exact ih.append (List.Sublist.refl _)
    · exact ih.trans (List.sublist_append_left _ _)

/-- Choices that agree at every turn take the same items. -/
theorem greedy_congr {other : List α → α → Bool} (items : List α)
    (h : ∀ earlier x later, items = earlier ++ x :: later →
      admits (greedy other earlier) x = other (greedy other earlier) x) :
    greedy admits items = greedy other items := by
  induction items using List.reverseRecOn with
  | nil => rfl
  | append_singleton items x ih =>
    have hitems : greedy admits items = greedy other items := by
      refine ih fun earlier y later hsplit => h earlier y (later ++ [x]) ?_
      rw [hsplit, List.append_assoc, List.cons_append]
    rw [greedy_snoc, greedy_snoc, hitems, h items x [] rfl]

/-- What every admitted item keeps holds of all that is taken. -/
theorem greedy_invariant {P : List α → Prop} (hnil : P [])
    (hstep : ∀ taken x, P taken → admits taken x = true → P (taken ++ [x])) (items : List α) :
    P (greedy admits items) := by
  induction items using List.reverseRecOn with
  | nil => exact hnil
  | append_singleton items x ih =>
    rw [greedy_snoc]
    split
    · rename_i hadmits
      exact hstep _ x ih hadmits
    · exact ih

/-- An item is taken at a turn at which it is admitted. -/
theorem mem_greedy : x ∈ greedy admits items ↔
    ∃ earlier later, items = earlier ++ x :: later ∧
      admits (greedy admits earlier) x = true := by
  constructor
  · induction items using List.reverseRecOn with
    | nil => exact fun h => absurd h List.not_mem_nil
    | append_singleton items y ih =>
      intro h
      rw [greedy_snoc] at h
      have hold : x ∈ greedy admits items → ∃ earlier later,
          items ++ [y] = earlier ++ x :: later ∧ admits (greedy admits earlier) x = true := by
        intro hx
        have ⟨earlier, later, hsplit, hadmits⟩ := ih hx
        refine ⟨earlier, later ++ [y], ?_, hadmits⟩
        rw [hsplit, List.append_assoc, List.cons_append]
      split at h
      · rename_i hadmits
        rw [List.mem_append, List.mem_singleton] at h
        rcases h with hx | hx
        · exact hold hx
        · rw [hx]
          exact ⟨items, [], rfl, hadmits⟩
      · exact hold h
  · intro ⟨earlier, later, hsplit, hadmits⟩
    have htaken : x ∈ greedy admits (earlier ++ [x]) := by
      rw [greedy_taken hadmits]
      exact List.mem_append_right _ List.mem_cons_self
    have hprefix : greedy admits (earlier ++ [x]) <+: greedy admits (earlier ++ [x] ++ later) :=
      greedy_prefix _ _
    rw [List.append_assoc, List.singleton_append, ← hsplit] at hprefix
    exact hprefix.subset htaken

end FlowPilot.Lib
