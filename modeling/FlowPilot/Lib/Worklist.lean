import Mathlib.Algebra.BigOperators.Group.List.Basic
import Mathlib.Algebra.GroupWithZero.Nat
import Mathlib.Data.List.Nodup
import Mathlib.Logic.Relation

/-!
# Worklists

A queue of items to visit: an item that is new and not skipped is added to those seen, and what
comes next of it to the queue.  With enough steps the items seen are those that can be reached.
-/

open Relation

namespace FlowPilot.Lib

variable {α : Type} (skip : α → Bool) (next : α → List α)

/-- `while queue:`, at most so many times. -/
def explore [DecidableEq α] : Nat → List α → List α → List α
  | 0, _, seen => seen
  | _ + 1, [], seen => seen
  | n + 1, x :: queue, seen =>
    if skip x ∨ x ∈ seen then explore n queue seen
    else explore n (queue ++ next x) (seen ++ [x])

/-- From `x` to an item that comes next of it and is not skipped. -/
def Leads (x y : α) : Prop := y ∈ next x ∧ skip y = false

variable {skip next} {queue seen nodes : List α} {x y : α} {n : Nat}

/-- The steps that are needed: one for each item in the queue, and for each item that may still be
put there. -/
def workLeft [DecidableEq α] (next : α → List α) (nodes queue seen : List α) : Nat :=
  queue.length + ((nodes.filter fun x => x ∉ seen).map fun x => (next x).length).sum

/-- What holds of the items seen and the queue at the start of each step. -/
structure Exploring (skip : α → Bool) (next : α → List α) (start queue seen : List α) : Prop where
  nodup : seen.Nodup
  wanted : ∀ x ∈ seen, skip x = false
  closed : ∀ x ∈ seen, ∀ y, Leads skip next x y → y ∈ seen ∨ y ∈ queue
  started : ∀ x ∈ start, skip x = false → x ∈ seen ∨ x ∈ queue
  reached : ∀ y, y ∈ seen ∨ y ∈ queue ∧ skip y = false →
    ∃ x ∈ start, skip x = false ∧ ReflTransGen (Leads skip next) x y

theorem exploring_start (start : List α) : Exploring skip next start start [] := by
  constructor
  · exact List.nodup_nil
  · exact fun x hx => absurd hx List.not_mem_nil
  · exact fun x hx => absurd hx List.not_mem_nil
  · exact fun x hx _ => .inr hx
  · intro y hy
    have ⟨hqueue, hskip⟩ := hy.resolve_left List.not_mem_nil
    exact ⟨y, hqueue, hskip, .refl⟩

theorem Exploring.drop {start : List α} (h : Exploring skip next start (x :: queue) seen)
    (hx : skip x = true ∨ x ∈ seen) : Exploring skip next start queue seen := by
  have hkept : ∀ y, skip y = false → y ∈ seen ∨ y ∈ x :: queue → y ∈ seen ∨ y ∈ queue := by
    intro y hskip hy
    rcases hy with hseen | hqueue
    · exact .inl hseen
    · rw [List.mem_cons] at hqueue
      rcases hqueue with hsame | hlater
      · rw [hsame] at hskip ⊢
        refine .inl (hx.resolve_left ?_)
        rw [hskip]
        exact Bool.false_ne_true
      · exact .inr hlater
  constructor
  · exact h.nodup
  · exact h.wanted
  · exact fun z hz y hy => hkept y hy.2 (h.closed z hz y hy)
  · exact fun z hz hskip => hkept z hskip (h.started z hz hskip)
  · intro y hy
    exact h.reached y (hy.imp id fun hq => ⟨List.mem_cons_of_mem _ hq.1, hq.2⟩)

theorem Exploring.visit {start : List α} (h : Exploring skip next start (x :: queue) seen)
    (hskip : skip x = false) (hnew : x ∉ seen) :
    Exploring skip next start (queue ++ next x) (seen ++ [x]) := by
  have hkept : ∀ y, y ∈ seen ∨ y ∈ x :: queue → y ∈ seen ++ [x] ∨ y ∈ queue ++ next x := by
    intro y hy
    rw [List.mem_append, List.mem_append, List.mem_singleton]
    rw [List.mem_cons] at hy
    rcases hy with hseen | hsame | hlater
    · exact .inl (.inl hseen)
    · exact .inl (.inr hsame)
    · exact .inr (.inl hlater)
  have hself := h.reached x (.inr ⟨List.mem_cons_self, hskip⟩)
  constructor
  · rw [List.nodup_append]
    refine ⟨h.nodup, List.nodup_singleton _, ?_⟩
    intro a ha b hb hab
    rw [List.mem_singleton.mp hb] at hab
    rw [hab] at ha
    exact hnew ha
  · intro z hz
    rw [List.mem_append, List.mem_singleton] at hz
    rcases hz with hseen | hsame
    · exact h.wanted z hseen
    · rw [hsame]
      exact hskip
  · intro z hz y hy
    rw [List.mem_append, List.mem_singleton] at hz
    rcases hz with hseen | hsame
    · exact hkept y (h.closed z hseen y hy)
    · rw [hsame] at hy
      exact .inr (List.mem_append_right _ hy.1)
  · exact fun z hz hz' => hkept z (h.started z hz hz')
  · intro y hy
    rw [List.mem_append, List.mem_append, List.mem_singleton] at hy
    rcases hy with (hseen | hsame) | ⟨hqueue | hnext, hy'⟩
    · exact h.reached y (.inl hseen)
    · rw [hsame]
      exact hself
    · exact h.reached y (.inr ⟨List.mem_cons_of_mem _ hqueue, hy'⟩)
    · have ⟨s, hs, hs', hreach⟩ := hself
      exact ⟨s, hs, hs', hreach.tail ⟨hnext, hy'⟩⟩

variable [DecidableEq α]

/-- A visit uses up the steps that the item had left. -/
theorem workLeft_visit (hnodes : nodes.Nodup) (hx : x ∈ nodes) (hnew : x ∉ seen) :
    workLeft next nodes (x :: queue) seen =
      workLeft next nodes (queue ++ next x) (seen ++ [x]) + 1 := by
  have hsplit : ∀ l : List α, l.Nodup → x ∈ l →
      ((l.filter fun y => y ∉ seen).map fun y => (next y).length).sum =
        (next x).length +
          ((l.filter fun y => y ∉ seen ++ [x]).map fun y => (next y).length).sum := by
    intro l
    induction l with
    | nil => exact fun _ hmem => absurd hmem List.not_mem_nil
    | cons z l ih =>
        intro hnodup hmem
        rw [List.nodup_cons] at hnodup
        rw [List.filter_cons, List.filter_cons]
        by_cases hzx : z = x
        · subst hzx
          have hrest : l.filter (fun y => y ∉ seen ++ [z]) = l.filter fun y => y ∉ seen := by
            refine List.filter_congr ?_
            intro y hy
            have hyz : y ≠ z := by
              intro hsame
              rw [hsame] at hy
              exact hnodup.1 hy
            rw [decide_eq_decide, List.mem_append, List.mem_singleton, or_iff_left hyz]
          have hself : z ∈ seen ++ [z] := List.mem_append_right _ List.mem_cons_self
          have hgone : ¬ decide (z ∉ seen ++ [z]) = true := by
            rw [decide_eq_true_eq]
            exact not_not.mpr hself
          rw [if_pos (decide_eq_true hnew), if_neg hgone, hrest, List.map_cons, List.sum_cons]
        · have hxl : x ∈ l := by
            rw [List.mem_cons] at hmem
            exact hmem.resolve_left (Ne.symm hzx)
          have hsum := ih hnodup.2 hxl
          have hsame : (z ∉ seen ++ [x]) ↔ z ∉ seen := by
            rw [List.mem_append, List.mem_singleton, or_iff_left hzx]
          have hsame' : decide (z ∉ seen ++ [x]) = decide (z ∉ seen) := decide_eq_decide.mpr hsame
          rw [hsame']
          by_cases hzs : decide (z ∉ seen) = true
          · rw [if_pos hzs, if_pos hzs, List.map_cons, List.map_cons, List.sum_cons,
              List.sum_cons, hsum]
            omega
          · rw [if_neg hzs, if_neg hzs, hsum]
  unfold workLeft
  rw [hsplit nodes hnodes hx, List.length_cons, List.length_append]
  omega

variable (skip) in
/-- With enough steps, the items seen are exactly those that can be reached. -/
theorem mem_explore {start : List α} (hnodes : nodes.Nodup)
    (hnext : ∀ x, ∀ y ∈ next x, y ∈ nodes) (n : Nat) : ∀ queue seen,
      Exploring skip next start queue seen → (∀ x ∈ queue, x ∈ nodes) →
      workLeft next nodes queue seen ≤ n →
        (explore skip next n queue seen).Nodup ∧
        ∀ y, y ∈ explore skip next n queue seen ↔
          ∃ x ∈ start, skip x = false ∧ ReflTransGen (Leads skip next) x y := by
  -- once the queue is empty, the items seen are closed under what comes next
  have hend : ∀ seen, Exploring skip next start [] seen → seen.Nodup ∧
      ∀ y, y ∈ seen ↔ ∃ x ∈ start, skip x = false ∧ ReflTransGen (Leads skip next) x y := by
    intro seen h
    refine ⟨h.nodup, ?_⟩
    intro y
    constructor
    · exact fun hy => h.reached y (.inl hy)
    · intro ⟨x, hx, hskip, hreach⟩
      induction hreach with
      | refl => exact (h.started x hx hskip).resolve_right List.not_mem_nil
      | tail _ hlast ih => exact (h.closed _ ih _ hlast).resolve_right List.not_mem_nil
  induction n with
  | zero =>
      intro queue seen h _ hwork
      have hempty : queue = [] := by
        unfold workLeft at hwork
        exact List.length_eq_zero_iff.mp (by omega)
      subst hempty
      exact hend seen h
  | succ n ih =>
      intro queue seen h hqueue hwork
      cases queue with
      | nil => exact hend seen h
      | cons x queue =>
          rw [explore]
          by_cases hold : skip x = true ∨ x ∈ seen
          · rw [if_pos hold]
            refine ih queue seen (h.drop hold) (fun y hy => hqueue y (List.mem_cons_of_mem _ hy)) ?_
            unfold workLeft at hwork ⊢
            rw [List.length_cons] at hwork
            omega
          · rw [if_neg hold]
            rw [not_or, Bool.not_eq_true] at hold
            have hx := hqueue x List.mem_cons_self
            refine ih _ _ (h.visit hold.1 hold.2) ?_ ?_
            · intro y hy
              rw [List.mem_append] at hy
              rcases hy with hlater | hnew
              · exact hqueue y (List.mem_cons_of_mem _ hlater)
              · exact hnext x y hnew
            · have hvisit : workLeft next nodes (x :: queue) seen =
                  workLeft next nodes (queue ++ next x) (seen ++ [x]) + 1 :=
                workLeft_visit hnodes hx hold.2
              omega

end FlowPilot.Lib
