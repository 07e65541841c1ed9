import FlowPilot.Lib.Table
import Mathlib.Data.List.Sort

/-!
# Ordered selections

What updates and inserts do to a selection, and `SELECT ... WHERE p ORDER BY key`: the rows that
satisfy a condition, in the order of their keys.  The keys are distinct, so the result depends on
which rows there are and on nothing else.
-/

namespace FlowPilot.Lib.Table

open Keyed (key)

variable {V K : Type} [Keyed V K]

/-! ## Selections after a write -/

/-- A column that an update leaves alone, of rows that are chosen by what it leaves alone. -/
theorem map_select_update {α : Type} {t : Table V} {p q : V → Bool} {f : V → V} {g : V → α}
    (hf : ∀ v, key (f v) = key v) (hq : ∀ v, q (f v) = q v) (hg : ∀ v, g (f v) = g v) :
    ((t.update p f hf).select q).map g = (t.select q).map g := by
  have hsame : q ∘ (fun v => if p v then f v else v) = q := by
    funext v
    by_cases hp : p v
    · simp only [Function.comp, hp, if_true, hq]
    · simp only [Function.comp, hp, Bool.false_eq_true, if_false]
  unfold select update
  rw [List.filter_map, hsame, List.map_map]
  refine List.map_congr_left ?_
  intro v _
  by_cases hp : p v
  · simp only [Function.comp, hp, if_true, hg]
  · simp only [Function.comp, hp, Bool.false_eq_true, if_false]

theorem select_insert [DecidableEq K] {t : Table V} {v : V} (h : t.get? (key v) = none)
    (q : V → Bool) : (t.insert v h).select q = t.select q ++ if q v then [v] else [] := by
  unfold select insert
  rw [List.filter_append, List.filter_singleton, Bool.cond_eq_ite]

/-! ## Order -/

variable [LinearOrder K]

def selectOrdered (t : Table V) (p : V → Bool) : List V :=
  (t.select p).insertionSort fun v w => key v ≤ key w

theorem selectOrdered_perm (t : Table V) (p : V → Bool) :
    (t.selectOrdered p).Perm (t.select p) :=
  List.perm_insertionSort _ _

theorem mem_selectOrdered {t : Table V} {p : V → Bool} {v : V} :
    v ∈ t.selectOrdered p ↔ v ∈ t.rows ∧ p v = true := by
  rw [(t.selectOrdered_perm p).mem_iff, mem_select]

theorem nodup_keys_selectOrdered (t : Table V) (p : V → Bool) :
    ((t.selectOrdered p).map key).Nodup := by
  have hselect : ((t.select p).map key).Nodup :=
    t.nodup.sublist (List.filter_sublist.map key)
  exact ((t.selectOrdered_perm p).map key).nodup_iff.mpr hselect

theorem nodup_selectOrdered (t : Table V) (p : V → Bool) : (t.selectOrdered p).Nodup :=
  (t.nodup_keys_selectOrdered p).of_map

theorem pairwise_selectOrdered (t : Table V) (p : V → Bool) :
    (t.selectOrdered p).Pairwise fun v w => key v ≤ key w := by
  have htotal : Std.Total fun v w : V => key v ≤ key w := ⟨fun v w => le_total (key v) (key w)⟩
  have htrans : IsTrans V fun v w : V => key v ≤ key w := ⟨fun _ _ _ => le_trans⟩
  exact List.pairwise_insertionSort _ _

/-- Tables with the same rows among those that satisfy the condition give the same result. -/
theorem selectOrdered_congr {t u : Table V} {p : V → Bool}
    (h : ∀ v, p v = true → (v ∈ t.rows ↔ v ∈ u.rows)) :
    t.selectOrdered p = u.selectOrdered p := by
  have hmem : ∀ v, v ∈ t.selectOrdered p ↔ v ∈ u.selectOrdered p := by
    intro v
    rw [mem_selectOrdered, mem_selectOrdered]
    constructor
    · exact fun hv => ⟨(h v hv.2).mp hv.1, hv.2⟩
    · exact fun hv => ⟨(h v hv.2).mpr hv.1, hv.2⟩
  have hperm : (t.selectOrdered p).Perm (u.selectOrdered p) :=
    (List.perm_ext_iff_of_nodup (t.nodup_selectOrdered p) (u.nodup_selectOrdered p)).mpr hmem
  refine List.Perm.eq_of_pairwise ?_ (t.pairwise_selectOrdered p) (u.pairwise_selectOrdered p) hperm
  intro v w hv hw hvw hwv
  have hrow := (mem_selectOrdered.mp ((hmem v).mp hv)).1
  exact eq_of_key hrow (mem_selectOrdered.mp hw).1 (le_antisymm hvw hwv)

/-- Exactly one row satisfies the condition. -/
theorem selectOrdered_eq_singleton {t : Table V} {p : V → Bool} {v : V} :
    t.selectOrdered p = [v] ↔ ∀ w, (w ∈ t.rows ∧ p w = true) ↔ w = v := by
  constructor
  · intro h w
    rw [← mem_selectOrdered, h, List.mem_singleton]
  · intro h
    have hperm : (t.selectOrdered p).Perm [v] := by
      refine (List.perm_ext_iff_of_nodup (t.nodup_selectOrdered p) (List.nodup_singleton v)).mpr ?_
      intro w
      rw [mem_selectOrdered, List.mem_singleton]
      exact h w
    exact List.perm_singleton.mp hperm

end FlowPilot.Lib.Table
