import Mathlib.Data.List.Nodup
import Mathlib.Data.List.Basic
import Mathlib.Order.Defs.PartialOrder

/-!
# Keyed tables

A table is a list of rows with pairwise distinct keys.  An update is a map over the rows that
keeps the key, a selection is a filter, and a lookup by key is the row with that key.  The
rules say what a lookup and a count are after an insert and after an update.
-/

namespace FlowPilot.Lib

/-- Rows of type `V` are addressed by a key of type `K`. -/
class Keyed (V : Type) (K : outParam Type) where
  key : V → K

open Keyed (key)

structure Table (V : Type) {K : Type} [Keyed V K] where
  rows : List V
  nodup : (rows.map key).Nodup

namespace Table

variable {V K : Type} [Keyed V K]

def empty : Table V := ⟨[], List.nodup_nil⟩

def select (t : Table V) (p : V → Bool) : List V := t.rows.filter p

/-- `SELECT ... WHERE p` of at most one row. -/
def one? (t : Table V) (p : V → Bool) : Option V := t.rows.find? p

def count (t : Table V) (p : V → Bool) : Nat := t.rows.countP p

@[ext] theorem ext {t u : Table V} (h : t.rows = u.rows) : t = u := by
  cases t
  cases u
  cases h
  rfl

theorem eq_of_key {t : Table V} {v w : V} (hv : v ∈ t.rows) (hw : w ∈ t.rows)
    (h : key v = key w) : v = w :=
  List.inj_on_of_nodup_map t.nodup hv hw h

theorem one?_mem {t : Table V} {p : V → Bool} {v : V} (h : t.one? p = some v) :
    v ∈ t.rows ∧ p v = true :=
  ⟨List.mem_of_find?_eq_some h, List.find?_some h⟩

theorem one?_eq_none {t : Table V} {p : V → Bool} :
    t.one? p = none ↔ ∀ v ∈ t.rows, p v = false := by
  simp [one?, List.find?_eq_none]

theorem one?_isSome {t : Table V} {p : V → Bool} {v : V} (hv : v ∈ t.rows) (hp : p v = true) :
    (t.one? p).isSome := by
  cases h : t.one? p with
  | some _ => rfl
  | none =>
      have hmiss := one?_eq_none.mp h v hv
      rw [hp] at hmiss
      cases hmiss

theorem mem_select {t : Table V} {p : V → Bool} {v : V} :
    v ∈ t.select p ↔ v ∈ t.rows ∧ p v = true :=
  List.mem_filter

theorem exists_of_count {t : Table V} {p : V → Bool} (h : t.count p ≠ 0) :
    ∃ v ∈ t.rows, p v = true :=
  List.countP_pos_iff.mp (Nat.pos_of_ne_zero h)

@[simp] theorem count_empty (p : V → Bool) : (empty : Table V).count p = 0 := rfl

/-! ## Updates -/

/-- `UPDATE ... SET f WHERE p`; `f` may not change the key. -/
def update (t : Table V) (p : V → Bool) (f : V → V)
    (hf : ∀ v, key (f v) = key v := by intro _; rfl) : Table V where
  rows := t.rows.map fun v => if p v then f v else v
  nodup := by
    have hk : (key ∘ fun v => if p v then f v else v) = (key : V → K) := by
      funext v
      by_cases hp : p v
      · simp only [Function.comp, hp, if_true, hf]
      · simp only [Function.comp, hp, Bool.false_eq_true, if_false]
    rw [List.map_map, hk]
    exact t.nodup

theorem mem_update {t : Table V} {p : V → Bool} {f : V → V} {hf : ∀ v, key (f v) = key v}
    {v : V} (h : v ∈ (t.update p f hf).rows) :
    ∃ w ∈ t.rows, v = if p w then f w else w := by
  obtain ⟨w, hw, rfl⟩ := List.mem_map.mp h
  exact ⟨w, hw, rfl⟩

theorem update_mem {t : Table V} {p : V → Bool} {f : V → V} {v : V} (hv : v ∈ t.rows)
    (hp : p v = true) (hf : ∀ v, key (f v) = key v := by intro _; rfl) :
    f v ∈ (t.update p f hf).rows :=
  List.mem_map.mpr ⟨v, hv, if_pos hp⟩

/-- An update that touches only the row `v` changes a count by that row's membership. -/
theorem count_update_at {t : Table V} {p : V → Bool} {f : V → V} (hf : ∀ v, key (f v) = key v)
    {v : V} (hv : v ∈ t.rows) (hp : ∀ w ∈ t.rows, p w = true → w = v) (q : V → Bool) :
    (t.update p f hf).count q + (if q v then 1 else 0) =
      t.count q + if q (if p v then f v else v) then 1 else 0 := by
  have hnd : t.rows.Nodup := List.Nodup.of_map _ t.nodup
  simp only [count, update]
  obtain ⟨before, after, hsplit⟩ := List.append_of_mem hv
  rw [hsplit] at hp hnd ⊢
  have hother : ∀ w ∈ before ++ after, p w = false := by
    intro w hw
    refine Bool.eq_false_iff.mpr fun hpw => ?_
    have hwv := hp w (by simp only [List.mem_append, List.mem_cons] at hw ⊢; tauto) hpw
    rw [hwv] at hw
    exact (List.nodup_middle.mp hnd |> List.nodup_cons.mp).1 hw
  have hkeep : ∀ l, l ⊆ before ++ after → (l.map fun w => if p w then f w else w) = l := by
    intro l hl
    refine (List.map_congr_left fun w hw => ?_).trans (List.map_id l)
    rw [hother w (hl hw)]
    rfl
  rw [List.map_append, List.map_cons, hkeep before (by simp), hkeep after (by simp)]
  simp only [List.countP_append, List.countP_cons]
  omega

/-! ## Least rows -/

/-- The lesser of the best row so far and the next one; an earlier row wins a tie. -/
def lesser (lt : V → V → Bool) (best : Option V) (v : V) : Option V :=
  match best with
  | none => some v
  | some b => if lt v b then some v else some b

/-- The least row among those that satisfy `p`: `ORDER BY lt LIMIT 1`. -/
def firstBy? (t : Table V) (lt : V → V → Bool) (p : V → Bool) : Option V :=
  (t.rows.filter p).foldl (lesser lt) none

theorem lesser_eq_some {lt : V → V → Bool} {best : Option V} {v w : V}
    (h : lesser lt best v = some w) : best = some w ∨ w = v := by
  unfold lesser at h
  split at h
  · cases h
    exact .inr rfl
  · split at h
    · cases h
      exact .inr rfl
    · exact .inl h

theorem foldl_lesser_mem (lt : V → V → Bool) (l : List V) (best : Option V) {v : V}
    (h : l.foldl (lesser lt) best = some v) : best = some v ∨ v ∈ l := by
  induction l generalizing best with
  | nil => exact .inl h
  | cons w ws ih =>
    rcases ih _ h with hb | hm
    · rcases lesser_eq_some hb with hb | rfl
      · exact .inl hb
      · exact .inr List.mem_cons_self
    · exact .inr (List.mem_cons_of_mem w hm)

theorem firstBy?_mem {t : Table V} {lt : V → V → Bool} {p : V → Bool} {v : V}
    (h : t.firstBy? lt p = some v) : v ∈ t.rows ∧ p v = true := by
  rcases foldl_lesser_mem lt _ none h with hn | hm
  · cases hn
  · exact List.mem_filter.mp hm

/-- The least row has the least value of a function that the order does not decrease. -/
theorem foldl_lesser_le {α : Type} [Preorder α] {lt : V → V → Bool} {f : V → α}
    (hlt : ∀ v w, lt v w = true → f v ≤ f w) (hnot : ∀ v w, lt v w = false → f w ≤ f v)
    (l : List V) (best : Option V) {v : V} (h : l.foldl (lesser lt) best = some v) :
    (∀ b, best = some b → f v ≤ f b) ∧ ∀ w ∈ l, f v ≤ f w := by
  induction l generalizing best with
  | nil =>
    refine ⟨fun b hb => ?_, fun w hw => by cases hw⟩
    rw [Option.some.inj (hb.symm.trans h)]
  | cons w ws ih =>
    have hrest := ih _ h
    have hw : ∃ u, lesser lt best w = some u ∧ f u ≤ f w ∧ ∀ b, best = some b → f u ≤ f b := by
      unfold lesser
      split
      · exact ⟨w, rfl, le_refl _, fun b hb => by cases hb⟩
      · next b =>
          cases hless : lt w b with
          | true =>
            refine ⟨w, rfl, le_refl _, fun c hc => ?_⟩
            rw [← Option.some.inj hc]
            exact hlt w b hless
          | false =>
            refine ⟨b, rfl, hnot w b hless, fun c hc => ?_⟩
            rw [Option.some.inj hc]
    obtain ⟨u, hu, huw, hub⟩ := hw
    have hvu : f v ≤ f u := hrest.1 u hu
    refine ⟨fun b hb => le_trans hvu (hub b hb), fun x hx => ?_⟩
    rcases List.mem_cons.mp hx with rfl | hx
    · exact le_trans hvu huw
    · exact hrest.2 x hx

theorem firstBy?_le {α : Type} [Preorder α] {t : Table V} {lt : V → V → Bool} {p : V → Bool}
    {f : V → α} (hlt : ∀ v w, lt v w = true → f v ≤ f w)
    (hnot : ∀ v w, lt v w = false → f w ≤ f v) {v w : V} (h : t.firstBy? lt p = some v)
    (hw : w ∈ t.rows) (hp : p w = true) : f v ≤ f w :=
  (foldl_lesser_le hlt hnot _ none h).2 w (List.mem_filter.mpr ⟨hw, hp⟩)

theorem firstBy?_isSome {t : Table V} {lt : V → V → Bool} {p : V → Bool} {w : V}
    (hw : w ∈ t.rows) (hp : p w = true) : t.firstBy? lt p ≠ none := by
  have hsome : ∀ (l : List V) (b : V), l.foldl (lesser lt) (some b) ≠ none := by
    intro l
    induction l with
    | nil => exact fun b h => by cases h
    | cons x xs ih =>
      intro b
      rw [List.foldl_cons]
      unfold lesser
      dsimp only
      split
      · exact ih x
      · exact ih b
  have hmem : w ∈ t.rows.filter p := List.mem_filter.mpr ⟨hw, hp⟩
  unfold firstBy?
  cases hrows : t.rows.filter p with
  | nil =>
    rw [hrows] at hmem
    cases hmem
  | cons x xs => exact hsome xs x

/-! ## Lookups -/

variable [DecidableEq K]

/-- The row with key `k`. -/
def get? (t : Table V) (k : K) : Option V := t.rows.find? fun v => key v = k

@[simp] theorem get?_empty (k : K) : (empty : Table V).get? k = none := rfl

theorem key_of_get? {t : Table V} {k : K} {v : V} (h : t.get? k = some v) : key v = k := by
  simpa using List.find?_some h

theorem mem_of_get? {t : Table V} {k : K} {v : V} (h : t.get? k = some v) : v ∈ t.rows :=
  List.mem_of_find?_eq_some h

theorem get?_of_mem {t : Table V} {v : V} (h : v ∈ t.rows) : t.get? (key v) = some v := by
  have hinj := List.inj_on_of_nodup_map t.nodup
  unfold get?
  cases hf : t.rows.find? (fun w => key w = key v) with
  | none =>
    have hn := List.find?_eq_none.mp hf v h
    simp at hn
  | some w =>
    have hk : key w = key v := by simpa using List.find?_some hf
    rw [hinj (List.mem_of_find?_eq_some hf) h hk]

theorem mem_rows_iff {t : Table V} {v : V} : v ∈ t.rows ↔ t.get? (key v) = some v :=
  ⟨get?_of_mem, mem_of_get?⟩

theorem get?_eq_none {t : Table V} {k : K} :
    t.get? k = none ↔ ∀ v ∈ t.rows, key v ≠ k := by
  simp [get?, List.find?_eq_none]

/-- A condition that names the key is decided at that key alone. -/
theorem one?_of_key {t : Table V} {p : V → Bool} {k : K} (hp : ∀ v, p v = true → key v = k) :
    t.one? p = (t.get? k).filter p := by
  cases hg : t.get? k with
  | none =>
    refine List.find?_eq_none.mpr fun v hv hpv => ?_
    exact get?_eq_none.mp hg v hv (hp v hpv)
  | some v =>
    have hk := key_of_get? hg
    by_cases hpv : p v = true
    · rw [Option.filter_some, if_pos hpv]
      cases ho : t.one? p with
      | none => exact absurd hpv (List.find?_eq_none.mp ho v (mem_of_get? hg))
      | some w =>
        obtain ⟨hw, hpw⟩ := one?_mem ho
        rw [eq_of_key hw (mem_of_get? hg) ((hp w hpw).trans hk.symm)]
    · rw [Option.filter_some, if_neg hpv]
      refine List.find?_eq_none.mpr fun w hw hpw => hpv ?_
      rwa [eq_of_key (mem_of_get? hg) hw (hk.trans (hp w hpw).symm)]

theorem get?_update {t : Table V} {p : V → Bool} {f : V → V} (hf : ∀ v, key (f v) = key v)
    (k : K) : (t.update p f hf).get? k = (t.get? k).map fun v => if p v then f v else v := by
  have hk : ((fun v => decide (key v = k)) ∘ fun v => if p v then f v else v)
      = fun v => decide (key v = k) := by
    funext v
    by_cases hp : p v
    · simp only [Function.comp, hp, if_true, hf]
    · simp only [Function.comp, hp, Bool.false_eq_true, if_false]
  simp only [get?, update, List.find?_map, hk]

/-! ## Inserts -/

@[simp] theorem isSome_get?_update {t : Table V} {p : V → Bool} {f : V → V}
    (hf : ∀ v, key (f v) = key v) (k : K) :
    ((t.update p f hf).get? k).isSome = (t.get? k).isSome := by
  rw [get?_update, Option.isSome_map]

/-- A row whose key is not taken is appended. -/
def insert (t : Table V) (v : V) (h : t.get? (key v) = none) : Table V where
  rows := t.rows ++ [v]
  nodup := by
    rw [List.map_append]
    apply List.nodup_append.mpr
    refine ⟨t.nodup, List.nodup_singleton _, ?_⟩
    intro a ha b hb hab
    rcases List.mem_map.mp ha with ⟨w, hw, hwa⟩
    simp only [List.map_cons, List.map_nil, List.mem_singleton] at hb
    exact get?_eq_none.mp h w hw (by rw [hwa, hab, hb])

/-- `INSERT`, refused when the key is taken. -/
def insert? (t : Table V) (v : V) : Option (Table V) :=
  if h : t.get? (key v) = none then some (t.insert v h) else none

theorem get?_insert {t : Table V} {v : V} (h : t.get? (key v) = none) (k : K) :
    (t.insert v h).get? k = if key v = k then some v else t.get? k := by
  simp only [get?, insert, List.find?_append, List.find?_cons, List.find?_nil]
  by_cases hk : key v = k
  · subst hk
    have hnone : t.rows.find? (fun w => key w = key v) = none := h
    simp [hnone]
  · simp [hk]

theorem count_insert {t : Table V} {v : V} (h : t.get? (key v) = none) (q : V → Bool) :
    (t.insert v h).count q = t.count q + if q v then 1 else 0 := by
  simp only [count, insert, List.countP_append]
  simp [List.countP_cons]

theorem mem_insert {t : Table V} {v w : V} (h : t.get? (key v) = none) :
    w ∈ (t.insert v h).rows ↔ w ∈ t.rows ∨ w = v := by
  simp [insert]

theorem forall_insert {P : V → Prop} {t : Table V} {v : V} (h : t.get? (key v) = none)
    (hall : ∀ x ∈ t.rows, P x) (hv : P v) : ∀ x ∈ (t.insert v h).rows, P x := by
  intro x hx
  rcases (mem_insert h).mp hx with hold | rfl
  · exact hall x hold
  · exact hv

theorem insert?_eq_some {t u : Table V} {v : V} (h : t.insert? v = some u) :
    ∃ hfresh, u = t.insert v hfresh := by
  unfold insert? at h
  split at h
  · next hn =>
    cases h
    exact ⟨hn, rfl⟩
  · cases h

theorem insert?_of_fresh {t : Table V} {v : V} (h : t.get? (key v) = none) :
    t.insert? v = some (t.insert v h) :=
  dif_pos h

/-! ## One row replaced -/

/-- `u` is `t` with the row `v` replaced by `w`, which has the same key. -/
structure Replaces (t u : Table V) (v w : V) : Prop where
  mem : v ∈ t.rows
  same_key : key w = key v
  rows_eq : u.rows = t.rows.map fun x => if key x = key v then w else x

namespace Replaces

variable {t u : Table V} {v w : V}

theorem get? (h : Replaces t u v w) (k : K) :
    u.get? k = if key v = k then some w else t.get? k := by
  have hkey : ((fun x => decide (key x = k)) ∘ fun x => if key x = key v then w else x) =
      fun x : V => decide (key x = k) := by
    funext x
    by_cases hx : key x = key v
    · simp only [Function.comp, hx, if_true, h.same_key]
    · simp only [Function.comp, hx, if_false]
  have hfind : u.get? k =
      (t.get? k).map fun x => if key x = key v then w else x := by
    unfold Table.get?
    rw [h.rows_eq, List.find?_map, hkey]
  rw [hfind]
  by_cases hk : key v = k
  · rw [if_pos hk, ← hk, get?_of_mem h.mem]
    simp
  · rw [if_neg hk]
    cases hg : t.get? k with
    | none => rfl
    | some x =>
      have hx : ¬ key x = key v := fun he => hk (he.symm.trans (key_of_get? hg))
      simp [hx]

theorem mem_iff (h : Replaces t u v w) {x : V} :
    x ∈ u.rows ↔ x = w ∨ x ∈ t.rows ∧ key x ≠ key v := by
  rw [h.rows_eq, List.mem_map]
  constructor
  · rintro ⟨y, hy, rfl⟩
    by_cases hk : key y = key v
    · exact .inl (if_pos hk)
    · rw [if_neg hk]
      exact .inr ⟨hy, hk⟩
  · rintro (rfl | ⟨hx, hk⟩)
    · exact ⟨v, h.mem, if_pos rfl⟩
    · exact ⟨x, hx, if_neg hk⟩

theorem new_mem (h : Replaces t u v w) : w ∈ u.rows := h.mem_iff.mpr (.inl rfl)

/-- What holds of every row still does when it holds of the new one. -/
theorem forall_rows {P : V → Prop} (h : Replaces t u v w) (hall : ∀ x ∈ t.rows, P x) (hw : P w) :
    ∀ x ∈ u.rows, P x := by
  intro x hx
  rcases h.mem_iff.mp hx with rfl | ⟨hold, _⟩
  · exact hw
  · exact hall x hold

/-- What the two rows have in common the tables have in common. -/
theorem map_rows {β : Type} {f : V → β} (h : Replaces t u v w) (hf : f w = f v) :
    u.rows.map f = t.rows.map f := by
  rw [h.rows_eq, List.map_map]
  refine List.map_congr_left fun x hx => ?_
  show f (if key x = key v then w else x) = f x
  split
  · next hkey => rw [hf, eq_of_key hx h.mem hkey]
  · rfl

theorem count (h : Replaces t u v w) (q : V → Bool) :
    u.count q + (if q v then 1 else 0) = t.count q + if q w then 1 else 0 := by
  have hupdate : u = t.update (fun x => key x = key v) (fun x => if key x = key v then w else x)
      (by
        intro x
        by_cases hx : key x = key v
        · rw [if_pos hx, h.same_key, hx]
        · rw [if_neg hx]) := by
    apply Table.ext
    rw [h.rows_eq]
    apply List.map_congr_left
    intro x _
    by_cases hx : key x = key v
    · simp only [hx, decide_true, if_true]
    · simp only [hx, decide_false, Bool.false_eq_true, if_false]
  rw [hupdate]
  have hcount := count_update_at (p := fun x => decide (key x = key v))
    (f := fun x => if key x = key v then w else x)
    (by
      intro x
      by_cases hx : key x = key v
      · rw [if_pos hx, h.same_key, hx]
      · rw [if_neg hx]) h.mem
    (fun x hx hp => eq_of_key hx h.mem (of_decide_eq_true hp)) q
  simpa using hcount

/-- A count that does not tell the two rows apart is unchanged. -/
theorem count_same (h : Replaces t u v w) {q : V → Bool} (hq : q w = q v) :
    u.count q = t.count q := by
  have hcount := h.count q
  rw [hq] at hcount
  omega

theorem refl (hv : v ∈ t.rows) : Replaces t t v v where
  mem := hv
  same_key := rfl
  rows_eq := by
    refine ((List.map_congr_left fun x hx => ?_).trans (List.map_id _)).symm
    by_cases hk : key x = key v
    · rw [if_pos hk]
      exact (eq_of_key hx hv hk).symm
    · rw [if_neg hk]
      rfl

theorem trans {t' : Table V} {x : V} (h : Replaces t u v w) (h' : Replaces u t' w x) :
    Replaces t t' v x where
  mem := h.mem
  same_key := h'.same_key.trans h.same_key
  rows_eq := by
    rw [h'.rows_eq, h.rows_eq, List.map_map]
    apply List.map_congr_left
    intro y _
    by_cases hy : key y = key v
    · simp only [Function.comp, hy, if_true]
    · simp only [Function.comp, hy, if_false, h.same_key]

end Replaces

/-- An update whose condition holds of `v` and names its key replaces `v`. -/
theorem replaces_update {t : Table V} {p : V → Bool} {f : V → V} {v : V} (hv : v ∈ t.rows)
    (hp : p v = true) (hkey : ∀ w, p w = true → key w = key v)
    (hf : ∀ v, key (f v) = key v := by intro _; rfl) :
    Replaces t (t.update p f hf) v (f v) where
  mem := hv
  same_key := hf v
  rows_eq := by
    apply List.map_congr_left
    intro x hx
    by_cases hk : key x = key v
    · have hxv := eq_of_key hx hv hk
      rw [hxv, if_pos hp, if_pos rfl]
    · have hpx : p x = false := Bool.eq_false_iff.mpr fun h => hk (hkey x h)
      simp [hpx, hk]

omit [DecidableEq K] in
/-- An update that matches no row changes nothing. -/
theorem update_none {t : Table V} {p : V → Bool} {f : V → V} (hf : ∀ v, key (f v) = key v)
    (hp : ∀ v ∈ t.rows, p v = false) : t.update p f hf = t := by
  apply ext
  refine (List.map_congr_left fun x hx => ?_).trans (List.map_id _)
  rw [hp x hx]
  rfl

omit [DecidableEq K] in
/-- A condition that names the key of a row counts that row or nothing. -/
theorem count_of_key {t : Table V} {p : V → Bool} {v : V} (hv : v ∈ t.rows)
    (hkey : ∀ w, p w = true → key w = key v) : t.count p = if p v then 1 else 0 := by
  have hnd : t.rows.Nodup := List.Nodup.of_map _ t.nodup
  have honly : ∀ w ∈ t.rows, p w = true → w = v :=
    fun w hw hpw => eq_of_key hw hv (hkey w hpw)
  unfold count
  rcases List.append_of_mem hv with ⟨before, after, hsplit⟩
  rw [hsplit] at hnd honly ⊢
  have hmiss := (List.nodup_cons.mp (List.nodup_middle.mp hnd)).1
  have hzero : ∀ l, l ⊆ before ++ after → l.countP p = 0 := by
    intro l hl
    rw [List.countP_eq_zero]
    intro w hw hpw
    have hwv := honly w (by
      have hin := hl hw
      simp only [List.mem_append, List.mem_cons] at hin ⊢
      tauto) hpw
    rw [hwv] at hw
    exact hmiss (hl hw)
  rw [List.countP_append, List.countP_cons, hzero before (by simp), hzero after (by simp)]
  omega

omit [DecidableEq K] in
theorem count_one {t : Table V} {p : V → Bool} {v : V} (hv : v ∈ t.rows) (hp : p v = true)
    (hkey : ∀ w, p w = true → key w = key v) : t.count p = 1 := by
  rw [count_of_key hv hkey, if_pos hp]

/-- A selection that names a key is the row with that key, if the rest holds of it. -/
theorem select_of_key (t : Table V) (k : K) (q : V → Bool) :
    t.rows.filter (fun v => decide (key v = k) && q v) = ((t.get? k).filter q).toList := by
  cases hg : t.get? k with
  | none =>
      rw [Option.filter_none, Option.toList_none, List.filter_eq_nil_iff]
      intro v hv
      have hne := get?_eq_none.mp hg v hv
      simp [hne]
  | some v =>
      have hv := mem_of_get? hg
      have hk := key_of_get? hg
      have hnd : t.rows.Nodup := List.Nodup.of_map _ t.nodup
      have honly : ∀ w ∈ t.rows, key w = k → w = v :=
        fun w hw hwk => eq_of_key hw hv (hwk.trans hk.symm)
      rcases List.append_of_mem hv with ⟨before, after, hsplit⟩
      rw [hsplit] at hnd honly ⊢
      have hmiss := (List.nodup_cons.mp (List.nodup_middle.mp hnd)).1
      have hnil : ∀ l, l ⊆ before ++ after →
          l.filter (fun v => decide (key v = k) && q v) = [] := by
        intro l hl
        rw [List.filter_eq_nil_iff]
        intro w hw hqw
        rw [Bool.and_eq_true, decide_eq_true_eq] at hqw
        have hwv := honly w (by
          have hin := hl hw
          simp only [List.mem_append, List.mem_cons] at hin ⊢
          tauto) hqw.1
        rw [hwv] at hw
        exact hmiss (hl hw)
      rw [List.filter_append, List.filter_cons, hnil before (by simp), hnil after (by simp)]
      by_cases hq : q v = true
      · simp [hk, hq, Option.filter_some]
      · simp [hq, Option.filter_some]

end Table

end FlowPilot.Lib
