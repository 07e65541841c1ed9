import Mathlib.Data.Fintype.Card
import Mathlib.Data.List.Sort
import Mathlib.Data.Set.Finite.Basic
import Mathlib.Logic.Relation
import Mathlib.Order.Bounds.Basic
import Mathlib.Order.WellFounded

/-!
# Dependency graphs

Nodes with the nodes they depend on.  An order places a node after its dependencies; taking the
least ready node again and again places them all exactly if no node depends on itself.  The level of
a node is the length of the longest path that ends in it.
-/

open Relation

namespace FlowPilot.Lib

structure DependencyGraph (α : Type) where
  nodes : List α
  deps : α → List α
  nodup : nodes.Nodup
  known : ∀ x, ∀ d ∈ deps x, x ∈ nodes ∧ d ∈ nodes

namespace DependencyGraph

variable {α : Type} (g : DependencyGraph α)

/-- `x` depends on `d`. -/
def Before (d x : α) : Prop := d ∈ g.deps x

def Acyclic : Prop := ∀ x, ¬ TransGen g.Before x x

/-- The nodes of a list, each after its dependencies. -/
inductive Placed : List α → Prop where
  | nil : Placed []
  | snoc {t : List α} {x : α} : Placed t → x ∈ g.nodes → x ∉ t → (∀ d ∈ g.deps x, d ∈ t) →
      Placed (t ++ [x])

variable {g} {t : List α} {x d : α}

/-! ## Orders -/

namespace Placed

theorem nodup (h : g.Placed t) : t.Nodup := by
  induction h with
  | nil => exact List.nodup_nil
  | snoc _ _ hfresh _ ih =>
      rw [List.nodup_append]
      refine ⟨ih, List.nodup_singleton _, ?_⟩
      intro a ha b hb hab
      rw [List.mem_singleton.mp hb] at hab
      rw [hab] at ha
      exact hfresh ha

theorem subset (h : g.Placed t) : ∀ y ∈ t, y ∈ g.nodes := by
  induction h with
  | nil => exact fun y hy => absurd hy List.not_mem_nil
  | snoc _ hnode _ _ ih =>
      intro y hy
      rw [List.mem_append, List.mem_singleton] at hy
      rcases hy with hearlier | hlast
      · exact ih y hearlier
      · rw [hlast]
        exact hnode

theorem closed (h : g.Placed t) : ∀ y ∈ t, ∀ d ∈ g.deps y, d ∈ t := by
  induction h with
  | nil => exact fun y hy => absurd hy List.not_mem_nil
  | snoc _ _ _ hdeps ih =>
      intro y hy d hd
      rw [List.mem_append, List.mem_singleton] at hy
      rcases hy with hearlier | hlast
      · exact List.mem_append_left _ (ih y hearlier d hd)
      · rw [hlast] at hd
        exact List.mem_append_left _ (hdeps d hd)

theorem length_le (h : g.Placed t) : t.length ≤ g.nodes.length :=
  (h.nodup.subperm h.subset).length_le

end Placed

theorem Placed.perm_nodes (h : g.Placed t) (hlength : t.length = g.nodes.length) :
    t.Perm g.nodes := (h.nodup.subperm h.subset).perm_of_length_le hlength.ge

/-! ## Cycles -/

theorem mem_of_transGen (h : TransGen g.Before d x) : x ∈ g.nodes := by
  cases h with
  | single hedge => exact (g.known _ _ hedge).1
  | tail _ hedge => exact (g.known _ _ hedge).1

/-- Without cycles, a set of nodes has one that depends on no other of the set. -/
theorem Acyclic.exists_minimal (h : g.Acyclic) {S : α → Prop} (hS : ∃ x ∈ g.nodes, S x) :
    ∃ x ∈ g.nodes, S x ∧ ∀ d ∈ g.deps x, ¬ S d := by
  let before : {x // x ∈ g.nodes} → {x // x ∈ g.nodes} → Prop :=
    fun d x => TransGen g.Before d.1 x.1
  have htrans : IsTrans _ before := ⟨fun _ _ _ hab hbc => TransGen.trans hab hbc⟩
  have hirrefl : Std.Irrefl before := ⟨fun x => h x.1⟩
  have hfinite : Finite {x // x ∈ g.nodes} := (List.finite_toSet g.nodes).to_subtype
  have hwf : WellFounded before := Finite.wellFounded_of_trans_of_irrefl before
  have ⟨x, hx, hSx⟩ := hS
  have ⟨m, hSm, hleast⟩ := hwf.has_min {y | S y.1} ⟨⟨x, hx⟩, hSx⟩
  refine ⟨m.1, m.2, hSm, ?_⟩
  intro d hd hSd
  exact hleast ⟨d, (g.known _ _ hd).2⟩ hSd (TransGen.single hd)

/-! ## Levels -/

variable (g) in
/-- A path of so many nodes, each a dependency of the next, ends in the node. -/
inductive Path : Nat → α → Prop where
  | one {x : α} : x ∈ g.nodes → Path 1 x
  | next {n : Nat} {d x : α} : Path n d → d ∈ g.deps x → Path (n + 1) x

variable (g) in
/-- The longest path that ends in `x` has `n` nodes. -/
def Level (x : α) (n : Nat) : Prop := IsGreatest {k | g.Path k x} n

variable (g) in
/-- Numbers that follow the dependencies: one for a node without any, else one more than the
largest number of a dependency. -/
def Ranked (f : α → Nat) : Prop :=
  ∀ x ∈ g.nodes, (∀ d ∈ g.deps x, f d < f x) ∧
    (f x = 1 ∨ ∃ d ∈ g.deps x, f x = f d + 1)

variable {f : α → Nat}

theorem Path.mem {n : Nat} (h : g.Path n x) : x ∈ g.nodes := by
  cases h with
  | one hx => exact hx
  | next _ hd => exact (g.known _ _ hd).1

theorem Path.pos {n : Nat} (h : g.Path n x) : 0 < n := by
  cases h with
  | one _ => exact Nat.one_pos
  | next _ _ => exact Nat.succ_pos _

theorem Ranked.pos (h : g.Ranked f) (hx : x ∈ g.nodes) : 0 < f x := by
  have ⟨_, hvalue⟩ := h x hx
  rcases hvalue with hone | ⟨d, _, hnext⟩
  · omega
  · omega

theorem Ranked.path_le (h : g.Ranked f) {n : Nat} (hpath : g.Path n x) : n ≤ f x := by
  induction hpath with
  | one hx => exact h.pos hx
  | next hfirst hd ih =>
      have hlt := (h _ (g.known _ _ hd).1).1 _ hd
      omega

theorem Ranked.path (h : g.Ranked f) (n : Nat) : ∀ x ∈ g.nodes, f x = n → g.Path n x := by
  induction n using Nat.strong_induction_on with
  | _ n ih =>
      intro x hx hn
      have ⟨_, hvalue⟩ := h x hx
      rcases hvalue with hone | ⟨d, hd, hnext⟩
      · have hn' : n = 1 := by omega
        rw [hn']
        exact .one hx
      · have hn' : n = f d + 1 := by omega
        rw [hn']
        exact .next (ih (f d) (by omega) d (g.known _ _ hd).2 rfl) hd

/-- The numbers are the levels. -/
theorem Ranked.level (h : g.Ranked f) (hx : x ∈ g.nodes) : g.Level x (f x) :=
  ⟨h.path _ x hx rfl, fun _ hpath => h.path_le hpath⟩

theorem Ranked.level_iff (h : g.Ranked f) (hx : x ∈ g.nodes) {n : Nat} :
    g.Level x n ↔ f x = n := by
  constructor
  · intro hlevel
    exact (h.level hx).unique hlevel
  · intro hn
    rw [← hn]
    exact h.level hx

variable (g) in
/-- The number of nodes on the longest path. -/
def Depth (n : Nat) : Prop := IsGreatest {k | ∃ x, g.Path k x} n

variable (g) in
/-- Distinct nodes of one level. -/
def OnLevel (n : Nat) (l : List α) : Prop := l.Nodup ∧ ∀ x ∈ l, x ∈ g.nodes ∧ g.Level x n

variable (g) in
/-- The number of nodes of the largest level. -/
def Width (m : Nat) : Prop := IsGreatest {k | ∃ n l, g.OnLevel n l ∧ l.length = k} m

theorem Ranked.depth (h : g.Ranked f) {n : Nat} (hreached : ∃ x ∈ g.nodes, f x = n)
    (hmax : ∀ x ∈ g.nodes, f x ≤ n) : g.Depth n := by
  have ⟨x, hx, hn⟩ := hreached
  refine ⟨⟨x, h.path n x hx hn⟩, ?_⟩
  intro k ⟨y, hpath⟩
  exact Nat.le_trans (h.path_le hpath) (hmax y hpath.mem)

theorem Ranked.width (h : g.Ranked f) {m : Nat}
    (hreached : ∃ n, (g.nodes.filter fun x => f x = n).length = m)
    (hmax : ∀ n, (g.nodes.filter fun x => f x = n).length ≤ m) : g.Width m := by
  have ⟨n, hm⟩ := hreached
  constructor
  · refine ⟨n, g.nodes.filter fun x => f x = n, ⟨g.nodup.filter _, ?_⟩, hm⟩
    intro x hx
    rw [List.mem_filter, decide_eq_true_eq] at hx
    exact ⟨hx.1, (h.level_iff hx.1).mpr hx.2⟩
  · intro k ⟨n', l, hlevel, hk⟩
    have hsub : ∀ x ∈ l, x ∈ g.nodes.filter fun x => f x = n' := by
      intro x hx
      have ⟨hnode, hxlevel⟩ := hlevel.2 x hx
      rw [List.mem_filter, decide_eq_true_eq]
      exact ⟨hnode, (h.level_iff hnode).mp hxlevel⟩
    have hle := (hlevel.1.subperm hsub).length_le
    have hmax' := hmax n'
    omega

/-! ## Renamed graphs -/

/-- `g'` is `g` with its nodes renamed, in any order. -/
structure Renames {β : Type} (g : DependencyGraph α) (g' : DependencyGraph β) (φ : α → β) :
    Prop where
  injective : ∀ x ∈ g.nodes, ∀ y ∈ g.nodes, φ x = φ y → x = y
  nodes : ∀ y, y ∈ g'.nodes ↔ ∃ x ∈ g.nodes, φ x = y
  deps : ∀ x ∈ g.nodes, ∀ e, e ∈ g'.deps (φ x) ↔ ∃ d ∈ g.deps x, φ d = e

namespace Renames

variable {β : Type} {g' : DependencyGraph β} {φ : α → β}

theorem path (h : Renames g g' φ) {n : Nat} (hpath : g.Path n x) : g'.Path n (φ x) := by
  induction hpath with
  | one hx => exact .one ((h.nodes _).mpr ⟨_, hx, rfl⟩)
  | @next n d x _ hd ih =>
      exact .next ih ((h.deps x (g.known _ _ hd).1 _).mpr ⟨d, hd, rfl⟩)

theorem path_back (h : Renames g g' φ) {n : Nat} {y : β} (hpath : g'.Path n y) :
    ∀ x ∈ g.nodes, φ x = y → g.Path n x := by
  induction hpath with
  | one _ => exact fun x hx _ => .one hx
  | @next n e y _ he ih =>
      intro x hx hxy
      rw [← hxy, h.deps x hx] at he
      have ⟨d, hd, hde⟩ := he
      exact .next (ih d (g.known _ _ hd).2 hde) hd

theorem path_iff (h : Renames g g' φ) (hx : x ∈ g.nodes) (n : Nat) :
    g'.Path n (φ x) ↔ g.Path n x :=
  ⟨fun hpath => h.path_back hpath x hx rfl, fun hpath => h.path hpath⟩

theorem level_iff (h : Renames g g' φ) (hx : x ∈ g.nodes) (n : Nat) :
    g'.Level (φ x) n ↔ g.Level x n := by
  unfold Level
  have hsame : {k | g'.Path k (φ x)} = {k | g.Path k x} := by
    ext k
    exact h.path_iff hx k
  rw [hsame]

theorem transGen_back (h : Renames g g' φ) {a b : β} (hab : TransGen g'.Before a b) :
    ∀ y ∈ g.nodes, φ y = b → ∃ x ∈ g.nodes, φ x = a ∧ TransGen g.Before x y := by
  induction hab with
  | single hedge =>
      intro y hy hyb
      have hedge' : a ∈ g'.deps (φ y) := by
        rw [hyb]
        exact hedge
      have ⟨x, hx, hxa⟩ := (h.deps y hy a).mp hedge'
      exact ⟨x, (g.known _ _ hx).2, hxa, .single hx⟩
  | @tail b c _ hedge ih =>
      intro y hy hyc
      have hedge' : b ∈ g'.deps (φ y) := by
        rw [hyc]
        exact hedge
      have ⟨m, hm, hmb⟩ := (h.deps y hy b).mp hedge'
      have ⟨x, hx, hxa, hxm⟩ := ih m (g.known _ _ hm).2 hmb
      exact ⟨x, hx, hxa, hxm.tail hm⟩

theorem acyclic (h : Renames g g' φ) (hacyclic : g.Acyclic) : g'.Acyclic := by
  intro a hcycle
  have ⟨y, hy, hya⟩ := (h.nodes a).mp (mem_of_transGen hcycle)
  have ⟨x, hx, hxa, hxy⟩ := h.transGen_back hcycle y hy hya
  have hsame := h.injective x hx y hy (hxa.trans hya.symm)
  rw [hsame] at hxy
  exact hacyclic y hxy

/-- Bounds on the paths and the levels carry over. -/
theorem path_le (h : Renames g g' φ) {k : Nat} (hbound : ∀ n x, g.Path n x → n ≤ k) :
    ∀ n y, g'.Path n y → n ≤ k := by
  intro n y hpath
  have ⟨x, hx, hxy⟩ := (h.nodes y).mp hpath.mem
  exact hbound n x (h.path_back hpath x hx hxy)

theorem onLevel_le (h : Renames g g' φ) {k : Nat} (hbound : ∀ n l, g.OnLevel n l → l.length ≤ k) :
    ∀ n l, g'.OnLevel n l → l.length ≤ k := by
  -- the nodes of a level are the images of nodes of that level
  have himage : ∀ n l, g'.OnLevel n l → ∃ l', g.OnLevel n l' ∧ l'.map φ = l := by
    intro n l
    induction l with
    | nil => exact fun _ => ⟨[], ⟨List.nodup_nil, fun x hx => absurd hx List.not_mem_nil⟩, rfl⟩
    | cons y l ih =>
        intro hlevel
        have ⟨hnodup, hmem⟩ := hlevel
        rw [List.nodup_cons] at hnodup
        have ⟨l', hlevel', hl'⟩ := ih
          ⟨hnodup.2, fun z hz => hmem z (List.mem_cons_of_mem _ hz)⟩
        have ⟨hy, hylevel⟩ := hmem y List.mem_cons_self
        have ⟨x, hx, hxy⟩ := (h.nodes y).mp hy
        refine ⟨x :: l', ⟨?_, ?_⟩, ?_⟩
        · rw [List.nodup_cons]
          refine ⟨?_, hlevel'.1⟩
          intro hxl
          have hyl := List.mem_map_of_mem (f := φ) hxl
          rw [hxy, hl'] at hyl
          exact hnodup.1 hyl
        · intro z hz
          rw [List.mem_cons] at hz
          rcases hz with hsame | hlater
          · rw [hsame]
            rw [← hxy] at hylevel
            exact ⟨hx, (h.level_iff hx n).mp hylevel⟩
          · exact hlevel'.2 z hlater
        · rw [List.map_cons, hxy, hl']
  intro n l hlevel
  have ⟨l', hlevel', hl'⟩ := himage n l hlevel
  rw [← hl', List.length_map]
  exact hbound n l' hlevel'

end Renames

/-! ## The least order -/

variable [LinearOrder α]

variable (g) in
/-- The nodes that can be placed next, in order. -/
def ready (t : List α) : List α :=
  (g.nodes.filter fun x => x ∉ t ∧ ∀ d ∈ g.deps x, d ∈ t).insertionSort (· ≤ ·)

variable (g) in
/-- Place the least ready node, at most `n` times. -/
def grow : Nat → List α → List α
  | 0, t => t
  | n + 1, t =>
    match g.ready t with
    | [] => t
    | x :: _ => grow n (t ++ [x])

theorem mem_ready : x ∈ g.ready t ↔ x ∈ g.nodes ∧ x ∉ t ∧ ∀ d ∈ g.deps x, d ∈ t := by
  unfold ready
  rw [List.mem_insertionSort, List.mem_filter, decide_eq_true_eq]

theorem ready_sorted : (g.ready t).Pairwise (· ≤ ·) := List.pairwise_insertionSort _ _

theorem ready_nodup : (g.ready t).Nodup :=
  (List.perm_insertionSort _ _).nodup_iff.mpr (g.nodup.filter _)

/-- A sorted list with the ready nodes is the list of the ready nodes. -/
theorem eq_ready {l : List α} (hsorted : l.Pairwise (· ≤ ·)) (hnodup : l.Nodup)
    (hmem : ∀ x, x ∈ l ↔ x ∈ g.ready t) : l = g.ready t := by
  have hperm : l.Perm (g.ready t) := (List.perm_ext_iff_of_nodup hnodup ready_nodup).mpr hmem
  exact hperm.eq_of_pairwise' hsorted ready_sorted

namespace Placed

/-- A dependency stands before its dependent. -/
theorem idxOf_lt (h : g.Placed t) : ∀ y ∈ t, ∀ d ∈ g.deps y, t.idxOf d < t.idxOf y := by
  induction h with
  | nil => exact fun y hy => absurd hy List.not_mem_nil
  | @snoc t x _ _ hfresh hdeps ih =>
      intro y hy d hd
      have hearlier : ∀ z ∈ t, (t ++ [x]).idxOf z = t.idxOf z := fun z hz =>
        List.idxOf_append_of_mem hz
      by_cases hyt : y ∈ t
      · have hdt : d ∈ t := by
          have hlt := ih y hyt d hd
          have hle : t.idxOf y ≤ t.length := List.idxOf_le_length
          exact List.idxOf_lt_length_iff.mp (by omega)
        rw [hearlier d hdt, hearlier y hyt]
        exact ih y hyt d hd
      · rw [List.mem_append, List.mem_singleton] at hy
        have hlast := hy.resolve_left hyt
        subst hlast
        rw [hearlier d (hdeps d hd), List.idxOf_append_of_notMem hfresh, List.idxOf_cons_self]
        have hd' := List.idxOf_lt_length_iff.mpr (hdeps d hd)
        omega

theorem split (h : g.Placed t) {earlier later : List α} (ht : t = earlier ++ x :: later) :
    ∀ d ∈ g.deps x, d ∈ earlier := by
  intro d hd
  have hnodup := h.nodup
  have hx : x ∈ t := by
    rw [ht]
    exact List.mem_append_right _ List.mem_cons_self
  have hlt := h.idxOf_lt x hx d hd
  rw [ht, List.nodup_append] at hnodup
  have hxe : x ∉ earlier := fun hmem => hnodup.2.2 x hmem x List.mem_cons_self rfl
  rw [ht, List.idxOf_append_of_notMem hxe, List.idxOf_cons_self] at hlt
  by_contra hde
  rw [List.idxOf_append_of_notMem hde] at hlt
  omega

theorem ready_cons {rest : List α} (h : g.Placed t) (hready : g.ready t = x :: rest) :
    g.Placed (t ++ [x]) := by
  have hx : x ∈ g.ready t := by
    rw [hready]
    exact List.mem_cons_self
  rw [mem_ready] at hx
  exact h.snoc hx.1 hx.2.1 hx.2.2

theorem grow (h : g.Placed t) (n : Nat) : g.Placed (g.grow n t) := by
  induction n generalizing t with
  | zero => exact h
  | succ n ih =>
      rw [DependencyGraph.grow]
      cases hready : g.ready t with
      | nil => exact h
      | cons x rest => exact ih (h.ready_cons hready)

end Placed

/-- With enough steps nothing is left that could be placed. -/
theorem ready_grow (h : g.Placed t) {n : Nat} (hn : g.nodes.length ≤ t.length + n) :
    g.ready (g.grow n t) = [] := by
  induction n generalizing t with
  | zero =>
      rw [grow]
      cases hready : g.ready t with
      | nil => rfl
      | cons x rest =>
          have hlength := (h.ready_cons hready).length_le
          rw [List.length_append, List.length_singleton] at hlength
          omega
  | succ n ih =>
      rw [grow]
      cases hready : g.ready t with
      | nil => exact hready
      | cons x rest =>
          refine ih (h.ready_cons hready) ?_
          rw [List.length_append, List.length_singleton]
          omega

theorem idxOf_lt_of_transGen (h : g.Placed t) (hdx : TransGen g.Before d x) (hx : x ∈ t) :
    t.idxOf d < t.idxOf x := by
  induction hdx with
  | single hedge => exact h.idxOf_lt _ hx _ hedge
  | tail _ hedge ih =>
      have hmiddle := h.closed _ hx _ hedge
      have hlast := h.idxOf_lt _ hx _ hedge
      have hfirst := ih hmiddle
      omega

/-- An order that cannot be continued has all the nodes exactly if there is no cycle. -/
theorem complete_iff_acyclic (h : g.Placed t) (hend : g.ready t = []) :
    t.length = g.nodes.length ↔ g.Acyclic := by
  constructor
  · intro hlength x hcycle
    have hperm : t.Perm g.nodes := (h.nodup.subperm h.subset).perm_of_length_le hlength.ge
    have hx : x ∈ t := hperm.mem_iff.mpr (mem_of_transGen hcycle)
    exact Nat.lt_irrefl _ (idxOf_lt_of_transGen h hcycle hx)
  · intro hacyclic
    have hall : ∀ x ∈ g.nodes, x ∈ t := by
      by_contra hmissing
      have hleft : ∃ x ∈ g.nodes, x ∉ t := by
        by_contra hnone
        refine hmissing fun x hx => ?_
        by_contra hxt
        exact hnone ⟨x, hx, hxt⟩
      have ⟨x, hx, hxt, hleast⟩ := hacyclic.exists_minimal hleft
      have hready : x ∈ g.ready t := mem_ready.mpr ⟨hx, hxt, fun d hd => not_not.mp (hleast d hd)⟩
      rw [hend] at hready
      exact List.not_mem_nil hready
    have hlow := h.length_le
    have hhigh := (g.nodup.subperm hall).length_le
    omega

/-! ## Graphs with the same nodes -/

theorem ready_congr {g' : DependencyGraph α} (hnodes : g.nodes.Perm g'.nodes)
    (hdeps : ∀ x, ∀ d, d ∈ g.deps x ↔ d ∈ g'.deps x) (t : List α) : g.ready t = g'.ready t := by
  refine eq_ready ready_sorted ready_nodup ?_
  intro x
  rw [mem_ready, mem_ready, hnodes.mem_iff]
  simp only [hdeps]

theorem grow_congr {g' : DependencyGraph α} (hnodes : g.nodes.Perm g'.nodes)
    (hdeps : ∀ x, ∀ d, d ∈ g.deps x ↔ d ∈ g'.deps x) (n : Nat) (t : List α) :
    g.grow n t = g'.grow n t := by
  induction n generalizing t with
  | zero => rfl
  | succ n ih =>
      rw [grow, grow, ready_congr hnodes hdeps t]
      cases g'.ready t with
      | nil => rfl
      | cons x rest => exact ih _

end DependencyGraph

end FlowPilot.Lib
