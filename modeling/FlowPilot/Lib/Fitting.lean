import Mathlib.Init
import Mathlib.Data.List.Basic

/-!
# Dropping items until the rest fits

Two lists are cut from their ends, the second one only once the first is empty, until what is left
fits.  `Fitted` says what that achieves; `fitted_of_drops` has it from the number of drops.
-/

namespace FlowPilot.Lib

variable {α β : Type}

/-- What is left after `n` drops. -/
def keptAfter (xs : List α) (ys : List β) (n : Nat) : List α × List β :=
  (xs.take (xs.length - n), ys.take (xs.length + ys.length - n))

variable {xs xs' : List α} {ys ys' : List β} {n : Nat}

theorem keptAfter_zero : keptAfter xs ys 0 = (xs, ys) := by
  unfold keptAfter
  rw [Nat.sub_zero, Nat.sub_zero, List.take_length,
    List.take_of_length_le (Nat.le_add_left _ _)]

theorem dropLast_take_eq (l : List α) (k : Nat) :
    (l.take k).dropLast = l.take (min k l.length - 1) := by
  rw [List.dropLast_eq_take, List.take_take, List.length_take]
  congr 1
  omega

/-- While the first list has items, the next drop takes its last. -/
theorem keptAfter_first (h : n < xs.length) :
    keptAfter xs ys (n + 1) = ((keptAfter xs ys n).1.dropLast, (keptAfter xs ys n).2) := by
  unfold keptAfter
  have hfirst : min (xs.length - n) xs.length - 1 = xs.length - (n + 1) := by omega
  dsimp only
  rw [dropLast_take_eq, hfirst, List.take_of_length_le (l := ys) (by omega),
    List.take_of_length_le (l := ys) (by omega)]

theorem keptAfter_second (h : xs.length ≤ n) :
    keptAfter xs ys (n + 1) = ((keptAfter xs ys n).1, (keptAfter xs ys n).2.dropLast) := by
  unfold keptAfter
  have hfirst : xs.length - (n + 1) = xs.length - n := by omega
  have hsecond : min (xs.length + ys.length - n) ys.length - 1 =
    xs.length + ys.length - (n + 1) := by omega
  dsimp only
  rw [dropLast_take_eq, hfirst, hsecond]

theorem keptAfter_first_eq_nil : (keptAfter xs ys n).1 = [] ↔ xs.length ≤ n := by
  unfold keptAfter
  rw [List.take_eq_nil_iff, ← List.length_eq_zero_iff]
  omega

theorem length_keptAfter (h : n ≤ xs.length + ys.length) :
    (keptAfter xs ys n).1.length + (keptAfter xs ys n).2.length + n =
      xs.length + ys.length := by
  unfold keptAfter
  rw [List.length_take, List.length_take]
  omega

/-- Whatever is cut from the ends in that order is left after some number of drops. -/
theorem eq_keptAfter (hx : xs' <+: xs) (hy : ys' <+: ys) (horder : ys' ≠ ys → xs' = []) :
    (xs', ys') = keptAfter xs ys (xs.length + ys.length - (xs'.length + ys'.length)) := by
  have hxlength := hx.length_le
  have hylength := hy.length_le
  unfold keptAfter
  rw [List.prefix_iff_eq_take.mp hx, List.prefix_iff_eq_take.mp hy]
  simp only [List.length_take, Prod.mk.injEq]
  by_cases hsame : ys' = ys
  · subst hsame
    constructor
    · congr 1
      omega
    · rw [List.take_length, List.take_of_length_le (by omega)]
  · have hnil := horder hsame
    subst hnil
    have hshort : ys'.length < ys.length := by
      rcases Nat.lt_or_ge ys'.length ys.length with hlt | hge
      · exact hlt
      · exact absurd (hy.eq_of_length_le hge) hsame
    simp only [List.length_nil]
    constructor
    · congr 1
      omega
    · congr 1
      omega

section Sizes

/-- The mark of a cut: it was there before, or something has been dropped. -/
def cutMark (xs : List α) (ys : List β) (marked : Bool) (xs' : List α) (ys' : List β) : Bool :=
  marked || decide (xs'.length + ys'.length < xs.length + ys.length)

/-- What is kept are prefixes, the second list is whole unless the first is gone, and nothing that
keeps more in this order fits. -/
structure Fitted (size : List α → List β → Bool → Nat) (limit : Nat) (xs : List α) (ys : List β)
    (marked : Bool) (xs' : List α) (ys' : List β) (marked' : Bool) : Prop where
  first : xs' <+: xs
  second : ys' <+: ys
  order : ys' ≠ ys → xs' = []
  mark : marked' = cutMark xs ys marked xs' ys'
  least : ∀ xs'' ys'', xs'' <+: xs → ys'' <+: ys → (ys'' ≠ ys → xs'' = []) →
    xs'.length + ys'.length < xs''.length + ys''.length →
      limit < size xs'' ys'' (cutMark xs ys marked xs'' ys'')

variable {size : List α → List β → Bool → Nat} {limit : Nat} {marked marked' : Bool}

/-- The size after `n` drops. -/
def sizeAfter (size : List α → List β → Bool → Nat) (xs : List α) (ys : List β) (marked : Bool)
    (n : Nat) : Nat :=
  size (keptAfter xs ys n).1 (keptAfter xs ys n).2 (marked || decide (0 < n))

theorem fitted_of_drops (hn : n ≤ xs.length + ys.length)
    (hbefore : ∀ m < n, limit < sizeAfter size xs ys marked m) :
    Fitted size limit xs ys marked (keptAfter xs ys n).1 (keptAfter xs ys n).2
      (marked || decide (0 < n)) := by
  have hlength := length_keptAfter hn
  constructor
  · exact List.take_prefix _ _
  · exact List.take_prefix _ _
  · intro hcut
    rw [keptAfter_first_eq_nil]
    by_contra hleft
    exact hcut (List.take_of_length_le (by omega))
  · unfold cutMark
    congr 2
    rw [eq_iff_iff]
    omega
  · intro xs'' ys'' hx hy horder hmore
    have hkept := eq_keptAfter hx hy horder
    have hshorter : xs''.length + ys''.length ≤ xs.length + ys.length :=
      Nat.add_le_add hx.length_le hy.length_le
    have hsize := hbefore (xs.length + ys.length - (xs''.length + ys''.length)) (by omega)
    unfold sizeAfter at hsize
    rw [← hkept] at hsize
    unfold cutMark
    have hmark : (0 < xs.length + ys.length - (xs''.length + ys''.length)) =
        (xs''.length + ys''.length < xs.length + ys.length) := by
      rw [eq_iff_iff]
      omega
    simp only [hmark] at hsize
    exact hsize

/-- The loop: drop while the rest does not fit, as often as `fuel` allows. -/
def cutToFit (size : List α → List β → Bool → Nat) (limit : Nat) :
    Nat → List α → List β → Bool → List α × List β × Bool
  | 0, xs, ys, marked => (xs, ys, marked)
  | fuel + 1, xs, ys, marked =>
    if size xs ys marked ≤ limit then (xs, ys, marked)
    else if xs ≠ [] then cutToFit size limit fuel xs.dropLast ys true
    else cutToFit size limit fuel xs ys.dropLast true

variable (size limit marked) in
/-- From `k` drops on, the loop goes on to the least number that fits, or to the end. -/
theorem cutToFit_drops (fuel : Nat) : ∀ k, k + fuel = xs.length + ys.length →
    ∃ n, k ≤ n ∧ n ≤ xs.length + ys.length ∧
      cutToFit size limit fuel (keptAfter xs ys k).1 (keptAfter xs ys k).2
          (marked || decide (0 < k)) =
        ((keptAfter xs ys n).1, (keptAfter xs ys n).2, marked || decide (0 < n)) ∧
      (∀ m, k ≤ m → m < n → limit < sizeAfter size xs ys marked m) ∧
      (n < xs.length + ys.length → sizeAfter size xs ys marked n ≤ limit) := by
  induction fuel with
  | zero =>
      intro k hk
      exact ⟨k, Nat.le_refl _, by omega, rfl, fun m hlow hhigh => by omega, fun h => by omega⟩
  | succ fuel ih =>
      intro k hk
      rw [cutToFit]
      by_cases hfits : size (keptAfter xs ys k).1 (keptAfter xs ys k).2
          (marked || decide (0 < k)) ≤ limit
      · rw [if_pos hfits]
        exact ⟨k, Nat.le_refl _, by omega, rfl, fun m hlow hhigh => by omega, fun _ => hfits⟩
      · obtain ⟨n, hlow, hhigh, hresult, hbefore, hend⟩ := ih (k + 1) (by omega)
        have hmark : (marked || decide (0 < k + 1)) = true := by simp
        rw [hmark] at hresult
        refine ⟨n, by omega, hhigh, ?_, ?_, hend⟩
        · rw [if_neg hfits, ← hresult]
          by_cases hfirst : k < xs.length
          · have hleft : (keptAfter xs ys k).1 ≠ [] := by
              rw [ne_eq, keptAfter_first_eq_nil]
              omega
            rw [if_pos hleft, keptAfter_first hfirst]
          · have hgone : ¬ (keptAfter xs ys k).1 ≠ [] := by
              rw [not_not, keptAfter_first_eq_nil]
              omega
            rw [if_neg hgone, keptAfter_second (by omega)]
        · intro m hm hmn
          by_cases hsame : m = k
          · rw [hsame]
            exact Nat.lt_of_not_le hfits
          · exact hbefore m (by omega) hmn

theorem cutToFit_eq (size : List α → List β → Bool → Nat) (limit : Nat) (xs : List α)
    (ys : List β) (marked : Bool) : ∃ n ≤ xs.length + ys.length,
      cutToFit size limit (xs.length + ys.length) xs ys marked =
        ((keptAfter xs ys n).1, (keptAfter xs ys n).2, marked || decide (0 < n)) ∧
      (∀ m < n, limit < sizeAfter size xs ys marked m) ∧
      (n < xs.length + ys.length → sizeAfter size xs ys marked n ≤ limit) := by
  have ⟨n, _, hhigh, hresult, hbefore, hend⟩ :=
    cutToFit_drops size limit marked (xs.length + ys.length) 0 (Nat.zero_add _)
  rw [keptAfter_zero] at hresult
  have hmark : (marked || decide (0 < 0)) = marked := by simp
  rw [hmark] at hresult
  exact ⟨n, hhigh, hresult, fun m hm => hbefore m (Nat.zero_le _) hm, hend⟩

theorem fitted_cutToFit (size : List α → List β → Bool → Nat) (limit : Nat) (xs : List α)
    (ys : List β) (marked : Bool) :
    Fitted size limit xs ys marked
      (cutToFit size limit (xs.length + ys.length) xs ys marked).1
      (cutToFit size limit (xs.length + ys.length) xs ys marked).2.1
      (cutToFit size limit (xs.length + ys.length) xs ys marked).2.2 := by
  obtain ⟨n, hn, hresult, hbefore, _⟩ := cutToFit_eq size limit xs ys marked
  rw [hresult]
  exact fitted_of_drops hn hbefore

/-- The result fits if nothing at all would. -/
theorem cutToFit_fits (size : List α → List β → Bool → Nat) (limit : Nat) (xs : List α)
    (ys : List β) (marked : Bool)
    (h : size [] [] (cutMark xs ys marked ([] : List α) ([] : List β)) ≤ limit) :
    size (cutToFit size limit (xs.length + ys.length) xs ys marked).1
      (cutToFit size limit (xs.length + ys.length) xs ys marked).2.1
      (cutToFit size limit (xs.length + ys.length) xs ys marked).2.2 ≤ limit := by
  obtain ⟨n, hn, hresult, _, hend⟩ := cutToFit_eq size limit xs ys marked
  rw [hresult]
  by_cases hlast : n < xs.length + ys.length
  · exact hend hlast
  · have hall : n = xs.length + ys.length := by omega
    have hnone : keptAfter xs ys n = ([], []) := by
      unfold keptAfter
      rw [hall, Nat.sub_self, show xs.length - (xs.length + ys.length) = 0 by omega]
      rfl
    rw [hnone, hall]
    exact h

end Sizes

end FlowPilot.Lib
