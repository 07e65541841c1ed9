import Mathlib.Data.List.Basic
import Mathlib.Order.Basic

/-!
# Token buckets

A bucket is refilled from the clock reading of each request and pays the cost of those that are
granted.  What it has paid is bounded by what it held and what the clock has climbed.
-/

namespace FlowPilot.Lib

structure TokenBucket where
  tokens : Nat
  last : Nat

namespace TokenBucket

variable (capacity rate cost : Nat)

def refilled (b : TokenBucket) (now : Nat) : Nat :=
  min capacity (b.tokens + (now - b.last) * rate)

/-- A request with its reading of the clock. -/
def serve (b : TokenBucket) (now : Nat) (granted : Bool) : TokenBucket where
  tokens := b.refilled capacity rate now - if granted then cost else 0
  last := now

def serveAll (b : TokenBucket) (requests : List (Nat × Bool)) : TokenBucket :=
  requests.foldl (fun b r => b.serve capacity rate cost r.1 r.2) b

/-- Every granted request finds its cost. -/
def Covered : TokenBucket → List (Nat × Bool) → Prop
  | _, [] => True
  | b, r :: rest => (r.2 = true → cost ≤ b.refilled capacity rate r.1) ∧
    Covered (b.serve capacity rate cost r.1 r.2) rest

def granted (requests : List (Nat × Bool)) : Nat := requests.countP (·.2)

/-- By how much the readings climb in all, from `last` on. -/
def climb : Nat → List (Nat × Bool) → Nat
  | _, [] => 0
  | last, r :: rest => (r.1 - last) + climb r.1 rest

variable {capacity rate cost} {b : TokenBucket}

variable (capacity rate cost b) in
theorem serve_le_capacity (now : Nat) (granted : Bool) :
    (b.serve capacity rate cost now granted).tokens ≤ capacity := by
  have hrefilled : b.refilled capacity rate now ≤ capacity := Nat.min_le_left _ _
  show b.refilled capacity rate now - _ ≤ capacity
  omega

/-- A request that is not granted takes nothing. -/
theorem le_serve_rejected (h : b.tokens ≤ capacity) (now : Nat) :
    b.tokens ≤ (b.serve capacity rate cost now false).tokens := by
  show b.tokens ≤ min capacity (b.tokens + (now - b.last) * rate) - 0
  rw [Nat.sub_zero]
  exact Nat.le_min.mpr ⟨h, Nat.le_add_right _ _⟩

theorem spent_le_climb (requests : List (Nat × Bool)) : ∀ b : TokenBucket,
    Covered capacity rate cost b requests →
      cost * granted requests + (b.serveAll capacity rate cost requests).tokens ≤
        b.tokens + rate * climb b.last requests := by
  induction requests with
  | nil =>
      intro b _
      show cost * 0 + b.tokens ≤ b.tokens + rate * 0
      omega
  | cons r rest ih =>
      intro b h
      have hrest := ih (b.serve capacity rate cost r.1 r.2) h.2
      have hrefilled : b.refilled capacity rate r.1 ≤ b.tokens + rate * (r.1 - b.last) := by
        rw [Nat.mul_comm rate]
        exact Nat.min_le_right _ _
      have hclimb : rate * climb b.last (r :: rest) =
          rate * (r.1 - b.last) + rate * climb r.1 rest := Nat.mul_add _ _ _
      have hserved : (b.serve capacity rate cost r.1 r.2).tokens =
        b.refilled capacity rate r.1 - if r.2 then cost else 0 := rfl
      have hlast : (b.serve capacity rate cost r.1 r.2).last = r.1 := rfl
      have hall : b.serveAll capacity rate cost (r :: rest) =
        (b.serve capacity rate cost r.1 r.2).serveAll capacity rate cost rest := rfl
      rw [hserved, hlast] at hrest
      rw [hall, hclimb, granted, List.countP_cons]
      by_cases hgranted : r.2 = true
      · have hcost := h.1 hgranted
        rw [if_pos hgranted] at hrest
        rw [if_pos hgranted, Nat.mul_add, Nat.mul_one]
        show cost * granted rest + cost + _ ≤ _
        omega
      · rw [if_neg hgranted] at hrest
        rw [if_neg hgranted, Nat.add_zero]
        show cost * granted rest + _ ≤ _
        omega

/-- Readings that never go back climb from the first to the last. -/
theorem climb_of_ordered {top : Nat} (requests : List (Nat × Bool)) : ∀ last,
    (last :: requests.map Prod.fst).Pairwise (· ≤ ·) → last ≤ top →
      (∀ r ∈ requests, r.1 ≤ top) → climb last requests ≤ top - last := by
  induction requests with
  | nil => exact fun last _ _ _ => Nat.zero_le _
  | cons r rest ih =>
      intro last hordered hlast htop
      rw [List.map_cons, List.pairwise_cons] at hordered
      have hnext : last ≤ r.1 := hordered.1 r.1 List.mem_cons_self
      have hr : r.1 ≤ top := htop r List.mem_cons_self
      have hrest := ih r.1 hordered.2 hr fun q hq => htop q (List.mem_cons_of_mem _ hq)
      show (r.1 - last) + climb r.1 rest ≤ top - last
      omega

end TokenBucket

end FlowPilot.Lib
