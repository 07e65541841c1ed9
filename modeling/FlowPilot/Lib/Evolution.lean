import FlowPilot.Lib.Table

/-!
# Tables whose rows evolve

Between two states of a table no row goes away, and each row is related to the row that has its
key later.  With a reflexive and transitive relation this composes over whole runs, so a row that
was read once can be compared with the row that is found when it is used.
-/

namespace FlowPilot.Lib.Table

open Keyed (key)

variable {V K : Type} [Keyed V K] {R : V → V → Prop} {t u w : Table V}

def Evolves (R : V → V → Prop) (t u : Table V) : Prop :=
  ∀ v ∈ t.rows, ∃ v' ∈ u.rows, key v' = key v ∧ R v v'

namespace Evolves

theorem refl (hrefl : ∀ v, R v v) (t : Table V) : Evolves R t t :=
  fun v hv => ⟨v, hv, rfl, hrefl v⟩

theorem trans (htrans : ∀ a b c, R a b → R b c → R a c) (h : Evolves R t u)
    (h' : Evolves R u w) : Evolves R t w := by
  intro v hv
  obtain ⟨v', hv', hkey, hrel⟩ := h v hv
  obtain ⟨v'', hv'', hkey', hrel'⟩ := h' v' hv'
  exact ⟨v'', hv'', hkey'.trans hkey, htrans v v' v'' hrel hrel'⟩

/-- The row that is found under the key of an earlier row is what that row became. -/
theorem related (h : Evolves R t u) {v v' : V} (hv : v ∈ t.rows) (hv' : v' ∈ u.rows)
    (hkey : key v' = key v) : R v v' := by
  obtain ⟨x, hx, hxkey, hrel⟩ := h v hv
  have hsame : v' = x := eq_of_key hv' hx (hkey.trans hxkey.symm)
  rw [hsame]
  exact hrel

variable [DecidableEq K]

theorem insert (hrefl : ∀ v, R v v) {v : V} (hfresh : t.get? (key v) = none) :
    Evolves R t (t.insert v hfresh) :=
  fun x hx => ⟨x, (mem_insert hfresh).mpr (.inl hx), rfl, hrefl x⟩

theorem replaces (hrefl : ∀ v, R v v) {v v' : V} (h : Replaces t u v v') (hrel : R v v') :
    Evolves R t u := by
  intro x hx
  by_cases hkey : key x = key v
  · have hsame : x = v := eq_of_key hx h.mem hkey
    rw [hsame]
    exact ⟨v', h.new_mem, h.same_key, hrel⟩
  · exact ⟨x, h.mem_iff.mpr (.inr ⟨hx, hkey⟩), rfl, hrefl x⟩

end Evolves

end FlowPilot.Lib.Table
