import Mathlib.Data.List.Induction

/-!
# Hash chains

Every entry of a chain has a number, the hash of the entry before it and a hash of its own, and
is sealed when that hash is the one of its content.  A chain that ends in a known hash and has a
known length can only be the one chain that does, as far as the hash tells entries apart.
-/

namespace FlowPilot.Lib

structure HashChain (E H : Type) where
  sequence : E → Nat
  previous : E → H
  hash : E → H
  Sealed : E → Prop

namespace HashChain

variable {E H : Type} (C : HashChain E H)

/-- The entries follow the entry with number `n` and hash `h`. -/
def Linked : Nat → H → List E → Prop
  | _, _, [] => True
  | n, h, e :: rest =>
    C.sequence e = n + 1 ∧ C.previous e = h ∧ C.Sealed e ∧ Linked (n + 1) (C.hash e) rest

/-- The hash at the end of the entries that follow the hash `h`. -/
def last (h : H) (entries : List E) : H := entries.foldl (fun _ e => C.hash e) h

@[simp] theorem last_nil (h : H) : C.last h [] = h := rfl

@[simp] theorem last_append (h : H) (entries : List E) (e : E) :
    C.last h (entries ++ [e]) = C.hash e := by
  unfold last
  rw [List.foldl_append]
  rfl

variable {C} {n : Nat} {h : H}

theorem linked_append {entries : List E} {e : E} :
    C.Linked n h (entries ++ [e]) ↔
      C.Linked n h entries ∧ C.sequence e = n + entries.length + 1 ∧
        C.previous e = C.last h entries ∧ C.Sealed e := by
  induction entries generalizing n h with
  | nil =>
      show C.sequence e = n + 1 ∧ C.previous e = h ∧ C.Sealed e ∧ True ↔
        True ∧ C.sequence e = n + 1 ∧ C.previous e = h ∧ C.Sealed e
      rw [and_true, true_and]
  | cons d entries ih =>
      show _ ∧ _ ∧ _ ∧ C.Linked (n + 1) (C.hash d) (entries ++ [e]) ↔
        (_ ∧ _ ∧ _ ∧ C.Linked (n + 1) (C.hash d) entries) ∧ _
      rw [ih, List.length_cons, show n + 1 + entries.length = n + (entries.length + 1) by omega]
      constructor
      · rintro ⟨hseq, hprev, hsealed, hlinked, hlast⟩
        exact ⟨⟨hseq, hprev, hsealed, hlinked⟩, hlast⟩
      · rintro ⟨⟨hseq, hprev, hsealed, hlinked⟩, hlast⟩
        exact ⟨hseq, hprev, hsealed, hlinked, hlast⟩

/-- The numbers of a chain have no gap. -/
theorem Linked.sequences {entries : List E} (hlinked : C.Linked n h entries) :
    entries.map C.sequence = List.range' (n + 1) entries.length := by
  induction entries generalizing n h with
  | nil => rfl
  | cons e entries ih =>
      obtain ⟨hseq, _, _, hrest⟩ := hlinked
      rw [List.map_cons, hseq, ih hrest, List.length_cons, List.range'_succ]

/-- Two chains of one length that end in the same hash have the same contents, where the hash
tells the contents of their entries apart and the content names the entry before. -/
theorem Linked.contents_eq {D : Type} (content : E → D)
    (hnames : ∀ e f, content e = content f → C.previous e = C.previous f)
    {entries others : List E}
    (hdistinct : ∀ e ∈ entries, ∀ f ∈ others, C.Sealed e → C.Sealed f → C.hash e = C.hash f →
      content e = content f)
    (hlinked : C.Linked n h entries) (hothers : C.Linked n h others)
    (hlength : entries.length = others.length) (hlast : C.last h entries = C.last h others) :
    entries.map content = others.map content := by
  -- from the end of the chains to their start
  induction entries using List.reverseRecOn generalizing others with
  | nil =>
      rw [List.length_eq_zero_iff.mp hlength.symm]
  | append_singleton entries e ih =>
      rcases List.eq_nil_or_concat others with rfl | ⟨others, f, rfl⟩
      · rw [List.length_append] at hlength
        cases hlength
      · rw [List.concat_eq_append] at *
        obtain ⟨hlinked, _, hprev, hsealed⟩ := linked_append.mp hlinked
        obtain ⟨hothers, _, hprev', hsealed'⟩ := linked_append.mp hothers
        rw [last_append, last_append] at hlast
        have hcontent := hdistinct e (List.mem_append_right _ List.mem_cons_self) f
          (List.mem_append_right _ List.mem_cons_self) hsealed hsealed' hlast
        have hbefore : C.last h entries = C.last h others := by
          rw [← hprev, ← hprev']
          exact hnames e f hcontent
        have hlength : entries.length = others.length := by
          rw [List.length_append, List.length_append] at hlength
          exact Nat.add_right_cancel hlength
        have hrest := ih (fun e he f hf => hdistinct e (List.mem_append_left _ he) f
          (List.mem_append_left _ hf)) hlinked hothers hlength hbefore
        rw [List.map_append, List.map_append, hrest, List.map_singleton, List.map_singleton,
          hcontent]

end HashChain

end FlowPilot.Lib
