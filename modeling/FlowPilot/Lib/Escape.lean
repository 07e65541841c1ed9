import Mathlib.Init

/-!
# Code that keeps its state when it raises

`EStateM` models code whose variables outlive the exception that leaves it.  `Ensures x s Q E` says
what running `x` from `s` leaves behind: a value and a state in `Q`, or an exception and a state
in `E`.
-/

namespace FlowPilot.Lib

variable {ε σ α β : Type}

/-! ## Running a statement -/

theorem pure_apply (a : α) (s : σ) : (pure a : EStateM ε σ α) s = .ok a s := rfl

theorem get_apply (s : σ) : (get : EStateM ε σ σ) s = .ok s s := rfl

theorem set_apply (t s : σ) : (set t : EStateM ε σ PUnit) s = .ok ⟨⟩ t := rfl

theorem modify_apply (g : σ → σ) (s : σ) : (modify g : EStateM ε σ PUnit) s = .ok ⟨⟩ (g s) := rfl

theorem throw_apply (e : ε) (s : σ) : (throw e : EStateM ε σ α) s = .error e s := rfl

theorem bind_apply (x : EStateM ε σ α) (f : α → EStateM ε σ β) (s : σ) :
    (x >>= f) s =
      match x s with
      | .ok a t => f a t
      | .error e t => .error e t := rfl

/-- The clause runs on the state that the exception left. -/
theorem tryCatch_apply (x : EStateM ε σ α) (clause : ε → EStateM ε σ α) (s : σ) :
    (tryCatch x clause) s =
      match x s with
      | .ok a t => .ok a t
      | .error e t => clause e t := by
  show EStateM.tryCatch x clause s = _
  delta EStateM.tryCatch
  cases x s with
  | ok a t => rfl
  | error e t => rfl

/-! ## What a run leaves -/

def Ensures (x : EStateM ε σ α) (s : σ) (Q : α → σ → Prop) (E : ε → σ → Prop) : Prop :=
  match x s with
  | .ok a t => Q a t
  | .error e t => E e t

namespace Ensures

variable {x : EStateM ε σ α} {f : α → EStateM ε σ β} {s : σ} {Q : α → σ → Prop}
  {R : β → σ → Prop} {E : ε → σ → Prop}

theorem of_pure {a : α} (h : Q a s) : Ensures (pure a) s Q E := h

theorem of_throw {e : ε} (h : E e s) : Ensures (throw e : EStateM ε σ α) s Q E := h

theorem of_get {Q : σ → σ → Prop} (h : Q s s) : Ensures (get : EStateM ε σ σ) s Q E := h

theorem of_modify {g : σ → σ} {Q : PUnit → σ → Prop} (h : Q ⟨⟩ (g s)) :
    Ensures (modify g : EStateM ε σ PUnit) s Q E := h

theorem of_set {t : σ} {Q : PUnit → σ → Prop} (h : Q ⟨⟩ t) :
    Ensures (set t : EStateM ε σ PUnit) s Q E := h

theorem bind (h : Ensures x s (fun a t => Ensures (f a) t R E) E) : Ensures (x >>= f) s R E := by
  unfold Ensures at h ⊢
  rw [bind_apply]
  cases hx : x s with
  | ok a t =>
    rw [hx] at h
    exact h
  | error e t =>
    rw [hx] at h
    exact h

theorem of_tryCatch {clause : ε → EStateM ε σ α}
    (h : Ensures x s Q fun e t => Ensures (clause e) t Q E) :
    Ensures (tryCatch x clause) s Q E := by
  unfold Ensures at h ⊢
  rw [tryCatch_apply]
  cases hx : x s with
  | ok a t =>
    rw [hx] at h
    exact h
  | error e t =>
    rw [hx] at h
    exact h

theorem mono {Q' : α → σ → Prop} {E' : ε → σ → Prop} (h : Ensures x s Q E)
    (hQ : ∀ a t, Q a t → Q' a t) (hE : ∀ e t, E e t → E' e t) : Ensures x s Q' E' := by
  unfold Ensures at h ⊢
  cases hx : x s with
  | ok a t =>
    rw [hx] at h
    exact hQ a t h
  | error e t =>
    rw [hx] at h
    exact hE e t h

theorem and {Q' : α → σ → Prop} {E' : ε → σ → Prop} (h : Ensures x s Q E)
    (h' : Ensures x s Q' E') :
    Ensures x s (fun a t => Q a t ∧ Q' a t) (fun e t => E e t ∧ E' e t) := by
  unfold Ensures at h h' ⊢
  cases hx : x s with
  | ok a t =>
    rw [hx] at h h'
    exact ⟨h, h'⟩
  | error e t =>
    rw [hx] at h h'
    exact ⟨h, h'⟩

/-- The run itself. -/
theorem self (x : EStateM ε σ α) (s : σ) :
    Ensures x s (fun a t => x s = .ok a t) fun e t => x s = .error e t := by
  unfold Ensures
  cases x s with
  | ok a t => exact rfl
  | error e t => exact rfl

theorem ok {a : α} {t : σ} (h : Ensures x s Q E) (hx : x s = .ok a t) : Q a t := by
  unfold Ensures at h
  rw [hx] at h
  exact h

theorem error {e : ε} {t : σ} (h : Ensures x s Q E) (hx : x s = .error e t) : E e t := by
  unfold Ensures at h
  rw [hx] at h
  exact h

/-- Code that cannot return raises. -/
theorem raises (h : Ensures x s (fun _ _ => False) E) : ∃ e t, x s = .error e t ∧ E e t := by
  cases hx : x s with
  | ok a t => exact absurd (h.ok hx) id
  | error e t => exact ⟨e, t, rfl, h.error hx⟩

end Ensures

/-! ## Results -/

/-- Whatever `x` returns is in `Q`. -/
def Returns (x : EStateM ε σ α) (Q : α → Prop) : Prop :=
  ∀ s, Ensures x s (fun a _ => Q a) fun _ _ => True

namespace Returns

variable {x : EStateM ε σ α} {f : α → EStateM ε σ β} {P : α → Prop} {Q : β → Prop}

theorem of_pure {a : α} (h : P a) : Returns (pure a : EStateM ε σ α) P := fun _ => h

theorem of_throw (e : ε) : Returns (throw e : EStateM ε σ α) P := fun _ => trivial

theorem of_any (x : EStateM ε σ α) : Returns x fun _ => True := by
  intro s
  unfold Ensures
  cases x s <;> trivial

theorem bind (hx : Returns x P) (hf : ∀ a, P a → Returns (f a) Q) : Returns (x >>= f) Q :=
  fun s => Ensures.bind ((hx s).mono (fun a t ha => hf a ha t) fun _ _ _ => trivial)

/-- Nothing is known of what comes first. -/
theorem after (hf : ∀ a, Returns (f a) Q) : Returns (x >>= f) Q :=
  bind (of_any x) fun a _ => hf a

end Returns

/-! ## Parts of a state -/

/-- Code on a part of the state; `raised` is how its exceptions are seen outside. -/
def zoom {τ δ : Type} (part : σ → τ) (put : σ → τ → σ) (raised : δ → ε) (x : EStateM δ τ α) :
    EStateM ε σ α := fun s =>
  match x (part s) with
  | .ok a t => .ok a (put s t)
  | .error e t => .error (raised e) (put s t)

theorem Ensures.of_zoom {τ δ : Type} {part : σ → τ} {put : σ → τ → σ} {raised : δ → ε}
    {x : EStateM δ τ α} {s : σ} {Q : α → σ → Prop} {E : ε → σ → Prop}
    (h : Ensures x (part s) (fun a t => Q a (put s t)) fun e t => E (raised e) (put s t)) :
    Ensures (zoom part put raised x) s Q E := by
  unfold Ensures at h ⊢
  unfold zoom
  cases hx : x (part s) with
  | ok a t =>
    rw [hx] at h
    exact h
  | error e t =>
    rw [hx] at h
    exact h

/-! ## Invariants -/

/-- `x` maintains `I`, whether it returns or raises. -/
def Maintains (I : σ → Prop) (x : EStateM ε σ α) : Prop :=
  ∀ s, I s → Ensures x s (fun _ t => I t) (fun _ t => I t)

namespace Maintains

variable {I : σ → Prop} {x : EStateM ε σ α} {f : α → EStateM ε σ β}

theorem of_pure (a : α) : Maintains I (pure a : EStateM ε σ α) := fun _ h => h

theorem of_throw (e : ε) : Maintains I (throw e : EStateM ε σ α) := fun _ h => h

theorem of_get : Maintains I (get : EStateM ε σ σ) := fun _ h => h

theorem of_modify {g : σ → σ} (h : ∀ s, I s → I (g s)) :
    Maintains I (modify g : EStateM ε σ PUnit) := fun s hs => h s hs

theorem bind (hx : Maintains I x) (hf : ∀ a, Maintains I (f a)) : Maintains I (x >>= f) :=
  fun s hs => Ensures.bind ((hx s hs).mono (fun a t ht => hf a t ht) fun _ _ h => h)

theorem of_tryCatch {clause : ε → EStateM ε σ α} (hx : Maintains I x)
    (hclause : ∀ e, Maintains I (clause e)) : Maintains I (tryCatch x clause) :=
  fun s hs => Ensures.of_tryCatch ((hx s hs).mono (fun _ _ h => h) fun e t ht => hclause e t ht)

theorem error (h : Maintains I x) {s t : σ} {e : ε} (hs : I s) (hx : x s = .error e t) : I t :=
  (h s hs).error hx

end Maintains

end FlowPilot.Lib
