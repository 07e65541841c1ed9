import Mathlib.Init

/-!
# Fallible code and transactions

`Except` models code that raises.  A transaction either commits a state with its reply, which may
itself be an exception raised after the commit, or raises and leaves the state it began with.
-/

namespace FlowPilot.Lib

variable {ε α β σ : Type}

theorem ok_of_bind {x : Except ε α} {f : α → Except ε β} {b : β} (h : x >>= f = .ok b) :
    ∃ a, x = .ok a ∧ f a = .ok b := by
  cases x with
  | error e => cases h
  | ok a => exact ⟨a, rfl, h⟩

theorem error_of_bind {x : Except ε α} {f : α → Except ε β} {e : ε} (h : x >>= f = .error e) :
    x = .error e ∨ ∃ a, x = .ok a ∧ f a = .error e := by
  cases x with
  | error e' =>
    cases h
    exact .inl rfl
  | ok a => exact .inr ⟨a, rfl, h⟩

theorem ok_of_toOption {x : Except ε α} {a : α} (h : x.toOption = some a) : x = .ok a := by
  cases x with
  | ok b => exact congrArg Except.ok (Option.some.inj h)
  | error e => cases h

theorem ok_of_isOk {x : Except ε α} (h : x.isOk = true) : ∃ a, x = .ok a := by
  cases x with
  | error e => cases h
  | ok a => exact ⟨a, rfl⟩

/-- The computation does not raise `bad`. -/
def Avoids (bad : ε) (x : Except ε α) : Prop := x ≠ .error bad

theorem Avoids.ok (bad : ε) (a : α) : Avoids bad (.ok a : Except ε α) := by
  intro h
  cases h

theorem Avoids.error {bad e : ε} (h : e ≠ bad) : Avoids bad (.error e : Except ε α) := by
  intro he
  cases he
  exact h rfl

/-- A sequence avoids `bad` when its first part does, and the rest does on what that returns. -/
theorem Avoids.bind {bad : ε} {x : Except ε α} {f : α → Except ε β} (hx : Avoids bad x)
    (hf : ∀ a, x = .ok a → Avoids bad (f a)) : Avoids bad (x >>= f) := by
  intro h
  rcases error_of_bind h with hfirst | ⟨a, ha, hrest⟩
  · exact hx hfirst
  · exact hf a ha hrest

/-- A sequence that avoids `bad`, and whose first part raises nothing else, ends as its rest
does. -/
theorem Avoids.error_of_bind {bad e : ε} {x : Except ε α} {f : α → Except ε β}
    (h : Avoids bad (x >>= f)) (hx : ∀ e', x = .error e' → e' = bad)
    (hf : ∀ a, x = .ok a → Avoids bad (f a) → f a = .error e) : x >>= f = .error e := by
  cases x with
  | error e' =>
    rw [hx e' rfl] at h
    exact absurd rfl h
  | ok a => exact hf a rfl h

/-- The test that the computation raises `bad`. -/
def raises [DecidableEq ε] (bad : ε) : Except ε α → Bool
  | .error e => decide (e = bad)
  | .ok _ => false

theorem error_of_raises [DecidableEq ε] {bad : ε} {x : Except ε α} (h : raises bad x = true) :
    x = .error bad := by
  cases x with
  | error e => exact congrArg Except.error (of_decide_eq_true h)
  | ok a => cases h

/-- What a body leaves behind: its committed reply and state, or its exception after a
rollback. -/
def transact (s : σ) (body : Except ε (Except ε α × σ)) : Except ε α × σ :=
  match body with
  | .ok reply => reply
  | .error e => (.error e, s)

theorem transact_cases {s t : σ} {body : Except ε (Except ε α × σ)} {reply : Except ε α}
    (h : transact s body = (reply, t)) :
    body = .ok (reply, t) ∨ ∃ e, body = .error e ∧ reply = .error e ∧ t = s := by
  cases body with
  | ok r => exact .inl (congrArg Except.ok h)
  | error e =>
    cases h
    exact .inr ⟨e, rfl, rfl, rfl⟩

/-- A relation that every committed state bears to the first one, and that the first bears to
itself, holds whether the transaction commits or rolls back. -/
theorem transact_relation {R : σ → σ → Prop} {s : σ} {body : Except ε (Except ε α × σ)}
    (hrefl : R s s) (hbody : ∀ reply t, body = .ok (reply, t) → R s t) :
    R s (transact s body).2 := by
  cases body with
  | ok r => exact hbody r.1 r.2 rfl
  | error e => exact hrefl

end FlowPilot.Lib
