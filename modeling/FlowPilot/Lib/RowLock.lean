import FlowPilot.Lib.System
import Mathlib.Logic.Function.Basic

/-!
# Transactions that lock a row first

The first statement of a transaction locks the row of its key until the transaction ends; every
later statement, and the commit, looks at nothing but what belongs to that key.  Between two
statements other transactions run, but none with the same key gets past its first statement, so
the statements have the same effect as if all of them ran at the commit.
-/

open Relation

namespace FlowPilot.Lib.RowLock

/-- Requests `R` and transactions under way `T` over stores `σ` with keys `K`.  A statement that
returns nothing makes the transaction roll back. -/
structure Protocol (σ K R T : Type) where
  key : R → K
  owner : T → K
  start : σ → R → Option T
  next : σ → T → Option T
  finish : σ → T → Option σ

variable {σ K R T : Type}

/-- What the statements of `r` make of it when they all run at `s`. -/
inductive Derived (P : Protocol σ K R T) (s : σ) (r : R) : T → Prop where
  | start {t : T} (h : P.start s r = some t) : Derived P s r t
  | next {t u : T} (ht : Derived P s r t) (h : P.next s t = some u) : Derived P s r u

/-- The statements look at what `agrees` says of their key, and change nothing of another. -/
structure Local (P : Protocol σ K R T) (agrees : K → σ → σ → Prop) : Prop where
  owner_start : ∀ {s r t}, P.start s r = some t → P.owner t = P.key r
  owner_next : ∀ {s t u}, P.next s t = some u → P.owner u = P.owner t
  start : ∀ {s s' r}, agrees (P.key r) s s' → P.start s r = P.start s' r
  next : ∀ {s s' t}, agrees (P.owner t) s s' → P.next s t = P.next s' t
  finish : ∀ {s s' r t k}, Derived P s r t → P.finish s t = some s' → k ≠ P.key r →
    agrees k s s'

/-- A committed request with the stores around it. -/
structure Commit (σ R : Type) where
  request : R
  before : σ
  after : σ

/-- The store, the transactions that wait for their lock or hold it, and what was committed. -/
structure Config (σ R T : Type) where
  store : σ
  opened : Nat → Option (R × Option T)
  log : List (Commit σ R)

def Config.start (s : σ) : Config σ R T := ⟨s, fun _ => none, []⟩

/-- No other transaction holds the row of `k`. -/
def Free (P : Protocol σ K R T) (c : Config σ R T) (k : K) : Prop :=
  ∀ i r t, c.opened i = some (r, some t) → P.key r ≠ k

inductive Step (P : Protocol σ K R T) : Config σ R T → Config σ R T → Prop where
  | open {c : Config σ R T} {i : Nat} {r : R} (hfree : c.opened i = none) :
      Step P c { c with opened := Function.update c.opened i (some (r, none)) }
  | lock {c : Config σ R T} {i : Nat} {r : R} {t : T} (hopen : c.opened i = some (r, none))
      (hfree : Free P c (P.key r)) (h : P.start c.store r = some t) :
      Step P c { c with opened := Function.update c.opened i (some (r, some t)) }
  | next {c : Config σ R T} {i : Nat} {r : R} {t u : T}
      (hopen : c.opened i = some (r, some t)) (h : P.next c.store t = some u) :
      Step P c { c with opened := Function.update c.opened i (some (r, some u)) }
  | commit {c : Config σ R T} {i : Nat} {r : R} {t : T} {s : σ}
      (hopen : c.opened i = some (r, some t)) (h : P.finish c.store t = some s) :
      Step P c ⟨s, Function.update c.opened i none, c.log ++ [⟨r, c.store, s⟩]⟩
  | rollback {c : Config σ R T} {i : Nat} {x : R × Option T} (hopen : c.opened i = some x) :
      Step P c { c with opened := Function.update c.opened i none }

/-- Every request of the log was carried out at once, where it was committed. -/
inductive Serial (P : Protocol σ K R T) (s : σ) : List (Commit σ R) → σ → Prop where
  | start : Serial P s [] s
  | commit {log : List (Commit σ R)} {s' s'' : σ} {r : R} {t : T} (hlog : Serial P s log s')
      (hderived : Derived P s' r t) (h : P.finish s' t = some s'') :
      Serial P s (log ++ [⟨r, s', s''⟩]) s''

/-- The commits of the log lead from one store to the other. -/
def Chain : σ → List (Commit σ R) → σ → Prop
  | s, [], s' => s = s'
  | s, e :: rest, s' => e.before = s ∧ Chain e.after rest s'

variable {P : Protocol σ K R T} {agrees : K → σ → σ → Prop}

theorem chain_append {s s' : σ} {log : List (Commit σ R)} {e : Commit σ R} :
    Chain s (log ++ [e]) s' ↔ Chain s log e.before ∧ e.after = s' := by
  induction log generalizing s with
  | nil =>
    show e.before = s ∧ e.after = s' ↔ s = e.before ∧ e.after = s'
    rw [eq_comm]
  | cons f log ih =>
    show f.before = s ∧ Chain f.after (log ++ [e]) s' ↔ (f.before = s ∧ _) ∧ e.after = s'
    rw [ih, and_assoc]

theorem Serial.chain {s s' : σ} {log : List (Commit σ R)} (h : Serial P s log s') :
    Chain s log s' := by
  induction h with
  | start => rfl
  | commit _ _ _ ih => exact chain_append.mpr ⟨ih, rfl⟩

theorem Derived.owner (hlocal : Local P agrees) {s : σ} {r : R} {t : T} (h : Derived P s r t) :
    P.owner t = P.key r := by
  induction h with
  | start h => exact hlocal.owner_start h
  | next _ h ih => exact (hlocal.owner_next h).trans ih

theorem Derived.transfer (hlocal : Local P agrees) {s s' : σ} {r : R} {t : T}
    (h : Derived P s r t) (hagrees : agrees (P.key r) s s') : Derived P s' r t := by
  induction h with
  | start h => exact .start ((hlocal.start hagrees).symm.trans h)
  | next ht h ih =>
    rw [← ht.owner hlocal] at hagrees
    exact .next ih ((hlocal.next hagrees).symm.trans h)

/-- A transaction that holds its lock has done what it would do now, and no other one holds the
same row. -/
structure Holds (P : Protocol σ K R T) (s : σ) (c : Config σ R T) : Prop where
  derived : ∀ i r t, c.opened i = some (r, some t) → Derived P c.store r t
  alone : ∀ i j r r' t t', c.opened i = some (r, some t) → c.opened j = some (r', some t') →
    P.key r = P.key r' → i = j
  serial : Serial P s c.log c.store

theorem holds_start (s : σ) : Holds P s (Config.start s) := by
  constructor
  · intro i r t h
    cases h
  · intro i j r r' t t' h
    cases h
  · exact .start

/-- An entry of an updated table is the new one or an old one. -/
theorem update_cases {α : Type} {opened : Nat → Option α} {i j : Nat} {x : Option α} {y : α}
    (h : Function.update opened i x j = some y) : j = i ∧ x = some y ∨ j ≠ i ∧ opened j = some y := by
  by_cases hji : j = i
  · subst hji
    rw [Function.update_self] at h
    exact .inl ⟨rfl, h⟩
  · rw [Function.update_of_ne hji] at h
    exact .inr ⟨hji, h⟩

/-- Replacing a transaction by one that holds no lock keeps the others as they are. -/
theorem Holds.drop {s : σ} {c : Config σ R T} (hc : Holds P s c) {i : Nat}
    {x : Option (R × Option T)} (hx : ∀ r t, x ≠ some (r, some t)) :
    Holds P s { c with opened := Function.update c.opened i x } := by
  constructor
  · intro j r t hj
    rcases update_cases hj with ⟨_, hnew⟩ | ⟨_, hold⟩
    · exact absurd hnew (hx r t)
    · exact hc.derived j r t hold
  · intro j k r r' t t' hj hk hkey
    rcases update_cases hj with ⟨_, hnew⟩ | ⟨_, hjold⟩
    · exact absurd hnew (hx r t)
    · rcases update_cases hk with ⟨_, hnew⟩ | ⟨_, hkold⟩
      · exact absurd hnew (hx r' t')
      · exact hc.alone j k r r' t t' hjold hkold hkey
  · exact hc.serial

/-- A transaction moves on while no other one holds its row. -/
theorem Holds.advance {s : σ} {c : Config σ R T} (hc : Holds P s c) {i : Nat} {r : R} {t : T}
    (hderived : Derived P c.store r t)
    (halone : ∀ j r' t', j ≠ i → c.opened j = some (r', some t') → P.key r' ≠ P.key r) :
    Holds P s { c with opened := Function.update c.opened i (some (r, some t)) } := by
  constructor
  · intro j r' t' hj
    rcases update_cases hj with ⟨_, hnew⟩ | ⟨_, hold⟩
    · cases hnew
      exact hderived
    · exact hc.derived j r' t' hold
  · intro j k r₁ r₂ t₁ t₂ hj hk hkey
    rcases update_cases hj with ⟨hji, hjnew⟩ | ⟨hji, hjold⟩
    · rcases update_cases hk with ⟨hki, _⟩ | ⟨hki, hkold⟩
      · rw [hji, hki]
      · cases hjnew
        exact absurd hkey.symm (halone k r₂ t₂ hki hkold)
    · rcases update_cases hk with ⟨hki, hknew⟩ | ⟨hki, hkold⟩
      · cases hknew
        exact absurd hkey (halone j r₁ t₁ hji hjold)
      · exact hc.alone j k r₁ r₂ t₁ t₂ hjold hkold hkey
  · exact hc.serial

theorem Holds.step (hlocal : Local P agrees) {s : σ} {c d : Config σ R T} (hc : Holds P s c)
    (hstep : Step P c d) : Holds P s d := by
  cases hstep with
  | @«open» i r hfree =>
    apply hc.drop
    intro r' t h
    cases h
  | @lock i r t hopen hfree h =>
    apply hc.advance (.start h)
    intro j r' t' _ hj
    exact hfree j r' t' hj
  | @next i r t u hopen h =>
    apply hc.advance (.next (hc.derived i r t hopen) h)
    intro j r' t' hji hj hkey
    exact hji (hc.alone j i r' r t' t hj hopen hkey)
  | @commit i r t s' hopen h =>
    have hderived := hc.derived i r t hopen
    constructor
    · intro j r' t' hj
      rcases update_cases hj with ⟨_, hnew⟩ | ⟨hji, hold⟩
      · cases hnew
      · have hother : P.key r' ≠ P.key r := by
          intro hkey
          exact hji (hc.alone j i r' r t' t hold hopen hkey)
        exact (hc.derived j r' t' hold).transfer hlocal (hlocal.finish hderived h hother)
    · intro j k r₁ r₂ t₁ t₂ hj hk hkey
      rcases update_cases hj with ⟨_, hnew⟩ | ⟨_, hjold⟩
      · cases hnew
      · rcases update_cases hk with ⟨_, hnew⟩ | ⟨_, hkold⟩
        · cases hnew
        · exact hc.alone j k r₁ r₂ t₁ t₂ hjold hkold hkey
    · exact .commit hc.serial hderived h
  | @rollback i x hopen =>
    apply hc.drop
    intro r' t h
    cases h

/-- Whatever the interleaving, the log is a serial run of its requests. -/
theorem serial_of_run (hlocal : Local P agrees) {s : σ} {c : Config σ R T}
    (hrun : ReflTransGen (Step P) (Config.start s) c) : Serial P s c.log c.store :=
  (invariant_of_run (I := Holds P s) (fun _ _ hc hstep => hc.step hlocal hstep)
    (holds_start s) hrun).serial

end FlowPilot.Lib.RowLock
