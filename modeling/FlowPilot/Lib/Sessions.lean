import FlowPilot.Lib.System
import Mathlib.Logic.Function.Basic

/-!
# Transactions that read before they write

A transaction reads at one or several states without a lock, and writes in one step at a later
state.  Between the two any other transaction can commit.  An invariant of the store together
with what it says about the reads of an open transaction is carried over whole runs.
-/

open Relation

namespace FlowPilot.Lib.Sessions

/-- `opens s t`: `t` has just read at `s`.  `rereads s t u`: `u` is `t` with some of its reads
repeated at `s`.  `commits s t u`: `t` turns `s` into `u`.  `other` steps need no reads. -/
structure Protocol (σ S : Type) where
  opens : σ → S → Prop
  rereads : σ → S → S → Prop
  commits : σ → S → σ → Prop
  other : σ → σ → Prop

/-- The store and the transactions under way. -/
structure Config (σ S : Type) where
  store : σ
  opened : Nat → Option S

variable {σ S : Type} {P : Protocol σ S} {allowed : σ → S → Prop}

def Config.start (s : σ) : Config σ S := ⟨s, fun _ => none⟩

@[simp] theorem Config.start_store (s : σ) : (Config.start s : Config σ S).store = s := rfl

/-- A step in which only transactions that are `allowed` at the store commit. -/
inductive Step (P : Protocol σ S) (allowed : σ → S → Prop) :
    Config σ S → Config σ S → Prop where
  | start {c : Config σ S} {i : Nat} {t : S} (hfree : c.opened i = none)
      (h : P.opens c.store t) :
      Step P allowed c ⟨c.store, Function.update c.opened i (some t)⟩
  | reread {c : Config σ S} {i : Nat} {t u : S} (hopen : c.opened i = some t)
      (h : P.rereads c.store t u) :
      Step P allowed c ⟨c.store, Function.update c.opened i (some u)⟩
  | commit {c : Config σ S} {i : Nat} {t : S} {s : σ} (hopen : c.opened i = some t)
      (hallowed : allowed c.store t) (h : P.commits c.store t s) :
      Step P allowed c ⟨s, Function.update c.opened i none⟩
  | abort {c : Config σ S} {i : Nat} {t : S} (hopen : c.opened i = some t) :
      Step P allowed c ⟨c.store, Function.update c.opened i none⟩
  | other {c : Config σ S} {s : σ} (h : P.other c.store s) : Step P allowed c ⟨s, c.opened⟩

/-- Every commit is allowed. -/
abbrev Anything : σ → S → Prop := fun _ _ => True

theorem Step.weaken {c d : Config σ S} (h : Step P allowed c d) : Step P Anything c d := by
  cases h with
  | start hfree h => exact .start hfree h
  | reread hopen h => exact .reread hopen h
  | commit hopen _ h => exact .commit hopen trivial h
  | abort hopen => exact .abort hopen
  | other h => exact .other h

/-- `I` is an invariant of the store, and `J` relates the reads of every open transaction to the
current store, under commits that are `allowed`. -/
structure Invariant (P : Protocol σ S) (allowed : σ → S → Prop) (I : σ → Prop)
    (J : σ → S → Prop) : Prop where
  opens : ∀ s t, I s → P.opens s t → J s t
  rereads : ∀ s t u, I s → J s t → P.rereads s t u → J s u
  commits : ∀ s t s', I s → J s t → allowed s t → P.commits s t s' →
    I s' ∧ ∀ u, J s u → J s' u
  other : ∀ s s', I s → P.other s s' → I s' ∧ ∀ u, J s u → J s' u

variable {I : σ → Prop} {J : σ → S → Prop}

/-- What holds of a configuration. -/
def Holds (I : σ → Prop) (J : σ → S → Prop) (c : Config σ S) : Prop :=
  I c.store ∧ ∀ i t, c.opened i = some t → J c.store t

theorem holds_start {s : σ} (h : I s) : Holds I J (Config.start s) := by
  refine ⟨h, ?_⟩
  intro i t hopen
  cases hopen

/-- Replacing one transaction by one that is related to the store keeps all of them related. -/
theorem related_update {s : σ} {opened : Nat → Option S} {i : Nat} {t : Option S}
    (hall : ∀ j u, opened j = some u → J s u) (ht : ∀ u, t = some u → J s u) :
    ∀ j u, Function.update opened i t j = some u → J s u := by
  intro j u hj
  by_cases hji : j = i
  · subst hji
    rw [Function.update_self] at hj
    exact ht u hj
  · rw [Function.update_of_ne hji] at hj
    exact hall j u hj

theorem Invariant.step (hinv : Invariant P allowed I J) {c d : Config σ S}
    (hc : Holds I J c) (hstep : Step P allowed c d) : Holds I J d := by
  rcases hc with ⟨hI, hJ⟩
  cases hstep with
  | start hfree h =>
      refine ⟨hI, related_update hJ ?_⟩
      intro u hu
      cases hu
      exact hinv.opens _ _ hI h
  | reread hopen h =>
      refine ⟨hI, related_update hJ ?_⟩
      intro u hu
      cases hu
      exact hinv.rereads _ _ _ hI (hJ _ _ hopen) h
  | commit hopen hallowed h =>
      rcases hinv.commits _ _ _ hI (hJ _ _ hopen) hallowed h with ⟨hI', hkeep⟩
      refine ⟨hI', related_update (fun j u hj => hkeep u (hJ j u hj)) ?_⟩
      intro u hu
      cases hu
  | abort hopen =>
      refine ⟨hI, related_update hJ ?_⟩
      intro u hu
      cases hu
  | other h =>
      rcases hinv.other _ _ hI h with ⟨hI', hkeep⟩
      exact ⟨hI', fun j u hj => hkeep u (hJ j u hj)⟩

theorem Invariant.run (hinv : Invariant P allowed I J) {c d : Config σ S}
    (hc : Holds I J c) (hrun : ReflTransGen (Step P allowed) c d) : Holds I J d :=
  invariant_of_run (I := Holds I J) (fun _ _ hs hstep => hinv.step hs hstep) hc hrun

end FlowPilot.Lib.Sessions
