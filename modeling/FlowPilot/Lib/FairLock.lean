import Mathlib.Data.List.Basic

/-!
# First-come first-served locks

A lock with a holder and a queue of waiters.  A free lock with waiters goes to the first of them:
a newcomer takes the lock at once only when nobody waits.
-/

namespace FlowPilot.Lib

structure FairLock (τ : Type) where
  holder : Option τ := none
  queue : List τ := []

namespace FairLock

variable {τ : Type}

/-- `acquire()` up to its first suspension. -/
def request (l : FairLock τ) (t : τ) : FairLock τ :=
  if l.holder.isNone && l.queue.isEmpty then { l with holder := some t }
  else { l with queue := l.queue ++ [t] }

/-- A free lock goes to its first waiter. -/
def wake (l : FairLock τ) : FairLock τ :=
  match l.holder, l.queue with
  | none, t :: rest => ⟨some t, rest⟩
  | _, _ => l

/-- `t` is the next to hold a free lock. -/
def Next (l : FairLock τ) (t : τ) : Prop := l.holder = none ∧ l.queue.head? = some t

def release (l : FairLock τ) : FairLock τ := { l with holder := none }

/-- A waiter gives up. -/
def abandon [DecidableEq τ] (l : FairLock τ) (t : τ) : FairLock τ :=
  { l with queue := l.queue.erase t }

/-- `t` holds the lock or waits for it. -/
def Involves (l : FairLock τ) (t : τ) : Prop := l.holder = some t ∨ t ∈ l.queue

@[simp] theorem release_holder (l : FairLock τ) : l.release.holder = none := rfl
@[simp] theorem release_queue (l : FairLock τ) : l.release.queue = l.queue := rfl
@[simp] theorem abandon_holder [DecidableEq τ] (l : FairLock τ) (t : τ) :
    (l.abandon t).holder = l.holder := rfl

theorem request_cases (l : FairLock τ) (t : τ) :
    l.holder = none ∧ l.queue = [] ∧ l.request t = ⟨some t, []⟩ ∨
      l.request t = ⟨l.holder, l.queue ++ [t]⟩ := by
  unfold request
  split
  · next h =>
      have hfree := Bool.and_eq_true_iff.mp h
      have hholder : l.holder = none := Option.isNone_iff_eq_none.mp hfree.1
      have hqueue : l.queue = [] := List.isEmpty_iff.mp hfree.2
      exact .inl ⟨hholder, hqueue, by rw [hqueue]⟩
  · exact .inr rfl

theorem wake_of_next {l : FairLock τ} {t : τ} (h : l.Next t) :
    ∃ rest, l.queue = t :: rest ∧ l.wake = ⟨some t, rest⟩ := by
  rcases h with ⟨hfree, hhead⟩
  obtain ⟨rest, hqueue⟩ := List.head?_eq_some_iff.mp hhead
  refine ⟨rest, hqueue, ?_⟩
  unfold wake
  rw [hfree, hqueue]

/-- Asking for a lock that is held does not move it. -/
theorem request_held {l : FairLock τ} {s : τ} (t : τ) (h : l.holder = some s) :
    (l.request t).holder = some s := by
  rcases request_cases l t with ⟨hfree, -, -⟩ | hwait
  · rw [h] at hfree
    cases hfree
  · rw [hwait]
    exact h

theorem involves_request {l : FairLock τ} {s t : τ} (h : (l.request t).Involves s) :
    l.Involves s ∨ s = t := by
  rcases request_cases l t with ⟨-, -, hnow⟩ | hwait
  · rw [hnow] at h
    rcases h with hholder | hqueue
    · exact .inr (Option.some.inj hholder).symm
    · cases hqueue
  · rw [hwait] at h
    rcases h with hholder | hqueue
    · exact .inl (.inl hholder)
    · rcases List.mem_append.mp hqueue with hold | hnew
      · exact .inl (.inr hold)
      · exact .inr (List.mem_singleton.mp hnew)

theorem mem_request {l : FairLock τ} {s : τ} (t : τ) (h : s ∈ l.queue) :
    s ∈ (l.request t).queue := by
  rcases request_cases l t with ⟨-, hempty, -⟩ | hwait
  · rw [hempty] at h
    cases h
  · rw [hwait]
    exact List.mem_append_left _ h

/-- Whoever asks for a lock holds it or waits for it. -/
theorem request_self (l : FairLock τ) (t : τ) :
    (l.request t).holder = some t ∨ t ∈ (l.request t).queue := by
  rcases request_cases l t with ⟨-, -, hnow⟩ | hwait
  · rw [hnow]
    exact .inl rfl
  · rw [hwait]
    exact .inr (List.mem_append_right _ (List.mem_singleton.mpr rfl))

/-! ## Late comers -/

/-- Tasks with property `p` are served after all others: none of the others waits behind one of
them, or while one of them holds the lock. -/
structure Last (p : τ → Prop) (l : FairLock τ) : Prop where
  queue : l.queue.Pairwise fun s t => p s → p t
  holder : ∀ s, l.holder = some s → p s → ∀ t ∈ l.queue, p t

variable {p : τ → Prop} {l : FairLock τ}

theorem last_free : Last p ({} : FairLock τ) :=
  ⟨List.Pairwise.nil, fun _ _ _ _ h => by cases h⟩

/-- A request by a late comer keeps the order, and so does any request while there are none. -/
theorem Last.request (h : Last p l) {t : τ} (ht : p t ∨ ∀ s, l.Involves s → ¬ p s) :
    Last p (l.request t) := by
  rcases request_cases l t with ⟨-, -, hnow⟩ | hwait
  · rw [hnow]
    exact ⟨List.Pairwise.nil, fun _ _ _ _ hm => by cases hm⟩
  · rw [hwait]
    constructor
    · refine List.pairwise_append.mpr ⟨h.queue, List.pairwise_singleton _ _, ?_⟩
      intro s hs u hu hp
      rw [List.mem_singleton.mp hu]
      rcases ht with hlate | hnone
      · exact hlate
      · exact absurd hp (hnone s (.inr hs))
    · intro s hs hp u hu
      rcases List.mem_append.mp hu with hold | hnew
      · exact h.holder s hs hp u hold
      · rw [List.mem_singleton.mp hnew]
        rcases ht with hlate | hnone
        · exact hlate
        · exact absurd hp (hnone s (.inl hs))

theorem Last.wake (h : Last p l) {t : τ} (hnext : l.Next t) : Last p l.wake := by
  obtain ⟨rest, hqueue, hwake⟩ := wake_of_next hnext
  have hpair := h.queue
  rw [hqueue] at hpair
  rw [hwake]
  refine ⟨(List.pairwise_cons.mp hpair).2, ?_⟩
  intro s hs hp u hu
  cases hs
  exact (List.pairwise_cons.mp hpair).1 u hu hp

theorem Last.release (h : Last p l) : Last p l.release :=
  ⟨h.queue, fun _ hs => by cases hs⟩

theorem Last.abandon [DecidableEq τ] (h : Last p l) (t : τ) : Last p (l.abandon t) :=
  ⟨h.queue.sublist List.erase_sublist,
    fun s hs hp u hu => h.holder s hs hp u (List.mem_of_mem_erase hu)⟩

end FairLock

end FlowPilot.Lib
