import FlowPilot.Lib.System

/-!
# Queues with fencing tokens

A job waits, is ready, is held by an owner under a fencing token, or is done with an outcome.
A lease raises the token by one, and a done job never changes.  The rules lift both facts from
steps to runs, and keep a ledger of the outcomes: one entry for each job that is done.
-/

open Relation

namespace FlowPilot.Lib.FencedQueue

variable {K Owner Outcome : Type}

inductive Phase (Owner Outcome : Type) where
  | waiting
  | ready
  | held (owner : Owner)
  | done (outcome : Outcome)

structure Job (Owner Outcome : Type) where
  fence : Nat
  phase : Phase Owner Outcome

/-- The job is not done. -/
def Phase.pending : Phase Owner Outcome → Prop
  | .done _ => False
  | _ => True

/-- What one step may do to a job. -/
inductive Job.Next : Job Owner Outcome → Job Owner Outcome → Prop where
  | keep (j : Job Owner Outcome) : Next j j
  | enqueue (fence : Nat) : Next ⟨fence, .waiting⟩ ⟨fence, .ready⟩
  | lease (fence : Nat) {phase : Phase Owner Outcome} (owner : Owner) (hopen : phase.pending) :
      Next ⟨fence, phase⟩ ⟨fence + 1, .held owner⟩
  | release (fence : Nat) (owner : Owner) : Next ⟨fence, .held owner⟩ ⟨fence, .ready⟩
  | finish (fence : Nat) {phase : Phase Owner Outcome} (outcome : Outcome)
      (hopen : phase.pending) : Next ⟨fence, phase⟩ ⟨fence, .done outcome⟩

abbrev Queue (K Owner Outcome : Type) := K → Option (Job Owner Outcome)

/-- One step of the queue: every job takes a step, and a new job is not done. -/
def Queue.Next (q q' : Queue K Owner Outcome) : Prop :=
  ∀ k, match q k with
    | none => ∀ j, q' k = some j → j.phase.pending
    | some j => ∃ j', q' k = some j' ∧ Job.Next j j'

/-- The outcome of a job that is done. -/
def outcomeOf : Option (Job Owner Outcome) → List Outcome
  | some ⟨_, .done outcome⟩ => [outcome]
  | _ => []

namespace Job.Next

variable {j j' : Job Owner Outcome}

theorem fence_le (h : Job.Next j j') : j.fence ≤ j'.fence := by
  cases h with
  | lease fence _ _ => exact Nat.le_succ fence
  | _ => exact Nat.le_refl _

theorem done_kept (h : Job.Next j j') (hdone : ¬ j.phase.pending) : j' = j := by
  cases h with
  | keep => rfl
  | enqueue => exact absurd trivial hdone
  | lease _ _ hopen => exact absurd hopen hdone
  | release => exact absurd trivial hdone
  | finish _ _ hopen => exact absurd hopen hdone

end Job.Next

theorem outcomeOf_pending {j : Job Owner Outcome} (h : j.phase.pending) :
    outcomeOf (some j) = [] := by
  rcases j with ⟨fence, phase⟩
  cases phase with
  | done outcome => exact absurd h id
  | _ => rfl

namespace Queue

variable {q q' : Queue K Owner Outcome} {k : K} {j : Job Owner Outcome}

theorem Next.job (h : Queue.Next q q') (hj : q k = some j) :
    ∃ j', q' k = some j' ∧ Job.Next j j' := by
  have hk := h k
  rw [hj] at hk
  exact hk

theorem Next.fresh (h : Queue.Next q q') (hk : q k = none) :
    ∀ j, q' k = some j → j.phase.pending := by
  have hnew := h k
  rw [hk] at hnew
  exact hnew

/-- The token of a job never goes down along a run. -/
theorem fence_le_of_run (hrun : ReflTransGen Queue.Next q q') (hj : q k = some j) :
    ∃ j', q' k = some j' ∧ j.fence ≤ j'.fence := by
  induction hrun with
  | refl => exact ⟨j, hj, Nat.le_refl _⟩
  | tail _ hlast ih =>
      rcases ih with ⟨j₁, hj₁, hle⟩
      rcases hlast.job hj₁ with ⟨j₂, hj₂, hnext⟩
      exact ⟨j₂, hj₂, Nat.le_trans hle hnext.fence_le⟩

/-- A done job is the same in every later state. -/
theorem done_of_run (hrun : ReflTransGen Queue.Next q q') (hj : q k = some j)
    (hdone : ¬ j.phase.pending) : q' k = some j := by
  induction hrun with
  | refl => exact hj
  | tail _ hlast ih =>
      rcases hlast.job ih with ⟨j', hj', hnext⟩
      rw [hj', hnext.done_kept hdone]

end Queue

/-! ## The ledger of outcomes -/

section Ledger

variable [DecidableEq K]

def entriesAt (entries : List (K × Outcome)) (k : K) : List Outcome :=
  (entries.filter fun e => e.1 = k).map (·.2)

theorem entriesAt_append (entries more : List (K × Outcome)) (k : K) :
    entriesAt (entries ++ more) k = entriesAt entries k ++ entriesAt more k := by
  unfold entriesAt
  rw [List.filter_append, List.map_append]

/-- Every job has exactly the outcome on record that it is done with. -/
def Ledger (q : Queue K Owner Outcome) (entries : List (K × Outcome)) : Prop :=
  ∀ k, entriesAt entries k = outcomeOf (q k)

/-- The entries of one step: nothing for a job that stays as it is, and its outcome for a job
that changes. -/
structure Entries (q q' : Queue K Owner Outcome) (more : List (K × Outcome)) : Prop where
  same : ∀ k, q' k = q k → entriesAt more k = []
  changed : ∀ k, q' k ≠ q k → entriesAt more k = outcomeOf (q' k)

theorem Ledger.next {q q' : Queue K Owner Outcome} {entries more : List (K × Outcome)}
    (h : Ledger q entries) (hnext : Queue.Next q q') (hmore : Entries q q' more) :
    Ledger q' (entries ++ more) := by
  intro k
  rw [entriesAt_append, h k]
  by_cases hsame : q' k = q k
  · rw [hmore.same k hsame, hsame, List.append_nil]
  · rw [hmore.changed k hsame]
    -- A job that changes was not done, so nothing was on record.
    have hnothing : outcomeOf (q k) = [] := by
      cases hj : q k with
      | none => rfl
      | some j =>
          apply outcomeOf_pending
          apply Classical.byContradiction
          intro hdone
          rcases hnext.job hj with ⟨j', hj', hstep⟩
          apply hsame
          rw [hj', hj, hstep.done_kept hdone]
    rw [hnothing, List.nil_append]

end Ledger

end FlowPilot.Lib.FencedQueue
