import FlowPilot.Dispatch.Coupling
import FlowPilot.Lib.FencedQueue

/-!
# Production runs as a fenced queue

A run is a job of the abstract queue: its token is the fencing token, its owner the owner of its
lease, its outcome the terminal status.  Every step of the dispatch tables is a step of the queue,
and the rows of a run that is over never change again.
-/

open FlowPilot.Lib FlowPilot.Lib.FencedQueue

namespace FlowPilot

def phaseOf (status : RunStatus) (owner : Option Digest) : Phase (Option Digest) RunStatus :=
  match status with
  | .waitingApproval => .waiting
  | .queued => .ready
  | .leased | .running | .recovering | .verifying => .held owner
  | .finishedUngraded | .failed | .cancelled | .expired => .done status

def jobOf (r : ProductionRun) : Job (Option Digest) RunStatus :=
  ⟨r.fencingToken, phaseOf r.status r.leaseOwnerHash⟩

def Db.queue (db : Db) : Queue RunId (Option Digest) RunStatus :=
  fun k => (db.runs.get? k).map jobOf

theorem phaseOf_pending {status : RunStatus} {owner : Option Digest} :
    (phaseOf status owner).pending ↔ ¬ status.terminal := by
  cases status <;> simp [phaseOf, Phase.pending, RunStatus.terminal]

theorem phaseOf_terminal {status : RunStatus} {owner : Option Digest} (h : status.terminal) :
    phaseOf status owner = .done status := by
  rcases h with h | h | h | h <;> rw [h] <;> rfl

theorem outcomeOf_run (r : ProductionRun) :
    outcomeOf (some (jobOf r)) = if r.status.terminal then [r.status] else [] := by
  by_cases h : r.status.terminal
  · rw [if_pos h]
    unfold jobOf
    rw [phaseOf_terminal h]
    rfl
  · rw [if_neg h]
    exact outcomeOf_pending (phaseOf_pending.mpr h)

namespace Db

variable {db after : Db} {o o' : DispatchOutbox} {r r' : ProductionRun}

/-! ## Refinement -/

/-- Rewriting an active row and its run is a step of the job. -/
theorem Move.job_next (h : Move db after o o' r r') : Job.Next (jobOf r) (jobOf r') := by
  have hopen : (jobOf r).phase.pending :=
    phaseOf_pending.mpr ((OutboxStatus.agrees_active h.before.status).mp h.active)
  have hfence : r.fencingToken = o.fencingToken := h.before.fence.symm
  have hfence' : r'.fencingToken = o'.fencingToken := h.coupled.fence.symm
  rcases h.fence with ⟨hsame, hkept⟩ | ⟨hnext, hleased⟩
  · have htoken : r'.fencingToken = r.fencingToken := by rw [hfence', hfence, hsame]
    by_cases hheld : o'.status.held
    · -- A held row keeps its owner, so the job stays as it is.
      rcases hkept hheld with ⟨hold, howner⟩
      have hrun : r'.leaseOwnerHash = r.leaseOwnerHash := by
        rw [(h.coupled.held hheld).same_owner, (h.before.held hold).same_owner, howner]
      have hphase : ∀ {x : DispatchOutbox} {s : ProductionRun}, Coupled x s → x.status.held →
          phaseOf s.status s.leaseOwnerHash = .held s.leaseOwnerHash := by
        intro x s hxs hx
        have hagrees := hxs.status
        rcases hx with hx | hx <;> rw [hx] at hagrees
        · rcases hagrees with hs | hs <;> rw [hs] <;> rfl
        · rw [show s.status = .running from hagrees]
          rfl
      have heq : jobOf r' = jobOf r := by
        unfold jobOf
        rw [hphase h.coupled hheld, hphase h.before hold, htoken, hrun]
      rw [heq]
      exact .keep _
    · have hagrees' := h.coupled.status
      by_cases hready : o'.status = .ready
      · rw [hready] at hagrees'
        have hqueued : r'.status = .queued := hagrees'
        have hjob' : jobOf r' = ⟨r.fencingToken, .ready⟩ := by
          unfold jobOf
          rw [hqueued, htoken]
          rfl
        have hagrees := h.before.status
        rw [hjob']
        rcases h.active with hs | hs | hs <;> rw [hs] at hagrees
        · have hold : jobOf r = ⟨r.fencingToken, .ready⟩ := by
            unfold jobOf
            rw [show r.status = .queued from hagrees]
            rfl
          rw [hold]
          exact .keep _
        · have hold : jobOf r = ⟨r.fencingToken, .held r.leaseOwnerHash⟩ := by
            unfold jobOf
            rcases hagrees with hr | hr <;> rw [hr] <;> rfl
          rw [hold]
          exact .release _ _
        · have hold : jobOf r = ⟨r.fencingToken, .held r.leaseOwnerHash⟩ := by
            unfold jobOf
            rw [show r.status = .running from hagrees]
            rfl
          rw [hold]
          exact .release _ _
      · -- Neither held nor ready: the row has left the queue and the run is over.
        have hclosed : ¬ o'.status.active := by
          rintro (hs | hs)
          · exact hready hs
          · exact hheld hs
        have hover : r'.status.terminal := by
          by_contra hnot
          exact hclosed ((OutboxStatus.agrees_active hagrees').mpr hnot)
        have hjob' : jobOf r' = ⟨r.fencingToken, .done r'.status⟩ := by
          unfold jobOf
          rw [phaseOf_terminal hover, htoken]
        rw [hjob']
        exact .finish _ _ hopen
  · have hagrees' := h.coupled.status
    rw [hleased] at hagrees'
    have hjob' : jobOf r' = ⟨r.fencingToken + 1, .held r'.leaseOwnerHash⟩ := by
      unfold jobOf
      rw [hfence', hnext, hfence]
      rcases hagrees' with hs | hs <;> rw [hs] <;> rfl
    rw [hjob']
    exact .lease _ _ hopen

/-- One replaced run is one step of the queue. -/
theorem queue_next_of_replaces (h : Table.Replaces db.runs after.runs r r')
    (hjob : Job.Next (jobOf r) (jobOf r')) : Queue.Next db.queue after.queue := by
  intro k
  unfold Db.queue
  rw [h.get? k]
  cases hk : db.runs.get? k with
  | none =>
      intro j hj
      by_cases hkey : r.runId = k
      · rw [← hkey, show db.runs.get? r.runId = some r from Table.get?_of_mem h.mem] at hk
        cases hk
      · rw [if_neg (show ¬ Keyed.key r = k from hkey)] at hj
        cases hj
  | some s =>
      by_cases hkey : r.runId = k
      · have hsame : s = r := by
          rw [← hkey, show db.runs.get? r.runId = some r from Table.get?_of_mem h.mem] at hk
          cases hk
          rfl
        rw [hsame]
        exact ⟨jobOf r', by rw [if_pos (show Keyed.key r = k from hkey)]; rfl, hjob⟩
      · exact ⟨jobOf s, by rw [if_neg (show ¬ Keyed.key r = k from hkey)]; rfl, .keep _⟩

/-- A new run that is not over is a new job. -/
theorem queue_next_of_insert {hfresh : db.runs.get? (Keyed.key r) = none}
    (h : after.runs = db.runs.insert r hfresh) (hopen : ¬ r.status.terminal) :
    Queue.Next db.queue after.queue := by
  intro k
  unfold Db.queue
  rw [h, Table.get?_insert hfresh k]
  by_cases hkey : Keyed.key r = k
  · rw [if_pos hkey, ← hkey, hfresh]
    intro j hj
    cases hj
    exact phaseOf_pending.mpr hopen
  · rw [if_neg hkey]
    cases hk : db.runs.get? k with
    | none =>
        intro j hj
        cases hj
    | some s => exact ⟨jobOf s, rfl, .keep _⟩

/-- Every step of the dispatch tables is a step of the abstract queue. -/
theorem Step.queue_next (hstep : Step db after) : Queue.Next db.queue after.queue := by
  cases hstep with
  | quiet h =>
      intro k
      unfold Db.queue
      rw [h.runs]
      cases db.runs.get? k with
      | none =>
          intro j hj
          cases hj
      | some s => exact ⟨jobOf s, rfl, .keep _⟩
  | move h => exact queue_next_of_replaces h.runs h.job_next
  | @enqueue o r' h =>
      have hqueued : r'.status = .queued := by
        have hagrees := h.coupled.status
        rwa [h.status] at hagrees
      rcases h.runs with ⟨hfresh, hins⟩ | ⟨r, hwait, hfence, hrep⟩
      · apply queue_next_of_insert hins
        rw [hqueued]
        decide
      · apply queue_next_of_replaces hrep
        unfold jobOf
        rw [hwait, hfence, hqueued]
        exact .enqueue _
  | await h =>
      rcases h.runs with ⟨hfresh, hins⟩
      apply queue_next_of_insert hins
      rw [h.status]
      decide
  | withdraw h =>
      apply queue_next_of_replaces h.runs
      unfold jobOf
      rw [h.waiting, h.status, h.fence]
      exact .finish _ _ trivial

/-! ## Rows of runs that are over -/

/-- The row of a run that is over is never written again. -/
theorem Step.run_frozen (hstep : Step db after) {s : ProductionRun} (hs : s ∈ db.runs.rows)
    (hover : s.status.terminal) : s ∈ after.runs.rows := by
  have hkept : ∀ {x x' : ProductionRun}, Table.Replaces db.runs after.runs x x' →
      ¬ x.status.terminal → s ∈ after.runs.rows := by
    intro x x' hrep hopen
    refine hrep.mem_iff.mpr (.inr ⟨hs, ?_⟩)
    intro hkey
    rw [Table.eq_of_key hs hrep.mem hkey] at hover
    exact hopen hover
  cases hstep with
  | quiet h =>
      rw [h.runs]
      exact hs
  | move h => exact hkept h.runs ((OutboxStatus.agrees_active h.before.status).mp h.active)
  | enqueue h =>
      rcases h.runs with ⟨hfresh, hins⟩ | ⟨r, hwait, _, hrep⟩
      · rw [hins]
        exact (Table.mem_insert hfresh).mpr (.inl hs)
      · apply hkept hrep
        rw [hwait]
        decide
  | await h =>
      rcases h.runs with ⟨hfresh, hins⟩
      rw [hins]
      exact (Table.mem_insert hfresh).mpr (.inl hs)
  | withdraw h =>
      apply hkept h.runs
      rw [h.waiting]
      decide

/-- An outbox row that has left the queue is never written again. -/
theorem Step.outbox_frozen (hstep : Step db after) {x : DispatchOutbox}
    (hx : x ∈ db.outbox.rows) (hclosed : ¬ x.status.active) : x ∈ after.outbox.rows := by
  cases hstep with
  | quiet h =>
      rw [h.outbox]
      exact hx
  | move h =>
      refine h.outbox.mem_iff.mpr (.inr ⟨hx, ?_⟩)
      intro hkey
      rw [Table.eq_of_key hx h.outbox.mem hkey] at hclosed
      exact hclosed h.active
  | enqueue h =>
      rcases h.outbox with ⟨hfresh, hins⟩
      rw [hins]
      exact (Table.mem_insert hfresh).mpr (.inl hx)
  | await h =>
      rw [h.outbox]
      exact hx
  | withdraw h =>
      rw [h.outbox]
      exact hx

/-! ## Terminal effects -/

/-- The terminal effects of a transaction: the runs that it leaves over and whose row it has
written, with their status. -/
def terminalEffects (db after : Db) : List (RunId × RunStatus) :=
  (after.runs.rows.filter fun r =>
    r.status.terminal ∧ db.runs.get? r.runId ≠ some r).map fun r => (r.runId, r.status)

theorem entriesAt_terminalEffects (db after : Db) (k : RunId) :
    entriesAt (terminalEffects db after) k =
      (((after.runs.get? k).filter fun r =>
        r.status.terminal ∧ db.runs.get? r.runId ≠ some r).toList).map (·.status) := by
  unfold entriesAt terminalEffects
  rw [← Table.select_of_key, List.filter_map, List.map_map, List.filter_filter]
  rfl

/-- The effects of a step are the ledger entries of its step of the abstract queue. -/
theorem Step.entries (hstep : Step db after) :
    Entries db.queue after.queue (terminalEffects db after) where
  same := by
    intro k hsame
    rw [entriesAt_terminalEffects]
    unfold Db.queue at hsame
    cases hafter : after.runs.get? k with
    | none => rfl
    | some r' =>
        rw [hafter] at hsame
        cases hbefore : db.runs.get? k with
        | none =>
            rw [hbefore] at hsame
            cases hsame
        | some r =>
            rw [hbefore] at hsame
            have hjob : jobOf r' = jobOf r := Option.some.inj hsame
            rw [Option.filter_some, if_neg]
            · rfl
            · rw [decide_eq_true_eq]
              rintro ⟨hover, hchanged⟩
              have hrover : r.status.terminal := by
                by_contra hopen
                have hpending : (jobOf r').phase.pending := by
                  rw [hjob]
                  exact phaseOf_pending.mpr hopen
                exact phaseOf_pending.mp hpending hover
              have hkept := hstep.run_frozen (Table.mem_of_get? hbefore) hrover
              have hkey : r.runId = k := Table.key_of_get? hbefore
              have hkey' : r'.runId = k := Table.key_of_get? hafter
              have hget : after.runs.get? r.runId = some r := Table.get?_of_mem hkept
              rw [hkey, hafter] at hget
              rw [hkey', hbefore] at hchanged
              exact hchanged hget.symm
  changed := by
    intro k hchanged
    rw [entriesAt_terminalEffects]
    unfold Db.queue at hchanged ⊢
    cases hafter : after.runs.get? k with
    | none => rfl
    | some r' =>
        rw [hafter] at hchanged
        have hkey : r'.runId = k := Table.key_of_get? hafter
        have hne : db.runs.get? r'.runId ≠ some r' := by
          rw [hkey]
          intro hsame
          rw [hsame] at hchanged
          exact hchanged rfl
        rw [Option.map_some, outcomeOf_run, Option.filter_some]
        by_cases hover : r'.status.terminal
        · rw [if_pos hover, if_pos (by simp [hover, hne])]
          rfl
        · rw [if_neg hover, if_neg (by simp [hover])]
          rfl

end Db

end FlowPilot
