import FlowPilot.Recovery.Workflow

/-!
# What holds at every point of a recovery run

The charges, the checkpoints that are built and the counts of a run, as properties of its variables
and of the activities that it has called.
-/

open FlowPilot.Lib
open FlowPilot.Planning (StepId)

namespace FlowPilot.Recovery.Workflow

/-! ## Charges -/

/-- What a charge adds. -/
structure Charged (u : DurableUsage) (r : ActivityResult) (fault : Bool) (v : DurableUsage) :
    Prop where
  activityAttempts : v.activityAttempts = u.activityAttempts + r.activityAttempt
  retries : v.retries = u.retries + (r.activityAttempt - 1)
  faults : v.faults = u.faults + fault.toNat
  receiptCreates : v.receiptCreates = u.receiptCreates + r.received .created
  receiptReplays : v.receiptReplays = u.receiptReplays + r.received .replayed
  receiptMismatches : v.receiptMismatches = u.receiptMismatches + r.received .mismatch
  sessionRecoveries : v.sessionRecoveries = u.sessionRecoveries
  duplicateSideEffects : v.duplicateSideEffects = u.duplicateSideEffects
  replans : v.replans = u.replans
  replacedNodes : v.replacedNodes = u.replacedNodes
  workflowReplays : v.workflowReplays = u.workflowReplays
  planningUsage : ∀ c, u.planningUsage c ≤ v.planningUsage c

theorem charged_of_charge {u v : DurableUsage} {r : ActivityResult} {fault : Bool}
    (h : charge u r fault = some v) : Charged u r fault v := by
  unfold charge at h
  split at h
  · cases h
    exact ⟨rfl, rfl, rfl, rfl, rfl, rfl, rfl, rfl, rfl, rfl, rfl, fun _ => Nat.le_refl _⟩
  · next incoming _ =>
      split at h
      · cases h
      · next hreset =>
          cases h
          refine ⟨rfl, rfl, rfl, rfl, rfl, rfl, rfl, rfl, rfl, rfl, rfl, ?_⟩
          intro c
          by_contra hlow
          refine hreset (List.any_eq_true.mpr ⟨c, c.mem_all, decide_eq_true ?_⟩)
          exact Nat.lt_of_not_le hlow

/-- A charge is refused when a planning counter falls. -/
theorem falls_of_charge_none {u : DurableUsage} {r : ActivityResult} {fault : Bool}
    (h : charge u r fault = none) :
    ∃ incoming c, r.planningUsage = some incoming ∧ incoming c < u.planningUsage c := by
  unfold charge at h
  split at h
  · cases h
  · next incoming hincoming =>
      split at h
      · next hreset =>
          obtain ⟨c, _, hc⟩ := List.any_eq_true.mp hreset
          exact ⟨incoming, c, hincoming, of_decide_eq_true hc⟩
      · cases h

/-- Every counter of `v` is at least that of `u`. -/
structure DurableUsage.Le (u v : DurableUsage) : Prop where
  activityAttempts : u.activityAttempts ≤ v.activityAttempts
  retries : u.retries ≤ v.retries
  sessionRecoveries : u.sessionRecoveries ≤ v.sessionRecoveries
  receiptCreates : u.receiptCreates ≤ v.receiptCreates
  receiptReplays : u.receiptReplays ≤ v.receiptReplays
  receiptMismatches : u.receiptMismatches ≤ v.receiptMismatches
  duplicateSideEffects : u.duplicateSideEffects ≤ v.duplicateSideEffects
  faults : u.faults ≤ v.faults
  replans : u.replans ≤ v.replans
  replacedNodes : u.replacedNodes ≤ v.replacedNodes
  workflowReplays : u.workflowReplays ≤ v.workflowReplays
  planningUsage : ∀ c, u.planningUsage c ≤ v.planningUsage c

namespace DurableUsage.Le

theorem refl (u : DurableUsage) : u.Le u := by
  constructor <;> intros <;> exact Nat.le_refl _

theorem trans {u v w : DurableUsage} (h : u.Le v) (h' : v.Le w) : u.Le w := by
  constructor
  · exact h.activityAttempts.trans h'.activityAttempts
  · exact h.retries.trans h'.retries
  · exact h.sessionRecoveries.trans h'.sessionRecoveries
  · exact h.receiptCreates.trans h'.receiptCreates
  · exact h.receiptReplays.trans h'.receiptReplays
  · exact h.receiptMismatches.trans h'.receiptMismatches
  · exact h.duplicateSideEffects.trans h'.duplicateSideEffects
  · exact h.faults.trans h'.faults
  · exact h.replans.trans h'.replans
  · exact h.replacedNodes.trans h'.replacedNodes
  · exact h.workflowReplays.trans h'.workflowReplays
  · exact fun c => (h.planningUsage c).trans (h'.planningUsage c)

theorem of_charged {u v : DurableUsage} {r : ActivityResult} {fault : Bool}
    (h : Charged u r fault v) : u.Le v := by
  constructor
  · exact h.activityAttempts ▸ Nat.le_add_right _ _
  · exact h.retries ▸ Nat.le_add_right _ _
  · exact h.sessionRecoveries.ge
  · exact h.receiptCreates ▸ Nat.le_add_right _ _
  · exact h.receiptReplays ▸ Nat.le_add_right _ _
  · exact h.receiptMismatches ▸ Nat.le_add_right _ _
  · exact h.duplicateSideEffects.ge
  · exact h.faults ▸ Nat.le_add_right _ _
  · exact h.replans.ge
  · exact h.replacedNodes.ge
  · exact h.workflowReplays.ge
  · exact h.planningUsage

end DurableUsage.Le

/-! ## Checkpoints -/

section

variable [Sha256]

theorem buildCheckpoint_some {fields : CheckpointFields} {c : Checkpoint}
    (h : buildCheckpoint fields = some c) :
    c.fields = fields ∧ c.checkpointHash = stableHash (.obj fields.entries) := by
  unfold buildCheckpoint at h
  split at h
  · dsimp only at h
    split at h
    · cases h
    · cases h
      exact ⟨rfl, rfl⟩
  · cases h

/-- `validate_checkpoint` in terms of sets. -/
structure Partitioned (c : Checkpoint) : Prop where
  apart : ∀ step ∈ c.fields.completedStepIds, step ∉ c.fields.remainingStepIds
  cover : ∀ step, step ∈ c.fields.topology ↔
    step ∈ c.fields.completedStepIds ∨ step ∈ c.fields.remainingStepIds

theorem partitioned_of_validate {c : Checkpoint} (h : validateCheckpoint c = true) :
    Partitioned c ∧ c.checkpointHash = stableHash (.obj c.fields.entries) := by
  unfold validateCheckpoint at h
  simp only [Bool.and_eq_true, decide_eq_true_eq, List.all_eq_true, Bool.not_eq_true',
    List.contains_eq_mem, decide_eq_false_iff_not, Bool.or_eq_true, List.mem_append] at h
  obtain ⟨⟨⟨⟨⟨hhash, hapart⟩, hinside⟩, hcover⟩, _⟩, _⟩ := h
  exact ⟨⟨hapart, fun step => ⟨hcover step, hinside step⟩⟩, hhash.symm⟩

/-- A checkpoint that is built from a topology and some completed steps is valid. -/
theorem validate_of_build {fields : CheckpointFields} {c : Checkpoint} (done : List StepId)
    (h : buildCheckpoint fields = some c)
    (hcompleted : fields.completedStepIds = fields.topology.filter (done.contains ·))
    (hremaining : fields.remainingStepIds = fields.topology.filter (!done.contains ·)) :
    validateCheckpoint c = true := by
  obtain ⟨rfl, hhash⟩ := buildCheckpoint_some h
  unfold validateCheckpoint
  rw [hcompleted, hremaining, ← hhash]
  simp only [Bool.and_eq_true, decide_eq_true_eq, List.all_eq_true, List.contains_eq_mem,
    decide_eq_false_iff_not, Bool.or_eq_true, List.mem_append, List.mem_filter,
    Bool.not_eq_eq_eq_not, Bool.not_true]
  refine ⟨⟨⟨⟨⟨trivial, ?_⟩, ?_⟩, ?_⟩, ?_⟩, ?_⟩
  · rintro step ⟨_, hdone⟩ ⟨_, hopen⟩
    exact hopen hdone
  · rintro step (⟨hstep, _⟩ | ⟨hstep, _⟩) <;> exact hstep
  · intro step hstep
    by_cases hdone : step ∈ done
    · exact .inl ⟨hstep, hdone⟩
    · exact .inr ⟨hstep, hdone⟩
  · refine List.filter_congr ?_
    intro step hstep
    simp [hstep]
  · refine List.filter_congr ?_
    intro step hstep
    simp [hstep]

end

/-! ## Conditions on a call -/

namespace Call

/-- The call is a step that ends in a fault. -/
def Faults (call : Call) : Prop :=
  call.operation = .executeStep ∧
    ((∃ r, call.reply = .result r ∧ r.faultUsed = true) ∨
      call.reply = .activityError (some "ReadTimeout"))

/-- A checkpoint is built on the reply. -/
def Builds (call : Call) : Prop :=
  ∃ r, call.reply = .result r ∧
    (call.operation = .startRun ∨ call.operation = .recover ∨ call.operation = .replan ∨
      call.operation = .executeStep ∧ r.outcome = .verified)

/-- The budgets that the run does not watch have room. -/
structure Frugal (start : WorkflowStart) (call : Call) : Prop where
  receipts : ∀ r, call.reply = .result r → call.operation = .executeStep →
    r.outcome = .verified → r.receipt.isSome = true →
    call.before.receipts.length < start.budget.maxReceipts
  checkpoints : call.Builds → call.before.checkpoints.length < start.budget.maxCheckpoints

/-- The reply does not lead the run out of its schemas. -/
structure Harmless (call : Call) : Prop where
  plan : ∀ r, call.reply = .result r → call.operation = .startRun ∨ call.operation = .replan →
    r.topology.Nodup
  faults : call.Faults → call.before.usage.faults < 2
  checkpoints : call.Builds → call.before.checkpoints.length < 18
  creates : ∀ r, call.reply = .result r → r.received .created = 1 →
    call.before.usage.receiptCreates < 24
  replays : ∀ r, call.reply = .result r → r.received .replayed = 1 →
    call.before.usage.receiptReplays < 24
  mismatches : ∀ r, call.reply = .result r → r.received .mismatch = 1 →
    call.before.usage.receiptMismatches < 24
  cleanup : ∀ r incoming, call.operation = .cleanup → call.reply = .result r →
    r.planningUsage = some incoming → ∀ c, call.before.usage.planningUsage c ≤ incoming c

/-! The conditions can be evaluated on the calls of a run. -/

/-- The reply is a result with the property. -/
def answers (call : Call) (p : ActivityResult → Bool) : Bool :=
  match call.reply with
  | .result r => p r
  | .activityError _ | .cancelledError => false

theorem answers_iff {call : Call} {p : ActivityResult → Bool} :
    call.answers p = true ↔ ∃ r, call.reply = .result r ∧ p r = true := by
  unfold answers
  cases hreply : call.reply with
  | result r =>
      constructor
      · intro hp
        exact ⟨r, rfl, hp⟩
      · rintro ⟨_, hr, hp⟩
        cases hr
        exact hp
  | activityError | cancelledError =>
      constructor
      · intro hp
        cases hp
      · rintro ⟨_, hr, _⟩
        cases hr

theorem of_not_answers {call : Call} {p : ActivityResult → Bool} (h : call.answers p = false)
    {r : ActivityResult} (hr : call.reply = .result r) : p r = false := by
  unfold answers at h
  rw [hr] at h
  exact h

def timedOut (call : Call) : Bool :=
  match call.reply with
  | .activityError cause => decide (cause = some "ReadTimeout")
  | .result _ | .cancelledError => false

instance (call : Call) : Decidable call.Builds :=
  decidable_of_iff (call.answers fun r => call.operation = .startRun ∨ call.operation = .recover ∨
      call.operation = .replan ∨ call.operation = .executeStep ∧ r.outcome = .verified) <| by
    unfold Builds
    simp only [answers_iff, decide_eq_true_eq]

instance (call : Call) : Decidable call.Faults :=
  decidable_of_iff (call.operation = .executeStep ∧
      (call.answers ActivityResult.faultUsed = true ∨ call.timedOut = true)) <| by
    have htimeout : call.timedOut = true ↔ call.reply = .activityError (some "ReadTimeout") := by
      unfold timedOut
      cases call.reply <;> simp
    unfold Faults
    rw [answers_iff, htimeout]

/-- The counters of a reply fall below the run's. -/
def resets (call : Call) (r : ActivityResult) : Bool :=
  match r.planningUsage with
  | some incoming => Counter.all.any fun c => decide (incoming c < call.before.usage.planningUsage c)
  | none => false

theorem of_not_resets {call : Call} {r : ActivityResult} (h : call.resets r = false)
    {incoming : PlanningUsage} (hincoming : r.planningUsage = some incoming) (c : Counter) :
    call.before.usage.planningUsage c ≤ incoming c := by
  unfold resets at h
  rw [hincoming] at h
  have hkept := List.any_eq_false.mp h c c.mem_all
  rw [decide_eq_true_eq] at hkept
  exact Nat.le_of_not_lt hkept

/-- Enough for `Frugal`. -/
def leavesRoom (start : WorkflowStart) (call : Call) : Bool :=
  decide (call.answers (fun r => r.receipt.isSome) = true →
    call.before.receipts.length < start.budget.maxReceipts) &&
  decide (call.Builds → call.before.checkpoints.length < start.budget.maxCheckpoints)

theorem frugal_of_leavesRoom {start : WorkflowStart} {call : Call}
    (h : call.leavesRoom start = true) : call.Frugal start := by
  unfold leavesRoom at h
  rw [Bool.and_eq_true, decide_eq_true_eq, decide_eq_true_eq] at h
  exact ⟨fun r hr _ _ hreceipt => h.1 (answers_iff.mpr ⟨r, hr, hreceipt⟩), h.2⟩

/-- Enough for `Harmless`. -/
def staysWithin (call : Call) : Bool :=
  !call.answers (fun r => decide ¬r.topology.Nodup) &&
  decide (call.Faults → call.before.usage.faults < 2) &&
  decide (call.Builds → call.before.checkpoints.length < 18) &&
  decide (call.before.usage.receiptCreates < 24 ∧ call.before.usage.receiptReplays < 24 ∧
    call.before.usage.receiptMismatches < 24) &&
  !call.answers call.resets

theorem harmless_of_staysWithin {call : Call} (h : call.staysWithin = true) : call.Harmless := by
  unfold staysWithin at h
  simp only [Bool.and_eq_true, decide_eq_true_eq, Bool.not_eq_true'] at h
  obtain ⟨⟨⟨⟨hplan, hfaults⟩, hcheckpoints⟩, hcreates, hreplays, hmismatches⟩, hcleanup⟩ := h
  constructor
  · intro r hr _
    exact not_not.mp (of_decide_eq_false (of_not_answers hplan hr))
  · exact hfaults
  · exact hcheckpoints
  · exact fun _ _ _ => hcreates
  · exact fun _ _ _ => hreplays
  · exact fun _ _ _ => hmismatches
  · intro r incoming _ hr hincoming
    exact of_not_resets (of_not_answers hcleanup hr) hincoming

end Call

theorem received_bound {r : ActivityResult} {state : ReceiptState} {n : Nat} (h : n ≤ 24)
    (hroom : r.received state = 1 → n < 24) : n + r.received state ≤ 24 := by
  unfold ActivityResult.received at hroom ⊢
  split
  · next hreceived =>
      rw [if_pos hreceived] at hroom
      exact hroom rfl
  · exact h

/-! ## What always holds -/

/-- The run has got at least as far as it was at the checkpoint. -/
structure Below (c : Checkpoint) (p : Progress) : Prop where
  completed : c.fields.completedStepIds ⊆ p.completed
  epoch : c.fields.sessionEpoch ≤ p.epoch
  revision : c.fields.revision ≤ p.revision
  receipts : c.fields.receiptHashes <+: p.receipts
  usage : c.fields.usage.Le p.usage

/-- `d` follows `c` in the chain. -/
structure Follows (c d : Checkpoint) : Prop where
  parent : d.fields.parentCheckpointHash = c.checkpointHash
  completed : c.fields.completedStepIds ⊆ d.fields.completedStepIds
  epoch : c.fields.sessionEpoch ≤ d.fields.sessionEpoch
  revision : c.fields.revision ≤ d.fields.revision
  receipts : c.fields.receiptHashes <+: d.fields.receiptHashes
  usage : c.fields.usage.Le d.fields.usage

/-- The budgets that the run watches. -/
structure WithinBudget (start : WorkflowStart) (c : Checkpoint) : Prop where
  faults : c.fields.usage.faults ≤ start.budget.maxFaults
  recoveries : c.fields.usage.sessionRecoveries ≤ start.budget.maxSessionRecoveries
  replans : c.fields.usage.replans ≤ start.budget.maxReplans
  revision : c.fields.revision ≤ start.budget.maxRevisions

section

variable [Sha256]

/-- What holds at every point of a run.  A fault pays for the attempts and retries of three
activities, so that their counts are bounded by the faults and the completed steps. -/
structure Sound (start : WorkflowStart) (spareAttempts spareRetries : Nat) (p : Progress)
    (log : List Call) : Prop where
  chain : p.checkpoints.IsChain Follows
  first : ∀ c, p.checkpoints.head? = some c → c.fields.parentCheckpointHash = genesisHash
  valid : ∀ c ∈ p.checkpoints, validateCheckpoint c = true
  budget : ∀ c ∈ p.checkpoints, WithinBudget start c
  below : ∀ c ∈ p.checkpoints, Below c p
  recoveries : p.usage.sessionRecoveries ≤ start.budget.maxSessionRecoveries
  replans : p.usage.replans ≤ start.budget.maxReplans
  revision : 1 ≤ p.revision ∧ p.revision ≤ start.budget.maxRevisions
  epoch : 1 ≤ p.epoch ∧ p.epoch ≤ start.budget.maxSessionRecoveries + 1
  attempts : p.usage.activityAttempts + spareAttempts ≤
    4 + 2 * p.completed.length + 6 * p.usage.faults
  retries : p.usage.retries + spareRetries ≤ 2 + 3 * p.usage.faults
  replaced : p.usage.replacedNodes ≤ 16 * p.usage.replans
  unused : p.usage.duplicateSideEffects = 0 ∧ p.usage.workflowReplays = 0
  topology : p.topology.length ≤ 16
  completed : p.completed.Nodup ∧ p.completed.length ≤ 16
  calls : ∀ call ∈ log, call.operation ≠ .cleanup
  frugal : (∀ call ∈ log, call.Frugal start) →
    p.receipts.length ≤ start.budget.maxReceipts ∧
      p.checkpoints.length ≤ start.budget.maxCheckpoints
  harmless : (∀ call ∈ log, call.Harmless) →
    p.usage.faults ≤ 2 ∧ p.usage.receiptCreates ≤ 24 ∧ p.usage.receiptReplays ≤ 24 ∧
      p.usage.receiptMismatches ≤ 24 ∧ p.checkpoints.length ≤ 18

/-- What holds between two rounds as well. -/
structure Steady (start : WorkflowStart) (p : Progress) (calls : List Call) : Prop where
  sound : Sound start 2 1 p calls
  faults : p.usage.faults ≤ start.budget.maxFaults
  epoch : p.epoch ≤ p.usage.sessionRecoveries + 1
  inside : ∀ step ∈ p.completed, step ∈ p.topology
  plan : (∀ call ∈ calls, call.Harmless) → p.topology.Nodup

variable {start : WorkflowStart} {a r : Nat} {p : Progress} {calls : List Call}

omit [Sha256] in
theorem Below.mono {c : Checkpoint} {q : Progress} (h : Below c p)
    (hcompleted : p.completed ⊆ q.completed) (hepoch : p.epoch ≤ q.epoch)
    (hrevision : p.revision ≤ q.revision) (hreceipts : p.receipts <+: q.receipts)
    (husage : p.usage.Le q.usage) : Below c q where
  completed := List.Subset.trans h.completed hcompleted
  epoch := h.epoch.trans hepoch
  revision := h.revision.trans hrevision
  receipts := h.receipts.trans hreceipts
  usage := h.usage.trans husage

theorem sound_start : Sound start 4 2 {} [] where
  chain := .nil
  first _ h := by cases h
  valid _ h := by cases h
  budget _ h := by cases h
  below _ h := by cases h
  recoveries := Nat.zero_le _
  replans := Nat.zero_le _
  revision := ⟨Nat.le_refl 1, start.budget.revisions_range.1⟩
  epoch := ⟨Nat.le_refl 1, Nat.le_add_left _ _⟩
  attempts := Nat.le_refl 4
  retries := Nat.le_refl 2
  replaced := Nat.le_refl 0
  unused := ⟨rfl, rfl⟩
  topology := Nat.zero_le _
  completed := ⟨List.nodup_nil, Nat.zero_le _⟩
  calls _ h := by cases h
  frugal _ := ⟨Nat.zero_le _, Nat.zero_le _⟩
  harmless _ := by decide

namespace Sound

omit [Sha256] in
/-- The conditions say less of fewer calls. -/
theorem fewer {P : Call → Prop} {call : Call} (h : ∀ x ∈ calls ++ [call], P x) :
    (∀ x ∈ calls, P x) ∧ P call :=
  ⟨fun x hx => h x (List.mem_append_left _ hx),
    h call (List.mem_append_right _ (List.mem_singleton_self _))⟩

theorem weaken (h : Sound start a r p calls) {a' r' : Nat} (ha : a' ≤ a) (hr : r' ≤ r) :
    Sound start a' r' p calls :=
  { h with
    attempts := by
      have hattempts := h.attempts
      omega
    retries := by
      have hretries := h.retries
      omega }

theorem call (h : Sound start a r p calls) {call : Call} (hcall : call.operation ≠ .cleanup) :
    Sound start a r p (calls ++ [call]) :=
  { h with
    calls := by
      intro x hx
      rcases List.mem_append.mp hx with hx | hx
      · exact h.calls x hx
      · rw [List.mem_singleton.mp hx]
        exact hcall
    frugal := fun hall => h.frugal (fewer hall).1
    harmless := fun hall => h.harmless (fewer hall).1 }

/-- A usage that only grows, with the bounds of the new one. -/
theorem setUsage (h : Sound start a r p calls) {u : DurableUsage} {a' r' : Nat}
    (hle : p.usage.Le u)
    (hrecoveries : u.sessionRecoveries ≤ start.budget.maxSessionRecoveries)
    (hreplans : u.replans ≤ start.budget.maxReplans)
    (hattempts : u.activityAttempts + a' ≤ 4 + 2 * p.completed.length + 6 * u.faults)
    (hretries : u.retries + r' ≤ 2 + 3 * u.faults)
    (hreplaced : u.replacedNodes ≤ 16 * u.replans)
    (hunused : u.duplicateSideEffects = 0 ∧ u.workflowReplays = 0)
    (hharmless : (∀ call ∈ calls, call.Harmless) → u.faults ≤ 2 ∧ u.receiptCreates ≤ 24 ∧
      u.receiptReplays ≤ 24 ∧ u.receiptMismatches ≤ 24) :
    Sound start a' r' { p with usage := u } calls :=
  { h with
    below := fun c hc =>
      (h.below c hc).mono (List.Subset.refl _) le_rfl le_rfl (List.prefix_refl _) hle
    recoveries := hrecoveries
    replans := hreplans
    attempts := hattempts
    retries := hretries
    replaced := hreplaced
    unused := hunused
    harmless := fun hall =>
      have hu := hharmless hall
      ⟨hu.1, hu.2.1, hu.2.2.1, hu.2.2.2, (h.harmless hall).2.2.2.2⟩ }

/-- An activity is called and charged. -/
theorem charge (h : Sound start a r p calls) {operation : Operation} {request : ActivityRequest}
    {result : ActivityResult} {fault : Bool} {u : DurableUsage} {a' r' : Nat}
    (hcharge : charge p.usage result fault = some u) (hoperation : operation ≠ .cleanup)
    (hfault : fault = true → operation = .executeStep ∧ result.faultUsed = true)
    (ha : result.activityAttempt + a' ≤ a + 6 * fault.toNat)
    (hr : result.activityAttempt - 1 + r' ≤ r + 3 * fault.toNat) :
    Sound start a' r' { p with usage := u }
      (calls ++ [⟨operation, request, .result result, p⟩]) := by
  have hu := charged_of_charge hcharge
  refine (h.call hoperation).setUsage (.of_charged hu) ?_ ?_ ?_ ?_ ?_ ?_ ?_
  · rw [hu.sessionRecoveries]
    exact h.recoveries
  · rw [hu.replans]
    exact h.replans
  · have hattempts := h.attempts
    rw [hu.activityAttempts, hu.faults]
    omega
  · have hretries := h.retries
    rw [hu.retries, hu.faults]
    omega
  · rw [hu.replacedNodes, hu.replans]
    exact h.replaced
  · rw [hu.duplicateSideEffects, hu.workflowReplays]
    exact h.unused
  · intro hall
    obtain ⟨hbefore, hlast⟩ := fewer hall
    obtain ⟨hfaults, hcreates, hreplays, hmismatches, _⟩ := h.harmless hbefore
    refine ⟨?_, ?_, ?_, ?_⟩
    · rw [hu.faults]
      cases fault with
      | false => exact hfaults
      | true =>
          obtain ⟨hstep, hused⟩ := hfault rfl
          exact hlast.faults ⟨hstep, .inl ⟨result, rfl, hused⟩⟩
    · rw [hu.receiptCreates]
      exact received_bound hcreates (hlast.creates result rfl)
    · rw [hu.receiptReplays]
      exact received_bound hreplays (hlast.replays result rfl)
    · rw [hu.receiptMismatches]
      exact received_bound hmismatches (hlast.mismatches result rfl)

/-- A step times out. -/
theorem timeout (h : Sound start a r p calls) (request : ActivityRequest) (attempts : Nat)
    {b s : Nat}
    (ha : attempts + b ≤ a + 6) (hr : attempts - 1 + s ≤ r + 3) :
    Sound start b s { p with usage := chargeRecoverableActivityError p.usage attempts }
      (calls ++ [⟨.executeStep, request, .activityError (some "ReadTimeout"), p⟩]) := by
  have hcalled : Sound start a r p
      (calls ++ [⟨.executeStep, request, .activityError (some "ReadTimeout"), p⟩]) := h.call nofun
  refine hcalled.setUsage ?_ h.recoveries h.replans ?_ ?_ h.replaced h.unused ?_
  · have hle := DurableUsage.Le.refl p.usage
    exact { hle with
      activityAttempts := Nat.le_add_right _ _
      retries := Nat.le_add_right _ _
      faults := Nat.le_add_right _ _ }
  · have hattempts := h.attempts
    unfold chargeRecoverableActivityError
    dsimp only
    omega
  · have hretries := h.retries
    unfold chargeRecoverableActivityError
    dsimp only
    omega
  · intro hall
    obtain ⟨hbefore, hlast⟩ := fewer hall
    obtain ⟨_, hcreates, hreplays, hmismatches, _⟩ := h.harmless hbefore
    exact ⟨hlast.faults ⟨rfl, .inr rfl⟩, hcreates, hreplays, hmismatches⟩

/-- A step of the topology is completed. -/
theorem complete (h : Sound start a r p calls) {step : StepId} {receipts : List Digest}
    (hnew : step ∉ p.completed) (hinside : ∀ s ∈ p.completed, s ∈ p.topology)
    (hstep : step ∈ p.topology)
    (hfrugal : (∀ call ∈ calls, call.Frugal start) →
      (p.receipts ++ receipts).length ≤ start.budget.maxReceipts) :
    Sound start (a + 2) r
      { p with completed := p.completed ++ [step], receipts := p.receipts ++ receipts } calls := by
  have hnodup : (p.completed ++ [step]).Nodup := by
    refine List.nodup_append.mpr ⟨h.completed.1, List.nodup_singleton _, ?_⟩
    intro s hs t ht hst
    rw [List.mem_singleton.mp ht] at hst
    exact hnew (hst ▸ hs)
  have hsubset : p.completed ++ [step] ⊆ p.topology := by
    intro s hs
    rcases List.mem_append.mp hs with hs | hs
    · exact hinside s hs
    · rw [List.mem_singleton.mp hs]
      exact hstep
  have hlength := (List.subperm_of_subset hnodup hsubset).length_le
  exact { h with
    below := fun c hc => (h.below c hc).mono (List.subset_append_left _ _) le_rfl le_rfl
      (List.prefix_append _ _) (.refl _)
    attempts := by
      have hattempts := h.attempts
      dsimp only
      rw [List.length_append, List.length_singleton]
      omega
    completed := ⟨hnodup, hlength.trans h.topology⟩
    frugal := fun hall => ⟨hfrugal hall, (h.frugal hall).2⟩ }

theorem nextEpoch (h : Sound start a r p calls)
    (hroom : p.epoch + 1 ≤ start.budget.maxSessionRecoveries + 1) :
    Sound start a r { p with epoch := p.epoch + 1 } calls :=
  { h with
    below := fun c hc => (h.below c hc).mono (List.Subset.refl _) (Nat.le_succ _) le_rfl
      (List.prefix_refl _) (.refl _)
    epoch := ⟨Nat.le_add_left _ _, hroom⟩ }

theorem nextRevision (h : Sound start a r p calls)
    (hroom : p.revision + 1 ≤ start.budget.maxRevisions) :
    Sound start a r { p with revision := p.revision + 1 } calls :=
  { h with
    below := fun c hc => (h.below c hc).mono (List.Subset.refl _) le_rfl (Nat.le_succ _)
      (List.prefix_refl _) (.refl _)
    revision := ⟨Nat.le_add_left _ _, hroom⟩ }

theorem recovered (h : Sound start a r p calls)
    (hroom : p.usage.sessionRecoveries + 1 ≤ start.budget.maxSessionRecoveries) :
    Sound start a r
      { p with usage := { p.usage with sessionRecoveries := p.usage.sessionRecoveries + 1 } }
      calls := by
  have hle := DurableUsage.Le.refl p.usage
  refine h.setUsage { hle with sessionRecoveries := Nat.le_succ _ } hroom h.replans h.attempts
    h.retries h.replaced h.unused ?_
  intro hall
  obtain ⟨hfaults, hcreates, hreplays, hmismatches, _⟩ := h.harmless hall
  exact ⟨hfaults, hcreates, hreplays, hmismatches⟩

theorem replanned (h : Sound start a r p calls) (replaced : Nat)
    (hroom : p.usage.replans + 1 ≤ start.budget.maxReplans) (hreplaced : replaced ≤ 16) :
    Sound start a r
      { p with usage := { p.usage with
          replans := p.usage.replans + 1
          replacedNodes := p.usage.replacedNodes + replaced } } calls := by
  have hle := DurableUsage.Le.refl p.usage
  refine h.setUsage { hle with replans := Nat.le_succ _, replacedNodes := Nat.le_add_right _ _ }
    h.recoveries hroom h.attempts h.retries ?_ h.unused ?_
  · have hbefore := h.replaced
    dsimp only
    omega
  · intro hall
    obtain ⟨hfaults, hcreates, hreplays, hmismatches, _⟩ := h.harmless hall
    exact ⟨hfaults, hcreates, hreplays, hmismatches⟩

theorem setPlan (h : Sound start a r p calls) (planHash : Option Digest) {topology : List StepId}
    (htopology : topology.length ≤ 16) :
    Sound start a r { p with planHash := planHash, topology := topology } calls :=
  { h with
    below := fun c hc => (h.below c hc).mono (List.Subset.refl _) le_rfl le_rfl
      (List.prefix_refl _) (.refl _)
    topology := htopology }

/-- A valid checkpoint on the variables of the run is appended. -/
theorem append (h : Sound start a r p calls) {c : Checkpoint} {planHash : Digest} {reason : String}
    {completed remaining : List StepId} {deadline : Time}
    (hfields : c.fields =
      { workflowId := start.workflowId
        runId := start.runId
        taskId := start.taskId
        planHash := planHash
        revision := p.revision
        topology := p.topology
        completedStepIds := completed
        remainingStepIds := remaining
        sessionEpoch := p.epoch
        absoluteDeadlineMs := deadline / 1000
        usage := p.usage
        receiptHashes := p.receipts
        closedReason := reason
        parentCheckpointHash := lastHash p.checkpoints })
    (hvalid : validateCheckpoint c = true) (hfaults : p.usage.faults ≤ start.budget.maxFaults)
    (hcompleted : ∀ step, step ∈ completed ↔ step ∈ p.completed)
    (hfrugal : (∀ call ∈ calls, call.Frugal start) →
      p.checkpoints.length < start.budget.maxCheckpoints)
    (hharmless : (∀ call ∈ calls, call.Harmless) → p.checkpoints.length < 18) :
    Sound start a r { p with checkpoints := p.checkpoints ++ [c] } calls := by
  have hall : ∀ {P : Checkpoint → Prop}, (∀ x ∈ p.checkpoints, P x) → P c →
      ∀ x ∈ p.checkpoints ++ [c], P x := by
    intro P hold hc x hx
    rcases List.mem_append.mp hx with hx | hx
    · exact hold x hx
    · rw [List.mem_singleton.mp hx]
      exact hc
  have hnext : ∀ d, p.checkpoints.getLast? = some d → Follows d c := by
    intro d hd
    have hbelow := h.below d (List.mem_of_getLast? hd)
    have hhash : lastHash p.checkpoints = d.checkpointHash := by
      unfold lastHash
      rw [hd]
    constructor
    · rw [hfields, ← hhash]
    · rw [hfields]
      exact fun step hstep => (hcompleted step).mpr (hbelow.completed hstep)
    · rw [hfields]
      exact hbelow.epoch
    · rw [hfields]
      exact hbelow.revision
    · rw [hfields]
      exact hbelow.receipts
    · rw [hfields]
      exact hbelow.usage
  refine { h with
    chain := ?_
    first := ?_
    valid := hall h.valid hvalid
    budget := hall h.budget ?_
    below := hall ?_ ?_
    frugal := ?_
    harmless := ?_ }
  · refine List.isChain_append.mpr ⟨h.chain, List.isChain_singleton c, ?_⟩
    intro d hd x hx
    rw [List.head?_cons, Option.mem_def] at hx
    cases hx
    exact hnext d hd
  · intro d hd
    dsimp only at hd
    cases hcheckpoints : p.checkpoints with
    | nil =>
        rw [hcheckpoints, List.nil_append, List.head?_cons] at hd
        cases hd
        rw [hfields]
        dsimp only
        rw [hcheckpoints]
        rfl
    | cons x rest =>
        rw [hcheckpoints, List.cons_append, List.head?_cons] at hd
        cases hd
        refine h.first _ ?_
        rw [hcheckpoints]
        rfl
  · constructor
    · rw [hfields]
      exact hfaults
    · rw [hfields]
      exact h.recoveries
    · rw [hfields]
      exact h.replans
    · rw [hfields]
      exact h.revision.2
  · exact fun x hx => (h.below x hx).mono (List.Subset.refl _) le_rfl le_rfl (List.prefix_refl _)
      (.refl _)
  · constructor
    · rw [hfields]
      exact fun step hstep => (hcompleted step).mp hstep
    · rw [hfields]
    · rw [hfields]
    · rw [hfields]
    · rw [hfields]
      exact .refl _
  · intro hcalls
    refine ⟨(h.frugal hcalls).1, ?_⟩
    dsimp only
    rw [List.length_append, List.length_singleton]
    exact hfrugal hcalls
  · intro hcalls
    obtain ⟨h1, h2, h3, h4, _⟩ := h.harmless hcalls
    refine ⟨h1, h2, h3, h4, ?_⟩
    dsimp only
    rw [List.length_append, List.length_singleton]
    exact hharmless hcalls

end Sound

end

end FlowPilot.Recovery.Workflow
