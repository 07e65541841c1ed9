import FlowPilot.Trace.Reading

/-!
# Traces that can be read back

What the services write for a run can be listed and exported, unless the outcome that `complete`
records for it reports values that `TraceAttributes` or the totals do not admit.
-/

open FlowPilot.Lib Relation

namespace FlowPilot

open Control (listObservabilityEvents buildRunTraceExport)
open Worker (WorkItem TemporalOutcome Repository Locked metric planningUsage outcomeEntries)

/-! ## The events of an outcome -/

/-- The values of an outcome that its trace can be read back with.  The planning summary and the
cost event both count the usage. -/
structure Worker.TemporalOutcome.Exportable (outcome : TemporalOutcome) : Prop where
  activityAttempts : metric outcome.result.usage "activity_attempts" ≤ 64
  retries : metric outcome.result.usage "retries" ≤ 64
  sessionRecoveries : metric outcome.result.usage "session_recoveries" ≤ 8
  replans : metric outcome.result.usage "replans" ≤ 8
  checkpointCount : outcome.result.checkpointCount ≤ 64
  steps : outcome.result.completedStepIds.length ≤ 16
  stepIds : ∀ stepId ∈ outcome.result.completedStepIds, Control.matchesStep stepId = true
  routeDecisions : metric (planningUsage outcome.result) "route_decisions" ≤ 1000000
  elapsed : metric (planningUsage outcome.result) "elapsed_ms" ≤ 3600000
  domObservations : metric (planningUsage outcome.result) "dom_observations" ≤ 1000000
  images : metric (planningUsage outcome.result) "images" ≤ 1000000
  capture : metric (planningUsage outcome.result) "capture_ms" ≤ 3600000
  modelCalls : 2 * outcome.reported "model_calls" ≤ 1000000
  inputTokens : 2 * outcome.reported "input_tokens" ≤ 1000000000
  outputTokens : 2 * outcome.reported "output_tokens" ≤ 1000000000
  fakeCost : 2 * outcome.reported "fake_cost_microusd" ≤ 1000000000

/-- The counts of an outcome's events with their bounds. -/
def countBounds : List (String × Nat) :=
  [("activity_attempts", 64), ("retries", 64), ("session_recoveries", 8), ("replans", 8),
    ("checkpoint_count", 64), ("step_count", 64), ("count", 1000000),
    ("route_decisions", 1000000), ("duration_ms", 3600000), ("dom_observations", 1000000),
    ("images", 1000000), ("latency_ms", 3600000), ("model_calls", 1000000),
    ("input_tokens", 1000000000), ("output_tokens", 1000000000),
    ("fake_cost_microusd", 1000000000), ("real_cost_microusd", 0)]

theorem traceFields_countBounds : ∀ bound ∈ countBounds, ∀ n : Nat,
    Control.validTraceField (bound.1, .num n) = decide ((0 : Int) ≤ n ∧ (n : Int) ≤ bound.2) := by
  unfold countBounds
  simp only [List.forall_mem_cons, List.not_mem_nil, false_implies, implies_true, and_true]
  refine ⟨?_, ?_, ?_, ?_, ?_, ?_, ?_, ?_, ?_, ?_, ?_, ?_, ?_, ?_, ?_, ?_, ?realCost⟩
  case realCost =>
    intro n
    show decide ((n : Int) = 0) = decide ((0 : Int) ≤ n ∧ (n : Int) ≤ 0)
    apply decide_eq_decide.mpr
    omega
  all_goals
    intro n
    rfl

theorem legibleField_iff {key : String} {value : Json} (h : key ≠ "outbox_id") :
    LegibleField (key, value) ↔ Control.validTraceField (key, value) = true := by
  refine ⟨?_, .inl⟩
  rintro (hvalid | ⟨i, hid⟩)
  · exact hvalid
  · exact absurd (congrArg Prod.fst hid) h

theorem legible_count {key : String} {high : Nat} (hkey : (key, high) ∈ countBounds) {n : Nat} :
    LegibleField (key, .num n) ↔ n ≤ high := by
  have hother : key ≠ "outbox_id" := by
    rintro rfl
    have hnone : "outbox_id" ∉ countBounds.map Prod.fst := by decide
    exact hnone (List.mem_map_of_mem hkey)
  rw [legibleField_iff hother, traceFields_countBounds _ hkey n, decide_eq_true_eq,
    and_iff_right (Int.natCast_nonneg n)]
  exact Int.ofNat_le

theorem legible_of_le {key : String} {high n : Nat} (hkey : (key, high) ∈ countBounds)
    (h : n ≤ high) : LegibleField (key, .num n) :=
  (legible_count hkey).mpr h

theorem legible_step {stepId : String} :
    LegibleField ("step_id", .str stepId) ↔ Control.matchesStep stepId = true :=
  legibleField_iff (by decide)

theorem legible_steps {steps : List String} :
    LegibleField ("completed_step_ids", .arr (steps.map .str)) ↔
      steps.length ≤ 16 ∧ ∀ stepId ∈ steps, Control.matchesStep stepId = true := by
  rw [legibleField_iff (by decide)]
  show Control.stepsField (.arr (steps.map .str)) = true ↔ _
  unfold Control.stepsField
  rw [Bool.and_eq_true, decide_eq_true_eq, List.length_map, List.all_eq_true,
    List.forall_mem_map]

theorem idChar_hexByte {b : Nat} (h : hexByte b = true) : idChar b = true := by
  unfold hexByte at h
  unfold idChar isLower
  simp only [Bool.or_eq_true, Bool.and_eq_true, Nat.ble_eq] at h ⊢
  rcases h with hdigit | hletter
  · exact .inl (.inr hdigit)
  · exact .inl (.inl (.inl (by omega)))

theorem legible_receipt (d : Digest) : LegibleField ("receipt_reference", .str d.hex) := by
  refine .inl ?_
  show ((utf8 d.hex).all idChar &&
    decide (8 ≤ (utf8 d.hex).length ∧ (utf8 d.hex).length ≤ 80)) = true
  rw [Bool.and_eq_true, List.all_eq_true, length_hex]
  exact ⟨fun b hb => idChar_hexByte (hexByte_of_hex d b hb), rfl⟩

theorem legible_checkpoint (checkpoint : Option Digest) :
    LegibleField ("checkpoint_hash", .ofOption .digest checkpoint) := by
  cases checkpoint with
  | none => exact .inl rfl
  | some d => exact legible_digest (by decide) d

theorem Legible.append {attributes more : List (String × Json)} (h : Legible attributes)
    (hmore : Legible more) : Legible (attributes ++ more) := by
  intro f hf
  rcases List.mem_append.mp hf with hleft | hright
  · exact h f hleft
  · exact hmore f hright

section

variable [Sha256] {item : WorkItem} {outcome : TemporalOutcome} {terminalStatus : RunStatus}
  {receipt : Digest} {auditSequence terminalVersion : Nat}

omit [Sha256] in
theorem legible_common (hattempts : item.attemptCount ≤ 3) (hversion : 1 ≤ terminalVersion) :
    Legible (Worker.outcomeCommon item terminalStatus terminalVersion) :=
  .cons (legible_runStatus terminalStatus) <| .cons (legible_digest (by decide) _) <|
  .cons (legible_digest (by decide) _) <| .cons (legible_natural (.inl rfl) _) <|
  .cons (legible_attempts hattempts) <| .cons (legible_positive (.inr rfl) hversion) <|
  .cons (.inl rfl) .nil

omit [Sha256] in
theorem legible_stepEntries {common : List (String × Json)} (hcommon : Legible common)
    {steps : List String} {index : Nat} (hindex : index + steps.length ≤ 1000001)
    (hsteps : ∀ stepId ∈ steps, Control.matchesStep stepId = true) {entry : TraceEntry}
    (hentry : entry ∈ Worker.stepEntries common index steps) : Legible entry.attributes := by
  induction steps generalizing index with
  | nil => cases hentry
  | cons step rest ih =>
      rw [List.length_cons] at hindex
      rw [List.forall_mem_cons] at hsteps
      rcases List.mem_cons.mp hentry with rfl | hrest
      · have hcount : index ≤ 1000000 := by omega
        exact hcommon.append (.cons (legible_step.mpr hsteps.1) <|
          .cons (legible_of_le (by decide) hcount) .nil)
      · exact ih (by omega) hsteps.2 hrest

omit [Sha256] in
theorem legible_outcome (hattempts : item.attemptCount ≤ 3) (hsequence : 1 ≤ auditSequence)
    (hversion : 1 ≤ terminalVersion) (h : outcome.Exportable) {entry : TraceEntry}
    (hentry : entry ∈ Worker.outcomeEntries item outcome terminalStatus receipt.hex auditSequence
      terminalVersion) : Legible entry.attributes := by
  have hcommon : Legible (Worker.outcomeCommon item terminalStatus terminalVersion) :=
    legible_common hattempts hversion
  have hsteps : outcome.result.completedStepIds.length ≤ 64 := Nat.le_trans h.steps (by decide)
  have hcalls : outcome.reported "model_calls" ≤ 1000000 := by have := h.modelCalls; omega
  have hinput : outcome.reported "input_tokens" ≤ 1000000000 := by have := h.inputTokens; omega
  have houtput : outcome.reported "output_tokens" ≤ 1000000000 := by have := h.outputTokens; omega
  have hcost : outcome.reported "fake_cost_microusd" ≤ 1000000000 := by have := h.fakeCost; omega
  have hcheckpoint := legible_checkpoint outcome.result.latestCheckpointHash
  have hreceipt := legible_receipt receipt
  have haudit : LegibleField ("audit_sequence", .num auditSequence) :=
    legible_positive (.inl rfl) hsequence
  unfold Worker.outcomeEntries at hentry
  simp only [List.mem_append, List.mem_cons, List.not_mem_nil, or_false] at hentry
  rcases hentry with ((rfl | rfl) | hstep) | rfl | rfl | rfl | rfl | rfl | rfl
  · exact hcommon.append (.cons (legible_of_le (by decide) h.activityAttempts) <|
      .cons (legible_of_le (by decide) h.retries) <| .cons (legible_of_le (by decide) h.sessionRecoveries) <|
      .cons (legible_of_le (by decide) h.replans) <| .cons (legible_of_le (by decide) h.checkpointCount) <|
      .cons hcheckpoint <| .cons (legible_steps.mpr ⟨h.steps, h.stepIds⟩) <|
      .cons (legible_of_le (by decide) hsteps) .nil)
  · exact hcommon.append (.cons (legible_of_le (by decide) hcalls) <|
      .cons (legible_of_le (by decide) hinput) <| .cons (legible_of_le (by decide) houtput) <|
      .cons (legible_of_le (by decide) h.routeDecisions) <| .cons (legible_of_le (by decide) h.elapsed) <|
      .cons (legible_of_le (by decide) hcost) <| .cons (.inl rfl) .nil)
  · exact legible_stepEntries hcommon (by omega) h.stepIds hstep
  · exact hcommon.append (.cons (legible_of_le (by decide) hsteps) <|
      .cons (legible_of_le (by decide) h.domObservations) <| .cons (legible_of_le (by decide) h.images) <|
      .cons (legible_of_le (by decide) h.capture) .nil)
  · exact hcommon.append (.cons hreceipt <| .cons hcheckpoint .nil)
  · exact hcommon.append (.cons (legible_of_le (by decide) hcalls) <|
      .cons (legible_of_le (by decide) hinput) <| .cons (legible_of_le (by decide) houtput) <|
      .cons (legible_of_le (by decide) hcost) <| .cons (.inl rfl) .nil)
  · exact hcommon.append (.cons hreceipt .nil)
  · exact hcommon.append (.cons haudit .nil)
  · exact hcommon.append (.cons hreceipt <| .cons hcheckpoint <| .cons haudit .nil)

omit [Sha256] in
theorem exportable_of_legible
    (hlegible : ∀ entry ∈ Worker.outcomeEntries item outcome terminalStatus receipt.hex
      auditSequence terminalVersion, Legible (given entry.attributes))
    (hvalid : Control.CostSummary.valid
      { modelCalls := 2 * outcome.reported "model_calls"
        inputTokens := 2 * outcome.reported "input_tokens"
        outputTokens := 2 * outcome.reported "output_tokens"
        fakeCostMicrousd := 2 * outcome.reported "fake_cost_microusd" }) :
    outcome.Exportable := by
  unfold Worker.outcomeEntries at hlegible
  simp only [List.forall_mem_append, List.forall_mem_cons] at hlegible
  obtain ⟨⟨⟨hrecovery, hplanning, _⟩, _⟩, hbrowser, _⟩ := hlegible
  have hcount : ∀ {attributes : List (String × Json)}, Legible (given attributes) →
      ∀ (key : String) {high n : Nat}, (key, high) ∈ countBounds →
        (key, Json.num n) ∈ attributes → n ≤ high := by
    intro attributes hgiven key high n hkey hmem
    exact (legible_count hkey).mp (hgiven _ (List.mem_filter.mpr ⟨hmem, rfl⟩))
  have hsteps : outcome.result.completedStepIds.length ≤ 16 ∧
      ∀ stepId ∈ outcome.result.completedStepIds, Control.matchesStep stepId = true :=
    legible_steps.mp (hrecovery _ (List.mem_filter.mpr ⟨by simp, rfl⟩))
  obtain ⟨⟨_, hcalls⟩, ⟨_, hinput⟩, ⟨_, houtput⟩, _, hcost⟩ := hvalid
  dsimp only at hcalls hinput houtput hcost
  exact
    { activityAttempts := hcount hrecovery "activity_attempts" (by decide) (by simp)
      retries := hcount hrecovery "retries" (by decide) (by simp)
      sessionRecoveries := hcount hrecovery "session_recoveries" (by decide) (by simp)
      replans := hcount hrecovery "replans" (by decide) (by simp)
      checkpointCount := hcount hrecovery "checkpoint_count" (by decide) (by simp)
      steps := hsteps.1
      stepIds := hsteps.2
      routeDecisions := hcount hplanning "route_decisions" (by decide) (by simp)
      elapsed := hcount hplanning "duration_ms" (by decide) (by simp)
      domObservations := hcount hbrowser "dom_observations" (by decide) (by simp)
      images := hcount hbrowser "images" (by decide) (by simp)
      capture := hcount hbrowser "latency_ms" (by decide) (by simp)
      modelCalls := by omega
      inputTokens := by omega
      outputTokens := by omega
      fakeCost := by omega }

end

/-! ## The trace after an outcome -/

section

variable [Sha256] {db after : Db} {organizationId : OrganizationId} {runId : RunId}

/-- The event stores the attributes of the entry for the run. -/
structure Stores (organizationId : OrganizationId) (runId : RunId) (entry : TraceEntry)
    (event : ObservabilityEvent) : Prop where
  organization : event.organizationId = organizationId
  run : event.runId = runId
  checked : Worker.safeTraceAttributes entry.attributes = .ok event.attributesJson

theorem appendTraceEvents_stored {entries : List TraceEntry} {now : Time}
    (hrun : (db.runs.one? fun r => r.organizationId = organizationId ∧ r.runId = runId).isSome)
    (h : Worker.appendTraceEvents db organizationId runId now entries = .ok after) :
    ∃ events, after.traces = db.traces ++ events ∧
      List.Forall₂ (Stores organizationId runId) entries events := by
  induction entries generalizing db with
  | nil =>
      cases h
      exact ⟨[], (List.append_nil _).symm, .nil⟩
  | cons entry rest ih =>
      obtain ⟨mid, hentry, hrest⟩ := ok_of_bind h
      have hmid : ∃ event, mid = { db with traces := db.traces ++ [event] } ∧
          Stores organizationId runId entry event := by
        unfold Worker.appendTraceEvent at hentry
        rw [Option.isNone_eq_false_iff.mpr hrun, if_neg Bool.false_ne_true] at hentry
        dsimp only at hentry
        split at hentry
        · cases hentry
        · obtain ⟨attributes, hchecked, hentry⟩ := ok_of_bind hentry
          cases hentry
          exact ⟨_, rfl, rfl, rfl, hchecked⟩
      obtain ⟨event, rfl, hstores⟩ := hmid
      obtain ⟨events, htraces, hall⟩ := ih (by exact hrun) hrest
      exact ⟨event :: events, by rw [htraces, List.append_assoc]; rfl, .cons hstores hall⟩

omit [Sha256] in
theorem legible_stores_iff {entries : List TraceEntry} {events : List ObservabilityEvent}
    (hnodup : ∀ entry ∈ entries, (entry.attributes.map (·.1)).Nodup)
    (h : List.Forall₂ (Stores organizationId runId) entries events) :
    (∀ e ∈ events, e.Legible) ↔ ∀ entry ∈ entries, Legible (given entry.attributes) := by
  induction h with
  | nil => exact iff_of_true (List.forall_mem_nil _) (List.forall_mem_nil _)
  | cons hstores _ ih =>
      rw [List.forall_mem_cons] at hnodup
      rw [List.forall_mem_cons, List.forall_mem_cons, ih hnodup.2,
        ← legible_stored_iff hnodup.1 hstores.checked]
      rfl

omit [Sha256] in
theorem tracesOf_stores {entries : List TraceEntry} {traces events : List ObservabilityEvent}
    (h : List.Forall₂ (Stores organizationId runId) entries events) (org : OrganizationId)
    (run : RunId) : tracesOf (traces ++ events) org run = tracesOf traces org run ++
      if organizationId = org ∧ runId = run then events else [] := by
  unfold tracesOf
  rw [List.filter_append]
  congr 1
  induction h with
  | nil => rw [List.filter_nil, ite_self]
  | cons hstores _ ih =>
      by_cases hrun : organizationId = org ∧ runId = run
      · rw [if_pos hrun] at ih ⊢
        rw [List.filter_cons_of_pos (by simpa [hstores.organization, hstores.run] using hrun), ih]
      · rw [if_neg hrun] at ih ⊢
        rw [List.filter_cons_of_neg (by simpa [hstores.organization, hstores.run] using hrun), ih]

end

/-! ## Items -/

section

variable [Sha256] {db after : Db}

theorem Worker.claimNext_attempts {w : Repository} {locked : Locked} {now : Time}
    {item : WorkItem} (h : claimNext w locked now db = .ok (some item, after)) :
    item.attemptCount ≤ 3 := by
  have hexpired : ∀ {run outbox organizationId},
      expireQueued w db run outbox organizationId now ≠ .ok (some item, after) := by
    intro run outbox organizationId h
    unfold expireQueued at h
    dsimp only at h
    obtain ⟨db₁, _, h⟩ := ok_of_bind h
    obtain ⟨db₂, _, h⟩ := ok_of_bind h
    obtain ⟨db₃, _, h⟩ := ok_of_bind h
    obtain ⟨⟨sequence, db₄⟩, _, h⟩ := ok_of_bind h
    obtain ⟨db₅, _, h⟩ := ok_of_bind h
    cases h
  unfold claimNext at h
  split at h
  · cases h
  · dsimp only at h
    split at h
    · obtain ⟨db₁, _, h⟩ := ok_of_bind h
      cases h
    · split at h
      · cases h
      · split at h
        · exact absurd h hexpired
        · split at h
          · obtain ⟨⟨done, db₁⟩, _, h⟩ := ok_of_bind h
            cases h
          · next hattempts =>
              unfold takeLease at h
              dsimp only at h
              obtain ⟨db₁, _, h⟩ := ok_of_bind h
              split at h
              · cases h
              · obtain ⟨db₂, _, h⟩ := ok_of_bind h
                split at h
                · cases h
                · obtain ⟨db₃, _, h⟩ := ok_of_bind h
                  obtain ⟨⟨sequence, db₄⟩, _, h⟩ := ok_of_bind h
                  obtain ⟨db₅, _, h⟩ := ok_of_bind h
                  cases h
                  unfold maximumAttempts at hattempts
                  show _ + 1 ≤ 3
                  omega

theorem World.Step.attempts {world next : World} (h : World.Step world next)
    (hattempts : ∀ item ∈ world.items, item.attemptCount ≤ 3) :
    ∀ item ∈ next.items, item.attemptCount ≤ 3 := by
  have hkept : ∀ {reply : Option WorkItem} {plane : Control.Plane},
      (∀ item, reply = some item → item.attemptCount ≤ 3) →
      ∀ item ∈ (world.after reply plane).items, item.attemptCount ≤ 3 := by
    intro reply plane hreply item hitem
    rcases List.mem_append.mp hitem with hold | hnew
    · exact hattempts item hold
    · exact hreply item (Option.mem_toList.mp hnew)
  cases h with
  | call _ hcommit =>
      refine hkept fun item hreply => ?_
      subst hreply
      obtain ⟨w, locked, now, db, hclaimed, _⟩ := Call.commit_reply hcommit
      exact Worker.claimNext_attempts hclaimed
  | approvals _ => exact hkept fun item hreply => by cases hreply

/-! ## Runs of the services -/

/-- The events of one run can all be read back. -/
def RunLegible (traces : List ObservabilityEvent) (organizationId : OrganizationId)
    (runId : RunId) : Prop :=
  ∀ e ∈ tracesOf traces organizationId runId, e.Legible

theorem Grows.runLegible {traces after : List ObservabilityEvent}
    (h : Grows TraceEntry.Plain traces after) (organizationId : OrganizationId) (runId : RunId) :
    RunLegible after organizationId runId ↔ RunLegible traces organizationId runId := by
  obtain ⟨events, rfl, hall⟩ := h.legible
  unfold RunLegible tracesOf
  rw [List.filter_append, List.forall_mem_append]
  exact and_iff_left fun e he => hall e (List.mem_filter.mp he).1

/-- The events of an outcome are read back if it is exportable, and only then. -/
theorem Worker.Finished.runLegible {item : WorkItem} {outcome : TemporalOutcome} {now : Time}
    (h : Worker.Finished db after item outcome now) (hattempts : item.attemptCount ≤ 3)
    (hbefore : RunLegible db.traces item.organizationId item.runId)
    (husage : ∀ name ∈ usageKeys, usage db.traces item.organizationId item.runId name = 0) :
    RunLegible after.traces item.organizationId item.runId ∧
        (usageCost after.traces item.organizationId item.runId).valid ↔ outcome.Exportable := by
  have hcost : usageCost after.traces item.organizationId item.runId =
      { modelCalls := 2 * outcome.reported "model_calls"
        inputTokens := 2 * outcome.reported "input_tokens"
        outputTokens := 2 * outcome.reported "output_tokens"
        fakeCostMicrousd := 2 * outcome.reported "fake_cost_microusd" } := by
    have hname : ∀ name ∈ usageKeys, usage after.traces item.organizationId item.runId name =
        2 * (outcome.reported name : Int) := by
      intro name hname
      rw [h.accounts.2 name hname, husage name hname, if_pos ⟨rfl, rfl⟩, Int.zero_add]
    unfold usageCost
    rw [hname _ (by decide), hname _ (by decide), hname _ (by decide), hname _ (by decide)]
  obtain ⟨_, _, _, _, _, hfrom, hrun, hsequence, hversion, htraced, hto⟩ := h
  obtain ⟨events, hevents, hstores⟩ := appendTraceEvents_stored hrun htraced
  have hall : RunLegible after.traces item.organizationId item.runId ↔ ∀ e ∈ events, e.Legible := by
    unfold RunLegible
    rw [hto, hevents, hfrom, tracesOf_stores hstores, if_pos ⟨rfl, rfl⟩, List.forall_mem_append]
    exact and_iff_right hbefore
  rw [hcost, hall, legible_stores_iff (fun _ => outcomeEntries_nodup) hstores]
  constructor
  · rintro ⟨hlegible, hvalid⟩
    exact exportable_of_legible hlegible hvalid
  · intro hexportable
    refine ⟨fun entry hentry f hf => ?_, ?_⟩
    · exact legible_outcome hattempts hsequence hversion hexportable hentry f
        (List.mem_filter.mp hf).1
    · have hcalls := hexportable.modelCalls
      have hinput := hexportable.inputTokens
      have houtput := hexportable.outputTokens
      have hfake := hexportable.fakeCost
      unfold Control.CostSummary.valid
      dsimp only
      omega

theorem Worker.Finished.runLegible_other {item : WorkItem} {outcome : TemporalOutcome}
    {now : Time} (h : Worker.Finished db after item outcome now) {organizationId : OrganizationId}
    {runId : RunId} (hother : ¬(item.organizationId = organizationId ∧ item.runId = runId)) :
    RunLegible after.traces organizationId runId ↔ RunLegible db.traces organizationId runId := by
  obtain ⟨_, _, _, _, _, hfrom, hrun, _, _, htraced, hto⟩ := h
  obtain ⟨events, hevents, hstores⟩ := appendTraceEvents_stored hrun htraced
  unfold RunLegible
  rw [hto, hevents, hfrom, tracesOf_stores hstores, if_neg hother, List.append_nil]

/-- The events of one run are read back as before, unless the step completes this run. -/
theorem World.Step.runLegible {world next : World} (hv : world.Valid) (h : World.Step world next)
    (organizationId : OrganizationId) (runId : RunId) :
    (RunLegible next.plane.db.traces organizationId runId ↔
      RunLegible world.plane.db.traces organizationId runId) ∨
    (∃ r ∈ world.plane.db.runs.rows, r.organizationId = organizationId ∧ r.runId = runId ∧
      ¬ r.status.terminal) ∧
    ∃ r ∈ next.plane.db.runs.rows, r.organizationId = organizationId ∧ r.runId = runId ∧
      r.status.terminal := by
  cases h with
  | @call c reply plane hitem hcommit =>
      cases hcomplete : c.isComplete with
      | false =>
          have hgrows := Call.commit_plain
            (fun item h => (hv.issued item (hitem item h)).ownRow) hv.consistent.attempts hcomplete
            hcommit
          exact .inl (hgrows.runLegible organizationId runId)
      | true =>
          cases c with
          | complete w item outcome now =>
              obtain ⟨result, db, hbody, _, rfl⟩ := onDb_ok hcommit
              have hi := hv.issued item (hitem item rfl)
              cases Worker.complete_completed hv.consistent hi hbody with
              | finished hr horganization hrunId hopen _ hfinished =>
                  by_cases hsame : item.organizationId = organizationId ∧ item.runId = runId
                  · obtain ⟨rfl, rfl⟩ := hsame
                    exact .inr ⟨⟨_, hr, horganization, hrunId, hopen⟩, hfinished.accounts.1⟩
                  · exact .inl (hfinished.runLegible_other hsame)
              | refused _ _ _ _ _ _ _ _ _ _ hgrows => exact .inl (hgrows.runLegible _ _)
              | stale hgrows => exact .inl (hgrows.runLegible _ _)
          | _ => cases hcomplete
  | approvals h =>
      refine .inl ?_
      rw [show (world.after none _).plane.db.traces = world.plane.db.traces from h.traces]

/-- The events of a run that is not over can be read back. -/
def Db.OpenLegible (db : Db) : Prop :=
  ∀ organizationId runId, (∀ r ∈ db.runs.rows, r.organizationId = organizationId →
    r.runId = runId → ¬ r.status.terminal) → RunLegible db.traces organizationId runId

theorem World.Step.openLegible {world next : World} (hv : world.Valid)
    (hlegible : world.plane.db.OpenLegible) (h : World.Step world next) :
    next.plane.db.OpenLegible := by
  intro organizationId runId hopen
  rcases h.runLegible hv organizationId runId with hsame | ⟨_, r, hr, horganization, hrunId, hover⟩
  · refine hsame.mpr (hlegible organizationId runId ?_)
    intro r hr horganization hrunId hover
    exact hopen r ((h.tables hv).run_frozen hr hover) horganization hrunId hover
  · exact absurd hover (hopen r hr horganization hrunId)

/-- The trace of a run that is over stays as legible as it is. -/
theorem World.Step.closedLegible {world next : World} (hv : world.Valid)
    (h : World.Step world next) {r : ProductionRun} (hr : r ∈ world.plane.db.runs.rows)
    (hover : r.status.terminal) :
    RunLegible next.plane.db.traces r.organizationId r.runId ↔
      RunLegible world.plane.db.traces r.organizationId r.runId := by
  rcases h.runLegible hv r.organizationId r.runId with hsame | ⟨⟨s, hs, _, hid, hopen⟩, _⟩
  · exact hsame
  · rw [Table.eq_of_key hs hr hid] at hopen
    exact absurd hover hopen

end

section

variable [Sha256]

/-- What the events of all runs satisfy in every reachable state. -/
structure World.Traced (world : World) : Prop where
  valid : world.Valid
  attempts : ∀ item ∈ world.items, item.attemptCount ≤ 3
  spanned : ∀ e ∈ world.plane.db.traces, e.Spanned
  well : ∀ organizationId runId, WellTraced world.plane.db.traces organizationId runId
  bounded : ∀ organizationId runId, traceCount world.plane.db.traces organizationId runId ≤ 256
  legible : world.plane.db.OpenLegible
  unbilled : world.plane.db.Unbilled

omit [Sha256] in
theorem World.traced_start (directory : Directory) (authorities : Table ApprovalAuthority)
    (heads : Table AuditChainHead) : (World.start directory authorities heads).Traced where
  valid := World.valid_start directory authorities heads
  attempts := fun _ h => absurd h List.not_mem_nil
  spanned := fun _ h => absurd h List.not_mem_nil
  well := fun _ _ => ⟨rfl, fun _ h => absurd h List.not_mem_nil⟩
  bounded := fun _ _ => Nat.zero_le 256
  legible := fun _ _ _ _ h => absurd h List.not_mem_nil
  unbilled := fun _ _ _ _ _ => rfl

theorem World.Step.traced {world next : World} (ht : world.Traced) (h : World.Step world next) :
    next.Traced where
  valid := h.valid ht.valid
  attempts := h.attempts ht.attempts
  spanned := (h.grows ht.valid).spanned ht.spanned
  well := fun organizationId runId => (ht.well organizationId runId).grows (h.grows ht.valid)
  bounded := (h.grows ht.valid).bounded ht.bounded
  legible := h.openLegible ht.valid ht.legible
  unbilled := h.unbilled ht.valid ht.unbilled

theorem World.traced_of_run {world next : World} (ht : world.Traced)
    (hrun : ReflTransGen World.Step world next) : next.Traced :=
  invariant_of_run (fun _ _ hs hstep => hstep.traced hs) ht hrun

/-- A run that is over stays as it is, with its trace as legible as it is. -/
theorem World.closedLegible_of_run {world next : World} (hv : world.Valid) {r : ProductionRun}
    (hr : r ∈ world.plane.db.runs.rows) (hover : r.status.terminal)
    (hrun : ReflTransGen World.Step world next) :
    r ∈ next.plane.db.runs.rows ∧ (RunLegible next.plane.db.traces r.organizationId r.runId ↔
      RunLegible world.plane.db.traces r.organizationId r.runId) := by
  have hall := invariant_of_run (I := fun w : World => w.Valid ∧ r ∈ w.plane.db.runs.rows ∧
    (RunLegible w.plane.db.traces r.organizationId r.runId ↔
      RunLegible world.plane.db.traces r.organizationId r.runId))
    (fun _ _ hs hstep => ⟨hstep.valid hs.1, (hstep.tables hs.1).run_frozen hs.2.1 hover,
      (hstep.closedLegible hs.1 hs.2.1 hover).trans hs.2.2⟩) ⟨hv, hr, Iff.rfl⟩ hrun
  exact hall.2

/-! ## Readable runs -/

/-- The trace of the run can be listed and exported. -/
def Readable (db : Db) (run : ProductionRun) : Prop :=
  (∃ events, listObservabilityEvents db run.organizationId run.runId = .ok events) ∧
    ∃ exported, buildRunTraceExport db run = .ok exported

theorem World.Traced.readable_iff {world : World} (ht : world.Traced)
    (htokens : Tokens world.plane.db.traces) {run : ProductionRun}
    (hknown : Control.terminalFailure run ≠ none) :
    Readable world.plane.db run ↔
      RunLegible world.plane.db.traces run.organizationId run.runId ∧
        (usageCost world.plane.db.traces run.organizationId run.runId).valid := by
  have hwell := ht.well run.organizationId run.runId
  have hbounded := ht.bounded run.organizationId run.runId
  unfold Readable
  rw [listing_iff hwell hbounded ht.spanned htokens,
    export_iff hwell hbounded ht.spanned htokens hknown]
  exact ⟨And.right, fun h => ⟨h.1, h⟩⟩

omit [Sha256] in
theorem usageCost_congr {traces after : List ObservabilityEvent} {organizationId : OrganizationId}
    {runId : RunId} (h : ∀ name ∈ usageKeys, usage after organizationId runId name =
      usage traces organizationId runId name) :
    usageCost after organizationId runId = usageCost traces organizationId runId := by
  unfold usageCost
  rw [h _ (by decide), h _ (by decide), h _ (by decide), h _ (by decide)]

omit [Sha256] in
/-- Nothing of a run that is not over is unreadable or accounted. -/
theorem World.Traced.open_run {world : World} (ht : world.Traced) {r : ProductionRun}
    (hr : r ∈ world.plane.db.runs.rows) (hopen : ¬ r.status.terminal)
    (organizationId : OrganizationId) :
    RunLegible world.plane.db.traces organizationId r.runId ∧ ∀ name ∈ usageKeys,
      usage world.plane.db.traces organizationId r.runId name = 0 := by
  have hall : ∀ s ∈ world.plane.db.runs.rows, s.organizationId = organizationId →
      s.runId = r.runId → ¬ s.status.terminal := by
    intro s hs _ hsame
    rw [Table.eq_of_key hs hr hsame]
    exact hopen
  exact ⟨ht.legible _ _ hall, ht.unbilled _ _ hall⟩

/-- A run that is over is read in every later state as it was at its end. -/
theorem World.Traced.over_readable_iff {world later : World} (ht : world.Traced)
    (hlater : ReflTransGen World.Step world later) (htokens : Tokens later.plane.db.traces)
    {r : ProductionRun} (hr : r ∈ world.plane.db.runs.rows) (hover : r.status.terminal)
    (hknown : Control.terminalFailure r ≠ none) {run : ProductionRun}
    (hmem : run ∈ later.plane.db.runs.rows) (hid : run.runId = r.runId) :
    Readable later.plane.db run ↔ RunLegible world.plane.db.traces r.organizationId r.runId ∧
      (usageCost world.plane.db.traces r.organizationId r.runId).valid := by
  obtain ⟨hkept, hlegible⟩ := World.closedLegible_of_run ht.valid hr hover hlater
  rw [Table.eq_of_key hmem hkept hid,
    (World.traced_of_run ht hlater).readable_iff htokens hknown, hlegible,
    usageCost_congr fun name hname => World.closed_of_run ht.valid hr hover hlater hname]

/-- The run of an outcome that is recorded under a valid binding, and its export. -/
theorem World.Traced.recorded {world : World} (ht : world.Traced) {w : Repository}
    {item : WorkItem} {outcome : TemporalOutcome} {now : Time} {db : Db}
    (hitem : item ∈ world.items) (hvalid : Worker.bindingValid world.plane.db item now false = true)
    (hcomplete : Worker.complete w item outcome now world.plane.db = .ok (true, db))
    (htokens : Tokens db.traces) :
    ∃ run ∈ db.runs.rows, (run.organizationId = item.organizationId ∧ run.runId = item.runId) ∧
      (outcome.Exportable → ∃ exported, buildRunTraceExport db run = .ok exported ∧
        exported.cost.modelCalls = 2 * (outcome.reported "model_calls" : Int)) ∧
      (¬ outcome.Exportable → buildRunTraceExport db run = .error .validationError) := by
  have hstep : World.Step world (world.after none { world.plane with db := db }) := by
    refine .call (c := .complete w item outcome now) ?_ ?_
    · intro i hi
      cases hi
      exact hitem
    · show onDb world.plane (fun _ => none) _ = _
      rw [hcomplete]
      rfl
  have hafter := hstep.traced ht
  cases Worker.complete_completed ht.valid.consistent (ht.valid.issued item hitem) hcomplete with
  | refused _ _ _ _ hinvalid => exact absurd hvalid hinvalid
  | finished hr _ hrunId hopen _ hfinished =>
      obtain ⟨hlegible, husage⟩ := ht.open_run hr hopen item.organizationId
      rw [hrunId] at hlegible husage
      have hexportable := hfinished.runLegible (ht.attempts item hitem) hlegible husage
      have hcalls := hfinished.accounts.2 "model_calls" (by decide) item.organizationId item.runId
      rw [husage _ (by decide), if_pos ⟨rfl, rfl⟩, Int.zero_add] at hcalls
      obtain ⟨hr', horganization', hrunId', _, hknown, _⟩ := hfinished
      have hwell := hafter.well item.organizationId item.runId
      have hbounded := hafter.bounded item.organizationId item.runId
      rw [← horganization', ← hrunId'] at hexportable hcalls hwell hbounded
      have hread := export_iff hwell hbounded hafter.spanned htokens hknown
      refine ⟨_, hr', ⟨horganization', hrunId'⟩, fun h => ?_, fun h => ?_⟩
      · obtain ⟨exported, hexported⟩ := hread.mpr (hexportable.mpr h)
        refine ⟨exported, hexported, ?_⟩
        rw [exported_cost hwell hbounded hexported]
        exact hcalls
      · cases hexport : buildRunTraceExport db _ with
        | ok exported => exact absurd (hexportable.mp (hread.mp ⟨exported, hexport⟩)) h
        | error e => rw [export_error hwell hbounded hknown hexport]

/-- When `complete` has ended a run, its trace can be read in every later state exactly when the
outcome is exportable or was not recorded. -/
theorem completed_trace_readable_iff (directory : Directory)
    (authorities : Table ApprovalAuthority) (heads : Table AuditChainHead) (world : World)
    (hrun : ReflTransGen World.Step (World.start directory authorities heads) world)
    (w : Repository) (item : WorkItem) (outcome : TemporalOutcome) (now : Time) (reply : Bool)
    (db : Db) (hitem : item ∈ world.items)
    (hcomplete : Worker.complete w item outcome now world.plane.db = .ok (reply, db)) :
    (reply = true → ∀ later,
      ReflTransGen World.Step (world.after none { world.plane with db := db }) later →
      Tokens later.plane.db.traces → ∀ run ∈ later.plane.db.runs.rows,
      run.organizationId = item.organizationId → run.runId = item.runId →
      (Readable later.plane.db run ↔
        (Worker.bindingValid world.plane.db item now false = true → outcome.Exportable))) ∧
    (reply = false → Tokens db.traces → ∀ run, Control.terminalFailure run ≠ none →
      (Readable db run ↔ Readable world.plane.db run)) := by
  have ht := World.traced_of_run (World.traced_start directory authorities heads) hrun
  have hstep : World.Step world (world.after none { world.plane with db := db }) := by
    refine .call (c := .complete w item outcome now) ?_ ?_
    · intro i hi
      cases hi
      exact hitem
    · show onDb world.plane (fun _ => none) _ = _
      rw [hcomplete]
      rfl
  have hafter := hstep.traced ht
  have hcases := Worker.complete_completed ht.valid.consistent (ht.valid.issued item hitem) hcomplete
  refine ⟨?_, ?_⟩
  · rintro rfl later hlater htokens run hmem _ hid
    cases hcases with
    | finished hr _ hrunId hopen hvalid hfinished =>
        obtain ⟨hlegible, husage⟩ := ht.open_run hr hopen item.organizationId
        rw [hrunId] at hlegible husage
        rw [← hfinished.runLegible (ht.attempts item hitem) hlegible husage]
        obtain ⟨hr', horganization', hrunId', hover, hknown, _⟩ := hfinished
        rw [hafter.over_readable_iff hlater htokens hr' hover hknown hmem
          (hid.trans hrunId'.symm), horganization', hrunId']
        exact ⟨fun h _ => h, fun h => h hvalid⟩
    | refused hr _ hrunId hopen hinvalid hr' horganization' hrunId' hover hknown hgrows =>
        obtain ⟨hlegible, husage⟩ := ht.open_run hr hopen item.organizationId
        rw [hrunId] at hlegible husage
        rw [hafter.over_readable_iff hlater htokens hr' hover hknown hmem
          (hid.trans hrunId'.symm), horganization', hrunId']
        refine iff_of_true ⟨(hgrows.runLegible _ _).mpr hlegible, ?_⟩ fun h => absurd h hinvalid
        have hcost : usageCost db.traces item.organizationId item.runId = ⟨0, 0, 0, 0⟩ := by
          rw [usageCost_congr fun name hname => hgrows.usage hname _ _]
          unfold usageCost
          rw [husage _ (by decide), husage _ (by decide), husage _ (by decide),
            husage _ (by decide)]
        show (usageCost db.traces item.organizationId item.runId).valid
        rw [hcost]
        decide
  · rintro rfl htokens run hknown
    cases hcases with
    | stale hgrows =>
        have hold : Tokens world.plane.db.traces := by
          obtain ⟨events, hevents, _⟩ := hgrows.legible
          intro e he
          refine htokens e ?_
          rw [hevents]
          exact List.mem_append_left _ he
        have hread : Readable db run ↔ RunLegible db.traces run.organizationId run.runId ∧
            (usageCost db.traces run.organizationId run.runId).valid :=
          hafter.readable_iff htokens hknown
        rw [hread, ht.readable_iff hold hknown, hgrows.runLegible,
          usageCost_congr fun name hname => hgrows.usage hname _ _]

end

/-! ## Two outcomes -/

section

attribute [local instance] polynomialSha256

namespace Sample

def started : World := leased.perform (.markStarted worker item (2 * second))

theorem started_run : ReflTransGen World.SerialStep start started := by
  refine World.perform_serial leased_run trivial ?_
  intro i hi
  rw [← Option.some.inj hi]
  exact item_mem

theorem item_started : item ∈ started.items := World.mem_perform item_mem

theorem started_traced : started.Traced :=
  World.traced_of_run (World.traced_start directory .empty heads) (World.run_of_serial started_run)

theorem token_of_length {i : OutboxId} (h : (utf8 i.text).length ≤ 36) : i.token < 2 ^ 128 := by
  have hlead : (utf8 (IdKind.out.prefixText ++ "_")).length = 4 := by decide
  unfold Id.text at h
  rw [utf8_append, List.length_append, hlead, Control.utf8_hexToken, List.length_map] at h
  unfold hexToken at h
  dsimp only at h
  rw [String.toList_ofList, List.length_append, List.length_replicate] at h
  have hdigits : (Nat.toDigits 16 i.token).length ≤ 32 := by omega
  calc i.token < 16 ^ 32 := (Nat.length_toDigits_le_iff (by decide) (by decide)).mp hdigits
    _ = 2 ^ 128 := by decide

/-- The outcome is recorded, and the identifiers in the trace are those of `token_hex(16)`. -/
def hasTokens : Except Failure (Bool × Db) → Bool
  | .ok (true, db) => db.traces.all fun e =>
      match e.attributesJson with
      | .obj fields => fields.all fun f =>
          match f with
          | ("outbox_id", .str s) => decide ((utf8 s).length ≤ 36)
          | _ => true
      | _ => true
  | _ => false

theorem hasTokens_spec {answer : Except Failure (Bool × Db)} (h : hasTokens answer = true) :
    ∃ db, answer = .ok (true, db) ∧ Tokens db.traces := by
  unfold hasTokens at h
  split at h
  · next db =>
      refine ⟨db, rfl, fun e he fields hfields i hi => ?_⟩
      have hevent := List.all_eq_true.mp h e he
      rw [hfields] at hevent
      have hshort := List.all_eq_true.mp hevent _ hi
      split at hshort
      · next s hsame =>
          cases hsame
          exact token_of_length (of_decide_eq_true hshort)
      · next hother => exact absurd rfl (hother i.text)
  · cases h

def recordedTokens (outcome : TemporalOutcome) : Bool :=
  hasTokens (Worker.complete worker item outcome (3 * second) started.plane.db)

theorem recordedTokens_spec {outcome : TemporalOutcome} (h : recordedTokens outcome = true) :
    ∃ db, Worker.complete worker item outcome (3 * second) started.plane.db = .ok (true, db) ∧
      Tokens db.traces :=
  hasTokens_spec h

/-- The agent finished with the given steps and usage. -/
def finishedWith (completedStepIds : List String) (usage : List (String × Json)) :
    TemporalOutcome where
  result :=
    { workflowId := item.workflowId
      runId := item.runId
      taskId := .joiner001v1
      status := .finishedUngraded
      terminalReason := "completed"
      planHash := none
      revision := 1
      sessionEpoch := 1
      completedStepIds := completedStepIds
      checkpointCount := 1
      latestCheckpointHash := some ⟨7⟩
      usage := usage }
  deduplicatedStart := false

/-- The agent finished after two calls of its model. -/
def twoCalls : TemporalOutcome :=
  finishedWith [] [("planning_usage", .obj [("model_calls", .num 2)])]

/-- An activity was attempted more often than `TraceAttributes` admits. -/
def manyAttempts : TemporalOutcome := finishedWith [] [("activity_attempts", .num 65)]

/-- The step has a hyphen. -/
def hyphenated : TemporalOutcome := finishedWith ["create-account"] []

/-- Twice the calls are beyond the bound of the totals. -/
def manyCalls : TemporalOutcome :=
  finishedWith [] [("planning_usage", .obj [("model_calls", .num 600000)])]

/-- The outcome of one step and one retry. -/
def ordinary : TemporalOutcome := finishedWith ["inspect"] [("retries", .num 1)]

/-- What the samples are about, evaluated together. -/
theorem started_evaluated :
    matchesPattern (fun b => isLower b || isUpper b) idChar 7 79 item.workflowId = true ∧
      Worker.bindingValid started.plane.db item (3 * second) false = true ∧
      ([twoCalls, manyAttempts, hyphenated, manyCalls, ordinary].all recordedTokens) = true := by
  decide +kernel

theorem item_bound : Worker.bindingValid started.plane.db item (3 * second) false = true :=
  started_evaluated.2.1

theorem recordedTokens_of_mem {outcome : TemporalOutcome}
    (h : outcome ∈ [twoCalls, manyAttempts, hyphenated, manyCalls, ordinary]) :
    recordedTokens outcome = true :=
  List.all_eq_true.mp started_evaluated.2.2 outcome h

theorem twoCalls_exportable : twoCalls.Exportable where
  activityAttempts := by decide
  retries := by decide
  sessionRecoveries := by decide
  replans := by decide
  checkpointCount := by decide
  steps := by decide
  stepIds := by decide
  routeDecisions := by decide
  elapsed := by decide
  domObservations := by decide
  images := by decide
  capture := by decide
  modelCalls := by decide
  inputTokens := by decide
  outputTokens := by decide
  fakeCost := by decide

theorem twoCalls_reported : twoCalls.reportedCost = ⟨2, 0, 0, 0⟩ := rfl

theorem twoCalls_exported :
    ∃ db run exported,
      Worker.complete worker item twoCalls (3 * second) started.plane.db = .ok (true, db) ∧
      (run.organizationId = item.organizationId ∧ run.runId = item.runId) ∧
      buildRunTraceExport db run = .ok exported ∧ exported.cost.modelCalls = 4 := by
  obtain ⟨db, hcomplete, htokens⟩ := recordedTokens_spec
    (recordedTokens_of_mem (.head _))
  obtain ⟨run, _, hids, hexport, _⟩ :=
    started_traced.recorded item_started item_bound hcomplete htokens
  obtain ⟨exported, hexported, hcalls⟩ := hexport twoCalls_exportable
  exact ⟨db, run, exported, hcomplete, hids, hexported, hcalls⟩

end Sample

/-- The export of a run whose outcome reports two calls counts four. -/
theorem export_doubles_usage :
    ReflTransGen World.SerialStep Sample.start Sample.started ∧
      Sample.item ∈ Sample.started.items ∧
    ∃ db run exported,
      Worker.complete Sample.worker Sample.item Sample.twoCalls (3 * second)
        Sample.started.plane.db = .ok (true, db) ∧
      (run.organizationId = Sample.item.organizationId ∧ run.runId = Sample.item.runId) ∧
      buildRunTraceExport db run = .ok exported ∧
      exported.cost.modelCalls = 4 ∧ Sample.twoCalls.reportedCost.modelCalls = 2 := by
  obtain ⟨db, run, exported, hcomplete, hids, hexported, hcalls⟩ := Sample.twoCalls_exported
  refine ⟨Sample.started_run, Sample.item_started, db, run, exported, hcomplete, hids, hexported,
    hcalls, ?_⟩
  rw [Sample.twoCalls_reported]

theorem exported_cost_iff_twoCalls :
    ∃ db run exported,
      Worker.complete Sample.worker Sample.item Sample.twoCalls (3 * second)
        Sample.started.plane.db = .ok (true, db) ∧
      buildRunTraceExport db run = .ok exported ∧
      exported.cost ≠ Sample.twoCalls.reportedCost := by
  obtain ⟨db, run, exported, hcomplete, hids, hexported, _⟩ := Sample.twoCalls_exported
  refine ⟨db, run, exported, hcomplete, hexported, fun hequal => ?_⟩
  have hnone := (exported_cost_iff Sample.directory .empty Sample.heads Sample.started
    (World.run_of_serial Sample.started_run) Sample.worker Sample.item Sample.twoCalls (3 * second)
    db Sample.item_started hcomplete _ .refl run hids exported hexported).mp hequal
  rw [Sample.twoCalls_reported] at hnone
  cases hnone

end

/-! ## Outcomes that cannot be read back -/

/-- The schema of `WorkflowResult`, where the types of the fields do not say it. -/
structure Worker.WorkflowResult.Conforms (result : WorkflowResult) : Prop where
  workflowId : matchesPattern (fun b => isLower b || isUpper b) idChar 7 79 result.workflowId = true
  terminalReason : 1 ≤ textLength result.terminalReason ∧ textLength result.terminalReason ≤ 80
  revision : 1 ≤ result.revision ∧ result.revision ≤ 2
  sessionEpoch : 1 ≤ result.sessionEpoch ∧ result.sessionEpoch ≤ 3
  steps : result.completedStepIds.length ≤ 16 ∧
    ∀ stepId ∈ result.completedStepIds, textLength stepId ≤ 40
  checkpointCount : result.checkpointCount ≤ 18

section

attribute [local instance] polynomialSha256

namespace Sample

theorem finishedWith_conforms {completedStepIds : List String} {usage : List (String × Json)}
    (h : completedStepIds.length ≤ 16 ∧ ∀ stepId ∈ completedStepIds, textLength stepId ≤ 40) :
    (finishedWith completedStepIds usage).result.Conforms where
  workflowId := by
    unfold finishedWith
    dsimp only
    exact started_evaluated.1
  terminalReason := show 1 ≤ textLength "completed" ∧ textLength "completed" ≤ 80 by decide
  revision := ⟨Nat.le_refl 1, Nat.le_succ 1⟩
  sessionEpoch := ⟨Nat.le_refl 1, Nat.le_add_left 1 2⟩
  steps := h
  checkpointCount := Nat.le_add_left 1 17

theorem ordinary_exportable : ordinary.Exportable where
  activityAttempts := by decide
  retries := by decide
  sessionRecoveries := by decide
  replans := by decide
  checkpointCount := by decide
  steps := by decide
  stepIds := by decide
  routeDecisions := by decide
  elapsed := by decide
  domObservations := by decide
  images := by decide
  capture := by decide
  modelCalls := by decide
  inputTokens := by decide
  outputTokens := by decide
  fakeCost := by decide

end Sample

/-- Outcomes that the schema admits are recorded, and then the trace of their run cannot be
exported: for a count of its usage, for the form of a step, and for a total. -/
theorem completed_trace_unreadable :
    ReflTransGen World.SerialStep Sample.start Sample.started ∧
      Sample.item ∈ Sample.started.items ∧
    ∀ outcome ∈ [Sample.manyAttempts, Sample.hyphenated, Sample.manyCalls],
      outcome.result.Conforms ∧ ∃ db, ∃ run ∈ db.runs.rows,
        Worker.complete Sample.worker Sample.item outcome (3 * second)
          Sample.started.plane.db = .ok (true, db) ∧
        (run.organizationId = Sample.item.organizationId ∧ run.runId = Sample.item.runId) ∧
        buildRunTraceExport db run = .error .validationError := by
  refine ⟨Sample.started_run, Sample.item_started, fun outcome houtcome => ?_⟩
  have hunreadable : ∀ {outcome : TemporalOutcome}, Sample.recordedTokens outcome = true →
      ¬ outcome.Exportable → ∃ db, ∃ run ∈ db.runs.rows,
        Worker.complete Sample.worker Sample.item outcome (3 * second)
          Sample.started.plane.db = .ok (true, db) ∧
        (run.organizationId = Sample.item.organizationId ∧ run.runId = Sample.item.runId) ∧
        buildRunTraceExport db run = .error .validationError := by
    intro outcome htokens hnot
    obtain ⟨db, hcomplete, htokens⟩ := Sample.recordedTokens_spec htokens
    obtain ⟨run, hmem, hids, _, hexport⟩ :=
      Sample.started_traced.recorded Sample.item_started Sample.item_bound hcomplete htokens
    exact ⟨db, run, hmem, hcomplete, hids, hexport hnot⟩
  rw [List.mem_cons, List.mem_cons, List.mem_singleton] at houtcome
  rcases houtcome with rfl | rfl | rfl
  · exact ⟨Sample.finishedWith_conforms (by decide),
      hunreadable (Sample.recordedTokens_of_mem (by simp)) fun h => absurd h.activityAttempts (by decide)⟩
  · exact ⟨Sample.finishedWith_conforms (by decide),
      hunreadable (Sample.recordedTokens_of_mem (by simp)) fun h => absurd h.stepIds (by decide)⟩
  · exact ⟨Sample.finishedWith_conforms (by decide),
      hunreadable (Sample.recordedTokens_of_mem (by simp)) fun h => absurd h.modelCalls (by decide)⟩

theorem completed_trace_readable_iff_ordinary :
    ∃ db, Worker.complete Sample.worker Sample.item Sample.ordinary (3 * second)
        Sample.started.plane.db = .ok (true, db) ∧
      ∀ run ∈ db.runs.rows, run.organizationId = Sample.item.organizationId →
        run.runId = Sample.item.runId → Readable db run := by
  obtain ⟨db, hcomplete, htokens⟩ := Sample.recordedTokens_spec
    (show Sample.recordedTokens Sample.ordinary = true from
      Sample.recordedTokens_of_mem (by simp))
  refine ⟨db, hcomplete, fun run hmem horganization hid => ?_⟩
  have hread := completed_trace_readable_iff Sample.directory .empty Sample.heads Sample.started
    (World.run_of_serial Sample.started_run) Sample.worker Sample.item Sample.ordinary
    (3 * second) true db Sample.item_started hcomplete
  exact (hread.1 rfl _ .refl htokens run hmem horganization hid).mpr
    fun _ => Sample.ordinary_exportable

end

end FlowPilot
