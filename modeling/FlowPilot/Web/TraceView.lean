import FlowPilot.Web.TraceChecks

/-!
# What the trace view accepts

`parseRunTrace` on the body of an export: which events, which run and which chain of parents it
accepts, and that it keeps what it accepts.
-/

open FlowPilot.Lib FlowPilot.Control

namespace FlowPilot.Web

/-! ## Events -/

/-- The event as the client keeps it. -/
def shownEvent (event : ObservabilityEvent) : SafeTraceEvent :=
  ⟨event.eventSequence, event.phase.value, event.status.value, event.failureCategory.value,
    event.reason.value, isoformat event.observedAt⟩

/-- What the columns of an event hold, and the form of its span ids. -/
structure Presentable (event : ObservabilityEvent) : Prop where
  eventId : event.eventId.token < 2 ^ 128
  sequence : 1 ≤ event.eventSequence ∧ event.eventSequence ≤ 256
  span : matchesHex 16 event.spanId = true
  parent : event.parentSpanId.all (matchesHex 16) = true
  observedAt : event.observedAt < endOfDatetime

theorem passes_event {event : EventRead} (h : Presentable event.toObservabilityEvent) :
    passes (eventFields event) (eventChecks event.organizationId.text event.runId.text
      event.traceId) = true := by
  have hsequence : validInteger 1 256 (.num event.eventSequence) = true :=
    validInteger_nat 1 h.sequence.1 (by decide) (Int.ofNat_le.mpr h.sequence.2)
  have hparent : nullable (stringCheck (matchesHex 16)) (.ofOption .str event.parentSpanId) =
      true := nullable_ofOption fun span hspan => by
    have hall := h.parent
    rw [hspan] at hall
    exact hall
  unfold eventChecks
  refine passes_cons rfl (textCheck_self _) ?_
  refine passes_cons rfl (matchesId_text h.eventId) ?_
  refine passes_cons rfl (textCheck_self _) ?_
  refine passes_cons rfl (textCheck_self _) ?_
  refine passes_cons rfl hsequence ?_
  refine passes_cons rfl (textCheck_self _) ?_
  refine passes_cons rfl h.span ?_
  refine passes_cons rfl hparent ?_
  refine passes_cons rfl (phase_known _) ?_
  refine passes_cons rfl (status_known _) ?_
  refine passes_cons rfl (category_known _) ?_
  refine passes_cons rfl (reason_known _) ?_
  refine passes_cons rfl (matchesSha256_hex _) ?_
  refine passes_cons rfl (matchesSha256_hex _) ?_
  exact passes_cons rfl (validTimestamp_isoformat h.observedAt) (passes_nil _)

theorem parseTraceEvent_obj (item : Item) (organizationId runId traceId : String) :
    parseTraceEvent (.obj item) organizationId runId traceId = (do
      throwUnless (exactKeys item eventKeys &&
        passes item (eventChecks organizationId runId traceId)) "Trace event is invalid"
      parseTraceAttributes ((field item "attributes").getD .null)
      .ok ⟨numberOf item "event_sequence", stringOf item "phase", stringOf item "status",
        stringOf item "failure_category", stringOf item "reason", stringOf item "observed_at"⟩) :=
  rfl

/-- The event is read from a row whose attributes are those of the schema. -/
structure ReadFrom (event : EventRead) (stored : List (String × Json)) : Prop where
  row : event.attributesJson = .obj stored
  attributes : event.attributes = validatedFields stored
  valid : stored.all validTraceField = true

theorem parseTraceEvent_iff {event : EventRead} {stored : List (String × Json)}
    (h : Presentable event.toObservabilityEvent) (hread : ReadFrom event stored)
    (parsed : SafeTraceEvent) :
    parseTraceEvent (.obj (eventFields event)) event.organizationId.text event.runId.text
        event.traceId = .ok parsed ↔
      parsed = shownEvent event.toObservabilityEvent ∧ Exact stored := by
  have hkeys : exactKeys (eventFields event) eventKeys = true := exactKeys_of rfl
  have hattributes : (field (eventFields event) "attributes").getD .null =
      .obj (attributeFields (validatedFields stored)) := by
    rw [← hread.attributes]
    rfl
  rw [parseTraceEvent_obj, hkeys, passes_event h, hattributes,
    ← parseTraceAttributes_iff hread.valid]
  cases parseTraceAttributes (.obj (attributeFields (validatedFields stored))) with
  | error e => exact iff_of_false (fun h => by cases h) fun h => by cases h.2
  | ok u =>
    constructor
    · intro h
      cases h
      exact ⟨rfl, rfl⟩
    · rintro ⟨rfl, _⟩
      rfl

/-! ## Replay steps -/

def shownStep (step : ReplayStep) : SafeReplayStep :=
  ⟨step.ordinal, step.phase.value, step.status.value, step.failureCategory.value,
    step.reason.value, isoformat step.observedAt⟩

theorem parseReplayStep_body {step : ReplayStep} (hordinal : 1 ≤ step.ordinal ∧ step.ordinal ≤ 256)
    (hdate : step.observedAt < endOfDatetime) :
    parseReplayStep (.obj (replayFields step)) = .ok (shownStep step) := by
  have hkeys : exactKeys (replayFields step) replayKeys = true := exactKeys_of rfl
  have hnumber : validInteger 1 256 (.num step.ordinal) = true :=
    validInteger_nat 1 hordinal.1 (by decide) (Int.ofNat_le.mpr hordinal.2)
  have hpasses : passes (replayFields step) replayChecks = true := by
    unfold replayChecks
    refine passes_cons rfl (textCheck_self _) ?_
    refine passes_cons rfl hnumber ?_
    refine passes_cons rfl (phase_known _) ?_
    refine passes_cons rfl (status_known _) ?_
    refine passes_cons rfl (category_known _) ?_
    refine passes_cons rfl (reason_known _) ?_
    refine passes_cons rfl (matchesSha256_hex _) ?_
    exact passes_cons rfl (validTimestamp_isoformat hdate) (passes_nil _)
  have hthrow : throwUnless (exactKeys (replayFields step) replayKeys &&
      passes (replayFields step) replayChecks) "Replay step is invalid" = .ok () := by
    rw [hkeys, hpasses]
    rfl
  unfold parseReplayStep
  show (throwUnless _ _ >>= _) = _
  rw [hthrow]
  rfl

theorem parseReplaySteps_body {steps : List ReplayStep}
    (h : ∀ step ∈ steps, (1 ≤ step.ordinal ∧ step.ordinal ≤ 256) ∧
      step.observedAt < endOfDatetime) :
    parseReplaySteps (steps.map fun step => .obj (replayFields step)) =
      .ok (steps.map shownStep) := by
  induction steps with
  | nil => rfl
  | cons step rest ih =>
    obtain ⟨hfirst, hrest⟩ := List.forall_mem_cons.mp h
    rw [List.map_cons, parseReplaySteps, parseReplayStep_body hfirst.1 hfirst.2, ih hrest]
    rfl

/-! ## The chain of parents -/

/-- Every event has the one before it for its parent. -/
def Linked : Option String → List ObservabilityEvent → Prop
  | _, [] => True
  | previous, event :: rest => event.parentSpanId = previous ∧ Linked (some event.spanId) rest

theorem parentIs_iff (event : EventRead) (previous : Option String) :
    parentIs (eventFields event) previous = true ↔ event.parentSpanId = previous := by
  have hfield : field (eventFields event) "parent_span_id" =
      some (.ofOption .str event.parentSpanId) := rfl
  unfold parentIs
  rw [hfield]
  cases event.parentSpanId <;> cases previous
  · exact iff_of_true rfl rfl
  · exact iff_of_false (fun h => by cases h) fun h => by cases h
  · exact iff_of_false (fun h => by cases h) fun h => by cases h
  · exact decide_eq_true_iff.trans (Option.some_inj.symm)

theorem parseTraceEvents_cons (organizationId runId traceId : String) (previous : Option String)
    (item : Item) (rest : List Json) :
    parseTraceEvents organizationId runId traceId previous (.obj item :: rest) = (do
      throwUnless (parentIs item previous) "Run trace parent chain is invalid"
      let parsed ← parseTraceEvent (.obj item) organizationId runId traceId
      let events ← parseTraceEvents organizationId runId traceId (some (stringOf item "span_id"))
        rest
      .ok (parsed :: events)) := rfl

/-- Every integer among the attributes of the event is representable. -/
def ExactEvent (event : ObservabilityEvent) : Prop :=
  ∀ stored, event.attributesJson = .obj stored → Exact stored

/-- The test of `ExactEvent`. -/
def exactEvent (event : ObservabilityEvent) : Bool :=
  match event.attributesJson with
  | .obj stored => stored.all fun f => representable f.2
  | _ => true

theorem exactEvent_of (event : ObservabilityEvent) (h : exactEvent event = true) :
    ExactEvent event := by
  intro stored hstored name value hvalue
  unfold exactEvent at h
  rw [hstored] at h
  exact List.all_eq_true.mp h _ (mem_of_lookup hvalue)

/-- The events are accepted when each has the one before it for its parent. -/
theorem parseTraceEvents_iff {organizationId : OrganizationId} {runId : RunId} {traceId : String}
    {events : List EventRead}
    (hown : ∀ event ∈ events, event.organizationId = organizationId ∧ event.runId = runId ∧
      event.traceId = traceId)
    (hpresentable : ∀ event ∈ events, Presentable event.toObservabilityEvent)
    (hread : ∀ event ∈ events, ∃ stored, ReadFrom event stored) (previous : Option String)
    (parsed : List SafeTraceEvent) :
    parseTraceEvents organizationId.text runId.text traceId previous
        (events.map fun event => .obj (eventFields event)) = .ok parsed ↔
      parsed = events.map (fun event => shownEvent event.toObservabilityEvent) ∧
        Linked previous (events.map (·.toObservabilityEvent)) ∧
        ∀ event ∈ events, ExactEvent event.toObservabilityEvent := by
  induction events generalizing previous parsed with
  | nil =>
    constructor
    · intro h
      cases h
      exact ⟨rfl, trivial, fun _ h => absurd h List.not_mem_nil⟩
    · rintro ⟨rfl, _⟩
      rfl
  | cons event rest ih =>
    obtain ⟨⟨horganization, hrun, htrace⟩, hown⟩ := List.forall_mem_cons.mp hown
    obtain ⟨hfirst, hpresentable⟩ := List.forall_mem_cons.mp hpresentable
    obtain ⟨⟨stored, hstored⟩, hread⟩ := List.forall_mem_cons.mp hread
    have hevent := parseTraceEvent_iff hfirst hstored
    rw [horganization, hrun, htrace] at hevent
    have hexact : ExactEvent event.toObservabilityEvent ↔ Exact stored := by
      constructor
      · exact fun h => h stored hstored.row
      · intro h other hother
        rw [hstored.row] at hother
        cases hother
        exact h
    have hspan : stringOf (eventFields event) "span_id" = event.spanId := rfl
    rw [List.map_cons, parseTraceEvents_cons, hspan, List.map_cons, List.map_cons, Linked,
      List.forall_mem_cons, hexact]
    constructor
    · intro h
      obtain ⟨_, hparent, h⟩ := ok_of_bind h
      obtain ⟨shown, hshown, h⟩ := ok_of_bind h
      obtain ⟨others, hothers, h⟩ := ok_of_bind h
      cases h
      obtain ⟨rfl, hvalues⟩ := (hevent shown).mp hshown
      obtain ⟨rfl, hlinked, hall⟩ := (ih hown hpresentable hread _ _).mp hothers
      exact ⟨rfl, ⟨(parentIs_iff event previous).mp (throwUnless_iff.mp hparent), hlinked⟩,
        hvalues, hall⟩
    · rintro ⟨rfl, ⟨hparent, hlinked⟩, hvalues, hall⟩
      rw [throwUnless_iff.mpr ((parentIs_iff event previous).mpr hparent),
        (hevent _).mpr ⟨rfl, hvalues⟩,
        (ih hown hpresentable hread _ _).mpr ⟨rfl, hlinked, hall⟩]
      rfl

/-- The events after the first have the first for their parent, as the writers link them. -/
def Rooted : List ObservabilityEvent → Prop
  | [] => True
  | first :: rest => first.parentSpanId = none ∧
      ∀ event ∈ rest, event.parentSpanId = some first.spanId

/-- All events but the last have the span id of the first. -/
def Repeats (events : List ObservabilityEvent) : Prop :=
  ∀ first ∈ events.head?, ∀ event ∈ events.dropLast, event.spanId = first.spanId

instance (events : List ObservabilityEvent) : Decidable (Repeats events) := by
  unfold Repeats
  infer_instance

theorem linked_from {spanId previous : String} {rest : List ObservabilityEvent}
    (h : ∀ event ∈ rest, event.parentSpanId = some spanId) :
    Linked (some previous) rest ↔
      (rest ≠ [] → previous = spanId) ∧ ∀ event ∈ rest.dropLast, event.spanId = spanId := by
  induction rest generalizing previous with
  | nil => exact iff_of_true trivial ⟨fun h => absurd rfl h, fun _ h => absurd h List.not_mem_nil⟩
  | cons event rest ih =>
    obtain ⟨hfirst, hrest⟩ := List.forall_mem_cons.mp h
    rw [Linked, hfirst, ih hrest, Option.some_inj]
    cases rest with
    | nil =>
      constructor
      · rintro ⟨hspan, _⟩
        exact ⟨fun _ => hspan.symm, fun _ h => absurd h List.not_mem_nil⟩
      · rintro ⟨hspan, _⟩
        exact ⟨(hspan (List.cons_ne_nil _ _)).symm, fun h => absurd rfl h,
          fun _ h => absurd h List.not_mem_nil⟩
    | cons other rest =>
      rw [List.dropLast_cons_cons, List.forall_mem_cons]
      constructor
      · rintro ⟨hspan, hown, hothers⟩
        exact ⟨fun _ => hspan.symm, hown (List.cons_ne_nil _ _), hothers⟩
      · rintro ⟨hspan, hown, hothers⟩
        exact ⟨(hspan (List.cons_ne_nil _ _)).symm, fun _ => hown, hothers⟩

/-- The chain that the client wants is the one the writers make only where span ids repeat. -/
theorem linked_iff {events : List ObservabilityEvent} (h : Rooted events) :
    Linked none events ↔ Repeats events := by
  cases events with
  | nil => exact iff_of_true trivial fun _ h => by cases h
  | cons first rest =>
    obtain ⟨hnone, hrest⟩ := h
    rw [Linked, linked_from hrest]
    constructor
    · rintro ⟨_, _, hall⟩ e he event hevent
      cases he
      cases rest with
      | nil => cases hevent
      | cons other rest =>
        rw [List.dropLast_cons_cons] at hevent
        rcases List.mem_cons.mp hevent with rfl | hmem
        · rfl
        · exact hall event hmem
    · intro hall
      refine ⟨hnone, fun _ => rfl, fun event hevent => ?_⟩
      refine hall first rfl event ?_
      cases rest with
      | nil => cases hevent
      | cons other rest =>
        rw [List.dropLast_cons_cons]
        exact List.mem_cons_of_mem _ hevent

/-- Where the span ids are distinct, no third event is accepted. -/
theorem repeats_iff_of_nodup {events : List ObservabilityEvent}
    (h : (events.map (·.spanId)).Nodup) : Repeats events ↔ events.length ≤ 2 := by
  match events with
  | [] => exact iff_of_true (fun _ h => by cases h) (Nat.zero_le 2)
  | [first] => exact iff_of_true (fun _ _ _ h => absurd h List.not_mem_nil) (Nat.le_succ 1)
  | [first, second] =>
    refine iff_of_true (fun e he event hevent => ?_) (Nat.le_refl 2)
    cases he
    rw [List.mem_singleton.mp hevent]
  | first :: second :: third :: rest =>
    refine iff_of_false (fun hall => ?_) (by simp)
    have hsame := hall first rfl second (by
      rw [List.dropLast_cons_cons, List.dropLast_cons_cons]
      exact List.mem_cons_of_mem _ List.mem_cons_self)
    rw [List.map_cons, List.nodup_cons] at h
    refine h.1 ?_
    rw [← hsame]
    exact List.mem_cons_self

/-! ## The run -/

/-- The run as the client keeps it. -/
def shownRun (run : ProductionRun) : ViewedRun where
  runId := run.runId.text
  organizationId := run.organizationId.text
  taskId := run.taskId.value
  process := run.process.value
  category := run.category.value
  approvalRequestId := run.approvalRequestId.map Id.text
  actionType := run.actionType
  status := run.status.value
  version := run.version
  acceptedAt := isoformat run.acceptedAt
  queuedAt := run.queuedAt.map isoformat
  startedAt := run.startedAt.map isoformat
  finishedAt := run.finishedAt.map isoformat
  updatedAt := latestTimestamp [some (isoformat run.acceptedAt), run.queuedAt.map isoformat,
    run.startedAt.map isoformat, run.finishedAt.map isoformat]
  terminalReason := run.terminalReason.map (·.value)
  receiptReference := run.receiptReference
  auditSequence := run.auditSequence

/-- The dates of the run are dates of `datetime`. -/
structure RunDates (run : ProductionRun) : Prop where
  acceptedAt : run.acceptedAt < endOfDatetime
  queuedAt : ∀ t ∈ run.queuedAt, t < endOfDatetime
  startedAt : ∀ t ∈ run.startedAt, t < endOfDatetime
  finishedAt : ∀ t ∈ run.finishedAt, t < endOfDatetime

/-- The integers of the run are representable. -/
structure ExactRun (run : ProductionRun) : Prop where
  version : (run.version : Int) ≤ maxSafeInteger
  fencingToken : (run.fencingToken : Int) ≤ maxSafeInteger
  auditSequence : (run.auditSequence : Int) ≤ maxSafeInteger

instance (run : ProductionRun) : Decidable (ExactRun run) :=
  decidable_of_iff ((run.version : Int) ≤ maxSafeInteger ∧
      (run.fencingToken : Int) ≤ maxSafeInteger ∧ (run.auditSequence : Int) ≤ maxSafeInteger)
    ⟨fun ⟨hversion, hfence, haudit⟩ => ⟨hversion, hfence, haudit⟩,
      fun h => ⟨h.version, h.fencingToken, h.auditSequence⟩⟩

theorem all_of_option {α : Type} {p : α → Bool} {value : Option α} (h : value.all p = true) :
    ∀ a ∈ value, p a = true := by
  rintro a ha
  rw [ha] at h
  exact h

theorem passes_run {run : ProductionRun} (hread : RunReadable run) (hdates : RunDates run) :
    passes (runFields run) runChecks = true ↔ ExactRun run := by
  have hversion : validInteger (1 : Nat) maxSafeInteger (.num run.version) =
      representable (.num run.version) := validInteger_low hread.version
  have hfence : validInteger (0 : Nat) maxSafeInteger (.num run.fencingToken) =
      representable (.num run.fencingToken) := validInteger_low (Nat.zero_le _)
  have haudit : validInteger (1 : Nat) maxSafeInteger (.num run.auditSequence) =
      representable (.num run.auditSequence) := validInteger_low hread.auditSequence
  constructor
  · intro h
    have hversions := check_of_passes "version" (validInteger 1 maxSafeInteger) h
      (by simp [runChecks]) rfl
    have hfences := check_of_passes "fencing_token" (validInteger 0 maxSafeInteger) h
      (by simp [runChecks]) rfl
    have haudits := check_of_passes "audit_sequence" (validInteger 1 maxSafeInteger) h
      (by simp [runChecks]) rfl
    exact ⟨of_decide_eq_true (hversion.symm.trans hversions),
      of_decide_eq_true (hfence.symm.trans hfences), of_decide_eq_true (haudit.symm.trans haudits)⟩
  · intro h
    have hprocess : (processCategories.map (·.1)).contains run.process.value = true := by
      cases run.process <;> decide
    have hdate : ∀ {value : Option Time}, (∀ t ∈ value, t < endOfDatetime) →
        nullable validTimestamp (.ofOption .time value) = true :=
      fun hvalue => nullable_ofOption fun t ht => validTimestamp_isoformat (hvalue t ht)
    unfold runChecks
    refine passes_cons rfl (textCheck_self _) ?_
    refine passes_cons rfl hread.runId ?_
    refine passes_cons rfl hread.organizationId ?_
    refine passes_cons rfl hread.requesterUserId ?_
    refine passes_cons rfl hread.executorUserId ?_
    refine passes_cons rfl (taskId_known _) ?_
    refine passes_cons rfl hprocess ?_
    refine passes_cons rfl (nullable_ofOption (all_of_option hread.approvalRequestId)) ?_
    refine passes_cons rfl (nullable_ofOption (all_of_option hread.grantId)) ?_
    refine passes_cons rfl (nullable_ofOption (all_of_option hread.executionId)) ?_
    refine passes_cons rfl hread.actionType ?_
    refine passes_cons rfl (matchesSha256_hex _) ?_
    refine passes_cons rfl (matchesSha256_hex _) ?_
    refine passes_cons rfl (nullable_ofOption fun d _ => matchesSha256_hex d) ?_
    refine passes_cons rfl (matchesSha256_hex _) ?_
    refine passes_cons rfl (runStatus_known _) ?_
    refine passes_cons rfl (hversion.trans (decide_eq_true h.version)) ?_
    refine passes_cons rfl (matchesSha256_hex _) ?_
    refine passes_cons rfl (hfence.trans (decide_eq_true h.fencingToken)) ?_
    refine passes_cons rfl (validTimestamp_isoformat hdates.acceptedAt) ?_
    refine passes_cons rfl (hdate hdates.queuedAt) ?_
    refine passes_cons rfl (hdate hdates.startedAt) ?_
    refine passes_cons rfl (hdate hdates.finishedAt) ?_
    refine passes_cons rfl (nullable_ofOption fun reason _ => terminalReason_known reason) ?_
    refine passes_cons rfl (nullable_ofOption (all_of_option hread.receiptReference)) ?_
    exact passes_cons rfl (haudit.trans (decide_eq_true h.auditSequence)) (passes_nil _)

theorem parseProductionRun_obj (item : Item) : parseProductionRun (.obj item) = (do
    throwUnless (exactKeys item runKeys && passes item runChecks &&
      decide (processCategories.lookup (stringOf item "process") =
        some (stringOf item "category"))) "Production run response is invalid"
    throwUnless (!(isTerminalStatus (stringOf item "status") &&
        (nullableOf item "finished_at").isNone ||
      !isTerminalStatus (stringOf item "status") &&
        (nullableOf item "terminal_reason").isSome))
      "Production run terminal state is invalid"
    .ok
      { runId := stringOf item "run_id"
        organizationId := stringOf item "organization_id"
        taskId := stringOf item "task_id"
        process := stringOf item "process"
        category := stringOf item "category"
        approvalRequestId := nullableOf item "approval_request_id"
        actionType := stringOf item "action_type"
        status := stringOf item "status"
        version := numberOf item "version"
        acceptedAt := stringOf item "accepted_at"
        queuedAt := nullableOf item "queued_at"
        startedAt := nullableOf item "started_at"
        finishedAt := nullableOf item "finished_at"
        updatedAt := latestTimestamp [some (stringOf item "accepted_at"),
          nullableOf item "queued_at", nullableOf item "started_at", nullableOf item "finished_at"]
        terminalReason := nullableOf item "terminal_reason"
        receiptReference := nullableOf item "receipt_reference"
        auditSequence := numberOf item "audit_sequence" }) := rfl

theorem nullableOf_ofOption {α : Type} {item : Item} {name : String} {write : α → Json}
    {text : α → String} {value : Option α} (hwrite : ∀ a, write a = .str (text a))
    (hfield : field item name = some (.ofOption write value)) :
    nullableOf item name = value.map text := by
  unfold nullableOf
  rw [hfield]
  cases value with
  | none => rfl
  | some a =>
    unfold Json.ofOption
    dsimp only
    rw [hwrite]
    rfl

theorem isTerminalStatus_iff (status : RunStatus) :
    isTerminalStatus status.value = true ↔ status.terminal := by
  cases status <;> decide

theorem category_of_binding {taskId : TaskId} {process : Process} {category : Category}
    (h : taskBinding taskId = (process, category)) :
    processCategories.lookup process.value = some category.value := by
  cases taskId <;> cases h <;> decide

/-- The run is accepted when its integers are representable. -/
theorem parseProductionRun_iff {run : ProductionRun} (hread : RunReadable run)
    (hdates : RunDates run) (hfinished : run.status.terminal → run.finishedAt.isSome)
    (hreason : ¬ run.status.terminal → run.terminalReason = none)
    (hbinding : taskBinding run.taskId = (run.process, run.category)) (parsed : ViewedRun) :
    parseProductionRun (.obj (runFields run)) = .ok parsed ↔
      parsed = shownRun run ∧ ExactRun run := by
  have hkeys : exactKeys (runFields run) runKeys = true := exactKeys_of rfl
  have hcategory : decide (processCategories.lookup (stringOf (runFields run) "process") =
      some (stringOf (runFields run) "category")) = true :=
    decide_eq_true (category_of_binding hbinding)
  have hdate : ∀ {name : String} {value : Option Time},
      field (runFields run) name = some (.ofOption .time value) →
      nullableOf (runFields run) name = value.map isoformat :=
    fun hfield => nullableOf_ofOption (fun _ => rfl) hfield
  have hfinishedAt : nullableOf (runFields run) "finished_at" = run.finishedAt.map isoformat :=
    hdate rfl
  have hterminalReason : nullableOf (runFields run) "terminal_reason" =
      run.terminalReason.map (·.value) := nullableOf_ofOption (fun _ => rfl) rfl
  have hstatus : stringOf (runFields run) "status" = run.status.value := rfl
  have hend : (!(isTerminalStatus (stringOf (runFields run) "status") &&
        (nullableOf (runFields run) "finished_at").isNone ||
      !isTerminalStatus (stringOf (runFields run) "status") &&
        (nullableOf (runFields run) "terminal_reason").isSome)) = true := by
    rw [hstatus, hfinishedAt, hterminalReason]
    by_cases hover : run.status.terminal
    · rw [(isTerminalStatus_iff _).mpr hover]
      obtain ⟨t, ht⟩ := Option.isSome_iff_exists.mp (hfinished hover)
      rw [ht]
      rfl
    · rw [Bool.eq_false_iff.mpr fun h => hover ((isTerminalStatus_iff _).mp h), hreason hover]
      rfl
  have hview : (⟨stringOf (runFields run) "run_id", stringOf (runFields run) "organization_id",
      stringOf (runFields run) "task_id", stringOf (runFields run) "process",
      stringOf (runFields run) "category", nullableOf (runFields run) "approval_request_id",
      stringOf (runFields run) "action_type", stringOf (runFields run) "status",
      numberOf (runFields run) "version", stringOf (runFields run) "accepted_at",
      nullableOf (runFields run) "queued_at", nullableOf (runFields run) "started_at",
      nullableOf (runFields run) "finished_at",
      latestTimestamp [some (stringOf (runFields run) "accepted_at"),
        nullableOf (runFields run) "queued_at", nullableOf (runFields run) "started_at",
        nullableOf (runFields run) "finished_at"],
      nullableOf (runFields run) "terminal_reason",
      nullableOf (runFields run) "receipt_reference",
      numberOf (runFields run) "audit_sequence"⟩ : ViewedRun) = shownRun run := by
    have hqueued : nullableOf (runFields run) "queued_at" = run.queuedAt.map isoformat := hdate rfl
    have hstarted : nullableOf (runFields run) "started_at" = run.startedAt.map isoformat :=
      hdate rfl
    have hrequest : nullableOf (runFields run) "approval_request_id" =
        run.approvalRequestId.map Id.text := nullableOf_ofOption (fun _ => rfl) rfl
    have hreceipt : nullableOf (runFields run) "receipt_reference" =
        run.receiptReference.map id := nullableOf_ofOption (fun _ => rfl) rfl
    rw [hqueued, hstarted, hfinishedAt, hterminalReason, hrequest, hreceipt, Option.map_id_fun]
    rfl
  rw [parseProductionRun_obj, hkeys, hcategory, Bool.true_and, Bool.and_true,
    throwUnless_iff.mpr hend, hview]
  by_cases hpasses : passes (runFields run) runChecks = true
  · have hexact := (passes_run hread hdates).mp hpasses
    rw [hpasses]
    constructor
    · intro h
      cases h
      exact ⟨rfl, hexact⟩
    · rintro ⟨rfl, _⟩
      rfl
  · rw [Bool.eq_false_iff.mpr hpasses]
    refine iff_of_false (fun h => by cases h) fun h => ?_
    exact hpasses ((passes_run hread hdates).mpr h.2)

/-! ## The response -/

theorem numbered_range {numbers : List Nat} {k : Nat}
    (h : numbers = List.range' (k + 1) numbers.length) :
    ((numbers.map fun n : Nat => (n : Int)).zipIdx k).all (fun n => decide (n.1 = n.2 + 1)) = true := by
  induction numbers generalizing k with
  | nil => rfl
  | cons n rest ih =>
    rw [List.length_cons, List.range'_succ, List.cons.injEq] at h
    obtain ⟨rfl, hrest⟩ := h
    rw [List.map_cons, List.zipIdx_cons, List.all_cons, ih hrest, Bool.and_true]
    exact decide_eq_true (Int.natCast_succ k)

theorem numbered_of_range {α : Type} {items : List α} {number : α → Int} {n : α → Nat}
    (hnumber : ∀ a ∈ items, number a = n a) (h : items.map n = List.range' 1 items.length) :
    numbered (items.map number) = true := by
  have hcast : items.map number = (items.map n).map fun k : Nat => (k : Int) := by
    rw [List.map_map]
    exact List.map_congr_left hnumber
  unfold numbered
  rw [hcast]
  refine numbered_range (k := 0) ?_
  rw [List.length_map]
  exact h

theorem replay_ordinals (events : List EventRead) (k : Nat) :
    ((events.zipIdx k).map fun e => replayStep e.2 e.1).map (·.ordinal) =
      List.range' k events.length := by
  induction events generalizing k with
  | nil => rfl
  | cons event rest ih =>
    rw [List.zipIdx_cons, List.map_cons, List.map_cons, ih, List.length_cons, List.range'_succ]
    rfl

theorem passes_cost {cost : CostSummary} (h : cost.valid) :
    passes (costFields cost) costChecks = true := by
  have hrange : ∀ {n : Int} {high : Int}, 0 ≤ n ∧ n ≤ high → high ≤ maxSafeInteger →
      validInteger 0 high (.num n) = true := by
    intro n high hn hhigh
    unfold validInteger isSafeInteger maxSafeInteger at *
    simp only [Bool.and_eq_true, decide_eq_true_eq]
    omega
  obtain ⟨hcalls, hinput, houtput, hcost⟩ := h
  unfold costChecks
  refine passes_cons rfl (textCheck_self _) ?_
  refine passes_cons rfl (hrange hcalls (by decide)) ?_
  refine passes_cons rfl (hrange hinput (by decide)) ?_
  refine passes_cons rfl (hrange houtput (by decide)) ?_
  refine passes_cons rfl (hrange hcost (by decide)) ?_
  exact passes_cons rfl (numberCheck_self 0) (passes_nil _)

/-- The dashboard repeats what the rest of the export says. -/
structure Summarizes (dashboard : TraceDashboard) (run : ProductionRun) (events steps : Nat)
    (cost : CostSummary) : Prop where
  eventCount : dashboard.eventCount = events
  replayStepCount : dashboard.replayStepCount = steps
  terminalStatus : dashboard.terminalStatus = run.status
  modelCalls : dashboard.modelCalls = cost.modelCalls
  fakeCostMicrousd : dashboard.fakeCostMicrousd = cost.fakeCostMicrousd

theorem passes_dashboard {dashboard : TraceDashboard} {run : ProductionRun} {events steps : Nat}
    {cost : CostSummary} (h : Summarizes dashboard run events steps cost) (hcost : cost.valid) :
    passes (traceDashboardFields dashboard) (dashboardChecks events steps run.status.value) =
      true := by
  have hall := passes_cost hcost
  have hcalls := check_of_passes "model_calls" (validInteger 0 1000000) hall
    (by simp [costChecks]) rfl
  have hspent := check_of_passes "fake_cost_microusd" (validInteger 0 1000000000) hall
    (by simp [costChecks]) rfl
  rw [← h.modelCalls] at hcalls
  rw [← h.fakeCostMicrousd] at hspent
  rw [← h.eventCount, ← h.replayStepCount, ← h.terminalStatus]
  unfold dashboardChecks
  refine passes_cons rfl (textCheck_self _) ?_
  refine passes_cons rfl (numberCheck_self _) ?_
  refine passes_cons rfl (numberCheck_self _) ?_
  refine passes_cons rfl (runStatus_known _) ?_
  refine passes_cons rfl (textCheck_self _) ?_
  refine passes_cons rfl (category_known _) ?_
  refine passes_cons rfl hcalls ?_
  refine passes_cons rfl hspent ?_
  refine passes_cons rfl (numberCheck_self 0) ?_
  refine passes_cons rfl rfl ?_
  exact passes_cons rfl (matchesSha256_hex _) (passes_nil _)

theorem parseRunTrace_opened {item : Item} (run cost dashboard : Item) {traceId : String}
    {rawEvents rawSteps : List Json}
    (hopen : openRunTrace item = some (traceId, rawEvents, rawSteps))
    (hrun : field item "run" = some (.obj run)) (hcost : field item "cost" = some (.obj cost))
    (hdashboard : field item "dashboard" = some (.obj dashboard)) :
    parseRunTrace (.obj item) = (do
      let run ← parseProductionRun (.obj run)
      let events ← parseTraceEvents run.organizationId run.runId traceId none rawEvents
      let replaySteps ← parseReplaySteps rawSteps
      throwUnless (numbered (events.map (·.sequence)) && numbered (replaySteps.map (·.ordinal)))
        "Run trace ordering is invalid"
      throwUnless (exactKeys cost (costChecks.map (·.1)) && passes cost costChecks)
        "Trace cost summary is invalid"
      throwUnless (exactKeys dashboard dashboardKeys &&
        passes dashboard (dashboardChecks events.length replaySteps.length run.status))
        "Trace dashboard is invalid"
      .ok ⟨run, events, replaySteps, stringOf dashboard "terminal_status",
        stringOf dashboard "failure_category"⟩) := by
  unfold parseRunTrace recordOr record
  simp only [bind, Except.bind]
  rw [hopen, hrun, hcost, hdashboard]
  rfl

/-- The trace as the client keeps it. -/
def shownTrace (exported : RunTraceExport) : RunTrace where
  run := shownRun exported.run
  events := exported.events.map fun event => shownEvent event.toObservabilityEvent
  replaySteps := exported.replaySteps.map shownStep
  terminalStatus := exported.dashboard.terminalStatus.value
  failureCategory := exported.dashboard.failureCategory.value

/-- What an export of a run holds. -/
structure Exported (exported : RunTraceExport) : Prop where
  readable : RunReadable exported.run
  dates : RunDates exported.run
  finished : exported.run.status.terminal → exported.run.finishedAt.isSome
  reason : ¬ exported.run.status.terminal → exported.run.terminalReason = none
  binding : taskBinding exported.run.taskId = (exported.run.process, exported.run.category)
  traceId : matchesHex 32 exported.traceId = true
  own : ∀ event ∈ exported.events, event.organizationId = exported.run.organizationId ∧
    event.runId = exported.run.runId ∧ event.traceId = exported.traceId
  presentable : ∀ event ∈ exported.events, Presentable event.toObservabilityEvent
  read : ∀ event ∈ exported.events, ∃ stored, ReadFrom event stored
  numbers : exported.events.map (·.eventSequence) = List.range' 1 exported.events.length
  bounded : exported.events.length ≤ 256
  rooted : Rooted (exported.events.map (·.toObservabilityEvent))
  steps : exported.replaySteps = (exported.events.zipIdx 1).map fun e => replayStep e.2 e.1
  cost : exported.cost.valid
  dashboard : Summarizes exported.dashboard exported.run exported.events.length
    exported.replaySteps.length exported.cost

theorem Exported.length_steps {exported : RunTraceExport} (h : Exported exported) :
    exported.replaySteps.length = exported.events.length := by
  rw [h.steps, List.length_map, List.length_zipIdx]

theorem Exported.step_bounds {exported : RunTraceExport} (h : Exported exported) :
    ∀ step ∈ exported.replaySteps, (1 ≤ step.ordinal ∧ step.ordinal ≤ 256) ∧
      step.observedAt < endOfDatetime := by
  intro step hstep
  rw [h.steps] at hstep
  obtain ⟨⟨event, ordinal⟩, hmem, rfl⟩ := List.mem_map.mp hstep
  obtain ⟨hlow, hhigh, _⟩ := List.mem_zipIdx hmem
  have hevent := List.fst_mem_of_mem_zipIdx hmem
  have hbounded := h.bounded
  exact ⟨⟨hlow, by show ordinal ≤ 256; omega⟩, (h.presentable event hevent).observedAt⟩

theorem arrayOf_map {α : Type} {item : Item} (name : String) {items : List α} (write : α → Json)
    (hfield : field item name = some (.arr (items.map write))) (hlength : items.length ≤ 256) :
    arrayOf item name = some (items.map write) := by
  unfold arrayOf
  rw [hfield]
  refine if_pos ?_
  rw [List.length_map]
  exact hlength

variable [Sha256]

theorem openRunTrace_body {exported : RunTraceExport} (h : Exported exported) :
    openRunTrace (exportFields exported ++
        [("export_hash", .digest (stableHash (.obj (exportFields exported))))]) =
      some (exported.traceId, exported.events.map fun event => .obj (eventFields event),
        exported.replaySteps.map fun step => .obj (replayFields step)) := by
  have hbounded : exported.replaySteps.length ≤ 256 := by
    rw [h.length_steps]
    exact h.bounded
  generalize hdigest : stableHash (.obj (exportFields exported)) = digest
  generalize hitem : exportFields exported ++ [("export_hash", .digest digest)] = item
  have hkeys : exactKeys item ["schema_version", "run", "trace_id", "events", "replay_steps",
      "cost", "dashboard", "export_hash"] = true := exactKeys_of (by rw [← hitem]; rfl)
  have hschema : isText item "schema_version" "w13-run-trace-export/1.0" = true :=
    isText_of (by rw [← hitem]; rfl)
  have htrace : stringField item "trace_id" (matchesHex 32) = some exported.traceId :=
    stringField_of (by rw [← hitem]; rfl) h.traceId
  have hevents : arrayOf item "events" = some (exported.events.map fun event =>
      .obj (eventFields event)) := arrayOf_map _ _ (by rw [← hitem]; rfl) h.bounded
  have hsteps : arrayOf item "replay_steps" = some (exported.replaySteps.map fun step =>
      .obj (replayFields step)) := arrayOf_map _ _ (by rw [← hitem]; rfl) hbounded
  have hhash : stringField item "export_hash" matchesSha256 = some digest.hex :=
    stringField_of (by rw [← hitem]; rfl) (matchesSha256_hex _)
  unfold openRunTrace
  simp only [Option.bind_eq_bind, Option.bind_some, hkeys, hschema, htrace, hevents, hsteps, hhash,
    require_true]

/-- The client accepts the body of an export when span ids repeat as it wants and every integer is
representable, and it then keeps the export's events. -/
theorem parseRunTrace_iff {exported : RunTraceExport} (h : Exported exported) (trace : RunTrace) :
    parseRunTrace (exportBody exported) = .ok trace ↔ trace = shownTrace exported ∧
      Repeats (exported.events.map (·.toObservabilityEvent)) ∧ ExactRun exported.run ∧
      ∀ event ∈ exported.events, ExactEvent event.toObservabilityEvent := by
  have hrun := parseProductionRun_iff h.readable h.dates h.finished h.reason h.binding
  have hevents := parseTraceEvents_iff h.own h.presentable h.read none
  have hsteps := parseReplaySteps_body h.step_bounds
  have hnumbers : numbered ((exported.events.map fun event =>
      shownEvent event.toObservabilityEvent).map (·.sequence)) = true := by
    rw [List.map_map]
    exact numbered_of_range (fun _ _ => rfl) h.numbers
  have hordinals : numbered ((exported.replaySteps.map shownStep).map (·.ordinal)) = true := by
    rw [List.map_map]
    refine numbered_of_range (n := fun step => step.ordinal) (fun _ _ => rfl) ?_
    rw [h.length_steps, h.steps]
    exact replay_ordinals exported.events 1
  have hcostKeys : exactKeys (costFields exported.cost) (costChecks.map (·.1)) = true :=
    exactKeys_of rfl
  have hdashboardKeys : exactKeys (traceDashboardFields exported.dashboard) dashboardKeys = true :=
    exactKeys_of rfl
  have hopened := parseRunTrace_opened (runFields exported.run) (costFields exported.cost)
    (traceDashboardFields exported.dashboard) (openRunTrace_body h) rfl rfl rfl
  have hlinked := linked_iff h.rooted
  unfold exportBody
  rw [hopened, ← hlinked]
  constructor
  · intro hok
    obtain ⟨run, hparsed, hok⟩ := ok_of_bind hok
    obtain ⟨rfl, hexact⟩ := (hrun run).mp hparsed
    obtain ⟨events, hparsed, hok⟩ := ok_of_bind hok
    obtain ⟨rfl, hchain, hall⟩ := (hevents events).mp hparsed
    obtain ⟨steps, hparsed, hok⟩ := ok_of_bind hok
    rw [hsteps] at hparsed
    cases hparsed
    obtain ⟨_, _, hok⟩ := ok_of_bind hok
    obtain ⟨_, _, hok⟩ := ok_of_bind hok
    obtain ⟨_, _, hok⟩ := ok_of_bind hok
    cases hok
    exact ⟨rfl, hchain, hexact, hall⟩
  · rintro ⟨rfl, hchain, hexact, hall⟩
    have hdashboard : passes (traceDashboardFields exported.dashboard) (dashboardChecks
        (exported.events.map fun event => shownEvent event.toObservabilityEvent).length
        (exported.replaySteps.map shownStep).length (shownRun exported.run).status) = true := by
      rw [List.length_map, List.length_map]
      exact passes_dashboard h.dashboard h.cost
    rw [(hrun _).mpr ⟨rfl, hexact⟩]
    show (parseTraceEvents exported.run.organizationId.text exported.run.runId.text _ _ _ >>= _) = _
    rw [(hevents _).mpr ⟨rfl, hchain, hall⟩]
    show (parseReplaySteps _ >>= _) = _
    rw [hsteps]
    show (throwUnless _ _ >>= _) = _
    rw [hnumbers, hordinals, hcostKeys, passes_cost h.cost, hdashboardKeys, hdashboard]
    rfl

end FlowPilot.Web
