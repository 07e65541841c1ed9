import FlowPilot.Recovery.Accepted
import FlowPilot.Trace.Readable
import FlowPilot.Web.TraceView

/-!
# The trace of a run in the client

In every reachable state the events of a run have the first event for their parent.  The client
wants the one before, so it accepts a trace of more than two events only where span ids repeat.
-/

open FlowPilot.Lib Relation

namespace FlowPilot

open Control (EventRead RunTraceExport buildRunTraceExport readProductionRunTrace)
open Web (Rooted Repeats ExactRun ExactEvent Exported shownEvent parseRunTrace)

section

variable [Sha256] {traces after : List ObservabilityEvent} {organizationId : OrganizationId}
  {runId : RunId}

/-! ## How the writers link the events -/

omit [Sha256] in
/-- The step lemma, for an event that is numbered and linked as the writers do. -/
theorem rooted_append (hwell : WellTraced traces organizationId runId)
    (hrooted : Rooted (tracesOf traces organizationId runId)) {event : ObservabilityEvent}
    (hsequence : event.eventSequence =
      traceCount traces event.organizationId event.runId + 1)
    (hparent : event.parentSpanId = if event.eventSequence > 1 then
      ((tracesOf traces event.organizationId event.runId).find?
        fun e => e.eventSequence = 1).map (·.spanId) else none) :
    Rooted (tracesOf (traces ++ [event]) organizationId runId) := by
  rw [tracesOf_append]
  by_cases hrun : event.organizationId = organizationId ∧ event.runId = runId
  · rw [if_pos hrun]
    rw [hrun.1, hrun.2] at hsequence hparent
    have hsequences := hwell.sequences
    unfold traceCount at hsequence
    rw [lastEventSequence_range hsequences] at hsequence
    cases hevents : tracesOf traces organizationId runId with
    | nil =>
      rw [hevents] at hsequence hparent
      rw [if_neg (by rw [hsequence]; decide)] at hparent
      exact ⟨hparent, fun _ h => absurd h List.not_mem_nil⟩
    | cons first rest =>
      rw [hevents] at hsequence hparent hrooted hsequences
      have hone : first.eventSequence = 1 := by
        rw [List.map_cons, List.length_cons, List.range'_succ, List.cons.injEq] at hsequences
        exact hsequences.1
      have hfind : (first :: rest).find? (fun e => decide (e.eventSequence = 1)) = some first :=
        List.find?_cons_of_pos (decide_eq_true hone)
      rw [if_pos (by rw [hsequence, List.length_cons]; omega), hfind] at hparent
      refine ⟨hrooted.1, fun e he => ?_⟩
      rcases List.mem_append.mp he with hold | hnew
      · exact hrooted.2 e hold
      · rw [List.mem_singleton.mp hnew]
        exact hparent
  · rw [if_neg hrun, List.append_nil]
    exact hrooted

theorem Records.rooted {Q : TraceEntry → Prop} (hwell : WellTraced traces organizationId runId)
    (hrooted : Rooted (tracesOf traces organizationId runId)) (h : Records Q traces after) :
    Rooted (tracesOf after organizationId runId) := by
  obtain ⟨org, run, entry, attributes, eventId, now, hrec⟩ := h
  rw [hrec.record]
  exact rooted_append hwell hrooted rfl rfl

theorem Grows.rooted {Q : TraceEntry → Prop} (hwell : WellTraced traces organizationId runId)
    (hrooted : Rooted (tracesOf traces organizationId runId)) (h : Grows Q traces after) :
    Rooted (tracesOf after organizationId runId) := by
  have hall : WellTraced after organizationId runId ∧
      Rooted (tracesOf after organizationId runId) := by
    induction h with
    | refl => exact ⟨hwell, hrooted⟩
    | tail _ hlast ih => exact ⟨ih.1.records hlast, hlast.rooted ih.1 ih.2⟩
  exact hall.2

/-- The trace id of an event is that of its run. -/
def Traceable (traces : List ObservabilityEvent) : Prop :=
  ∀ e ∈ traces, e.traceId = Control.traceIdForRun e.organizationId e.runId

theorem Records.traceable {Q : TraceEntry → Prop} (h : Records Q traces after)
    (htraces : Traceable traces) : Traceable after := by
  obtain ⟨org, run, entry, attributes, eventId, now, hrec⟩ := h
  intro e he
  rw [hrec.record] at he
  rcases List.mem_append.mp he with hold | hnew
  · exact htraces e hold
  · rw [List.mem_singleton.mp hnew]
    rfl

theorem Grows.traceable {Q : TraceEntry → Prop} (h : Grows Q traces after)
    (htraces : Traceable traces) : Traceable after := by
  induction h with
  | refl => exact htraces
  | tail _ hlast ih => exact hlast.traceable ih

/-! ## Reachable states -/

/-- What the client relies on in every reachable state. -/
structure World.Viewable (world : World) : Prop where
  traced : world.Traced
  rooted : ∀ organizationId runId,
    Rooted (tracesOf world.plane.db.traces organizationId runId)
  traceable : Traceable world.plane.db.traces
  dated : ∀ r ∈ world.plane.db.runs.rows, r.Dated
  trusted : world.plane.db.RunsTrusted

theorem World.viewable_start (directory : Directory) (authorities : Table ApprovalAuthority)
    (heads : Table AuditChainHead) : (World.start directory authorities heads).Viewable where
  traced := World.traced_start directory authorities heads
  rooted := fun _ _ => trivial
  traceable := fun _ h => absurd h List.not_mem_nil
  dated := fun _ h => absurd h List.not_mem_nil
  trusted := fun _ h => absurd h List.not_mem_nil

/-- The step lemma. -/
theorem World.Step.viewable {world next : World} (hw : world.Viewable)
    (h : World.Step world next) : next.Viewable where
  traced := h.traced hw.traced
  rooted := fun organizationId runId => (h.grows hw.traced.valid).rooted
    (hw.traced.well organizationId runId) (hw.rooted organizationId runId)
  traceable := (h.grows hw.traced.valid).traceable hw.traceable
  dated := (h.tables hw.traced.valid).dated hw.dated
  trusted := h.trusted hw.traced.valid hw.trusted

/-- The run lemma. -/
theorem World.viewable_of_run {world next : World} (hw : world.Viewable)
    (hrun : ReflTransGen World.Step world next) : next.Viewable :=
  invariant_of_run (fun _ _ hs hstep => hstep.viewable hs) hw hrun

/-! ## The export of a run -/

omit [Sha256] in
theorem readEvents_from {rows : List ObservabilityEvent} {events : List EventRead}
    (h : Control.readEvents rows = .ok events) :
    ∀ event ∈ events, ∃ stored, Web.ReadFrom event stored := by
  induction rows generalizing events with
  | nil =>
    cases h
    exact fun _ h => absurd h List.not_mem_nil
  | cons row rest ih =>
    obtain ⟨event, hevent, h⟩ := ok_of_bind h
    obtain ⟨others, hothers, h⟩ := ok_of_bind h
    cases h
    refine List.forall_mem_cons.mpr ⟨?_, ih hothers⟩
    unfold Control.eventRead at hevent
    split at hevent
    · next stored hstored =>
      split at hevent
      · next hall =>
        cases hevent
        exact ⟨stored, hstored, rfl, hall.1⟩
      · cases hevent
    · cases hevent

/-- The parts of an export. -/
theorem buildRunTraceExport_ok {db : Db} {run : ProductionRun} {exported : RunTraceExport}
    (h : buildRunTraceExport db run = .ok exported) :
    ∃ events, Control.listObservabilityEvents db run.organizationId run.runId = .ok events ∧
      exported.run = run ∧ exported.events = events ∧
      exported.replaySteps = ((events.zipIdx 1).map fun e => Control.replayStep e.2 e.1) ∧
      exported.traceId = (match events with
        | [] => Control.traceIdForRun run.organizationId run.runId
        | event :: _ => event.traceId) ∧
      exported.cost.valid ∧ Web.Summarizes exported.dashboard run events.length
        exported.replaySteps.length exported.cost := by
  unfold buildRunTraceExport at h
  obtain ⟨events, hevents, h⟩ := ok_of_bind h
  dsimp only at h
  split at h
  · cases h
  · split at h
    · cases h
    · next hvalid =>
      split at h
      · cases h
      · cases h
        exact ⟨events, hevents, rfl, rfl, rfl, rfl, not_not.mp hvalid, rfl, rfl, rfl, rfl, rfl⟩

/-- The identifiers of the events are those of `secrets.token_hex(16)`, and all dates are dates of
`datetime`. -/
structure Db.Storable (db : Db) (run : ProductionRun) : Prop where
  eventId : ∀ e ∈ db.traces, e.eventId.token < 2 ^ 128
  observedAt : ∀ e ∈ db.traces, e.observedAt < Web.endOfDatetime
  dates : Web.RunDates run

omit [Sha256] in
theorem storable_iff {db : Db} {run : ProductionRun} : db.Storable run ↔
    (∀ e ∈ db.traces, e.eventId.token < 2 ^ 128 ∧ e.observedAt < Web.endOfDatetime) ∧
      run.acceptedAt < Web.endOfDatetime ∧ (∀ t ∈ run.queuedAt, t < Web.endOfDatetime) ∧
      (∀ t ∈ run.startedAt, t < Web.endOfDatetime) ∧
      ∀ t ∈ run.finishedAt, t < Web.endOfDatetime :=
  ⟨fun h => ⟨fun e he => ⟨h.eventId e he, h.observedAt e he⟩, h.dates.acceptedAt,
    h.dates.queuedAt, h.dates.startedAt, h.dates.finishedAt⟩,
  fun ⟨hevents, haccepted, hqueued, hstarted, hfinished⟩ => ⟨fun e he => (hevents e he).1,
    fun e he => (hevents e he).2, haccepted, hqueued, hstarted, hfinished⟩⟩

instance (db : Db) (run : ProductionRun) : Decidable (db.Storable run) :=
  decidable_of_iff _ storable_iff.symm

theorem World.Viewable.exported {world : World} (hw : world.Viewable) {run : ProductionRun}
    (hmem : run ∈ world.plane.db.runs.rows) (hstorable : world.plane.db.Storable run)
    (hread : Control.RunReadable run) {exported : RunTraceExport}
    (h : buildRunTraceExport world.plane.db run = .ok exported) :
    exported.run = run ∧ exported.events.map (·.toObservabilityEvent) =
      tracesOf world.plane.db.traces run.organizationId run.runId ∧ Exported exported := by
  obtain ⟨events, hevents, rfl, rfl, hsteps, htraceId, hcost, hdashboard⟩ :=
    buildRunTraceExport_ok h
  have hwell := hw.traced.well exported.run.organizationId exported.run.runId
  have hbounded := hw.traced.bounded exported.run.organizationId exported.run.runId
  unfold Control.listObservabilityEvents at hevents
  rw [eventRows_of_wellTraced hwell hbounded] at hevents
  obtain ⟨read, hrows, hevents⟩ := ok_of_bind hevents
  have hread' : read = exported.events := by
    split at hevents
    · cases hevents
      rfl
    · cases hevents
  subst hread'
  obtain ⟨hsame, _⟩ := readEvents_same hrows
  have hrow : ∀ event ∈ exported.events, event.toObservabilityEvent ∈ tracesOf
      world.plane.db.traces exported.run.organizationId exported.run.runId := by
    intro event hevent
    rw [← hsame]
    exact List.mem_map_of_mem hevent
  have hlength : exported.events.length = (tracesOf world.plane.db.traces
      exported.run.organizationId exported.run.runId).length := by
    rw [← hsame, List.length_map]
  have hnumbers : exported.events.map (·.eventSequence) =
      List.range' 1 exported.events.length := by
    rw [hlength, ← hwell.sequences, ← hsame, List.map_map]
    rfl
  have hcount : exported.events.length ≤ 256 := by
    unfold traceCount at hbounded
    rw [lastEventSequence_range hwell.sequences] at hbounded
    rw [hlength]
    exact hbounded
  have hids : ∀ event ∈ exported.events, event.organizationId = exported.run.organizationId ∧
      event.runId = exported.run.runId ∧ event.traceId =
        Control.traceIdForRun exported.run.organizationId exported.run.runId := by
    intro event hevent
    obtain ⟨hstored, hown⟩ := List.mem_filter.mp (hrow event hevent)
    obtain ⟨horganization, hrunId⟩ := of_decide_eq_true hown
    have htraceable := hw.traceable _ hstored
    rw [horganization, hrunId] at htraceable
    exact ⟨horganization, hrunId, htraceable⟩
  have htrace : exported.traceId =
      Control.traceIdForRun exported.run.organizationId exported.run.runId := by
    rw [htraceId]
    cases hall : exported.events with
    | nil => rfl
    | cons first rest => exact (hids first (by rw [hall]; exact List.mem_cons_self)).2.2
  have hdated := hw.dated _ hmem
  refine ⟨rfl, hsame, ?_⟩
  exact
    { readable := hread
      dates := hstorable.dates
      finished := hdated.finished
      reason := hdated.reason
      binding := (hw.trusted _ hmem).binding
      traceId := by
        rw [htrace]
        exact matchesHex_take _ (by decide)
      own := fun event hevent => by
        rw [htrace]
        exact hids event hevent
      presentable := fun event hevent => by
        have hstored := (List.mem_filter.mp (hrow event hevent)).1
        have hspanned := hw.traced.spanned _ hstored
        have hnumber := List.mem_map_of_mem (f := fun e : EventRead => e.eventSequence) hevent
        rw [hnumbers, List.mem_range'_1] at hnumber
        exact ⟨hstorable.eventId _ hstored, ⟨hnumber.1, by omega⟩, hspanned.span, hspanned.parent,
          hstorable.observedAt _ hstored⟩
      read := readEvents_from hrows
      numbers := hnumbers
      bounded := hcount
      rooted := by
        rw [hsame]
        exact hw.rooted _ _
      steps := hsteps
      cost := hcost
      dashboard := hdashboard }

/-- What the client makes of the response of the trace endpoint. -/
theorem World.Viewable.parsed_iff {world : World} (hw : world.Viewable) {run : ProductionRun}
    (hmem : run ∈ world.plane.db.runs.rows) (hstorable : world.plane.db.Storable run) {body : Json}
    (hbody : readProductionRunTrace world.plane.db run = .ok body) :
    (∃ trace, parseRunTrace body = .ok trace ∧ trace.events =
      (tracesOf world.plane.db.traces run.organizationId run.runId).map shownEvent) ↔
    Repeats (tracesOf world.plane.db.traces run.organizationId run.runId) ∧ ExactRun run ∧
      ∀ e ∈ tracesOf world.plane.db.traces run.organizationId run.runId, ExactEvent e := by
  unfold readProductionRunTrace at hbody
  obtain ⟨read, hread, hbody⟩ := ok_of_bind hbody
  obtain ⟨exported, hexported, hbody⟩ := ok_of_bind hbody
  cases hbody
  unfold Control.runRead at hread
  split at hread
  · next hreadable =>
    cases hread
    obtain ⟨hrun, hevents, hshape⟩ := hw.exported hmem hstorable hreadable hexported
    have hparsed := Web.parseRunTrace_iff hshape
    have hexact : (∀ event ∈ exported.events, ExactEvent event.toObservabilityEvent) ↔
        ∀ e ∈ tracesOf world.plane.db.traces run.organizationId run.runId, ExactEvent e := by
      rw [← hevents, List.forall_mem_map]
    rw [hrun, hevents, hexact] at hparsed
    constructor
    · rintro ⟨trace, htrace, _⟩
      exact ((hparsed trace).mp htrace).2
    · intro hcondition
      refine ⟨_, (hparsed _).mpr ⟨rfl, hcondition⟩, ?_⟩
      rw [← hevents, List.map_map]
      rfl
  · cases hread

/-- However the two services have written the trace of a run, the client accepts the response of
the trace endpoint, and then keeps its events in order, exactly when all events but the last have
the span id of the first and no integer is too large for a double.  Unless span ids collide, the
trace has at most two events then. -/
theorem trace_view_iff (directory : Directory) (authorities : Table ApprovalAuthority)
    (heads : Table AuditChainHead) (world : World)
    (hrun : ReflTransGen World.Step (World.start directory authorities heads) world)
    (run : ProductionRun) (hmem : run ∈ world.plane.db.runs.rows)
    (hstorable : world.plane.db.Storable run) (body : Json)
    (hbody : readProductionRunTrace world.plane.db run = .ok body) :
    ((∃ trace, parseRunTrace body = .ok trace ∧ trace.events =
        (tracesOf world.plane.db.traces run.organizationId run.runId).map shownEvent) ↔
      Repeats (tracesOf world.plane.db.traces run.organizationId run.runId) ∧ ExactRun run ∧
        ∀ e ∈ tracesOf world.plane.db.traces run.organizationId run.runId, ExactEvent e) ∧
    (((tracesOf world.plane.db.traces run.organizationId run.runId).map (·.spanId)).Nodup →
      (Repeats (tracesOf world.plane.db.traces run.organizationId run.runId) ↔
        (tracesOf world.plane.db.traces run.organizationId run.runId).length ≤ 2)) :=
  ⟨(World.viewable_of_run (World.viewable_start directory authorities heads) hrun).parsed_iff hmem
    hstorable hbody, Web.repeats_iff_of_nodup⟩

end

/-! ## Two events and three -/

section

attribute [local instance] polynomialSha256

namespace Sample

/-- The trace endpoint answers for a run of the world, with what decides whether the client accepts
the answer. -/
def answers (world : World) (repeats : Bool) : Bool :=
  world.plane.db.runs.rows.any fun run =>
    let events := tracesOf world.plane.db.traces run.organizationId run.runId
    decide (world.plane.db.Storable run) && (readProductionRunTrace world.plane.db run).toBool &&
      decide (Repeats events) == repeats && decide (ExactRun run) && events.all Web.exactEvent

theorem answers_spec {world : World} {repeats : Bool} (h : answers world repeats = true) :
    ∃ run ∈ world.plane.db.runs.rows, world.plane.db.Storable run ∧
      (∃ body, readProductionRunTrace world.plane.db run = .ok body) ∧
      (Repeats (tracesOf world.plane.db.traces run.organizationId run.runId) ↔ repeats = true) ∧
      ExactRun run ∧
      ∀ e ∈ tracesOf world.plane.db.traces run.organizationId run.runId, ExactEvent e := by
  obtain ⟨run, hmem, hrun⟩ := List.any_eq_true.mp h
  simp only [Bool.and_eq_true, decide_eq_true_eq, beq_iff_eq, List.all_eq_true] at hrun
  obtain ⟨⟨⟨⟨hstorable, hbody⟩, hrepeats⟩, hexact⟩, hevents⟩ := hrun
  refine ⟨run, hmem, hstorable, ?_, by rw [← hrepeats, decide_eq_true_eq], hexact,
    fun e he => Web.exactEvent_of e (hevents e he)⟩
  cases hread : readProductionRunTrace world.plane.db run with
  | ok body => exact ⟨body, rfl⟩
  | error failure =>
    rw [hread] at hbody
    cases hbody

theorem admitted_answers : answers admitted true = true := by decide +kernel

theorem leased_answers : answers leased false = true := by decide +kernel

theorem admitted_run : ReflTransGen World.SerialStep start admitted := by
  refine World.perform_serial .refl rfl ?_
  intro item hitem
  cases hitem

end Sample

/-- The trace of a queued run is accepted, with its two events. -/
theorem trace_view_iff_admitted :
    ∃ run ∈ Sample.admitted.plane.db.runs.rows, ∃ body trace,
      readProductionRunTrace Sample.admitted.plane.db run = .ok body ∧
      parseRunTrace body = .ok trace ∧ trace.events =
        (tracesOf Sample.admitted.plane.db.traces run.organizationId run.runId).map shownEvent := by
  obtain ⟨run, hmem, hstorable, ⟨body, hbody⟩, hrepeats, hexact, hevents⟩ :=
    Sample.answers_spec Sample.admitted_answers
  obtain ⟨trace, hparsed, hshown⟩ := (trace_view_iff Sample.directory .empty Sample.heads
    Sample.admitted (World.run_of_serial Sample.admitted_run) run hmem hstorable body hbody).1.mpr
    ⟨hrepeats.mpr rfl, hexact, hevents⟩
  exact ⟨run, hmem, body, trace, hbody, hparsed, hshown⟩

/-- A worker claims the queued run.  The third event has the first for its parent, and the client
refuses the trace. -/
theorem third_event_refused :
    ReflTransGen World.SerialStep Sample.start Sample.leased ∧
    ∃ run ∈ Sample.leased.plane.db.runs.rows, ∃ body,
      readProductionRunTrace Sample.leased.plane.db run = .ok body ∧
      ¬ ∃ trace, parseRunTrace body = .ok trace ∧ trace.events =
        (tracesOf Sample.leased.plane.db.traces run.organizationId run.runId).map shownEvent := by
  obtain ⟨run, hmem, hstorable, ⟨body, hbody⟩, hrepeats, _, _⟩ :=
    Sample.answers_spec Sample.leased_answers
  refine ⟨Sample.leased_run, run, hmem, body, hbody, fun haccepted => ?_⟩
  have hviewable := World.viewable_of_run (World.viewable_start Sample.directory .empty
    Sample.heads) (World.run_of_serial Sample.leased_run)
  have hchain := ((hviewable.parsed_iff hmem hstorable hbody).mp haccepted).1
  exact Bool.false_ne_true (hrepeats.mp hchain)

end

end FlowPilot
