import FlowPilot.Control.Logs
import FlowPilot.Lib.System
import FlowPilot.Worker.Logs

/-!
# The trace of a run

Both services append the record that follows the events of its run.  Whatever is appended, the
events of a run are numbered without a gap and every event but the first has the first for its
parent.
-/

open FlowPilot.Lib Relation

namespace FlowPilot

def tracesOf (traces : List ObservabilityEvent) (organizationId : OrganizationId)
    (runId : RunId) : List ObservabilityEvent :=
  traces.filter fun e => e.organizationId = organizationId ∧ e.runId = runId

/-- The last event number of the run. -/
def traceCount (traces : List ObservabilityEvent) (organizationId : OrganizationId)
    (runId : RunId) : Nat :=
  lastEventSequence (tracesOf traces organizationId runId)

section

variable [Sha256]

theorem traceRecord_control (events : List ObservabilityEvent) (eventId : Id .obs)
    (organizationId : OrganizationId) (runId : RunId) (entry : TraceEntry) (attributes : Json)
    (now : Time) :
    Control.traceRecord events eventId organizationId runId entry attributes now =
      Worker.traceRecord events eventId organizationId runId entry attributes now := rfl

/-- One service appends what an entry says, after its own check of the attributes. -/
structure Recorded (Q : TraceEntry → Prop) (traces after : List ObservabilityEvent)
    (organizationId : OrganizationId) (runId : RunId) (entry : TraceEntry) (attributes : Json)
    (eventId : Id .obs) (now : Time) : Prop where
  allowed : Q entry
  checked : Worker.safeTraceAttributes entry.attributes = .ok attributes ∨
    Control.safeAttributes entry.attributes = .ok attributes
  bound : traceCount traces organizationId runId + 1 ≤ 256
  record : after = traces ++ [Worker.traceRecord (tracesOf traces organizationId runId) eventId
    organizationId runId entry attributes now]

/-- One event is appended. -/
def Records (Q : TraceEntry → Prop) (traces after : List ObservabilityEvent) : Prop :=
  ∃ organizationId runId entry attributes eventId now,
    Recorded Q traces after organizationId runId entry attributes eventId now

/-- Any number of events are appended. -/
abbrev Grows (Q : TraceEntry → Prop) : List ObservabilityEvent → List ObservabilityEvent → Prop :=
  ReflTransGen (Records Q)

theorem Grows.mono {Q Q' : TraceEntry → Prop} (hQ : ∀ e, Q e → Q' e)
    {traces after : List ObservabilityEvent} (h : Grows Q traces after) : Grows Q' traces after :=
  ReflTransGen.mono (fun _ _ ⟨organizationId, runId, entry, attributes, eventId, now, hrec⟩ =>
    ⟨organizationId, runId, entry, attributes, eventId, now,
      { hrec with allowed := hQ entry hrec.allowed }⟩) _ _ h

/-! ## Numbers and parents -/

/-- The events of each run are numbered from one, and each but the first names the first as its
parent. -/
structure WellTraced (traces : List ObservabilityEvent) (organizationId : OrganizationId)
    (runId : RunId) : Prop where
  sequences : (tracesOf traces organizationId runId).map (·.eventSequence) =
    List.range' 1 (tracesOf traces organizationId runId).length
  parents : ∀ e ∈ tracesOf traces organizationId runId, e.eventSequence ≠ 1 →
    ∃ p ∈ tracesOf traces organizationId runId, p.eventSequence < e.eventSequence ∧
      e.parentSpanId = some p.spanId

omit [Sha256] in
theorem lastEventSequence_range {events : List ObservabilityEvent}
    (h : events.map (·.eventSequence) = List.range' 1 events.length) :
    lastEventSequence events = events.length := by
  unfold lastEventSequence
  rw [h]
  have hmax : ∀ n start, 1 ≤ start → (List.range' start n).foldr max 0 =
      if n = 0 then 0 else start + n - 1 := by
    intro n
    induction n with
    | zero => intro start _; rfl
    | succ n ih =>
        intro start hstart
        rw [List.range'_succ, List.foldr_cons, ih (start + 1) (by omega), if_neg (Nat.succ_ne_zero n)]
        split <;> omega
  rw [hmax _ 1 (Nat.le_refl 1)]
  split <;> omega

omit [Sha256] in
theorem tracesOf_append (traces : List ObservabilityEvent) (event : ObservabilityEvent)
    (organizationId : OrganizationId) (runId : RunId) :
    tracesOf (traces ++ [event]) organizationId runId = tracesOf traces organizationId runId ++
      if event.organizationId = organizationId ∧ event.runId = runId then [event] else [] := by
  unfold tracesOf
  rw [List.filter_append]
  by_cases hrun : event.organizationId = organizationId ∧ event.runId = runId
  · rw [if_pos hrun, List.filter_cons_of_pos (by simpa using hrun), List.filter_nil]
  · rw [if_neg hrun, List.filter_cons_of_neg (by simpa using hrun), List.filter_nil]

omit [Sha256] in
/-- The step lemma, for an event that is numbered and linked as the writers do. -/
theorem WellTraced.append {traces : List ObservabilityEvent} {organizationId : OrganizationId}
    {runId : RunId} (hwell : WellTraced traces organizationId runId) {event : ObservabilityEvent}
    (hsequence : event.eventSequence =
      traceCount traces event.organizationId event.runId + 1)
    (hparent : event.parentSpanId = if event.eventSequence > 1 then
      ((tracesOf traces event.organizationId event.runId).find?
        fun e => e.eventSequence = 1).map (·.spanId) else none) :
    WellTraced (traces ++ [event]) organizationId runId := by
  by_cases hrun : event.organizationId = organizationId ∧ event.runId = runId
  · rw [hrun.1, hrun.2] at hsequence hparent
    have hevents := tracesOf_append traces event organizationId runId
    rw [if_pos hrun] at hevents
    have hlength : event.eventSequence = (tracesOf traces organizationId runId).length + 1 := by
      rw [hsequence]
      unfold traceCount
      rw [lastEventSequence_range hwell.sequences]
    constructor
    · rw [hevents, List.map_append, hwell.sequences, List.length_append, List.map_singleton,
        hlength, List.length_singleton, List.range'_concat, Nat.one_mul, Nat.add_comm 1]
    · rw [hevents]
      intro e he hne
      rcases List.mem_append.mp he with hold | hnew
      · obtain ⟨p, hp, hlt, hlinked⟩ := hwell.parents e hold hne
        exact ⟨p, List.mem_append_left _ hp, hlt, hlinked⟩
      · rw [List.mem_singleton.mp hnew] at hne ⊢
        -- the first event is found, because there is one before this one
        have hfirst : (1 : Nat) ∈ (tracesOf traces organizationId runId).map (·.eventSequence) := by
          rw [hwell.sequences, List.mem_range'_1]
          omega
        obtain ⟨p, hp, hone⟩ := List.mem_map.mp hfirst
        cases hfind : (tracesOf traces organizationId runId).find? fun e => e.eventSequence = 1 with
        | none =>
            have hmiss := List.find?_eq_none.mp hfind p hp
            exact absurd (decide_eq_true hone) hmiss
        | some first =>
            have hone := List.find?_some hfind
            have hseq : first.eventSequence = 1 := of_decide_eq_true hone
            refine ⟨first, List.mem_append_left _ (List.mem_of_find?_eq_some hfind), by omega, ?_⟩
            rw [hparent, if_pos (by omega), hfind]
            rfl
  · have hsame := tracesOf_append traces event organizationId runId
    rw [if_neg hrun, List.append_nil] at hsame
    constructor
    · rw [hsame]
      exact hwell.sequences
    · rw [hsame]
      exact hwell.parents

theorem WellTraced.records {Q : TraceEntry → Prop} {traces after : List ObservabilityEvent}
    {organizationId : OrganizationId} {runId : RunId}
    (hwell : WellTraced traces organizationId runId) (h : Records Q traces after) :
    WellTraced after organizationId runId := by
  obtain ⟨org, run, entry, attributes, eventId, now, hrec⟩ := h
  rw [hrec.record]
  exact hwell.append rfl rfl

theorem WellTraced.grows {Q : TraceEntry → Prop} {traces after : List ObservabilityEvent}
    {organizationId : OrganizationId} {runId : RunId}
    (hwell : WellTraced traces organizationId runId) (h : Grows Q traces after) :
    WellTraced after organizationId runId := by
  induction h with
  | refl => exact hwell
  | tail _ hlast ih => exact ih.records hlast

end

end FlowPilot
