import FlowPilot.Store.Writes

/-!
# Trace entries

What a caller says about a trace event, and the events of one run.
-/

open FlowPilot.Lib

namespace FlowPilot

/-- What a caller says about a trace event. -/
structure TraceEntry where
  phase : TracePhase
  status : TraceStatus
  reason : TraceReason
  failureCategory : FailureCategory := .none
  attributes : List (String × Json)

def runTraces (db : Db) (organizationId : OrganizationId) (runId : RunId) :
    List ObservabilityEvent :=
  db.traces.filter fun e => e.organizationId = organizationId ∧ e.runId = runId

def lastEventSequence (events : List ObservabilityEvent) : Nat :=
  (events.map (·.eventSequence)).foldr max 0

/-- Only audit events and trace events were written, and they were appended. -/
structure Db.Logged (db after : Db) : Prop where
  tables : ∃ audit traces, after = { db with audit := audit, traces := traces }
  events : db.audit.events.rows <+: after.audit.events.rows
  traces : db.traces <+: after.traces

theorem Db.Logged.refl (db : Db) : db.Logged db where
  tables := ⟨db.audit, db.traces, rfl⟩
  events := List.prefix_refl _
  traces := List.prefix_refl _

theorem Db.Logged.trans {db₁ db₂ db₃ : Db} (h : db₁.Logged db₂) (h' : db₂.Logged db₃) :
    db₁.Logged db₃ where
  tables := by
    rcases h.tables with ⟨_, _, rfl⟩
    rcases h'.tables with ⟨audit, traces, rfl⟩
    exact ⟨audit, traces, rfl⟩
  events := h.events.trans h'.events
  traces := h.traces.trans h'.traces

end FlowPilot
