import FlowPilot.Trace.Accounting
import FlowPilot.Trace.Screening

/-!
# Reading a trace back

A trace can be listed when the attributes of its events are those of the schema, and exported when
its totals are within their bounds too.  The writers store what they are given and their defaults.
-/

open FlowPilot.Lib Relation

namespace FlowPilot

open Control (EventRead RunTraceExport eventRead readEvents listObservabilityEvents
  buildRunTraceExport)

/-! ## Reading an event -/

/-- The attributes of the event are those of the schema. -/
def ObservabilityEvent.Legible (event : ObservabilityEvent) : Prop :=
  ∃ fields, event.attributesJson = .obj fields ∧ FlowPilot.Legible fields

/-- The identifiers in the events have the 128-bit tokens that `secrets.token_hex(16)` makes. -/
def Tokens (traces : List ObservabilityEvent) : Prop :=
  ∀ e ∈ traces, ∀ fields, e.attributesJson = .obj fields → ∀ i : OutboxId,
    ("outbox_id", .id i) ∈ fields → i.token < 2 ^ 128

/-- The identifiers of the trace have the pattern of digests. -/
structure ObservabilityEvent.Spanned (event : ObservabilityEvent) : Prop where
  trace : Control.matchesHex 32 event.traceId = true
  span : Control.matchesHex 16 event.spanId = true
  parent : event.parentSpanId.all (Control.matchesHex 16) = true

theorem matchesHex_take (d : Digest) {n : Nat} (h : n ≤ 64) :
    Control.matchesHex n (d.take n) = true := by
  obtain ⟨hdigits, hlength⟩ := Control.hexDigits_take d h
  unfold Control.matchesHex
  dsimp only
  rw [Bool.and_eq_true, List.all_eq_true, hlength]
  exact ⟨hdigits, Nat.beq_refl n⟩

theorem valid_of_legible {fields : List (String × Json)} (h : Legible fields)
    (htokens : ∀ i : OutboxId, ("outbox_id", .id i) ∈ fields → i.token < 2 ^ 128) :
    fields.all Control.validTraceField = true := by
  refine List.all_eq_true.mpr fun f hf => ?_
  rcases h f hf with hvalid | ⟨i, rfl⟩
  · exact hvalid
  · exact Control.matchesId_text (htokens i hf)

theorem eventRead_iff {event : ObservabilityEvent} (hspanned : event.Spanned)
    (hsequence : 1 ≤ event.eventSequence ∧ event.eventSequence ≤ 256)
    (htokens : ∀ fields, event.attributesJson = .obj fields → ∀ i : OutboxId,
      ("outbox_id", .id i) ∈ fields → i.token < 2 ^ 128) :
    (∃ read, eventRead event = .ok read) ↔ event.Legible := by
  unfold eventRead
  constructor
  · rintro ⟨read, h⟩
    split at h
    · next fields hfields =>
        split at h
        · next hall =>
            have hvalid := List.all_eq_true.mp hall.1
            exact ⟨fields, hfields, fun f hf => .inl (hvalid f hf)⟩
        · cases h
    · cases h
  · rintro ⟨fields, hfields, hlegible⟩
    have hvalid := valid_of_legible hlegible (htokens fields hfields)
    rw [hfields]
    dsimp only
    rw [if_pos ⟨hvalid, hsequence.1, hsequence.2, hspanned.trace, hspanned.span, hspanned.parent⟩]
    exact ⟨_, rfl⟩

theorem readEvents_iff {rows : List ObservabilityEvent} :
    (∃ events, readEvents rows = .ok events) ↔ ∀ row ∈ rows, ∃ read, eventRead row = .ok read := by
  induction rows with
  | nil => exact iff_of_true ⟨[], rfl⟩ fun _ h => absurd h List.not_mem_nil
  | cons row rest ih =>
      rw [List.forall_mem_cons, ← ih]
      constructor
      · rintro ⟨events, h⟩
        obtain ⟨read, hread, h⟩ := ok_of_bind h
        obtain ⟨others, hothers, _⟩ := ok_of_bind h
        exact ⟨⟨read, hread⟩, others, hothers⟩
      · rintro ⟨⟨read, hread⟩, others, hothers⟩
        refine ⟨read :: others, ?_⟩
        unfold readEvents
        rw [hread, hothers]
        rfl

theorem readEvents_error {rows : List ObservabilityEvent} {failure : Control.ExportFailure}
    (h : Control.readEvents rows = .error failure) : failure = .validationError := by
  induction rows with
  | nil => cases h
  | cons row rest ih =>
      rcases error_of_bind h with hevent | ⟨event, _, h⟩
      · unfold Control.eventRead at hevent
        split at hevent
        · split at hevent
          · cases hevent
          · cases hevent
            rfl
        · cases hevent
          rfl
      · rcases error_of_bind h with hrest | ⟨others, _, h⟩
        · exact ih hrest
        · cases h

theorem eventRead_same {event : ObservabilityEvent} {read : EventRead}
    (h : eventRead event = .ok read) : read.toObservabilityEvent = event ∧
      read.attributes.all Control.validTraceField = true := by
  unfold eventRead at h
  split at h
  · split at h
    · next hall =>
        cases h
        refine ⟨rfl, List.all_eq_true.mpr fun f hf => ?_⟩
        obtain ⟨g, hg, rfl⟩ := List.mem_map.mp hf
        exact valid_literalValue (List.all_eq_true.mp hall.1 g hg)
    · cases h
  · cases h

/-- What is read is what was stored. -/
theorem readEvents_same {rows : List ObservabilityEvent} {events : List EventRead}
    (h : readEvents rows = .ok events) : events.map (·.toObservabilityEvent) = rows ∧
      ∀ event ∈ events, event.attributes.all Control.validTraceField = true := by
  induction rows generalizing events with
  | nil =>
      cases h
      exact ⟨rfl, fun _ h => absurd h List.not_mem_nil⟩
  | cons row rest ih =>
      obtain ⟨event, hevent, h⟩ := ok_of_bind h
      obtain ⟨others, hothers, h⟩ := ok_of_bind h
      cases h
      obtain ⟨hsame, hvalid⟩ := eventRead_same hevent
      obtain ⟨hrest, hall⟩ := ih hothers
      exact ⟨by rw [List.map_cons, hsame, hrest], List.forall_mem_cons.mpr ⟨hvalid, hall⟩⟩

theorem contiguous_iff {events : List EventRead} {n : Nat} :
    Control.contiguous n events = true ↔
      events.map (·.eventSequence) = List.range' n events.length := by
  induction events generalizing n with
  | nil => exact iff_of_true rfl rfl
  | cons event rest ih =>
      unfold Control.contiguous
      rw [Bool.and_eq_true, decide_eq_true_eq, ih, List.map_cons, List.length_cons,
        List.range'_succ, List.cons.injEq]

/-! ## Listing and exporting a trace -/

theorem amount_realCost {attributes : List (String × Json)}
    (h : attributes.all Control.validTraceField = true) :
    Control.amount attributes "real_cost_microusd" = 0 := by
  unfold Control.amount
  split
  · next name n hfind =>
      have hname : name = "real_cost_microusd" := by simpa using List.find?_some hfind
      have hvalid := List.all_eq_true.mp h _ (List.mem_of_find?_eq_some hfind)
      subst hname
      exact of_decide_eq_true hvalid
  · rfl

theorem not_sensitive {attributes : List (String × Json)}
    (h : attributes.all Control.validTraceField = true) : Control.sensitive attributes = false := by
  unfold Control.sensitive
  split
  · next name b hfind =>
      have hname : name = "sensitive_fields_present" := by simpa using List.find?_some hfind
      have hvalid := List.all_eq_true.mp h _ (List.mem_of_find?_eq_some hfind)
      subst hname
      cases b
      · rfl
      · cases hvalid
  · rfl

/-- The totals of the run's events. -/
def usageCost (traces : List ObservabilityEvent) (organizationId : OrganizationId)
    (runId : RunId) : Control.CostSummary where
  modelCalls := usage traces organizationId runId "model_calls"
  inputTokens := usage traces organizationId runId "input_tokens"
  outputTokens := usage traces organizationId runId "output_tokens"
  fakeCostMicrousd := usage traces organizationId runId "fake_cost_microusd"

section

variable {db : Db} {organizationId : OrganizationId} {runId : RunId}

theorem contiguous_of_read {events : List EventRead}
    (hwell : WellTraced db.traces organizationId runId)
    (h : Control.readEvents (tracesOf db.traces organizationId runId) = .ok events) :
    Control.contiguous 1 events = true := by
  have hsame : events.map (·.eventSequence) =
      (tracesOf db.traces organizationId runId).map (·.eventSequence) := by
    rw [← (readEvents_same h).1, List.map_map]
    rfl
  have hlength := congrArg List.length hsame
  rw [List.length_map, List.length_map] at hlength
  refine contiguous_iff.mpr ?_
  rw [hsame, hwell.sequences, hlength]

theorem listing_iff (hwell : WellTraced db.traces organizationId runId)
    (hbounded : traceCount db.traces organizationId runId ≤ 256)
    (hspanned : ∀ e ∈ db.traces, e.Spanned) (htokens : Tokens db.traces) :
    (∃ events, listObservabilityEvents db organizationId runId = .ok events) ↔
      ∀ e ∈ tracesOf db.traces organizationId runId, e.Legible := by
  have hrows := eventRows_of_wellTraced hwell hbounded
  unfold traceCount at hbounded
  rw [lastEventSequence_range hwell.sequences] at hbounded
  have hread : (∀ row ∈ tracesOf db.traces organizationId runId, ∃ read, eventRead row = .ok read) ↔
      ∀ e ∈ tracesOf db.traces organizationId runId, e.Legible := by
    refine forall₂_congr fun e he => ?_
    have hmem := (List.mem_filter.mp he).1
    have hsequence := List.mem_map_of_mem (f := fun e : ObservabilityEvent => e.eventSequence) he
    rw [hwell.sequences, List.mem_range'_1] at hsequence
    exact eventRead_iff (hspanned e hmem) ⟨hsequence.1, by omega⟩ (htokens e hmem)
  rw [← hread, ← readEvents_iff]
  unfold listObservabilityEvents
  rw [hrows]
  constructor
  · rintro ⟨events, h⟩
    obtain ⟨read, hread, _⟩ := ok_of_bind h
    exact ⟨read, hread⟩
  · rintro ⟨events, h⟩
    refine ⟨events, ?_⟩
    rw [h]
    show (if Control.contiguous 1 events = true then _ else _) = _
    rw [if_pos (contiguous_of_read hwell h)]

/-- With its trace listed, an export fails on its totals or not at all. -/
theorem export_listed {run : ProductionRun} [Sha256] {events : List EventRead}
    (hwell : WellTraced db.traces run.organizationId run.runId)
    (hbounded : traceCount db.traces run.organizationId run.runId ≤ 256)
    (hreason : Control.terminalFailure run ≠ none)
    (hevents : listObservabilityEvents db run.organizationId run.runId = .ok events) :
    ((usageCost db.traces run.organizationId run.runId).valid →
      ∃ exported, buildRunTraceExport db run = .ok exported) ∧
    (¬ (usageCost db.traces run.organizationId run.runId).valid →
      buildRunTraceExport db run = .error .validationError) := by
  obtain ⟨read, hread, hrest⟩ := ok_of_bind hevents
  have hsame : read = events := by
    split at hrest
    · cases hrest
      rfl
    · cases hrest
  subst hsame
  obtain ⟨hrows, hall⟩ := readEvents_same hread
  have htotal : ∀ name, Control.total read name =
      usage db.traces run.organizationId run.runId name := by
    intro name
    rw [readEvents_total hread, eventRows_of_wellTraced hwell hbounded]
    rfl
  have hreal : Control.total read "real_cost_microusd" = 0 := by
    unfold Control.total
    have hzeroes : read.map (fun event => Control.amount event.attributes "real_cost_microusd") =
        List.replicate read.length 0 := by
      refine List.eq_replicate_iff.mpr ⟨List.length_map _, fun n hn => ?_⟩
      obtain ⟨event, hevent, rfl⟩ := List.mem_map.mp hn
      exact amount_realCost (hall event hevent)
    rw [hzeroes, List.sum_replicate_int, Int.mul_zero]
  have hinsensitive : read.any (fun e => Control.sensitive e.attributes) = false := by
    refine List.any_eq_false.mpr fun e he => ?_
    rw [not_sensitive (hall e he)]
    exact Bool.false_ne_true
  unfold buildRunTraceExport usageCost
  rw [hevents]
  dsimp only [bind, Except.bind]
  simp only [hinsensitive, hreal, htotal]
  rw [if_neg (by simp)]
  constructor
  · intro hvalid
    rw [if_neg (not_not_intro hvalid)]
    split
    · next hnone =>
        split at hnone
        · exact absurd hnone hreason
        · cases hnone
    · exact ⟨_, rfl⟩
  · exact fun hinvalid => if_pos hinvalid

/-- The export of a listed trace needs totals within their bounds, and a known reason. -/
theorem export_iff {run : ProductionRun} [Sha256]
    (hwell : WellTraced db.traces run.organizationId run.runId)
    (hbounded : traceCount db.traces run.organizationId run.runId ≤ 256)
    (hspanned : ∀ e ∈ db.traces, e.Spanned) (htokens : Tokens db.traces)
    (hreason : Control.terminalFailure run ≠ none) :
    (∃ exported, buildRunTraceExport db run = .ok exported) ↔
      (∀ e ∈ tracesOf db.traces run.organizationId run.runId, e.Legible) ∧
        (usageCost db.traces run.organizationId run.runId).valid := by
  rw [← listing_iff hwell hbounded hspanned htokens]
  constructor
  · rintro ⟨exported, h⟩
    have hcost := exported_cost hwell hbounded h
    unfold buildRunTraceExport at h
    obtain ⟨events, hevents, h⟩ := ok_of_bind h
    refine ⟨⟨events, hevents⟩, ?_⟩
    dsimp only at h
    split at h
    · cases h
    · split at h
      · cases h
      · next hvalid =>
          split at h
          · cases h
          · cases h
            have hkept := not_not.mp hvalid
            dsimp only at hcost
            rw [hcost] at hkept
            exact hkept
  · rintro ⟨⟨events, hevents⟩, hvalid⟩
    exact (export_listed hwell hbounded hreason hevents).1 hvalid

/-- An export of a trace in order fails on the form of an event or of a total. -/
theorem export_error {run : ProductionRun} [Sha256] {failure : Control.ExportFailure}
    (hwell : WellTraced db.traces run.organizationId run.runId)
    (hbounded : traceCount db.traces run.organizationId run.runId ≤ 256)
    (hreason : Control.terminalFailure run ≠ none)
    (h : buildRunTraceExport db run = .error failure) : failure = .validationError := by
  cases hevents : listObservabilityEvents db run.organizationId run.runId with
  | ok events =>
      have hlisted := export_listed hwell hbounded hreason hevents
      by_cases hvalid : (usageCost db.traces run.organizationId run.runId).valid
      · obtain ⟨exported, hexported⟩ := hlisted.1 hvalid
        rw [hexported] at h
        cases h
      · rw [hlisted.2 hvalid] at h
        cases h
        rfl
  | error e =>
      unfold buildRunTraceExport at h
      rw [hevents] at h
      cases h
      unfold listObservabilityEvents at hevents
      rw [eventRows_of_wellTraced hwell hbounded] at hevents
      cases hread : Control.readEvents (tracesOf db.traces run.organizationId run.runId) with
      | error e =>
          rw [hread] at hevents
          cases hevents
          exact readEvents_error hread
      | ok events =>
          rw [hread] at hevents
          have hcontiguous : Control.contiguous 1 events = true := contiguous_of_read hwell hread
          dsimp only [bind, Except.bind] at hevents
          rw [if_pos hcontiguous] at hevents
          cases hevents

end

/-! ## What is stored -/

theorem mem_setField {safe : List (String × Json)} {key : String} {value : Json}
    {f : String × Json} (h : f ∈ Worker.setField safe key value) : f ∈ safe ∨ f = (key, value) := by
  unfold Worker.setField at h
  split at h
  · obtain ⟨g, hg, hf⟩ := List.mem_map.mp h
    split at hf
    · exact .inr hf.symm
    · exact .inl (hf ▸ hg)
  · rcases List.mem_append.mp h with hold | hnew
    · exact .inl hold
    · exact .inr (List.mem_singleton.mp hnew)

theorem mem_collected {attributes safe collected : List (String × Json)}
    (h : Worker.collectTraceAttributes safe attributes = .ok collected) :
    ∀ f ∈ collected, f ∈ safe ∨ f ∈ given attributes := by
  induction attributes generalizing safe with
  | nil =>
      cases h
      exact fun f hf => .inl hf
  | cons g rest ih =>
      unfold Worker.collectTraceAttributes at h
      obtain ⟨checked, hchecked, h⟩ := ok_of_bind h
      have hrest : ∀ f, f ∈ given rest → f ∈ given (g :: rest) := by
        intro f hf
        obtain ⟨hf, hnull⟩ := List.mem_filter.mp hf
        exact List.mem_filter.mpr ⟨List.mem_cons_of_mem g hf, hnull⟩
      intro f hf
      rw [safeTraceValue_kept hchecked] at h
      by_cases hnull : Control.notNull g.2 = true
      · rw [if_pos hnull] at h
        rcases ih h f hf with hsafe | hgiven
        · rcases mem_setField hsafe with hold | rfl
          · exact .inl hold
          · exact .inr (List.mem_filter.mpr ⟨List.mem_cons_self, hnull⟩)
        · exact .inr (hrest f hgiven)
      · rw [if_neg hnull] at h
        exact (ih h f hf).imp_right (hrest f)

theorem valueOf_of_mem {fields : List (String × Json)} (h : (fields.map (·.1)).Nodup)
    {f : String × Json} (hf : f ∈ fields) : valueOf fields f.1 = some f.2 := by
  induction fields with
  | nil => cases hf
  | cons g rest ih =>
      rw [List.map_cons, List.nodup_cons] at h
      rw [valueOf_cons]
      rcases List.mem_cons.mp hf with rfl | hf
      · rw [if_pos rfl]
      · have hother : g.1 ≠ f.1 := by
          intro hkey
          rw [hkey] at h
          exact h.1 (List.mem_map_of_mem hf)
        rw [if_neg hother, ih h.2 hf]

theorem obj_of_safe {attributes : List (String × Json)} {checked : Json}
    (h : Worker.safeTraceAttributes attributes = .ok checked) :
    ∃ fields, checked = .obj fields ∧
      Worker.collectTraceAttributes workerDefaults attributes = .ok fields := by
  have hchecked := h
  unfold Worker.safeTraceAttributes at h
  obtain ⟨collected, _, hrest⟩ := ok_of_bind h
  split at hrest
  · cases hrest
  · cases hrest
    exact ⟨_, rfl, collected_of_safe hchecked⟩

/-- The worker stores the given attributes and its defaults. -/
theorem legible_stored {attributes : List (String × Json)} {checked : Json}
    (hlegible : Legible (given attributes))
    (h : Worker.safeTraceAttributes attributes = .ok checked) :
    ∃ fields, checked = .obj fields ∧ Legible fields := by
  obtain ⟨fields, rfl, hcollected⟩ := obj_of_safe h
  refine ⟨fields, rfl, fun f hf => ?_⟩
  rcases mem_collected hcollected f hf with hdefault | hgiven
  · have hdefaults : workerDefaults.all Control.validTraceField = true := by decide
    exact .inl (List.all_eq_true.mp hdefaults f hdefault)
  · exact hlegible f hgiven

theorem legible_stored_iff {attributes : List (String × Json)} {checked : Json}
    (hnodup : (attributes.map (·.1)).Nodup)
    (h : Worker.safeTraceAttributes attributes = .ok checked) :
    (∃ fields, checked = .obj fields ∧ Legible fields) ↔ Legible (given attributes) := by
  refine ⟨?_, fun hlegible => legible_stored hlegible h⟩
  obtain ⟨fields, rfl, hcollected⟩ := obj_of_safe h
  rintro ⟨_, hfields, hlegible⟩ f hf
  cases hfields
  have hgiven : ((given attributes).map (·.1)).Nodup :=
    hnodup.sublist (List.Sublist.map _ List.filter_sublist)
  have hvalue : valueOf fields f.1 = some f.2 := by
    rw [valueOf_collected hnodup hcollected, valueOf_of_mem hgiven hf]
    rfl
  exact hlegible _ (mem_of_valueOf hvalue)

/-- What the Control API stores is legible. -/
theorem legible_dumped {attributes : List (String × Json)} {checked : Json}
    (h : Control.safeAttributes attributes = .ok checked) :
    ∃ fields, checked = .obj fields ∧ Legible fields := by
  have hvalid := valid_of_safeAttributes h
  unfold Control.safeAttributes at h
  dsimp only at h
  repeat' split at h
  all_goals cases h
  exact ⟨_, rfl, fun f hf => .inl (valid_dumped hvalid f hf)⟩

section

variable [Sha256] {traces after : List ObservabilityEvent}

/-- The step lemma: what is appended has identifiers of the right form. -/
theorem Records.spanned {Q : TraceEntry → Prop} (h : Records Q traces after)
    (hspanned : ∀ e ∈ traces, e.Spanned) : ∀ e ∈ after, e.Spanned := by
  obtain ⟨organizationId, runId, entry, attributes, eventId, now, hrec⟩ := h
  intro e he
  rw [hrec.record] at he
  rcases List.mem_append.mp he with hold | hnew
  · exact hspanned e hold
  · rw [List.mem_singleton.mp hnew]
    refine ⟨matchesHex_take _ (by decide), matchesHex_take _ (by decide), ?_⟩
    unfold Worker.traceRecord
    dsimp only
    split
    · cases hfind : (tracesOf traces organizationId runId).find? fun e => e.eventSequence = 1 with
      | none => rfl
      | some first =>
          have hmem := (List.mem_filter.mp (List.mem_of_find?_eq_some hfind)).1
          exact (hspanned first hmem).span
    · rfl

theorem Grows.spanned {Q : TraceEntry → Prop} (h : Grows Q traces after)
    (hspanned : ∀ e ∈ traces, e.Spanned) : ∀ e ∈ after, e.Spanned := by
  induction h with
  | refl => exact hspanned
  | tail _ hlast ih => exact hlast.spanned ih

/-- A plain entry is stored legibly. -/
theorem Records.legible (h : Records TraceEntry.Plain traces after) :
    ∃ event, after = traces ++ [event] ∧ event.Legible := by
  obtain ⟨organizationId, runId, entry, attributes, eventId, now, hrec⟩ := h
  refine ⟨_, hrec.record, ?_⟩
  rcases hrec.checked with hworker | hcontrol
  · exact legible_stored (fun f hf => hrec.allowed.legible f (List.mem_filter.mp hf).1) hworker
  · exact legible_dumped hcontrol

theorem Grows.legible (h : Grows TraceEntry.Plain traces after) :
    ∃ events, after = traces ++ events ∧ ∀ e ∈ events, e.Legible := by
  induction h with
  | refl => exact ⟨[], (List.append_nil _).symm, fun _ h => absurd h List.not_mem_nil⟩
  | tail _ hlast ih =>
      obtain ⟨events, rfl, hall⟩ := ih
      obtain ⟨event, rfl, hevent⟩ := hlast.legible
      refine ⟨events ++ [event], List.append_assoc _ _ _, fun e he => ?_⟩
      rcases List.mem_append.mp he with hold | hnew
      · exact hall e hold
      · rw [List.mem_singleton.mp hnew]
        exact hevent

end

end FlowPilot
