import FlowPilot.Control.TraceExport
import FlowPilot.Trace.ControlTraces

/-!
# The usage that a trace reports

The sum of an attribute over the events of a run, as the writers of the two services leave it.
-/

open FlowPilot.Lib Relation

namespace FlowPilot

open Control (amount)
open Worker (WorkItem TemporalOutcome metric planningUsage)

def ObservabilityEvent.amount (event : ObservabilityEvent) (name : String) : Int :=
  match event.attributesJson with
  | .obj attributes => Control.amount attributes name
  | _ => 0

/-- The sum of an attribute over the events of a run. -/
def usage (traces : List ObservabilityEvent) (organizationId : OrganizationId) (runId : RunId)
    (name : String) : Int :=
  ((tracesOf traces organizationId runId).map (·.amount name)).sum

theorem usage_append (traces : List ObservabilityEvent) (event : ObservabilityEvent)
    (organizationId : OrganizationId) (runId : RunId) (name : String) :
    usage (traces ++ [event]) organizationId runId name = usage traces organizationId runId name +
      if event.organizationId = organizationId ∧ event.runId = runId then event.amount name
      else 0 := by
  unfold usage
  rw [tracesOf_append, List.map_append, List.sum_append]
  split
  · rw [List.map_singleton, List.sum_singleton]
  · rfl

/-! ## Attributes after the checks -/

def Json.amount : Json → Int
  | .num n => n
  | _ => 0

theorem amount_cons (f : String × Json) (attributes : List (String × Json)) (name : String) :
    amount (f :: attributes) name = if f.1 = name then f.2.amount else amount attributes name := by
  unfold amount
  rw [List.find?_cons]
  by_cases hname : f.1 = name
  · rw [if_pos hname]
    simp only [hname, decide_true]
    obtain ⟨key, value⟩ := f
    cases value <;> rfl
  · rw [if_neg hname]
    simp only [hname, decide_false]

theorem amount_missing {attributes : List (String × Json)} {name : String}
    (h : name ∉ attributes.map (·.1)) : amount attributes name = 0 := by
  induction attributes with
  | nil => rfl
  | cons f rest ih =>
      rw [List.map_cons, List.mem_cons, not_or] at h
      rw [amount_cons, if_neg (Ne.symm h.1), ih h.2]

theorem amount_append (attributes more : List (String × Json)) (name : String) :
    amount (attributes ++ more) name =
      if name ∈ attributes.map (·.1) then amount attributes name else amount more name := by
  induction attributes with
  | nil => rfl
  | cons f rest ih =>
      rw [List.cons_append, amount_cons, amount_cons, ih, List.map_cons]
      by_cases hf : f.1 = name
      · rw [if_pos hf, if_pos hf, if_pos (List.mem_cons.mpr (.inl hf.symm))]
      · simp only [hf, if_false, List.mem_cons, Ne.symm hf, false_or]

/-- `safe[key] = value` leaves the other keys alone. -/
theorem amount_literalValue (key : String) (value : Json) :
    (Control.literalValue key value).amount = value.amount := by
  unfold Control.literalValue
  split
  · split <;> rfl
  · split <;> rfl
  · rfl

/-- Validation keeps the amounts. -/
theorem amount_validated (attributes : List (String × Json)) (name : String) :
    amount (Control.validatedFields attributes) name = amount attributes name := by
  induction attributes with
  | nil => rfl
  | cons f rest ih =>
    unfold Control.validatedFields at ih ⊢
    rw [List.map_cons, amount_cons, amount_cons, amount_literalValue, ih]

theorem amount_setField_ne (safe : List (String × Json)) {key name : String} (value : Json)
    (hname : key ≠ name) : amount (Worker.setField safe key value) name = amount safe name := by
  unfold Worker.setField
  split
  · clear * - hname
    induction safe with
    | nil => rfl
    | cons f rest ih =>
        rw [List.map_cons, amount_cons, amount_cons, ih]
        by_cases hf : f.1 = key
        · rw [if_pos hf, if_neg hname, if_neg (fun h => hname (hf.symm.trans h))]
        · rw [if_neg hf]
  · rw [amount_append, amount_cons, if_neg hname]
    split
    · rfl
    · next habsent => exact (amount_missing habsent).symm

theorem amount_setField (safe : List (String × Json)) (key : String) (value : Json) :
    amount (Worker.setField safe key value) key = value.amount := by
  unfold Worker.setField
  split
  · next hpresent =>
      induction safe with
      | nil => cases hpresent
      | cons f rest ih =>
          rw [List.map_cons, amount_cons]
          by_cases hf : f.1 = key
          · rw [if_pos hf, if_pos rfl]
          · rw [if_neg hf, if_neg hf]
            refine ih ?_
            rw [List.any_cons, decide_eq_false hf, Bool.false_or] at hpresent
            exact hpresent
  · next habsent =>
      rw [amount_append, if_neg, amount_cons, if_pos rfl]
      intro hmem
      obtain ⟨f, hf, hkey⟩ := List.mem_map.mp hmem
      exact habsent (List.any_eq_true.mpr ⟨f, hf, decide_eq_true hkey⟩)

theorem safeTraceValue_none {key : String} {value : Json}
    (h : Worker.safeTraceValue key value = .ok none) : value.amount = 0 := by
  unfold Worker.safeTraceValue at h
  repeat' split at h
  all_goals
    cases h <;> rfl

theorem safeTraceValue_some {key : String} {value checked : Json}
    (h : Worker.safeTraceValue key value = .ok (some checked)) : checked = value := by
  unfold Worker.safeTraceValue at h
  repeat' split at h
  all_goals
    cases h <;> rfl

theorem amount_collected_other {attributes safe collected : List (String × Json)} {name : String}
    (hname : name ∉ attributes.map (·.1))
    (h : Worker.collectTraceAttributes safe attributes = .ok collected) :
    amount collected name = amount safe name := by
  induction attributes generalizing safe with
  | nil =>
      cases h
      rfl
  | cons f rest ih =>
      rw [List.map_cons, List.mem_cons, not_or] at hname
      unfold Worker.collectTraceAttributes at h
      obtain ⟨value, _, hrest⟩ := ok_of_bind h
      cases value with
      | none => exact ih hname.2 hrest
      | some value =>
          rw [ih hname.2 hrest]
          exact amount_setField_ne safe value (Ne.symm hname.1)

/-- What passes the worker's checks keeps the amount of an attribute that is given once. -/
theorem amount_collected {attributes safe collected : List (String × Json)} {name : String}
    (hnodup : (attributes.map (·.1)).Nodup) (hsafe : amount safe name = 0)
    (h : Worker.collectTraceAttributes safe attributes = .ok collected) :
    amount collected name = amount attributes name := by
  induction attributes generalizing safe with
  | nil =>
      cases h
      exact hsafe
  | cons f rest ih =>
      rw [List.map_cons, List.nodup_cons] at hnodup
      unfold Worker.collectTraceAttributes at h
      obtain ⟨value, hvalue, hrest⟩ := ok_of_bind h
      rw [amount_cons]
      by_cases hf : f.1 = name
      · rw [if_pos hf]
        subst hf
        cases value with
        | none => rw [amount_collected_other hnodup.1 hrest, hsafe, safeTraceValue_none hvalue]
        | some value =>
            rw [amount_collected_other hnodup.1 hrest, ← safeTraceValue_some hvalue]
            exact amount_setField safe f.1 value
      · rw [if_neg hf]
        cases value with
        | none => exact ih hnodup.2 hsafe hrest
        | some value => exact ih hnodup.2 ((amount_setField_ne safe value hf).trans hsafe) hrest

/-- The attributes that are always present report no usage. -/
theorem amount_defaults : ∀ name ∈ usageKeys,
    amount [("schema_version", .str "w13-trace-attributes/1.0"),
      ("sensitive_fields_present", .bool false)] name = 0 := by decide

theorem amount_safeTraceAttributes {attributes : List (String × Json)} {safe : Json}
    {name : String} (hname : name ∈ usageKeys) (hnodup : (attributes.map (·.1)).Nodup)
    (h : Worker.safeTraceAttributes attributes = .ok safe) :
    ∃ collected, safe = .obj collected ∧ amount collected name = amount attributes name := by
  unfold Worker.safeTraceAttributes at h
  obtain ⟨collected, hcollected, hrest⟩ := ok_of_bind h
  split at hrest
  · cases hrest
  · cases hrest
    exact ⟨collected, rfl, amount_collected hnodup (amount_defaults name hname) hcollected⟩

/-- No attribute that reports usage is given. -/
theorem TraceEntry.Unpriced.missing {entry : TraceEntry} (h : entry.Unpriced) {name : String}
    (hname : name ∈ usageKeys) : name ∉ entry.attributes.map (·.1) := by
  intro hmem
  obtain ⟨f, hf, rfl⟩ := List.mem_map.mp hmem
  have hnot := List.all_eq_true.mp h f hf
  rw [List.contains_iff_mem.mpr hname] at hnot
  cases hnot

theorem amount_worker_unpriced {entry : TraceEntry} {safe : Json} {name : String}
    (hname : name ∈ usageKeys) (hentry : entry.Unpriced)
    (h : Worker.safeTraceAttributes entry.attributes = .ok safe) :
    ∃ collected, safe = .obj collected ∧ amount collected name = 0 := by
  unfold Worker.safeTraceAttributes at h
  obtain ⟨collected, hcollected, hrest⟩ := ok_of_bind h
  split at hrest
  · cases hrest
  · cases hrest
    refine ⟨collected, rfl, ?_⟩
    rw [amount_collected_other (hentry.missing hname) hcollected]
    exact amount_defaults name hname

theorem amount_control_unpriced {entry : TraceEntry} {safe : Json} {name : String}
    (hname : name ∈ usageKeys) (hentry : entry.Unpriced)
    (h : Control.safeAttributes entry.attributes = .ok safe) :
    ∃ fields, safe = .obj fields ∧ amount fields name = 0 := by
  unfold Control.safeAttributes at h
  dsimp only at h
  split at h
  · split at h
    · cases h
    · split at h
      · cases h
      · split at h
        · cases h
        · cases h
          refine ⟨_, rfl, amount_missing ?_⟩
          unfold Control.dumpedAttributes
          intro hmem
          obtain ⟨f, hf, rfl⟩ := List.mem_map.mp hmem
          rcases List.mem_append.mp hf with hgiven | hmissing
          · obtain ⟨g, hg, rfl⟩ := List.mem_map.mp (List.mem_filter.mp hgiven).1
            exact hentry.missing hname (List.mem_map_of_mem (f := fun f => f.1) hg)
          · have hdefault := List.mem_map_of_mem (f := fun f => f.1) (List.mem_filter.mp hmissing).1
            exact (by decide : ∀ name ∈ usageKeys, name ∉
              ["schema_version", "completed_step_ids", "sensitive_fields_present"]) _ hname hdefault
  · cases h

/-! ## Events without usage -/

section

variable [Sha256] {traces after : List ObservabilityEvent} {name : String}

theorem Records.usage (hname : name ∈ usageKeys) (h : Records TraceEntry.Plain traces after)
    (organizationId : OrganizationId) (runId : RunId) :
    usage after organizationId runId name = usage traces organizationId runId name := by
  obtain ⟨org, run, entry, attributes, eventId, now, hrec⟩ := h
  have hamount : (Worker.traceRecord (tracesOf traces org run) eventId org run entry attributes
      now).amount name = 0 := by
    rcases hrec.checked with hworker | hcontrol
    · obtain ⟨fields, rfl, hzero⟩ := amount_worker_unpriced hname hrec.allowed.unpriced hworker
      exact hzero
    · obtain ⟨fields, rfl, hzero⟩ := amount_control_unpriced hname hrec.allowed.unpriced hcontrol
      exact hzero
  rw [hrec.record, usage_append, hamount, ite_self, Int.add_zero]

theorem Grows.usage (hname : name ∈ usageKeys) (h : Grows TraceEntry.Plain traces after)
    (organizationId : OrganizationId) (runId : RunId) :
    usage after organizationId runId name = usage traces organizationId runId name := by
  induction h with
  | refl => rfl
  | tail _ hlast ih => rw [hlast.usage hname organizationId runId, ih]

end

/-! ## The events of an outcome -/

/-- The usage that an outcome reports, under the name of the attribute that carries it. -/
def Worker.TemporalOutcome.reported (outcome : TemporalOutcome) (name : String) : Nat :=
  let planning := planningUsage outcome.result
  if name = "fake_cost_microusd" then
    metric planning "cost_microusd" + metric planning "planning_cost_microusd" +
      metric planning "verifier_cost_microusd"
  else metric planning name

section

variable [Sha256] {item : WorkItem} {outcome : TemporalOutcome} {terminalStatus : RunStatus}
  {receiptReference : String} {auditSequence terminalVersion : Nat}

omit [Sha256] in
theorem stepEntries_unpriced {index : Nat} {steps : List String} {entry : TraceEntry}
    (hentry : entry ∈ Worker.stepEntries
      (Worker.outcomeCommon item terminalStatus terminalVersion) index steps) :
    entry.Unpriced ∧ (entry.attributes.map (·.1)).Nodup := by
  induction steps generalizing index with
  | nil => cases hentry
  | cons step rest ih =>
      rcases List.mem_cons.mp hentry with rfl | hrest
      · constructor
        · rfl
        · show ["run_status", "workflow_hash", "worker_reference", "fencing_token",
            "attempt_count", "version", "sensitive_fields_present", "step_id", "count"].Nodup
          decide
      · exact ih hrest

omit [Sha256] in
theorem sum_unpriced {entries : List TraceEntry} {name : String} (hname : name ∈ usageKeys)
    (h : ∀ entry ∈ entries, entry.Unpriced) :
    (entries.map fun entry => amount entry.attributes name).sum = 0 := by
  induction entries with
  | nil => rfl
  | cons entry rest ih =>
      rw [List.map_cons, List.sum_cons,
        amount_missing ((h entry List.mem_cons_self).missing hname),
        ih fun e he => h e (List.mem_cons_of_mem _ he), Int.add_zero]

omit [Sha256] in
theorem amount_common {attributes : List (String × Json)} {name : String}
    (hname : name ∈ usageKeys) :
    amount (Worker.outcomeCommon item terminalStatus terminalVersion ++ attributes) name =
      amount attributes name := by
  rw [amount_append, if_neg]
  exact (by decide : ∀ name ∈ usageKeys, name ∉ ["run_status", "workflow_hash",
    "worker_reference", "fencing_token", "attempt_count", "version", "sensitive_fields_present"])
    name hname

omit [Sha256] in
/-- Two events of every outcome report its usage, and no other event reports any. -/
theorem outcomeEntries_amount {name : String} (hname : name ∈ usageKeys) :
    ((Worker.outcomeEntries item outcome terminalStatus receiptReference auditSequence
      terminalVersion).map fun entry => amount entry.attributes name).sum =
      2 * (outcome.reported name : Int) := by
  unfold Worker.outcomeEntries
  simp only [List.map_append, List.sum_append, List.map_cons, List.map_nil, List.sum_cons,
    List.sum_nil, amount_common hname]
  rw [sum_unpriced hname fun entry hentry => (stepEntries_unpriced hentry).1]
  unfold usageKeys at hname
  simp only [List.mem_cons, List.not_mem_nil, or_false] at hname
  rcases hname with rfl | rfl | rfl | rfl
  all_goals
    simp only [amount_cons, Json.amount, Worker.TemporalOutcome.reported]
    simp [amount]
    omega

omit [Sha256] in
/-- Every event of an outcome gives each of its attributes once. -/
theorem outcomeEntries_nodup {entry : TraceEntry}
    (hentry : entry ∈ Worker.outcomeEntries item outcome terminalStatus receiptReference
      auditSequence terminalVersion) : (entry.attributes.map (·.1)).Nodup := by
  have hcommon : ∀ {more : List (String × Json)}, (more.map (·.1)).Nodup →
      (∀ key ∈ more.map (·.1), key ∉ ["run_status", "workflow_hash", "worker_reference",
        "fencing_token", "attempt_count", "version", "sensitive_fields_present"]) →
      ((Worker.outcomeCommon item terminalStatus terminalVersion ++ more).map (·.1)).Nodup := by
    intro more hnodup hdisjoint
    rw [List.map_append]
    refine List.nodup_append'.mpr ⟨?_, hnodup, ?_⟩
    · show ["run_status", "workflow_hash", "worker_reference", "fencing_token", "attempt_count",
        "version", "sensitive_fields_present"].Nodup
      decide
    · exact fun key hleft hright => hdisjoint key hright hleft
  unfold Worker.outcomeEntries at hentry
  simp only [List.mem_append, List.mem_cons, List.not_mem_nil, or_false] at hentry
  rcases hentry with ((rfl | rfl) | hstep) | rfl | rfl | rfl | rfl | rfl | rfl
  case inl.inr => exact (stepEntries_unpriced hstep).2
  all_goals
    apply hcommon
    · simp
    · simp

end

end FlowPilot
