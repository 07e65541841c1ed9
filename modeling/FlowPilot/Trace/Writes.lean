import FlowPilot.Control.Identifiers
import FlowPilot.Trace.Records

/-!
# What an operation writes to the trace

`Keeps` is said of a part of an operation that writes no trace event, and `Writes` of one that
writes at most `n` events, all for one run.  Each also says that the part does not run into the
bound on the number of events: always, or when there is room for `n` more.
-/

open FlowPilot.Lib Relation

namespace FlowPilot

/-- The attributes that report usage. -/
def usageKeys : List String :=
  ["model_calls", "input_tokens", "output_tokens", "fake_cost_microusd"]

/-- The entry reports no usage. -/
def TraceEntry.Unpriced (entry : TraceEntry) : Prop :=
  (entry.attributes.all fun f => !usageKeys.contains f.1) = true

/-- `TraceAttributes` accepts the attribute, unless it is an identifier with a longer token. -/
def LegibleField (f : String × Json) : Prop :=
  Control.validTraceField f = true ∨ ∃ i : OutboxId, f = ("outbox_id", .id i)

def Legible (attributes : List (String × Json)) : Prop := ∀ f ∈ attributes, LegibleField f

theorem Legible.nil : Legible [] := fun _ h => absurd h List.not_mem_nil

theorem Legible.cons {f : String × Json} {attributes : List (String × Json)}
    (hf : LegibleField f) (h : Legible attributes) : Legible (f :: attributes) :=
  List.forall_mem_cons.mpr ⟨hf, h⟩

/-- The entry reports no usage and can be read back. -/
structure TraceEntry.Plain (entry : TraceEntry) : Prop where
  unpriced : entry.Unpriced
  legible : Legible entry.attributes

theorem TraceEntry.Plain.of_valid {entry : TraceEntry} (h : entry.Unpriced)
    (hvalid : ∀ f ∈ entry.attributes, Control.validTraceField f = true) : entry.Plain :=
  ⟨h, fun f hf => .inl (hvalid f hf)⟩

def traceBoundText : String := "trace event sequence exceeds the W13 bound"

/-- The failure is the refusal of an event beyond the bound. -/
def traceBound : Failure → Bool
  | .runtimeError text => decide (text = traceBoundText)
  | .observabilityPayloadRejected detail => decide (detail = traceBoundText)
  | _ => false

/-- No trace event is written, and the bound is not met. -/
structure Keeps (traces : List ObservabilityEvent) {β : Type} (π : β → Db)
    (x : Except Failure β) : Prop where
  same : ∀ b, x = .ok b → (π b).traces = traces
  unbound : ∀ e, x = .error e → traceBound e = false

section

variable {traces : List ObservabilityEvent} {α β : Type} {π : α → Db} {ρ : β → Db}

theorem Keeps.ok {b : β} (h : (ρ b).traces = traces) : Keeps traces ρ (.ok b) where
  same := by
    rintro _ ⟨⟩
    exact h
  unbound := by
    rintro _ ⟨⟩

theorem Keeps.error {e : Failure} (h : traceBound e = false) :
    Keeps traces ρ (.error e : Except Failure β) where
  same := by
    rintro _ ⟨⟩
  unbound := by
    rintro _ ⟨⟩
    exact h

theorem Keeps.bind {x : Except Failure α} {f : α → Except Failure β} (hx : Keeps traces π x)
    (hf : ∀ a, (π a).traces = traces → Keeps traces ρ (f a)) : Keeps traces ρ (x >>= f) where
  same := by
    intro b h
    obtain ⟨a, ha, hb⟩ := ok_of_bind h
    exact (hf a (hx.same a ha)).same b hb
  unbound := by
    intro e h
    rcases error_of_bind h with hfirst | ⟨a, ha, hrest⟩
    · exact hx.unbound e hfirst
    · exact (hf a (hx.same a ha)).unbound e hrest

end

section

variable [Sha256]

/-- At most `n` events are written, all for one run and from entries that satisfy `Q`, and with
room for `n` more events the bound is not met. -/
structure Writes (Q : TraceEntry → Prop) (organizationId : OrganizationId) (runId : RunId)
    (n : Nat) (traces : List ObservabilityEvent) {β : Type} (π : β → Db)
    (x : Except Failure β) : Prop where
  grows : ∀ b, x = .ok b → Grows Q traces (π b).traces
  count : ∀ b, x = .ok b →
    traceCount (π b).traces organizationId runId ≤ traceCount traces organizationId runId + n
  fits : traceCount traces organizationId runId + n ≤ 256 →
    ∀ e, x = .error e → traceBound e = false

variable {Q : TraceEntry → Prop} {organizationId : OrganizationId} {runId : RunId} {m n : Nat}
  {traces : List ObservabilityEvent} {α β : Type} {π : α → Db} {ρ : β → Db}

theorem Keeps.writes {x : Except Failure β} (h : Keeps traces ρ x) :
    Writes Q organizationId runId 0 traces ρ x where
  grows := by
    intro b hb
    rw [h.same b hb]
  count := by
    intro b hb
    rw [h.same b hb]
    exact Nat.le_refl _
  fits := fun _ => h.unbound

theorem Writes.bind {x : Except Failure α} {f : α → Except Failure β}
    (hx : Writes Q organizationId runId m traces π x)
    (hf : ∀ a, x = .ok a → Writes Q organizationId runId n (π a).traces ρ (f a)) :
    Writes Q organizationId runId (m + n) traces ρ (x >>= f) where
  grows := by
    intro b h
    obtain ⟨a, ha, hb⟩ := ok_of_bind h
    exact (hx.grows a ha).trans ((hf a ha).grows b hb)
  count := by
    intro b h
    obtain ⟨a, ha, hb⟩ := ok_of_bind h
    have hfirst := hx.count a ha
    have hrest := (hf a ha).count b hb
    omega
  fits := by
    intro hroom e h
    rcases error_of_bind h with hfirst | ⟨a, ha, hrest⟩
    · exact hx.fits (by omega) e hfirst
    · have hcount := hx.count a ha
      exact (hf a ha).fits (by omega) e hrest

/-- A part that writes nothing goes first. -/
theorem Keeps.thenOk {x : Except Failure α} {f : α → Except Failure β} (hx : Keeps traces π x)
    (hf : ∀ a, x = .ok a → (π a).traces = traces →
      Writes Q organizationId runId n traces ρ (f a)) :
    Writes Q organizationId runId n traces ρ (x >>= f) := by
  have hall : Writes Q organizationId runId (0 + n) traces ρ (x >>= f) :=
    hx.writes.bind fun a ha => by
      rw [hx.same a ha]
      exact hf a ha (hx.same a ha)
  rwa [Nat.zero_add] at hall

theorem Keeps.then {x : Except Failure α} {f : α → Except Failure β} (hx : Keeps traces π x)
    (hf : ∀ a, (π a).traces = traces → Writes Q organizationId runId n traces ρ (f a)) :
    Writes Q organizationId runId n traces ρ (x >>= f) :=
  hx.thenOk fun a _ => hf a

theorem Writes.mono {x : Except Failure β} (h : Writes Q organizationId runId m traces ρ x)
    (hle : m ≤ n) : Writes Q organizationId runId n traces ρ x where
  grows := h.grows
  count := fun b hb => Nat.le_trans (h.count b hb) (by omega)
  fits := fun hroom => h.fits (by omega)

theorem Writes.weaken {Q' : TraceEntry → Prop} (hQ : ∀ e, Q e → Q' e) {x : Except Failure β}
    (h : Writes Q organizationId runId n traces ρ x) :
    Writes Q' organizationId runId n traces ρ x where
  grows := fun b hb => (h.grows b hb).mono hQ
  count := h.count
  fits := h.fits

theorem Writes.ok {b : β} (h : (ρ b).traces = traces) :
    Writes Q organizationId runId n traces ρ (.ok b) :=
  ((Keeps.ok h).writes).mono (Nat.zero_le n)

theorem Writes.error {e : Failure} (h : traceBound e = false) :
    Writes Q organizationId runId n traces ρ (.error e : Except Failure β) :=
  ((Keeps.error h).writes).mono (Nat.zero_le n)

/-! ## One event -/

omit [Sha256] in
theorem foldr_max_append (l : List Nat) (k : Nat) :
    (l ++ [k]).foldr max 0 = max (l.foldr max 0) k := by
  rw [List.foldr_append]
  induction l with
  | nil => simp
  | cons a l ih =>
      rw [List.foldr_cons, ih, List.foldr_cons, Nat.max_assoc]

omit [Sha256] in
theorem traceCount_append (traces : List ObservabilityEvent) (event : ObservabilityEvent)
    (organizationId : OrganizationId) (runId : RunId) :
    traceCount (traces ++ [event]) organizationId runId ≤
      max (traceCount traces organizationId runId) event.eventSequence := by
  unfold traceCount
  rw [tracesOf_append]
  unfold lastEventSequence
  split
  · rw [List.map_append, List.map_singleton, foldr_max_append]
  · rw [List.append_nil]
    exact Nat.le_max_left _ _

omit [Sha256] in
theorem safeTraceValue_unbound {key : String} {value : Json} {e : Failure}
    (h : Worker.safeTraceValue key value = .error e) : traceBound e = false := by
  unfold Worker.safeTraceValue at h
  repeat' split at h
  all_goals
    cases h <;> rfl

omit [Sha256] in
theorem collectTraceAttributes_unbound {attributes safe : List (String × Json)} {e : Failure}
    (h : Worker.collectTraceAttributes safe attributes = .error e) : traceBound e = false := by
  induction attributes generalizing safe with
  | nil => cases h
  | cons field rest ih =>
      unfold Worker.collectTraceAttributes at h
      rcases error_of_bind h with hvalue | ⟨value, _, hrest⟩
      · exact safeTraceValue_unbound hvalue
      · cases value with
        | none => exact ih hrest
        | some value => exact ih hrest

omit [Sha256] in
theorem safeTraceAttributes_unbound {attributes : List (String × Json)} {e : Failure}
    (h : Worker.safeTraceAttributes attributes = .error e) : traceBound e = false := by
  unfold Worker.safeTraceAttributes at h
  rcases error_of_bind h with hcollect | ⟨safe, _, hrest⟩
  · exact collectTraceAttributes_unbound hcollect
  · split at hrest
    · cases hrest
      rfl
    · cases hrest

omit [Sha256] in
theorem safeAttributes_unbound {attributes : List (String × Json)} {e : Failure}
    (h : Control.safeAttributes attributes = .error e) : traceBound e = false := by
  unfold Control.safeAttributes at h
  dsimp only at h
  repeat' split at h
  all_goals
    cases h <;> rfl

theorem appendTraceEvent_writes {db : Db} (hdb : db.traces = traces)
    {entry : TraceEntry} {now : Time} (hentry : Q entry) :
    Writes Q organizationId runId 1 traces id
      (Worker.appendTraceEvent db organizationId runId entry now) := by
  subst hdb
  unfold Worker.appendTraceEvent
  split
  · exact .ok rfl
  · dsimp only
    split
    · next hbound =>
        constructor
        · rintro _ ⟨⟩
        · rintro _ ⟨⟩
        · intro hroom
          exact absurd hbound (by
            unfold traceCount tracesOf at hroom
            unfold runTraces
            omega)
    · next hbound =>
        have hroom : traceCount db.traces organizationId runId + 1 ≤ 256 := Nat.le_of_not_lt hbound
        constructor
        · intro after h
          obtain ⟨attributes, hchecked, hrest⟩ := ok_of_bind h
          cases hrest
          exact .single ⟨organizationId, runId, entry, attributes, _, now, hentry, .inl hchecked,
            hroom, rfl⟩
        · intro after h
          obtain ⟨attributes, _, hrest⟩ := ok_of_bind h
          cases hrest
          refine Nat.le_trans (traceCount_append _ _ _ _) ?_
          exact Nat.max_le.mpr ⟨Nat.le_succ _, Nat.le_refl _⟩
        · intro _ e h
          rcases error_of_bind h with hattributes | ⟨attributes, _, hrest⟩
          · exact safeTraceAttributes_unbound hattributes
          · cases hrest

omit [Sha256] in
theorem valid_of_safeAttributes {attributes : List (String × Json)} {checked : Json}
    (h : Control.safeAttributes attributes = .ok checked) :
    ∀ f ∈ attributes, Control.validTraceField f = true := by
  unfold Control.safeAttributes at h
  split at h
  · next hvalid => exact List.all_eq_true.mp hvalid
  · cases h

theorem appendObservabilityEvent_writes {db : Db} (hdb : db.traces = traces)
    {entry : TraceEntry} {now : Time}
    (hentry : (∀ f ∈ entry.attributes, Control.validTraceField f = true) → Q entry) :
    Writes Q organizationId runId 1 traces id
      (Control.appendObservabilityEvent db organizationId runId entry now) := by
  subst hdb
  unfold Control.appendObservabilityEvent
  split
  · exact .error rfl
  · dsimp only
    split
    · next hbound =>
        constructor
        · rintro _ ⟨⟩
        · rintro _ ⟨⟩
        · intro hroom
          exact absurd hbound (by
            unfold traceCount tracesOf at hroom
            unfold runTraces
            omega)
    · next hbound =>
        have hroom : traceCount db.traces organizationId runId + 1 ≤ 256 := Nat.le_of_not_lt hbound
        constructor
        · intro after h
          obtain ⟨attributes, hchecked, hrest⟩ := ok_of_bind h
          cases hrest
          exact .single ⟨organizationId, runId, entry, attributes, _, now,
            hentry (valid_of_safeAttributes hchecked), .inr hchecked, hroom, rfl⟩
        · intro after h
          obtain ⟨attributes, _, hrest⟩ := ok_of_bind h
          cases hrest
          refine Nat.le_trans (traceCount_append _ _ _ _) ?_
          exact Nat.max_le.mpr ⟨Nat.le_succ _, Nat.le_refl _⟩
        · intro _ e h
          rcases error_of_bind h with hattributes | ⟨attributes, _, hrest⟩
          · exact safeAttributes_unbound hattributes
          · cases hrest

end

end FlowPilot
