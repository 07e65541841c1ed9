import FlowPilot.Agents.GlmBudget

/-!
# What a GLM call has cost

A response that reports its usage is paid for, whatever its content.  The adapter hands the usage on
with its answer and with its own errors; content can be shaped to raise another one.
-/

open FlowPilot.Lib FlowPilot.Browser

namespace FlowPilot.Agents

/-! ## Totals -/

structure Totals where
  modelCalls : Nat := 0
  inputTokens : Nat := 0
  outputTokens : Nat := 0
  costMicrousd : Nat := 0

/-- The totals with one more call, if its usage is known. -/
def Totals.add (t : Totals) : Option ModelUsage → Totals
  | none => t
  | some u =>
    { modelCalls := t.modelCalls + 1
      inputTokens := t.inputTokens + u.inputTokens
      outputTokens := t.outputTokens + u.outputTokens
      costMicrousd := t.costMicrousd + u.costMicrousd }

/-- The sums over the first calls. -/
def totals (usage : Nat → Option ModelUsage) : Nat → Totals
  | 0 => {}
  | n + 1 => (totals usage n).add (usage n)

theorem Totals.modelCalls_add (t : Totals) (u : Option ModelUsage) :
    (t.add u).modelCalls = t.modelCalls + if u.isSome then 1 else 0 := by
  cases u <;> rfl

theorem Totals.add_right_cancel {t t' : Totals} {u : Option ModelUsage} (h : t.add u = t'.add u) :
    t = t' := by
  cases u with
  | none => exact h
  | some u =>
      obtain ⟨calls, input, output, cost⟩ := t
      obtain ⟨calls', input', output', cost'⟩ := t'
      simp only [Totals.add, Totals.mk.injEq] at h ⊢
      omega

/-- Where some usages are missing, the totals agree only if none is. -/
theorem totals_eq_iff {known reported : Nat → Option ModelUsage}
    (h : ∀ n, known n = reported n ∨ known n = none) (n : Nat) :
    totals known n = totals reported n ↔ ∀ i < n, known i = reported i := by
  have hle : ∀ n, (totals known n).modelCalls ≤ (totals reported n).modelCalls := by
    intro n
    induction n with
    | zero => exact Nat.le_refl _
    | succ n ih =>
        rw [totals, totals, Totals.modelCalls_add, Totals.modelCalls_add]
        cases h n with
        | inl hsame =>
            rw [hsame]
            omega
        | inr hnone =>
            rw [hnone]
            simp only [Option.isSome_none, Bool.false_eq_true, if_false]
            omega
  constructor
  · intro heq
    induction n with
    | zero =>
        intro i hi
        omega
    | succ n ih =>
        have hlast : known n = reported n := by
          cases h n with
          | inl hsame => exact hsame
          | inr hnone =>
              -- a missing last usage leaves a call that the earlier ones cannot make up for
              have hcalls := congrArg Totals.modelCalls heq
              have hbefore := hle n
              rw [totals, totals, Totals.modelCalls_add, Totals.modelCalls_add, hnone] at hcalls
              cases hreported : reported n with
              | none => exact hnone
              | some u =>
                  rw [hreported] at hcalls
                  simp only [Option.isSome_none, Option.isSome_some, Bool.false_eq_true, if_false,
                    if_true] at hcalls
                  omega
        rw [totals, totals, hlast] at heq
        have hbefore := ih (Totals.add_right_cancel heq)
        intro i hi
        by_cases hi' : i = n
        · rw [hi']
          exact hlast
        · exact hbefore i (by omega)
  · intro hsame
    induction n with
    | zero => rfl
    | succ n ih =>
        rw [totals, totals, ih fun i hi => hsame i (Nat.lt_succ_of_lt hi),
          hsame n (Nat.lt_succ_self n)]

/-! ## Runs -/

/-- The usage that a reply hands on. -/
def ModelReply.usage {δ : Type} : ModelReply δ → Option ModelUsage
  | .answer _ usage => some usage
  | .callError usage _ => usage
  | .failed | .cancelled => none

section Runs

variable {K : Kind} {α δ : Type}

def Locals.totals (l : Locals K) : Totals where
  modelCalls := l.modelCalls
  inputTokens := l.inputTokens
  outputTokens := l.outputTokens
  costMicrousd := l.costMicrousd

variable (script : Script K.Observation δ) (w : Wording) (budget : AgentBudget)

/-- The loop has counted the usages that its model calls handed on. -/
def Counted (l : Locals K) : Prop :=
  l.totals = totals (fun n => (script.reply n).usage) l.modelTurns

theorem counted_safeClose : Maintains (Counted script) (safeClose : Flow K PUnit) :=
  .of_modify fun _ h => h

theorem counted_quit (status : RunStatus) (reason : String) :
    Maintains (Counted script) (quit status reason : Flow K α) :=
  .bind (counted_safeClose script) fun _ => .of_throw _

theorem counted_quitIf (verdict : Option (RunStatus × String)) :
    Maintains (Counted script) (quitIf verdict : Flow K PUnit) := by
  cases verdict with
  | none => exact .of_pure _
  | some verdict => exact counted_quit script _ _

theorem counted_elapsed : Maintains (Counted script) (elapsed script : Flow K Time) :=
  .bind .of_get fun _ => .bind (.of_modify fun _ h => h) fun _ => .of_pure _

theorem counted_preCallBudgetStatus :
    Maintains (Counted script) (preCallBudgetStatus script w budget : Flow K _) :=
  .bind (counted_elapsed script) fun _ => .bind .of_get fun _ => .of_pure _

theorem counted_postCallBudgetStatus :
    Maintains (Counted script) (postCallBudgetStatus script w budget : Flow K _) :=
  .bind (counted_elapsed script) fun _ => .bind .of_get fun _ => .of_pure _

theorem charge_totals (usage : ModelUsage) (l : Locals K) :
    (charge 1 usage l).totals = l.totals.add (some usage) := rfl

/-- A model call counts what its reply hands on. -/
theorem counted_complete {onCancel : Flow K PUnit} (hcancel : Maintains (Counted script) onCancel) :
    Maintains (Counted script) (complete script w budget 1 onCancel : Flow K δ) := by
  intro s hs
  refine Ensures.bind (Ensures.of_get (Ensures.bind (Ensures.of_modify (s := s) ?_)))
  have hturn : totals (fun n => (script.reply n).usage) (s.modelTurns + 1) =
      s.totals.add (script.reply s.modelTurns).usage := by
    rw [totals, ← hs]
  cases hreply : script.reply s.modelTurns with
  | answer content usage =>
      refine Ensures.bind (Ensures.of_modify ?_)
      have hcounted :
          Counted script (charge 1 usage { s with modelTurns := s.modelTurns + 1 }) := by
        rw [hreply] at hturn
        exact hturn.symm
      refine Maintains.bind (counted_postCallBudgetStatus script w budget) (fun verdict => ?_) _
        hcounted
      refine .bind (counted_quitIf script verdict) fun _ => ?_
      cases content with
      | none => exact counted_quit script _ _
      | some decision => exact .of_pure _
  | callError usage safeReason =>
      refine Ensures.bind (Ensures.of_modify ?_)
      have hcounted : Counted script (usage.elim { s with modelTurns := s.modelTurns + 1 }
          fun u => charge 1 u { s with modelTurns := s.modelTurns + 1 }) := by
        rw [hreply] at hturn
        cases usage with
        | none => exact hturn.symm
        | some u => exact hturn.symm
      refine Maintains.bind (counted_safeClose script) (fun _ => ?_) _ hcounted
      refine .bind (counted_postCallBudgetStatus script w budget) fun verdict => ?_
      cases verdict with
      | none => exact .of_throw _
      | some verdict => exact .of_throw _
  | failed =>
      have hcounted : Counted script { s with modelTurns := s.modelTurns + 1 } := by
        rw [hreply] at hturn
        exact hturn.symm
      exact counted_quit script _ _ _ hcounted
  | cancelled =>
      have hcounted : Counted script { s with modelTurns := s.modelTurns + 1 } := by
        rw [hreply] at hturn
        exact hturn.symm
      exact Maintains.bind hcancel (fun _ => .of_throw _) _ hcounted

theorem counted_checkRepeated [DecidableEq K.Signature] (signature : K.Signature) :
    Maintains (Counted script) (checkRepeated w budget signature : Flow K PUnit) := by
  refine .bind (.of_modify fun l h => ?_) fun _ => .bind .of_get fun l => ?_
  · split <;> exact h
  · split
    · exact counted_quit script _ _
    · exact .of_pure _

theorem counted_checkProgress [DecidableEq K.Fingerprint] (fingerprint : K.Fingerprint)
    (hidden : Bool) :
    Maintains (Counted script) (checkProgress w budget fingerprint hidden : Flow K PUnit) := by
  refine .bind (.of_modify fun _ h => h) fun _ => .bind .of_get fun l => ?_
  split
  · exact counted_quit script _ _
  · exact .of_pure _

theorem counted_executeAction (limits : Limits) (endpoint : Mode) (actionId : String)
    (r : ActionRequest) {onCancel : Flow K PUnit} (hcancel : Maintains (Counted script) onCancel) :
    Maintains (Counted script)
      (executeAction script w limits endpoint actionId r onCancel : Flow K _) := by
  refine .bind .of_get fun l => .bind (.of_modify fun _ h => h) fun _ => ?_
  split
  · exact .bind hcancel fun _ => .of_throw _
  · split
    · exact counted_quit script _ _
    · exact .of_pure _

theorem counted_rounds {turn : Flow K PUnit} (hturn : Maintains (Counted script) turn) (n : Nat) :
    Maintains (Counted script) (rounds w turn n) := by
  induction n with
  | zero => exact counted_quit script _ _
  | succ n ih => exact .bind hturn fun _ => ih

end Runs

/-! ## The DOM agent -/

namespace Dom

variable (limits : Limits) (script : Script) (budget : AgentBudget)

/-- The calls of a run that reached the model. -/
def modelTurns : Nat :=
  match script.created with
  | none => 0
  | some observation =>
    match rounds wording (turn limits script budget) budget.maxSteps
        (initial script observation) with
    | .ok never _ => never.elim
    | .error _ t => t.modelTurns

def AgentRunResult.totals (r : AgentRunResult) : Totals where
  modelCalls := r.modelCalls
  inputTokens := r.inputTokens
  outputTokens := r.outputTokens
  costMicrousd := r.costMicrousd

theorem counted_turn : Maintains (Counted (K := kind) script) (turn limits script budget) := by
  refine .bind (counted_preCallBudgetStatus _ _ _) fun verdict => ?_
  refine .bind (counted_quitIf _ verdict) fun _ => ?_
  refine .bind (counted_complete _ _ _ (.of_pure _)) fun action => ?_
  refine .bind (counted_checkRepeated _ _ _ _) fun _ => ?_
  refine .bind (counted_executeAction _ _ _ _ _ _ (.of_pure _)) fun answer => ?_
  refine .bind (.of_modify fun _ h => h) fun _ => ?_
  split
  · exact .of_throw _
  · split
    · exact counted_quit _ _ _
    · exact .bind (.of_modify fun _ h => h) fun _ => counted_checkProgress _ _ _ _ _

/-- The totals of a run are the sums of what its model calls handed on. -/
theorem totals_run {taskId : String} {outcome : AgentRunResult}
    {exchanges : List (Exchange Observation)}
    (h : run limits script budget taskId = (some outcome, exchanges)) :
    outcome.totals =
      totals (fun n => (script.reply n).usage) (modelTurns limits script budget) := by
  unfold run at h
  unfold modelTurns
  cases hcreated : script.created with
  | none =>
      rw [hcreated] at h
      cases h
      rfl
  | some observation =>
      rw [hcreated] at h
      dsimp only at h ⊢
      unfold ending at h
      cases hrounds : rounds wording (turn limits script budget) budget.maxSteps
          (initial script observation) with
      | ok never t => exact never.elim
      | error e t =>
          rw [hrounds] at h
          have hcounted := (counted_rounds _ wording (counted_turn limits script budget)
            budget.maxSteps).error (s := initial script observation) rfl hrounds
          cases e with
          | raised => cases h
          | stopped status reason =>
              cases h
              exact hcounted

end Dom

/-! ## The adapter -/

namespace Glm

/-! Fields that are popped leave the others as they are. -/

theorem getField_popField {fields : Fields} {name other : String} (h : utf8 other ≠ utf8 name) :
    getField (popField fields name) other = getField fields other := by
  unfold getField popField
  induction fields with
  | nil => rfl
  | cons field rest ih =>
      obtain ⟨key, value⟩ := field
      rw [List.filter_cons]
      by_cases hkey : key = utf8 name
      · have hother : (utf8 other == key) = false := by
          rw [beq_eq_false_iff_ne, hkey]
          exact h
        rw [if_neg (by simp [hkey]), ih, List.lookup_cons, hother]
      · rw [if_pos (by simpa using hkey), List.lookup_cons, List.lookup_cons, ih]

section Content

variable {loads : List Nat → Load} {content : List Nat} {observationId : String}

/-- The parsed content gets as far as the membership test, which cannot hash its type. -/
structure TypeUnhashable (parsed : Fields) (action : Fields) : Prop where
  envelope : unsupported (getField (enveloped parsed) "schema_version")
    "w4-model-decision/1.0" = false
  named : getField (enveloped parsed) "action" = some (.obj action)
  schema : unsupported (getField action "schema_version") "w4-dom-action/1.0" = false
  legacy : legacyId (getField action "action_id") = true
  summary : ∀ summary, getField action "summary" = some summary →
    (textValue 0 1000 summary).isSome = true
  unhashable : (actionType action).unhashable = true

theorem actionType_popField {action : Fields} {name : String} (h : utf8 "type" ≠ utf8 name) :
    actionType (popField action name) = actionType action := by
  unfold actionType
  rw [getField_popField h]

theorem popObservationId_other {action : Fields} :
    popObservationId observationId action = .error .other ↔
      (actionType action).unhashable = true := by
  unfold popObservationId
  constructor
  · intro h
    by_contra hhash
    rw [if_neg hhash] at h
    split at h
    · split at h
      · cases h
      · split at h <;> cases h
    · cases h
  · intro h
    rw [if_pos h]

theorem equals_hashable {value : Loaded} {text : String} (h : value.equals text = true) :
    value.unhashable = false := by
  cases value <;> first | rfl | cases h

/-- The tests of the summary and the type after it. -/
theorem popSummary_other {action : Fields} :
    popSummary action >>= popObservationId observationId = .error .other ↔
      (∀ summary, getField action "summary" = some summary →
        (textValue 0 1000 summary).isSome = true) ∧
      (actionType action).unhashable = true := by
  unfold popSummary
  cases hsummary : getField action "summary" with
  | none =>
      show popObservationId observationId action = _ ↔ _
      rw [popObservationId_other]
      constructor
      · intro h
        exact ⟨fun _ hnone => absurd hnone (Option.some_ne_none _).symm, h⟩
      · exact fun h => h.2
  | some summary =>
      dsimp only
      by_cases hfinish : (actionType action).equals "finish" = true
      · rw [if_pos hfinish]
        show popObservationId observationId action = _ ↔ _
        rw [popObservationId_other, equals_hashable hfinish]
        exact ⟨fun h => (Bool.false_ne_true h).elim, fun h => (Bool.false_ne_true h.2).elim⟩
      · rw [if_neg hfinish]
        by_cases htext : (textValue 0 1000 summary).isSome = true
        · rw [if_pos htext]
          show popObservationId observationId (popField action "summary") = _ ↔ _
          rw [popObservationId_other, actionType_popField (by decide)]
          refine ⟨fun h => ⟨fun other hother => ?_, h⟩, fun h => h.2⟩
          cases hother
          exact htext
        · rw [if_neg htext]
          constructor
          · intro h
            cases h
          · intro h
            exact absurd (h.1 summary rfl) htext

theorem normalizedAction_other {action : Fields} :
    normalizedAction observationId action = .error .other ↔
      unsupported (getField action "schema_version") "w4-dom-action/1.0" = false ∧
      legacyId (getField action "action_id") = true ∧
      (∀ summary, getField action "summary" = some summary →
        (textValue 0 1000 summary).isSome = true) ∧
      (actionType action).unhashable = true := by
  unfold normalizedAction popActionSchema
  by_cases hschema : unsupported (getField action "schema_version") "w4-dom-action/1.0" = true
  · rw [if_pos hschema, hschema]
    constructor
    · intro h
      cases h
    · intro h
      cases h.1
  have hsupported := Bool.eq_false_iff.mpr hschema
  rw [if_neg hschema, hsupported]
  show popActionId (popField action "schema_version") >>= popSummary >>=
    popObservationId observationId = _ ↔ _
  unfold popActionId
  rw [getField_popField (by decide)]
  by_cases hlegacy : legacyId (getField action "action_id") = true
  · rw [if_pos hlegacy]
    show popSummary (popField (popField action "schema_version") "action_id") >>=
      popObservationId observationId = _ ↔ _
    rw [popSummary_other, getField_popField (by decide), getField_popField (by decide),
      actionType_popField (by decide), actionType_popField (by decide)]
    exact ⟨fun h => ⟨rfl, hlegacy, h⟩, fun h => h.2.2⟩
  · rw [if_neg hlegacy]
    constructor
    · intro h
      cases h
    · intro h
      exact absurd h.2.1 hlegacy

/-- What makes the reading of a content raise something else than a `GLMModelError`. -/
def Escapes (loads : List Nat → Load) (content : List Nat) : Prop :=
  loads content = .raised ∨
    ∃ parsed action, loads content = .value (.obj parsed) ∧ TypeUnhashable parsed action

theorem normalizedChoicePayload_other :
    normalizedChoicePayload loads content observationId = .error .other ↔
      Escapes loads content := by
  unfold normalizedChoicePayload Escapes
  cases hload : loads content with
  | invalid =>
      constructor
      · intro h
        cases h
      · intro h
        cases h with
        | inl h => cases h
        | inr h =>
            obtain ⟨parsed, action, h, _⟩ := h
            cases h
  | raised => exact ⟨fun _ => .inl rfl, fun _ => rfl⟩
  | value v =>
      cases v with
      | obj parsed =>
          have hparsed : ∀ other,
              Load.value (.obj parsed) = .value (.obj other) → other = parsed := by
            intro other h
            cases h
            rfl
          dsimp only
          constructor
          · intro h
            refine .inr ?_
            by_cases henvelope : unsupported (getField (enveloped parsed) "schema_version")
                "w4-model-decision/1.0" = true
            · rw [if_pos henvelope] at h
              cases h
            · rw [if_neg henvelope] at h
              split at h
              · rename_i action hnamed
                have hother : normalizedAction observationId action = .error .other := by
                  cases haction : normalizedAction observationId action with
                  | error fault =>
                      rw [haction] at h
                      cases h
                      rfl
                  | ok rest =>
                      rw [haction] at h
                      cases h
                obtain ⟨hschema, hlegacy, hsummary, hhash⟩ := normalizedAction_other.mp hother
                exact ⟨parsed, action, rfl, Bool.eq_false_iff.mpr henvelope, hnamed, hschema,
                  hlegacy, hsummary, hhash⟩
              · cases h
          · intro h
            obtain ⟨other, action, hother, htype⟩ := h.resolve_left fun h => by cases h
            rw [hparsed other hother] at htype
            rw [if_neg (Bool.eq_false_iff.mp htype.envelope), htype.named]
            dsimp only
            rw [normalizedAction_other.mpr
              ⟨htype.schema, htype.legacy, htype.summary, htype.unhashable⟩]
            rfl
      | _ =>
          constructor
          · intro h
            cases h
          · intro h
            cases h with
            | inl h => cases h
            | inr h =>
                obtain ⟨parsed, action, h, _⟩ := h
                cases h

theorem validatedActionContent_other {pydantic : Pydantic} {actionId : String} :
    validatedActionContent pydantic loads content observationId actionId = .error .other ↔
      Escapes loads content := by
  have hpayload : normalizedChoicePayload loads content observationId = .error .other ↔
    Escapes loads content := normalizedChoicePayload_other
  rw [← hpayload]
  unfold validatedActionContent
  cases normalizedChoicePayload loads content observationId with
  | error fault =>
      constructor
      · intro h
        cases h
        rfl
      · intro h
        cases h
        rfl
  | ok payload =>
      constructor
      · intro h
        dsimp only [bind, Except.bind] at h
        split at h
        · cases h
        · split at h <;> cases h
      · intro h
        cases h

end Content

/-! ## Usage -/

/-- The counts that a response reports, whatever its status. -/
def Response.reported (r : Response) : Option (Nat × Nat) :=
  match r.json with
  | .value (.obj body) => (reportedTokens body).toOption
  | _ => none

/-- The content that a response answers with. -/
def Response.content (r : Response) : Option (List Nat) :=
  match r.json with
  | .value (.obj body) => (responseText body).toOption
  | _ => none

/-- The response is one of a normal call, its price is a number, and its content raises nothing but
`GLMModelError`. -/
structure Accountable (loads : List Nat → Load) (r : Response) (tokens : Nat × Nat) : Prop where
  status : r.statusCode = 200
  price : costOverflows tokens.1 tokens.2 = false
  content : ∀ content, r.content = some content → ¬ Escapes loads content

section Usage

variable {pydantic : Pydantic} {loads : List Nat → Load} {context : ModelContext}
  {r : Response} {tokens : Nat × Nat} {actionId : String}

theorem reported_some (h : r.reported = some tokens) :
    ∃ body, r.json = .value (.obj body) ∧ reportedTokens body = .ok tokens := by
  unfold Response.reported at h
  split at h
  · rename_i body hjson
    refine ⟨body, hjson, ?_⟩
    cases htokens : reportedTokens body with
    | error fault =>
        rw [htokens] at h
        cases h
    | ok counts =>
        rw [htokens] at h
        cases h
        rfl
  · cases h

theorem validatedResponse_refused (h : r.statusCode ≠ 200) :
    ∃ fault, validatedResponse r = .error fault := by
  unfold validatedResponse
  rw [if_pos h]
  cases safeProviderCode r with
  | error fault => exact ⟨fault, rfl⟩
  | ok code => exact ⟨_, rfl⟩

theorem received_fault {fault : Fault}
    (h : (validatedResponse r >>= fun body =>
      (responseUsage body).map fun usage => (body, usage)) = .error fault) :
    (received pydantic loads context r actionId).usage = none := by
  unfold received
  rw [h]
  cases fault <;> rfl

variable (pydantic loads context actionId) in
/-- Once the usage is read, only a content that escapes loses it. -/
theorem received_read {body : Fields} {usage : ModelUsage}
    (h : (validatedResponse r >>= fun body =>
      (responseUsage body).map fun usage => (body, usage)) = .ok (body, usage)) :
    (received pydantic loads context r actionId).usage = some usage ∧
        (∀ content, responseText body = .ok content → ¬ Escapes loads content) ∨
      (received pydantic loads context r actionId).usage = none ∧
        ∃ content, responseText body = .ok content ∧ Escapes loads content := by
  unfold received
  rw [h]
  dsimp only
  cases htext : responseText body with
  | error fault =>
      have hfault : fault ≠ .other := by
        intro hother
        subst hother
        unfold responseText at htext
        repeat' split at htext
        all_goals cases htext
      left
      constructor
      · cases fault with
        | modelError safeReason => rfl
        | other => exact absurd rfl hfault
      · intro content hcontent
        cases hcontent
  | ok content =>
      have hbind : (Except.ok content >>= fun content => validatedActionContent pydantic loads
          content context.observation.observationId actionId) =
        validatedActionContent pydantic loads content context.observation.observationId
          actionId := rfl
      rw [hbind]
      cases hcontent : validatedActionContent pydantic loads content
          context.observation.observationId actionId with
      | error fault =>
          cases fault with
          | other => exact .inr ⟨rfl, content, rfl, validatedActionContent_other.mp hcontent⟩
          | modelError safeReason =>
              refine .inl ⟨rfl, fun other hother hescapes => ?_⟩
              cases hother
              rw [validatedActionContent_other.mpr hescapes] at hcontent
              cases hcontent
      | ok decision =>
          refine .inl ⟨rfl, fun other hother hescapes => ?_⟩
          cases hother
          rw [validatedActionContent_other.mpr hescapes] at hcontent
          cases hcontent

theorem responseUsage_eq {body : Fields} (h : reportedTokens body = .ok tokens) :
    responseUsage body =
      if costOverflows tokens.1 tokens.2 then .error .other else .ok (usageOf tokens) := by
  simp only [responseUsage, h, bind, Except.bind]

theorem content_of_json {body : Fields} (h : r.json = .value (.obj body)) (content : List Nat) :
    r.content = some content ↔ responseText body = .ok content := by
  unfold Response.content
  rw [h]
  dsimp only
  cases responseText body with
  | error fault =>
      constructor
      · intro h
        cases h
      · intro h
        cases h
  | ok text =>
      constructor
      · intro h
        cases h
        rfl
      · intro h
        cases h
        rfl

variable (pydantic loads context actionId) in
/-- A reply hands on the reported usage, or none. -/
theorem received_usage (h : r.reported = some tokens) :
    (received pydantic loads context r actionId).usage = some (usageOf tokens) ∧
        Accountable loads r tokens ∨
      (received pydantic loads context r actionId).usage = none ∧
        ¬ Accountable loads r tokens := by
  obtain ⟨body, hjson, htokens⟩ := reported_some h
  by_cases hstatus : r.statusCode = 200
  · have hbody : validatedResponse r = .ok body := by
      unfold validatedResponse
      rw [if_neg (not_not.mpr hstatus), hjson]
    have husage := responseUsage_eq htokens
    cases hprice : costOverflows tokens.1 tokens.2 with
    | true =>
        right
        rw [hprice] at husage
        have hfault : (validatedResponse r >>= fun body =>
            (responseUsage body).map fun usage => (body, usage)) = .error .other := by
          rw [hbody]
          show (responseUsage body).map _ = _
          rw [husage]
          rfl
        exact ⟨received_fault hfault,
          fun haccount => Bool.false_ne_true (haccount.price.symm.trans hprice)⟩
    | false =>
        rw [hprice] at husage
        have hread : (validatedResponse r >>= fun body =>
            (responseUsage body).map fun usage => (body, usage)) = .ok (body, usageOf tokens) := by
          rw [hbody]
          show (responseUsage body).map _ = _
          rw [husage]
          rfl
        have hcases := received_read pydantic loads context actionId hread
        cases hcases with
        | inl hkept =>
            refine .inl ⟨hkept.1, hstatus, hprice, fun content hcontent => ?_⟩
            exact hkept.2 content ((content_of_json hjson content).mp hcontent)
        | inr hlost =>
            obtain ⟨hnone, content, hcontent, hescapes⟩ := hlost
            refine .inr ⟨hnone, fun haccount => ?_⟩
            exact haccount.content content ((content_of_json hjson content).mpr hcontent) hescapes
  · right
    obtain ⟨fault, hfault⟩ := validatedResponse_refused hstatus
    have hnone : (validatedResponse r >>= fun body =>
        (responseUsage body).map fun usage => (body, usage)) = .error fault := by
      rw [hfault]
      rfl
    exact ⟨received_fault hnone, fun haccount => hstatus haccount.status⟩

theorem validatedResponse_ok {body : Fields} (h : validatedResponse r = .ok body) :
    r.json = .value (.obj body) := by
  by_cases hstatus : r.statusCode = 200
  · unfold validatedResponse at h
    rw [if_neg (not_not.mpr hstatus)] at h
    split at h
    · cases h
    · cases h
    · rename_i hjson
      cases h
      exact hjson
    · cases h
  · obtain ⟨fault, hfault⟩ := validatedResponse_refused hstatus
    rw [hfault] at h
    cases h

/-- Without reported counts there is no usage to hand on. -/
theorem received_unreported (h : r.reported = none) :
    (received pydantic loads context r actionId).usage = none := by
  cases hbody : validatedResponse r with
  | error fault =>
      have hfault : (validatedResponse r >>= fun body =>
          (responseUsage body).map fun usage => (body, usage)) = .error fault := by
        rw [hbody]
        rfl
      exact received_fault hfault
  | ok body =>
      unfold Response.reported at h
      rw [validatedResponse_ok hbody] at h
      dsimp only at h
      cases htokens : reportedTokens body with
      | ok tokens =>
          rw [htokens] at h
          cases h
      | error fault =>
          have hfault : (validatedResponse r >>= fun body =>
              (responseUsage body).map fun usage => (body, usage)) = .error fault := by
            rw [hbody]
            show (responseUsage body).map _ = _
            unfold responseUsage
            rw [htokens]
            rfl
          exact received_fault hfault

end Usage

/-! ## Calls -/

/-- What a call of the loop meets: the context that the loop gives it, the provider and the id that
the factory draws. -/
structure Call where
  context : ModelContext
  posted : Posted
  actionId : String

section Calls

variable (pydantic : Pydantic) (loads : List Nat → Load)

def Call.reply (c : Call) : ModelReply (BrowserAction ElementTarget) :=
  (complete pydantic loads c.context c.posted c.actionId).2

/-- The counts of the response to a call, if the call was posted and answered. -/
def Call.reported (c : Call) : Option (Response × Nat × Nat) :=
  match request pydantic c.context, c.posted with
  | .ok _, .response r => r.reported.map fun tokens => (r, tokens)
  | _, _ => none

/-- The usage that the provider reported for a call. -/
def Call.usage (c : Call) : Option ModelUsage := (c.reported pydantic).map fun r => usageOf r.2

/-- A call whose usage is not lost. -/
def Call.Accountable (c : Call) : Prop :=
  ∀ r tokens, c.reported pydantic = some (r, tokens) → Glm.Accountable loads r tokens

variable {pydantic loads}

theorem Call.reply_posted {c : Call} {payload : Json} {r : Response}
    (hrequest : request pydantic c.context = .ok payload) (hposted : c.posted = .response r) :
    c.reply pydantic loads = received pydantic loads c.context r c.actionId := by
  unfold Call.reply
  rw [hposted, complete_received loads c.actionId hrequest]

variable (loads) in
theorem Call.reported_some {c : Call} {r : Response} {tokens : Nat × Nat}
    (h : c.reported pydantic = some (r, tokens)) :
    c.posted = .response r ∧ r.reported = some tokens ∧
      c.reply pydantic loads = received pydantic loads c.context r c.actionId := by
  unfold Call.reported at h
  split at h
  · rename_i payload other hrequest hposted
    cases hreported : other.reported with
    | none =>
        rw [hreported] at h
        cases h
    | some counts =>
        rw [hreported] at h
        cases h
        exact ⟨hposted, hreported, Call.reply_posted hrequest hposted⟩
  · cases h

theorem Call.reported_posted {c : Call} {payload : Json} {r : Response}
    (hrequest : request pydantic c.context = .ok payload) (hposted : c.posted = .response r) :
    c.reported pydantic = r.reported.map fun tokens => (r, tokens) := by
  unfold Call.reported
  rw [hrequest, hposted]

theorem Call.reported_none {c : Call} (h : c.reported pydantic = none) :
    (c.reply pydantic loads).usage = none := by
  unfold Call.reported at h
  unfold Call.reply complete
  cases hrequest : request pydantic c.context with
  | error safeReason => rfl
  | ok payload =>
      cases hposted : c.posted with
      | response r =>
          rw [hrequest, hposted] at h
          exact received_unreported (Option.map_eq_none_iff.mp h)
      | networkError => rfl
      | raised => rfl
      | cancelled => rfl

variable (pydantic loads) in
/-- A call hands on the usage that the provider reported, or it is not accountable. -/
theorem Call.usage_reply (c : Call) :
    (c.reply pydantic loads).usage = c.usage pydantic ∧ c.Accountable pydantic loads ∨
      (c.reply pydantic loads).usage = none ∧ (c.usage pydantic).isSome = true ∧
        ¬ c.Accountable pydantic loads := by
  cases hreported : c.reported pydantic with
  | none =>
      left
      constructor
      · unfold Call.usage
        rw [hreported, Call.reported_none hreported]
        rfl
      · intro r tokens h
        rw [hreported] at h
        cases h
  | some answered =>
      obtain ⟨r, tokens⟩ := answered
      obtain ⟨_, htokens, hreply⟩ := Call.reported_some loads hreported
      have husage : c.usage pydantic = some (usageOf tokens) := by
        unfold Call.usage
        rw [hreported]
        rfl
      rw [hreply, husage]
      cases received_usage pydantic loads c.context c.actionId htokens with
      | inl hkept =>
          refine .inl ⟨hkept.1, fun other counts hother => ?_⟩
          rw [hreported] at hother
          cases hother
          exact hkept.2
      | inr hlost =>
          exact .inr ⟨hlost.1, rfl, fun haccount => hlost.2 (haccount r tokens hreported)⟩

theorem Call.usage_reply_iff {c : Call} :
    (c.reply pydantic loads).usage = c.usage pydantic ↔ c.Accountable pydantic loads := by
  cases c.usage_reply pydantic loads with
  | inl hkept => exact ⟨fun _ => hkept.2, fun _ => hkept.1⟩
  | inr hlost =>
      constructor
      · intro hsame
        have hsome := hlost.2.1
        rw [← hsame, hlost.1] at hsome
        cases hsome
      · intro haccount
        exact absurd haccount hlost.2.2

/-- A call hands on the reported usage exactly where its response is accountable, so that the totals
of a run are the sums of the reported usages exactly where all of its calls are. -/
theorem usage_accounted (pydantic : Pydantic) (loads : List Nat → Load) :
    (∀ (c : Call) r tokens, c.reported pydantic = some (r, tokens) →
      ((c.reply pydantic loads).usage = some (usageOf tokens) ↔
        Glm.Accountable loads r tokens)) ∧
    ∀ limits (script : Dom.Script) budget (calls : Nat → Call),
      (∀ n, script.reply n = (calls n).reply pydantic loads) →
      ∀ taskId outcome exchanges,
        Dom.run limits script budget taskId = (some outcome, exchanges) →
        (outcome.totals = totals (fun n => (calls n).usage pydantic)
            (Dom.modelTurns limits script budget) ↔
          ∀ n < Dom.modelTurns limits script budget, (calls n).Accountable pydantic loads) := by
  constructor
  · intro c r tokens hreported
    have husage : c.usage pydantic = some (usageOf tokens) := by
      unfold Call.usage
      rw [hreported]
      rfl
    rw [← husage, Call.usage_reply_iff]
    constructor
    · exact fun haccount => haccount r tokens hreported
    · intro haccount other counts hother
      rw [hreported] at hother
      cases hother
      exact haccount
  · intro limits script budget calls hreplies taskId outcome exchanges hrun
    have hhanded : ∀ n, (script.reply n).usage = (calls n).usage pydantic ∨
        (script.reply n).usage = none := by
      intro n
      rw [hreplies n]
      cases (calls n).usage_reply pydantic loads with
      | inl hkept => exact .inl hkept.1
      | inr hlost => exact .inr hlost.1
    rw [Dom.totals_run limits script budget hrun, totals_eq_iff hhanded]
    constructor
    · intro hsame n hn
      rw [← Call.usage_reply_iff, ← hreplies n]
      exact hsame n hn
    · intro haccount n hn
      rw [hreplies n]
      exact Call.usage_reply_iff.mpr (haccount n hn)

end Calls

section Sample

def clickCall : Call where
  context := sampleContext
  posted := .response (sampleResponse clickContent)
  actionId := "act_glm_1"

/-- The page shows one link, which the model clicks. -/
def clickScript : Dom.Script where
  created := some sampleObservation.toObservation
  session :=
    ({ sessionId := sampleObservation.sessionId, mode := .dom, startedAt := 0 } : Session).observed
      { observationId := "obs_nonce0001"
        references := [⟨"ref_nonce0001_1", [.click, .read, .scroll]⟩] }
  visit := fun _ =>
    { now := 1
      observations := [.built { observationId := "obs_nonce0002" }]
      view := sampleObservation.toObservation }
  reply := fun _ => .answer (some clickDecision) (usageOf (10, 2))
  clock := fun _ => 0

theorem clickCall_reply :
    clickCall.reply samplePydantic clickLoads = .answer (some clickDecision) (usageOf (10, 2)) :=
  (Call.reply_posted (c := clickCall) sample_request rfl).trans click_received

theorem clickCall_reported :
    clickCall.reported samplePydantic = some (sampleResponse clickContent, 10, 2) := by
  have hcounts : (sampleResponse clickContent).reported = some (10, 2) := by decide +kernel
  have hposted := Call.reported_posted (c := clickCall) (r := sampleResponse clickContent)
    sample_request rfl
  rw [hposted, hcounts]
  rfl

/-- A run that may call the model once counts the tokens of its click. -/
theorem usage_accounted_click :
    Glm.Accountable clickLoads (sampleResponse clickContent) (10, 2) ∧
      ∃ outcome exchanges,
        Dom.run {} clickScript { maxModelCalls := 1 } "w3-joiner-001" =
          (some outcome, exchanges) ∧
        outcome.totals = totals (fun _ => clickCall.usage samplePydantic) 1 := by
  have ⟨hcalls, hruns⟩ := usage_accounted samplePydantic clickLoads
  have haccount : Glm.Accountable clickLoads (sampleResponse clickContent) (10, 2) := by
    refine (hcalls clickCall _ _ clickCall_reported).mp ?_
    rw [clickCall_reply]
    rfl
  have hturns : Dom.modelTurns {} clickScript { maxModelCalls := 1 } = 1 := by decide +kernel
  have htotals : ∀ outcome exchanges,
      Dom.run {} clickScript { maxModelCalls := 1 } "w3-joiner-001" = (some outcome, exchanges) →
        outcome.totals = totals (fun _ => clickCall.usage samplePydantic) 1 := by
    intro outcome exchanges hrun
    have hiff := hruns {} clickScript { maxModelCalls := 1 } (fun _ => clickCall)
      (fun _ => clickCall_reply.symm) "w3-joiner-001" outcome exchanges hrun
    rw [hturns] at hiff
    refine hiff.mpr fun _ _ r tokens hreported => ?_
    rw [clickCall_reported] at hreported
    cases hreported
    exact haccount
  have hreturns : (Dom.run {} clickScript { maxModelCalls := 1 } "w3-joiner-001").1.isSome = true :=
    by decide +kernel
  cases hrun : Dom.run {} clickScript { maxModelCalls := 1 } "w3-joiner-001" with
  | mk answered exchanges =>
      rw [hrun] at hreturns
      cases answered with
      | none => cases hreturns
      | some outcome => exact ⟨haccount, outcome, exchanges, rfl, htotals outcome exchanges hrun⟩

/-! ## A type that cannot be hashed -/

/-- The content of an action whose type is a list. -/
def listTypeContent : List Nat := utf8 "\x7b\"action\":\x7b\"type\":[]\x7d\x7d"

def listTypeLoads (content : List Nat) : Load :=
  if content = listTypeContent then
    .value (.obj [(utf8 "action", .obj [(utf8 "type", .arr [])])])
  else .invalid

def listTypeResponse : Response := sampleResponse listTypeContent

def listTypeCall : Call where
  context := sampleContext
  posted := .response listTypeResponse
  actionId := "act_glm_1"

theorem listTypeContent_escapes : Escapes listTypeLoads listTypeContent := by
  refine .inr ⟨_, [(utf8 "type", .arr [])], if_pos rfl, ?_⟩
  constructor
  · decide +kernel
  · rfl
  · decide +kernel
  · decide +kernel
  · intro summary hsummary
    cases hsummary
  · rfl

/-- The response reports 10 and 2 tokens, and the call fails without them. -/
theorem listType_loses_usage :
    listTypeCall.reported samplePydantic = some (listTypeResponse, 10, 2) ∧
      (listTypeCall.reply samplePydantic listTypeLoads).usage ≠ some (usageOf (10, 2)) := by
  have hcounts : listTypeResponse.reported = some (10, 2) := by decide +kernel
  have hreported : listTypeCall.reported samplePydantic = some (listTypeResponse, 10, 2) := by
    have hposted := Call.reported_posted (c := listTypeCall) (r := listTypeResponse)
      sample_request rfl
    rw [hposted, hcounts]
    rfl
  have husage : listTypeCall.usage samplePydantic = some (usageOf (10, 2)) := by
    unfold Call.usage
    rw [hreported]
    rfl
  refine ⟨hreported, fun hkept => ?_⟩
  have haccount := Call.usage_reply_iff.mp (hkept.trans husage.symm) _ _ hreported
  exact haccount.content listTypeContent rfl listTypeContent_escapes

end Sample

end Glm

end FlowPilot.Agents
