import FlowPilot.Agents.Glm
import FlowPilot.Lib.Raise
import FlowPilot.Texts

/-!
# What a GLM call may cost

The adapter weighs a call by the payload with the largest `max_tokens` that may be asked for.  A
smaller one takes no more bytes, so what it posts is affordable; but as it may take fewer, a little
more might have been affordable still.
-/

namespace FlowPilot.Agents.Glm

/-! ## Lengths -/

theorem utf8_dumps (value : Json) : utf8 (dumps value) = canonicalBytes value := by
  obtain ⟨s, hs⟩ := isText_canonicalBytes value
  unfold dumps
  rw [← hs, decodeUtf8_utf8]
  rfl

/-! ## Prices -/

theorem costMicrousd_le {input output remaining : Int} :
    costMicrousd input output ≤ remaining ↔ 8 * input + 28 * output ≤ 4 * remaining := by
  unfold costMicrousd inputPriceMicrocnyPerToken outputPriceMicrocnyPerToken cnyPerUsdCostEnvelope
  omega

/-- The affordable output inverts the cost. -/
theorem le_affordableOutputTokens {input output remaining : Int} (h : 1 ≤ output) :
    output ≤ affordableOutputTokens input remaining ↔ costMicrousd input output ≤ remaining := by
  rw [costMicrousd_le]
  unfold affordableOutputTokens inputPriceMicrocnyPerToken outputPriceMicrocnyPerToken
    cnyPerUsdCostEnvelope
  omega

theorem costMicrousd_mono {input input' output remaining : Int} (h : input ≤ input')
    (hcost : costMicrousd input' output ≤ remaining) : costMicrousd input output ≤ remaining := by
  rw [costMicrousd_le] at hcost ⊢
  omega

/-! ## Requests -/

section Requests

variable (pydantic : Pydantic) (context : ModelContext)

theorem escapedLength_systemContent :
    escapedLength (utf8 (systemContent pydantic)) = escapedLength (utf8 systemInstructions) +
      escapedLength (canonicalBytes pydantic.decisionSchema) + 27 := by
  have hblank : escapedLength (utf8 "\n\n") = 4 := by decide
  have htitle : escapedLength (utf8 "Required JSON Schema:\n") = 23 := by decide
  unfold systemContent
  rw [utf8_append, utf8_append, utf8_append, utf8_dumps, escapedLength_append,
    escapedLength_append, escapedLength_append]
  omega

theorem canonicalLength_messages :
    canonicalLength (.arr [
      .obj [("role", .str "system"), ("content", .str (systemContent pydantic))],
      .obj [("role", .str "user"), ("content", .str (dumps (modelInput context)))]]) =
        escapedLength (utf8 (systemContent pydantic)) +
          escapedLength (canonicalBytes (modelInput context)) + 61 := by
  have hrole : escapedLength (utf8 "role") = 4 := by decide
  have hcontent : escapedLength (utf8 "content") = 7 := by decide
  have hsystem : escapedLength (utf8 "system") = 6 := by decide
  have huser : escapedLength (utf8 "user") = 4 := by decide
  rw [canonicalLength_pair, canonicalLength_obj (List.cons_ne_nil _ _),
    canonicalLength_obj (List.cons_ne_nil _ _)]
  simp only [fieldsLength, canonicalLength_str, utf8_dumps]
  omega

/-- The limit on the output adds its digits to the payload, and nothing else. -/
theorem canonicalLength_requestPayload (m : Int) :
    canonicalLength (requestPayload pydantic context m) =
      escapedLength (utf8 systemInstructions) +
        escapedLength (canonicalBytes pydantic.decisionSchema) +
        escapedLength (canonicalBytes (modelInput context)) + width m + 263 := by
  have hmessages := canonicalLength_messages pydantic context
  have hsystem := escapedLength_systemContent pydantic
  have htokens : canonicalLength (.num m) = width m := rfl
  have hfixed : escapedLength (utf8 "model") + canonicalLength (.str "glm-5.2") +
      escapedLength (utf8 "messages") + escapedLength (utf8 "thinking") +
      canonicalLength (.obj [("type", .str "enabled")]) + escapedLength (utf8 "reasoning_effort") +
      canonicalLength (.str "high") + escapedLength (utf8 "do_sample") +
      canonicalLength (.bool false) + escapedLength (utf8 "stream") +
      canonicalLength (.bool false) + escapedLength (utf8 "max_tokens") +
      escapedLength (utf8 "response_format") +
      canonicalLength (.obj [("type", .str "json_object")]) = 142 := by decide +kernel
  unfold requestPayload
  rw [canonicalLength_obj (List.cons_ne_nil _ _)]
  simp only [fieldsLength]
  rw [hmessages, hsystem, htokens]
  omega

theorem conservativeInputEstimate_mono {m n : Int} (hm : 0 ≤ m) (h : m ≤ n) :
    conservativeInputEstimate (requestPayload pydantic context m) ≤
      conservativeInputEstimate (requestPayload pydantic context n) := by
  have hwidth := width_mono hm h
  unfold conservativeInputEstimate
  rw [canonicalLength_requestPayload, canonicalLength_requestPayload]
  omega

theorem requestPayload_injective : Function.Injective (requestPayload pydantic context) := by
  intro m n h
  simp only [requestPayload, Json.obj.injEq, List.cons.injEq, Prod.mk.injEq, Json.num.injEq,
    true_and, and_true] at h
  exact h

/-- The most that a call may ask for. -/
def outputCap : Int := min maxOutputTokensPerCall context.remainingOutputTokens

/-- A call may ask for `m` tokens of output. -/
structure Affordable (m : Int) : Prop where
  positive : 1 ≤ m
  capped : m ≤ outputCap context
  input : conservativeInputEstimate (requestPayload pydantic context m) ≤
    context.remainingInputTokens
  cost : costMicrousd (conservativeInputEstimate (requestPayload pydantic context m)) m ≤
    context.remainingCostMicrousd

/-- The estimate that the call is weighed by: the payload asks for the cap. -/
def firstEstimate : Int :=
  conservativeInputEstimate (requestPayload pydantic context (outputCap context))

/-- A call may ask for `m` tokens by the first estimate. -/
structure Covered (m : Int) : Prop where
  positive : 1 ≤ m
  capped : m ≤ outputCap context
  input : firstEstimate pydantic context ≤ context.remainingInputTokens
  cost : costMicrousd (firstEstimate pydantic context) m ≤ context.remainingCostMicrousd

variable {pydantic context} {m : Int}

theorem Covered.affordable (h : Covered pydantic context m) : Affordable pydantic context m := by
  have hestimate := conservativeInputEstimate_mono pydantic context
    (Int.le_trans (by decide) h.positive) h.capped
  exact {
    positive := h.positive
    capped := h.capped
    input := Int.le_trans hestimate h.input
    cost := costMicrousd_mono hestimate h.cost }

theorem Covered.cap (hm : Covered pydantic context m) : 1 ≤ outputCap context :=
  Int.le_trans hm.positive hm.capped

/-- What the code compares: the cap, or the output that the first estimate leaves affordable. -/
theorem covered_iff_le
    (hinput : firstEstimate pydantic context ≤ context.remainingInputTokens) :
    Covered pydantic context m ↔ 1 ≤ m ∧ m ≤ min (outputCap context)
      (affordableOutputTokens (firstEstimate pydantic context) context.remainingCostMicrousd) := by
  rw [le_min_iff]
  constructor
  · intro h
    exact ⟨h.positive, h.capped, (le_affordableOutputTokens h.positive).mpr h.cost⟩
  · intro h
    exact ⟨h.1, h.2.1, hinput, (le_affordableOutputTokens h.1).mp h.2.2⟩

/-- The request with the cap and the estimate under their names. -/
theorem request_eq : request pydantic context =
    if outputCap context < 1 then .error "No output-token budget remains"
    else if context.remainingInputTokens < firstEstimate pydantic context then
      .error "Conservative input estimate exceeds remaining token budget"
    else if context.remainingCostMicrousd <
        costMicrousd (firstEstimate pydantic context) (outputCap context) then
      if min (outputCap context) (affordableOutputTokens (firstEstimate pydantic context)
          context.remainingCostMicrousd) < 1 then
        .error "Conservative call cost exceeds remaining cost budget"
      else .ok (requestPayload pydantic context (min (outputCap context)
        (affordableOutputTokens (firstEstimate pydantic context) context.remainingCostMicrousd)))
    else .ok (requestPayload pydantic context (outputCap context)) := rfl

/-- What is posted asks for the most that the first estimate covers. -/
theorem request_ok {payload : Json} (h : request pydantic context = .ok payload) :
    ∃ m, payload = requestPayload pydantic context m ∧
      IsGreatest {n | Covered pydantic context n} m := by
  rw [request_eq] at h
  by_cases hcap : outputCap context < 1
  · rw [if_pos hcap] at h
    cases h
  rw [if_neg hcap] at h
  have hpositive : 1 ≤ outputCap context := Int.not_lt.mp hcap
  by_cases hinput : context.remainingInputTokens < firstEstimate pydantic context
  · rw [if_pos hinput] at h
    cases h
  have hlow := Int.not_lt.mp hinput
  have hcovered : ∀ n, Covered pydantic context n ↔ 1 ≤ n ∧ n ≤ min (outputCap context)
      (affordableOutputTokens (firstEstimate pydantic context) context.remainingCostMicrousd) :=
    fun n => covered_iff_le hlow
  rw [if_neg hinput] at h
  by_cases hcost : context.remainingCostMicrousd <
      costMicrousd (firstEstimate pydantic context) (outputCap context)
  · rw [if_pos hcost] at h
    by_cases hnone : min (outputCap context) (affordableOutputTokens
        (firstEstimate pydantic context) context.remainingCostMicrousd) < 1
    · rw [if_pos hnone] at h
      cases h
    · rw [if_neg hnone] at h
      cases h
      refine ⟨_, rfl, (hcovered _).mpr ⟨Int.not_lt.mp hnone, Int.le_refl _⟩, ?_⟩
      intro n hn
      exact ((hcovered n).mp hn).2
  · rw [if_neg hcost] at h
    cases h
    exact ⟨_, rfl, ⟨hpositive, Int.le_refl _, hlow, Int.not_lt.mp hcost⟩, fun n hn => hn.capped⟩

/-- Nothing is posted where the first estimate covers no output at all. -/
theorem request_error {safeReason : String} (h : request pydantic context = .error safeReason) :
    ¬ Covered pydantic context m := by
  intro hm
  have hcapped := hm.cap
  have hbest := (covered_iff_le hm.input).mp hm
  rw [request_eq, if_neg (Int.not_lt.mpr hcapped), if_neg (Int.not_lt.mpr hm.input)] at h
  by_cases hcost : context.remainingCostMicrousd <
      costMicrousd (firstEstimate pydantic context) (outputCap context)
  · rw [if_pos hcost, if_neg (Int.not_lt.mpr (Int.le_trans hbest.1 hbest.2))] at h
    cases h
  · rw [if_neg hcost] at h
    cases h

end Requests

/-! ## Decisions -/

theorem ActionChoice.actionId_issue (choice : ActionChoice) (actionId observationId : String) :
    (choice.issue actionId observationId).actionId = actionId := by
  cases choice <;> rfl

theorem ActionChoice.target_issue (choice : ActionChoice) {actionId observationId : String}
    {t : ElementTarget} (h : (choice.issue actionId observationId).target = some t) :
    t.observationId = observationId := by
  cases choice <;> cases h <;> rfl

section Decisions

variable {pydantic : Pydantic} {loads : List Nat → Load} {content : List Nat}
  {observationId actionId : String} {decision : BrowserAction ElementTarget}

theorem validatedActionContent_ok
    (h : validatedActionContent pydantic loads content observationId actionId = .ok decision) :
    ∃ choice : ActionChoice, decision = choice.issue actionId observationId := by
  unfold validatedActionContent at h
  cases hpayload : normalizedChoicePayload loads content observationId with
  | error fault =>
      rw [hpayload] at h
      cases h
  | ok payload =>
      rw [hpayload] at h
      dsimp only [bind, Except.bind] at h
      cases hchoice : validateChoice payload with
      | none =>
          rw [hchoice] at h
          cases h
      | some choice =>
          rw [hchoice] at h
          refine ⟨choice, ?_⟩
          dsimp only at h
          unfold validateDecision at h
          split_ifs at h
          · cases h
            rfl

/-- An answer carries the ids of the adapter. -/
theorem received_answer {context : ModelContext} {r : Response} {usage : ModelUsage}
    (h : received pydantic loads context r actionId = .answer (some decision) usage) :
    ∃ choice : ActionChoice,
      decision = choice.issue actionId context.observation.observationId := by
  unfold received at h
  cases hbody : validatedResponse r >>= fun body =>
      (responseUsage body).map fun usage => (body, usage) with
  | error fault =>
      rw [hbody] at h
      cases fault <;> cases h
  | ok read =>
      rw [hbody] at h
      dsimp only at h
      cases hcontent : responseText read.1 >>= fun content =>
          validatedActionContent pydantic loads content context.observation.observationId
            actionId with
      | error fault =>
          rw [hcontent] at h
          cases fault <;> cases h
      | ok validated =>
          rw [hcontent] at h
          cases h
          cases htext : responseText read.1 with
          | error fault =>
              rw [htext] at hcontent
              cases hcontent
          | ok text =>
              rw [htext] at hcontent
              exact validatedActionContent_ok hcontent

/-- An answer is a body with counts and a content that validates. -/
theorem received_ok {context : ModelContext} {r : Response} {body : Fields} {usage : ModelUsage}
    (hbody : validatedResponse r = .ok body) (husage : responseUsage body = .ok usage)
    (hcontent : (responseText body >>= fun content =>
      validatedActionContent pydantic loads content context.observation.observationId actionId) =
        .ok decision) :
    received pydantic loads context r actionId = .answer (some decision) usage := by
  have hread : (validatedResponse r >>= fun body =>
      (responseUsage body).map fun usage => (body, usage)) = .ok (body, usage) := by
    rw [hbody]
    show (responseUsage body).map _ = _
    rw [husage]
    rfl
  unfold received
  rw [hread]
  dsimp only
  rw [hcontent]

end Decisions

/-! ## Calls -/

section Calls

variable (pydantic : Pydantic) (loads : List Nat → Load) (context : ModelContext)
  (posted : Posted) (actionId : String)

theorem complete_posted {pydantic : Pydantic} {context : ModelContext} {payload : Json}
    (h : request pydantic context = .ok payload) :
    (complete pydantic loads context posted actionId).1 = some payload := by
  unfold complete
  rw [h]

theorem complete_received {pydantic : Pydantic} {context : ModelContext} {payload : Json}
    {r : Response} (h : request pydantic context = .ok payload) :
    (complete pydantic loads context (.response r) actionId).2 =
      received pydantic loads context r actionId := by
  unfold complete
  rw [h]

/-- What `complete` posts is affordable, and asks for the most that its first estimate covers; where
that covers nothing it posts nothing.  Its decisions carry the adapter's own ids. -/
theorem complete_affordable :
    (∀ payload, (complete pydantic loads context posted actionId).1 = some payload →
      ∃ m, payload = requestPayload pydantic context m ∧ Affordable pydantic context m ∧
        IsGreatest {n | Covered pydantic context n} m) ∧
    ((∀ m, ¬ Affordable pydantic context m) →
      ∃ safeReason, complete pydantic loads context posted actionId =
        (none, .callError none safeReason)) ∧
    ((∀ m, ¬ Covered pydantic context m) ↔
      ∃ safeReason, complete pydantic loads context posted actionId =
        (none, .callError none safeReason)) ∧
    ∀ decision usage,
      (complete pydantic loads context posted actionId).2 = .answer (some decision) usage →
        decision.actionId = actionId ∧
          ∀ t, decision.target = some t → t.observationId = context.observation.observationId := by
  unfold complete
  cases hrequest : request pydantic context with
  | error safeReason =>
      refine ⟨?_, fun _ => ⟨safeReason, rfl⟩, ?_, ?_⟩
      · intro payload h
        cases h
      · exact ⟨fun _ => ⟨safeReason, rfl⟩, fun _ m => request_error hrequest⟩
      · intro decision usage h
        cases h
  | ok payload =>
      obtain ⟨m, hpayload, hm⟩ := request_ok hrequest
      refine ⟨?_, fun hnone => absurd hm.1.affordable (hnone m), ?_, ?_⟩
      · intro other h
        cases h
        exact ⟨m, hpayload, hm.1.affordable, hm⟩
      · constructor
        · intro hnone
          exact absurd hm.1 (hnone m)
        · intro h
          obtain ⟨safeReason, hcomplete⟩ := h
          cases hcomplete
      · intro decision usage h
        cases posted with
        | response r =>
            obtain ⟨choice, rfl⟩ := received_answer h
            exact ⟨choice.actionId_issue _ _, fun t ht => choice.target_issue ht⟩
        | networkError => cases h
        | raised => cases h
        | cancelled => cases h

end Calls

/-! ## A call one token short -/

section Sample

def strictObject (title : String) (properties : List (String × Json)) (required : List String) :
    Json := .obj [
  ("additionalProperties", .bool false),
  ("properties", .obj properties),
  ("required", .arr (required.map .str)),
  ("title", .str title),
  ("type", .str "object")]

def property (title type : String) (bounds : List (String × Json)) : Json :=
  .obj (bounds ++ [("title", .str title), ("type", .str type)])

def typeProperty (type : String) : String × Json :=
  ("type", property "Type" "string" [("const", .str type)])

def refProperty : String × Json :=
  ("element_ref",
    property "Element Ref" "string" [("pattern", .str "^ref_[A-Za-z0-9_-]\x7b8,80\x7d$")])

def enumProperty (title : String) (texts : List String) : Json :=
  property title "string" [("enum", .arr (texts.map .str))]

/-- The classes of the choices, by their types. -/
def choiceDefinitions : List (String × String × Json) := [
  ("click", "_GLMClickChoice", strictObject "_GLMClickChoice" [refProperty, typeProperty "click"]
    ["element_ref", "type"]),
  ("fail", "_GLMFailChoice", strictObject "_GLMFailChoice" [
    typeProperty "fail",
    ("category", enumProperty "Category" ["failed", "escalated"]),
    ("reason", property "Reason" "string" [("maxLength", .num 300), ("minLength", .num 1)])]
    ["type", "category", "reason"]),
  ("fill", "_GLMFillChoice", strictObject "_GLMFillChoice" [
    refProperty,
    typeProperty "fill",
    ("text", property "Text" "string" [("maxLength", .num 300)])]
    ["element_ref", "type", "text"]),
  ("finish", "_GLMFinishChoice", strictObject "_GLMFinishChoice" [
    typeProperty "finish",
    ("summary", property "Summary" "string" [("default", .str ""), ("maxLength", .num 1000)])]
    ["type"]),
  ("navigate", "_GLMNavigateChoice", strictObject "_GLMNavigateChoice" [
    typeProperty "navigate",
    ("url", property "Url" "string" [("maxLength", .num 500), ("minLength", .num 1)])]
    ["type", "url"]),
  ("read", "_GLMReadChoice", strictObject "_GLMReadChoice" [refProperty, typeProperty "read"]
    ["element_ref", "type"]),
  ("scroll", "_GLMScrollChoice", strictObject "_GLMScrollChoice" [
    refProperty,
    typeProperty "scroll",
    ("direction", enumProperty "Direction" ["up", "down"]),
    ("amount", property "Amount" "string" [
      ("default", .str "small"), ("enum", .arr [.str "small", .str "page"])])]
    ["element_ref", "type", "direction"]),
  ("select", "_GLMSelectChoice", strictObject "_GLMSelectChoice" [
    refProperty,
    typeProperty "select",
    ("option", property "Option" "string" [("maxLength", .num 120), ("minLength", .num 1)])]
    ["element_ref", "type", "option"]),
  ("wait", "_GLMWaitChoice", strictObject "_GLMWaitChoice" [
    typeProperty "wait",
    ("duration_ms", property "Duration Ms" "integer" [("maximum", .num 5000), ("minimum", .num 1)])]
    ["type", "duration_ms"])]

def definitionRef (name : String) : String := "#/$defs/" ++ name

/-- The schema of `_GLMDecisionChoice`. -/
def decisionChoiceSchema : Json := .obj [
  ("$defs", .obj ((choiceDefinitions.map fun choice => (choice.2.1, choice.2.2)) ++ [
    ("_GLMActionChoice", .obj [
      ("discriminator", .obj [
        ("mapping", .obj (choiceDefinitions.map fun choice =>
          (choice.1, .str (definitionRef choice.2.1)))),
        ("propertyName", .str "type")]),
      ("oneOf", .arr (choiceDefinitions.map fun choice =>
        .obj [("$ref", .str (definitionRef choice.2.1))]))])])),
  ("additionalProperties", .bool false),
  ("properties", .obj [("action", .obj [("$ref", .str (definitionRef "_GLMActionChoice"))])]),
  ("required", .arr [.str "action"]),
  ("title", .str "_GLMDecisionChoice"),
  ("type", .str "object")]

def samplePydantic : Pydantic where
  decisionSchema := decisionChoiceSchema
  choiceError _ := ⟨"missing", ["action"]⟩
  decisionError _ := ⟨"string_pattern_mismatch", ["action", "action_id"]⟩

def sampleObservation : IssuedObservation where
  currentUrl := "http://sandbox-web/hris"
  pageTitle := "HRIS"
  semanticNodes := []
  interactiveElements := [{
    elementRef := "ref_nonce0001_1"
    role := "link"
    name := "HRIS"
    state := {}
    allowedActions := [.click, .read, .scroll] }]
  sessionId := "bw_abcdefghijklmnop"
  observationId := "obs_nonce0001"

def sampleContext : ModelContext where
  taskId := "w3-joiner-001"
  instruction := "Complete the synthetic onboarding using supplied values."
  observation := sampleObservation
  priorActions := []
  remainingSteps := 25
  remainingModelCalls := 25
  remainingInputTokens := 100000
  remainingOutputTokens := 20000
  remainingCostMicrousd := 11488

theorem sample_estimate (m : Int) :
    conservativeInputEstimate (requestPayload samplePydantic sampleContext m) =
      ((7032 + width m + 1) / 2 + 2048 : Nat) := by
  have hinstructions : escapedLength (utf8 systemInstructions) = 1455 := by decide +kernel
  have hschema : escapedLength (canonicalBytes decisionChoiceSchema) = 4410 := by decide +kernel
  have hinput : escapedLength (canonicalBytes (modelInput sampleContext)) = 904 := by
    decide +kernel
  have hlength := canonicalLength_requestPayload samplePydantic sampleContext m
  rw [show samplePydantic.decisionSchema = decisionChoiceSchema from rfl, hinstructions, hschema,
    hinput] at hlength
  unfold conservativeInputEstimate
  rw [hlength]
  omega

theorem sample_request : request samplePydantic sampleContext =
    .ok (requestPayload samplePydantic sampleContext 50) := by
  have hcap : outputCap sampleContext = 2048 := by decide
  have hwidth : width 2048 = 4 := by decide
  have hestimate : firstEstimate samplePydantic sampleContext = 5566 := by
    unfold firstEstimate
    rw [hcap, sample_estimate, hwidth]
    rfl
  have hremaining : sampleContext.remainingCostMicrousd = 11488 := rfl
  have hinput : ¬ sampleContext.remainingInputTokens < 5566 := by decide
  have hcost : (11488 : Int) < costMicrousd 5566 2048 := by decide
  have haffordable : min 2048 (affordableOutputTokens 5566 11488) = 50 := by decide
  rw [request_eq, hcap, hestimate, hremaining, if_neg (by decide), if_neg hinput, if_pos hcost,
    haffordable, if_neg (by decide)]

theorem sample_affordable : Affordable samplePydantic sampleContext 51 := by
  have hwidth : width 51 = 2 := by decide
  have hestimate :
      conservativeInputEstimate (requestPayload samplePydantic sampleContext 51) = 5565 := by
    rw [sample_estimate, hwidth]
    rfl
  have hinput : 5565 ≤ sampleContext.remainingInputTokens := by decide
  have hcost : costMicrousd 5565 51 ≤ sampleContext.remainingCostMicrousd := by decide
  constructor
  · decide
  · decide
  · rw [hestimate]
    exact hinput
  · rw [hestimate]
    exact hcost

/-- A click on the only element, under the schema of a choice. -/
def clickContent : List Nat :=
  utf8 "\x7b\"action\":\x7b\"type\":\"click\",\"element_ref\":\"ref_nonce0001_1\"\x7d\x7d"

def clickLoads (content : List Nat) : Load :=
  if content = clickContent then
    .value (.obj [(utf8 "action", .obj [
      (utf8 "type", .str (utf8 "click")),
      (utf8 "element_ref", .str (utf8 "ref_nonce0001_1"))])])
  else .invalid

/-- The body of a response with this content, which took 10 and 2 tokens. -/
def sampleBody (content : List Nat) : Fields := [
  (utf8 "choices", .arr [.obj [
    (utf8 "finish_reason", .str (utf8 "stop")),
    (utf8 "message", .obj [
      (utf8 "role", .str (utf8 "assistant")),
      (utf8 "content", .str content)])]]),
  (utf8 "usage", .obj [
    (utf8 "prompt_tokens", .int 10),
    (utf8 "completion_tokens", .int 2),
    (utf8 "total_tokens", .int 12)])]

def sampleResponse (content : List Nat) : Response where
  statusCode := 200
  json := .value (.obj (sampleBody content))

def clickDecision : BrowserAction ElementTarget :=
  .click "act_glm_1" (target "obs_nonce0001" "ref_nonce0001_1")

theorem sample_price : costOverflows ((10, 2) : Nat × Nat).1 ((10, 2) : Nat × Nat).2 = false := by
  have hpow : (2 : Int) ^ 1024 = 2 ^ 54 * 2 ^ 970 := by rw [← pow_add]
  have hbase : (1 : Int) ≤ 2 ^ 970 := one_le_pow₀ (by decide)
  have hlarge : (136 : Int) < 4 * (2 ^ 1024 - 2 ^ 970) := by
    rw [hpow]
    generalize (2 : Int) ^ 970 = least at hbase
    omega
  exact decide_eq_false (Int.not_le.mpr hlarge)

theorem click_received :
    received samplePydantic clickLoads sampleContext (sampleResponse clickContent) "act_glm_1" =
      .answer (some clickDecision) (usageOf (10, 2)) := by
  have hcounts : reportedTokens (sampleBody clickContent) = .ok (10, 2) :=
    Lib.ok_of_toOption (by decide +kernel)
  have husage : responseUsage (sampleBody clickContent) = .ok (usageOf (10, 2)) := by
    unfold responseUsage
    rw [hcounts]
    dsimp only [bind, Except.bind]
    rw [sample_price]
    rfl
  have hcontent : (responseText (sampleBody clickContent) >>= fun content =>
      validatedActionContent samplePydantic clickLoads content "obs_nonce0001" "act_glm_1") =
        .ok clickDecision := Lib.ok_of_toOption (by decide +kernel)
  exact received_ok rfl husage hcontent

/-- The 50 tokens that the call asks for are affordable, and the click that answers it carries the
ids of the adapter. -/
theorem complete_affordable_click :
    Affordable samplePydantic sampleContext 50 ∧
      IsGreatest {n | Covered samplePydantic sampleContext n} 50 ∧
      clickDecision.actionId = "act_glm_1" ∧
      ∀ t, clickDecision.target = some t → t.observationId = "obs_nonce0001" := by
  have hposted := complete_posted clickLoads (.response (sampleResponse clickContent)) "act_glm_1"
    sample_request
  have ⟨hpayload, _, _, hdecision⟩ := complete_affordable samplePydantic clickLoads sampleContext
    (.response (sampleResponse clickContent)) "act_glm_1"
  have ⟨m, hsame, haffordable, hgreatest⟩ := hpayload _ hposted
  have hfifty : 50 = m := requestPayload_injective samplePydantic sampleContext hsame
  rw [← hfifty] at haffordable hgreatest
  have hanswer := (complete_received clickLoads "act_glm_1" sample_request).trans click_received
  exact ⟨haffordable, hgreatest, hdecision _ _ hanswer⟩

/-- The call asks for 50 tokens of output where 51 are affordable: a payload with two digits takes
a token less than the one with four that the call is weighed by. -/
theorem sample_one_short :
    ¬ ∀ payload,
      (complete samplePydantic (fun _ => .invalid) sampleContext .networkError "act_glm_1").1 =
        some payload →
      ∃ m, payload = requestPayload samplePydantic sampleContext m ∧
        IsGreatest {n | Affordable samplePydantic sampleContext n} m := by
  intro h
  have hposted := complete_posted (fun _ => .invalid) .networkError "act_glm_1" sample_request
  obtain ⟨m, hpayload, hm⟩ := h _ hposted
  have hfifty := requestPayload_injective samplePydantic sampleContext hpayload
  have hle : (51 : Int) ≤ m := hm.2 sample_affordable
  rw [← hfifty] at hle
  exact absurd hle (by decide)

end Sample

end FlowPilot.Agents.Glm
