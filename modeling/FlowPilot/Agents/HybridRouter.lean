import FlowPilot.Agents.Hybrid

/-!
# The router of the hybrid agent

What a decision of the router says, what it leaves of the router's state, and what a switch that it
grants costs.
-/

open FlowPilot.Lib FlowPilot.Browser

namespace FlowPilot.Agents.Hybrid

/-! ## Decisions -/

/-- The constraints of `RouteDecision`. -/
def RouteDecision.valid (d : RouteDecision) : Bool :=
  decide (d.switchCount ≤ 2 ∧ d.switched = decide (d.fromModality ≠ d.toModality))

/-- The decisions of the router so far. -/
structure Routed (s : RunState) : Prop where
  count : s.routes.countP RouteDecision.switched = s.router.switchCount
  once : s.router.switchCount ≤ 1
  direction : ∀ d ∈ s.routes, d.switched = true → d.fromModality = .dom ∧ d.toModality = .vision
  valid : ∀ d ∈ s.routes, d.valid = true

variable {script : Script} {category : RouteCategory} {budget : HybridAgentBudget}
  {l : Locals kind}

/-- The reasons that end the run. -/
def RouteReasonCode.refuses (reason : RouteReasonCode) : Prop :=
  reason = .switchLimitReached ∨ reason = .switchRefusedBudget

theorem shouldSwitch_reason (category : RouteCategory) (signals : HybridRouteSignals)
    (lastAction : Option ActionSummary) (s : RouterState)
    (h : (shouldSwitch signals category lastAction s).1 = true) :
    ¬ (shouldSwitch signals category lastAction s).2.refuses := by
  unfold RouteReasonCode.refuses
  unfold shouldSwitch at h ⊢
  split_ifs at h ⊢ <;> simp at h ⊢

/-- What the router has decided, from `s` to `t`. -/
structure Routing (current : Modality) (b : RouterBudget) (s : RouterState) (d : RouteDecision)
    (t : RouterState) : Prop where
  valid : d.valid = true
  stays : d.switched = false → t = s
  granted : d.switched = true → current = .dom ∧ d.fromModality = .dom ∧ d.toModality = .vision ∧
    ¬ d.reasonCode.refuses ∧ s.switchCount = 0 ∧ t = { s with switchCount := 1 } ∧
    b.canRequestVision = true

theorem routing_stays {current : Modality} {b : RouterBudget} {s : RouterState}
    (h : s.switchCount ≤ 1) (reason : RouteReasonCode) :
    Routing current b s (decision current current reason s.switchCount) s where
  valid := by
    unfold RouteDecision.valid decision
    simp only [ne_eq, not_true_eq_false, decide_false, and_true, decide_eq_true_eq]
    omega
  stays _ := rfl
  granted hswitched := by
    unfold decision at hswitched
    simp at hswitched

theorem route_spec (current : Modality) (signals : HybridRouteSignals)
    (lastAction : Option ActionSummary) {s : RouterState} (b : RouterBudget)
    (h : s.switchCount ≤ 1) :
    Routing current b s (route current signals category lastAction s b).1
      (route current signals category lastAction s b).2 := by
  unfold route
  cases current with
  | vision => exact routing_stays h _
  | dom =>
    rw [if_neg (by decide)]
    have hreason := shouldSwitch_reason category signals lastAction s
    generalize shouldSwitch signals category lastAction s = answer at hreason
    have ⟨wanted, reason⟩ := answer
    dsimp only at hreason ⊢
    by_cases hwanted : wanted = true
    · rw [if_neg (not_not.mpr hwanted)]
      by_cases hlimit : min 1 b.maxSwitches ≤ s.switchCount
      · rw [if_pos hlimit]
        exact routing_stays h _
      · rw [if_neg hlimit]
        by_cases hvision : b.canRequestVision = true
        · rw [if_neg (not_not.mpr hvision)]
          have hzero : s.switchCount = 0 := by omega
          rw [hzero]
          exact
            { valid := rfl
              stays := fun hswitched => by cases hswitched
              granted := fun _ => ⟨rfl, rfl, rfl, hreason hwanted, hzero, rfl, hvision⟩ }
        · rw [if_pos hvision]
          exact routing_stays h _
    · rw [if_pos hwanted]
      exact routing_stays h _

/-- The router's decision is added to the routes. -/
theorem Routed.add {s : RunState} (h : Routed s) {d : RouteDecision} {router : RouterState}
    {current : Modality} {b : RouterBudget} (hd : Routing current b s.router d router) :
    Routed { s with routes := s.routes ++ [d], router := router } := by
  have hmem : ∀ {P : RouteDecision → Prop}, (∀ e ∈ s.routes, P e) → P d →
      ∀ e ∈ s.routes ++ [d], P e := by
    intro P hold hnew e he
    rcases List.mem_append.mp he with hin | hlast
    · exact hold e hin
    · rw [List.mem_singleton.mp hlast]
      exact hnew
  have hcount := h.count
  have honce := h.once
  cases hswitched : d.switched with
  | false =>
    have hsame := hd.stays hswitched
    rw [hsame]
    refine ⟨?_, honce, hmem h.direction fun hyes => ?_, hmem h.valid hd.valid⟩
    · simp [hcount, hswitched]
    · rw [hswitched] at hyes
      cases hyes
  | true =>
    have ⟨_, hfrom, hto, _, hzero, hrouter, _⟩ := hd.granted hswitched
    rw [hrouter]
    refine ⟨?_, Nat.le_refl 1, hmem h.direction fun _ => ⟨hfrom, hto⟩, hmem h.valid hd.valid⟩
    simp [hcount, hzero, hswitched]

/-! ## The switch -/

/-- What `_router_budget` computes at a reading of the clock. -/
def remainingAt (script : Script) (budget : HybridAgentBudget) (l : Locals kind) :
    RouterBudget where
  remainingSteps := (budget.maxSteps : Int) - l.steps
  remainingModelCalls := (budget.maxModelCalls : Int) - l.modelCalls
  remainingDomObservations := (budget.maxDomObservations : Int) - l.own.domObservationCount
  remainingDomObservationBytes := (budget.maxDomObservationBytes : Int) - l.own.domObservationBytes
  remainingCompressedDomBytes := (budget.maxCompressedDomBytes : Int) - l.own.compressedDomBytes
  remainingImages := (budget.maxImages : Int) - l.own.imageCount
  remainingImageBytes := (budget.maxImageBytes : Int) - l.own.imageBytes
  remainingImagePixels := (budget.maxImagePixels : Int) - l.own.imagePixels
  remainingCaptureMs := (budget.maxCaptureMs : Int) - l.own.captureDurationMs
  remainingInputTokens := (budget.maxInputTokens : Int) - l.inputTokens
  remainingOutputTokens := (budget.maxOutputTokens : Int) - l.outputTokens
  remainingCostMicrousd := (budget.maxCostMicrousd : Int) - l.costMicrousd
  remainingDurationSeconds :=
    (budget.maxDurationSeconds * second - (script.clock l.clockReads - script.clock 0)) / second
  maxSwitches := budget.maxSwitches

/-- The decision that `switch` takes. -/
def chosenAt (script : Script) (category : RouteCategory) (budget : HybridAgentBudget)
    (l : Locals kind) : RouteDecision × RouterState :=
  route l.observation.modality l.observation.routeSignals category l.own.lastAction l.own.router
    (remainingAt script budget l)

/-- The variables once it is taken. -/
def routedAt (script : Script) (category : RouteCategory) (budget : HybridAgentBudget)
    (l : Locals kind) : Locals kind :=
  { l with
    clockReads := l.clockReads + 1
    own := { l.own with
      routes := l.own.routes ++ [(chosenAt script category budget l).1]
      router := (chosenAt script category budget l).2 } }

/-- The rule for `switch`. -/
theorem switch_rule {Q : PUnit → Locals kind → Prop} {E : Exit → Locals kind → Prop}
    (hrefused : (chosenAt script category budget l).1.reasonCode.refuses →
      Ensures (quit .switchBudgetExhausted
        "Hybrid Router refused a required modality switch within total budgets" :
        Flow kind PUnit) (routedAt script category budget l) Q E)
    (hgranted : (chosenAt script category budget l).1.switched = true →
      Ensures (do let o ← requestObservation script; observe budget o)
        (routedAt script category budget l) Q E)
    (hstays : (chosenAt script category budget l).1.switched = false →
      Q ⟨⟩ (routedAt script category budget l)) :
    Ensures (switch script category budget) l Q E := by
  refine Ensures.bind (Ensures.bind (Ensures.bind (Ensures.of_get (Ensures.bind (Ensures.of_modify
    (Ensures.of_pure (Ensures.bind (Ensures.of_get (Ensures.of_pure ?_)))))))))
  refine Ensures.bind (Ensures.of_get (Ensures.bind (Ensures.of_modify ?_)))
  by_cases hrefuses : (chosenAt script category budget l).1.reasonCode.refuses
  · have hquits := hrefused hrefuses
    unfold RouteReasonCode.refuses at hrefuses
    show Ensures (if (chosenAt script category budget l).1.reasonCode = .switchLimitReached ∨
      (chosenAt script category budget l).1.reasonCode = .switchRefusedBudget then _ else _)
      (routedAt script category budget l) Q E
    rw [if_pos hrefuses]
    exact hquits
  · unfold RouteReasonCode.refuses at hrefuses
    show Ensures (if (chosenAt script category budget l).1.reasonCode = .switchLimitReached ∨
      (chosenAt script category budget l).1.reasonCode = .switchRefusedBudget then _ else
        if (chosenAt script category budget l).1.switched = true then _ else _)
      (routedAt script category budget l) Q E
    rw [if_neg hrefuses]
    by_cases hswitched : (chosenAt script category budget l).1.switched = true
    · rw [if_pos hswitched]
      exact hgranted hswitched
    · rw [if_neg hswitched]
      exact hstays (Bool.not_eq_true _ ▸ hswitched)

/-- The image is within the caps that the router assumes. -/
def WithinCaps (o : HybridObservation) : Prop :=
  match o.body with
  | .dom _ => True
  | .vision image =>
    image.imageBytes ≤ 184320 ∧ image.imageWidth * image.imageHeight ≤ 960 * 540 ∧
      image.captureDurationMs ≤ 3000

def imageStatuses : List RunStatus :=
  [.imageBudgetExhausted, .imageByteBudgetExhausted, .imagePixelBudgetExhausted,
    .captureTimeBudgetExhausted]

/-- A switch that the router grants exceeds no budget of the images. -/
theorem switch_affords (hcaps : WithinCaps (script.visit l.requests).view)
    (hsound : l.own.router.switchCount ≤ 1) :
    Ensures (switch script category budget) l (fun _ _ => True)
      fun e _ => ∀ status reason, e = .stopped status reason → status ∉ imageStatuses := by
  have hquit : ∀ {α : Type} {status : RunStatus} {reason : String} {s : Locals kind}
      {Q : α → Locals kind → Prop}, status ∉ imageStatuses →
      Ensures (quit status reason : Flow kind α) s Q
        fun e _ => ∀ status reason, e = .stopped status reason → status ∉ imageStatuses := by
    intro α status reason s Q hstatus
    refine Ensures.bind (Ensures.of_modify ?_)
    intro _ _ hstopped
    cases hstopped
    exact hstatus
  refine switch_rule (fun _ => hquit (by decide)) ?_ fun _ => trivial
  intro hswitched
  have hrouting : Routing l.observation.modality (remainingAt script budget l) l.own.router
      (chosenAt script category budget l).1 (chosenAt script category budget l).2 :=
    route_spec _ _ _ _ hsound
  have ⟨_, _, _, _, _, _, hvision⟩ := hrouting.granted hswitched
  unfold RouterBudget.canRequestVision at hvision
  rw [decide_eq_true_eq] at hvision
  refine Ensures.bind (Ensures.bind (Ensures.of_get (Ensures.bind (Ensures.of_modify ?_))))
  split
  · refine Ensures.bind (Ensures.of_modify ?_)
    intro _ _ hstopped
    cases hstopped
  · refine Ensures.of_pure (Ensures.bind (Ensures.of_modify (Ensures.bind (Ensures.of_get ?_))))
    -- the counters are those in front of the decision
    have hnone : ∀ image, (script.visit l.requests).view.body = .vision image →
        observationStatus budget (script.visit l.requests).view
          (recordObservation (script.visit l.requests).view
            (routedAt script category budget l).own) = none := by
      intro image hbody
      unfold WithinCaps at hcaps
      rw [hbody] at hcaps
      unfold observationStatus recordObservation
      rw [hbody]
      have hremaining : (remainingAt script budget l).remainingImages =
          (budget.maxImages : Int) - l.own.imageCount ∧
          (remainingAt script budget l).remainingImageBytes =
          (budget.maxImageBytes : Int) - l.own.imageBytes ∧
          (remainingAt script budget l).remainingImagePixels =
          (budget.maxImagePixels : Int) - l.own.imagePixels ∧
          (remainingAt script budget l).remainingCaptureMs =
          (budget.maxCaptureMs : Int) - l.own.captureDurationMs := ⟨rfl, rfl, rfl, rfl⟩
      unfold routedAt
      dsimp only at hcaps ⊢
      rw [if_neg (by omega), if_neg (by omega), if_neg (by omega), if_neg (by omega)]
    cases hbody : (script.visit l.requests).view.body with
    | vision image =>
      show Ensures (quitIf (observationStatus budget (script.visit l.requests).view
        (recordObservation (script.visit l.requests).view
          (routedAt script category budget l).own))) _ _ _
      rw [hnone image hbody]
      trivial
    | dom d =>
      show Ensures (quitIf (observationStatus budget (script.visit l.requests).view
        (recordObservation (script.visit l.requests).view
          (routedAt script category budget l).own))) _ _ _
      unfold observationStatus
      rw [hbody]
      dsimp only
      split_ifs
      · exact hquit (by decide)
      · exact hquit (by decide)
      · trivial
  · exact hquit (by decide)

end FlowPilot.Agents.Hybrid
