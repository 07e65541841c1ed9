import FlowPilot.Agents.HybridRouter

/-!
# Statements of the hybrid agent

What each statement of the loop does to the counts of a run, and how a run is left there.
-/

open FlowPilot.Lib FlowPilot.Browser

namespace FlowPilot.Agents.Hybrid

/-! ## What a run counts -/

structure Counts where
  steps : Nat
  exchanges : Nat
  turns : Nat
  calls : Nat
  routes : Nat

/-- The counts respect the budget, and every call that was counted was made. -/
structure Counts.Within (budget : HybridAgentBudget) (n : Counts) : Prop where
  steps : n.steps ≤ budget.maxSteps
  exchanges : n.exchanges ≤ budget.maxSteps
  turns : n.turns ≤ budget.maxModelCalls
  routes : n.routes ≤ budget.maxSteps
  calls : n.calls = n.turns

section Accounts

variable (script : Script) (budget : HybridAgentBudget)

/-- The session is open, and every model call so far was answered. -/
structure Tally (n : Counts) (l : Locals kind) : Prop where
  steps : l.steps = n.steps
  actions : l.actions.length = n.steps
  exchanges : l.exchanges.length = n.exchanges
  turns : l.modelTurns = n.turns
  calls : l.modelCalls = n.calls
  routes : l.own.routes.length = n.routes
  requests : l.requests = n.exchanges + l.own.router.switchCount
  deletes : l.deletes = 0
  routed : Routed l.own
  answered : ∀ k < n.turns, ∃ content usage, script.reply k = .answer content usage

/-- The time or a budget of the model is exceeded, as of the last reading of the clock. -/
def Overspent (l : Locals kind) : Prop :=
  budget.maxDurationSeconds * second < script.clock (l.clockReads - 1) - script.clock 0 ∨
    budget.maxInputTokens < l.inputTokens ∨ budget.maxOutputTokens < l.outputTokens ∨
    budget.maxCostMicrousd < l.costMicrousd

/-- The last model call was answered by a `ModelCallError` with an empty reason, and it exceeds no
budget. -/
def Unexplained (l : Locals kind) : Prop :=
  ∃ k usage, l.modelTurns = k + 1 ∧ script.reply k = .callError usage "" ∧
    ¬ Overspent script budget l

/-- How a run is left. -/
structure Ended (e : Exit) (t : Locals kind) : Prop where
  steps : t.steps ≤ budget.maxSteps
  actions : t.actions.length ≤ budget.maxSteps
  exchanges : t.exchanges.length ≤ budget.maxSteps
  turns : t.modelTurns ≤ budget.maxModelCalls
  calls : t.modelCalls = t.modelTurns
  routes : t.own.routes.length ≤ budget.maxSteps
  requests : t.requests = t.exchanges.length + t.own.router.switchCount
  deletes : t.deletes = 1
  routed : Routed t.own
  explained : ∀ status reason, e = .stopped status reason →
    (reason ≠ "" ↔ ¬ Unexplained script budget t)

/-- The observations that were seen are within their budgets. -/
def Seen (s : RunState) : Prop :=
  s.domObservationCount ≤ budget.maxDomObservations ∧
    s.domObservationBytes ≤ budget.maxDomObservationBytes ∧ s.imageCount ≤ budget.maxImages ∧
    s.imageBytes ≤ budget.maxImageBytes ∧ s.imagePixels ≤ budget.maxImagePixels ∧
    s.captureDurationMs ≤ budget.maxCaptureMs ∧
    s.compressedDomBytes ≤ budget.maxCompressedDomBytes

end Accounts

variable {limits : Limits} {script : Script} {category : RouteCategory}
  {budget : HybridAgentBudget} {n : Counts} {l : Locals kind}

/-- Where every call was answered, nothing is left unexplained. -/
theorem Tally.not_unexplained (h : Tally script n l) : ¬ Unexplained script budget l := by
  intro hunexplained
  have ⟨k, usage, hturns, hreply, _⟩ := hunexplained
  have hk : k < n.turns := by
    rw [← h.turns, hturns]
    exact Nat.lt_succ_self k
  have ⟨content, given, hanswer⟩ := h.answered k hk
  rw [hreply] at hanswer
  cases hanswer

/-- A run that is left for a reason of its own. -/
theorem Tally.ended (h : Tally script n l) (hn : n.Within budget) {e : Exit}
    (he : ∀ status reason, e = .stopped status reason → reason ≠ "") :
    Ended script budget e { l with deletes := l.deletes + 1 } where
  steps := h.steps ▸ hn.steps
  actions := h.actions ▸ hn.steps
  exchanges := h.exchanges ▸ hn.exchanges
  turns := h.turns ▸ hn.turns
  calls := by
    show l.modelCalls = l.modelTurns
    rw [h.calls, h.turns]
    exact hn.calls
  routes := h.routes ▸ hn.routes
  requests := by
    have hrequests := h.requests
    rw [← h.exchanges] at hrequests
    exact hrequests
  deletes := congrArg (· + 1) h.deletes
  routed := h.routed
  explained status reason hstopped :=
    ⟨fun _ => h.not_unexplained, fun _ => he status reason hstopped⟩

theorem Tally.quits (h : Tally script n l) (hn : n.Within budget) {α : Type} {status : RunStatus}
    {reason : String} (hreason : reason ≠ "") {Q : α → Locals kind → Prop} :
    Ensures (quit status reason : Flow kind α) l Q (Ended script budget) := by
  refine Ensures.bind (Ensures.of_modify (h.ended hn ?_))
  intro _ _ hstopped
  cases hstopped
  exact hreason

/-- A run that is cancelled is closed first. -/
theorem Tally.closes (h : Tally script n l) (hn : n.Within budget) {α : Type}
    {Q : α → Locals kind → Prop} :
    Ensures (do safeClose; throw .raised : Flow kind α) l Q (Ended script budget) := by
  refine Ensures.bind (Ensures.of_modify (h.ended hn ?_))
  intro _ _ hstopped
  cases hstopped

/-- A verdict that has a text. -/
def Told (verdict : Option (RunStatus × String)) : Prop :=
  ∀ status reason, verdict = some (status, reason) → reason ≠ ""

theorem told_none : Told none := fun _ _ h => by cases h

theorem told_some {status : RunStatus} {reason : String} (h : reason ≠ "") :
    Told (some (status, reason)) := by
  intro _ _ hverdict
  cases hverdict
  exact h

theorem Tally.quitsIf (h : Tally script n l) (hn : n.Within budget)
    {verdict : Option (RunStatus × String)} (htold : Told verdict) :
    Ensures (quitIf verdict : Flow kind PUnit) l (fun _ t => t = l ∧ verdict = none)
      (Ended script budget) := by
  cases verdict with
  | none => exact ⟨rfl, rfl⟩
  | some verdict => exact h.quits hn (htold _ _ rfl)

/-! ## The statements -/

/-- What `_pre_call_budget_status` lets through. -/
structure Affordable (budget : HybridAgentBudget) (l : Locals kind) : Prop where
  calls : l.modelCalls < budget.maxModelCalls
  input : l.inputTokens < budget.maxInputTokens
  output : l.outputTokens < budget.maxOutputTokens
  cost : l.costMicrousd ≤ budget.maxCostMicrousd

theorem preCall_spec (l : Locals kind) :
    Ensures (preCallBudgetStatus script wording budget.toAgentBudget : Flow kind _) l
      (fun verdict t => t = { l with clockReads := l.clockReads + 1 } ∧ Told verdict ∧
        (verdict = none → Affordable budget t))
      fun _ _ => False := by
  refine Ensures.bind (Ensures.bind (Ensures.of_get (Ensures.bind (Ensures.of_modify
    (Ensures.of_pure (Ensures.bind (Ensures.of_get (Ensures.of_pure ?_))))))))
  refine ⟨rfl, ?_, ?_⟩
  · split_ifs
    · exact told_some (by decide)
    · exact told_some (by decide)
    · exact told_some (by decide)
    · exact told_some (by decide)
    · exact told_some (by decide)
    · exact told_none
  · intro hnone
    split_ifs at hnone with htime hcalls hinput houtput hcost
    exact ⟨Nat.lt_of_not_le hcalls, Nat.lt_of_not_le hinput, Nat.lt_of_not_le houtput,
      Nat.le_of_not_lt hcost⟩

theorem postCall_spec (l : Locals kind) :
    Ensures (postCallBudgetStatus script wording budget.toAgentBudget : Flow kind _) l
      (fun verdict t => t = { l with clockReads := l.clockReads + 1 } ∧ Told verdict ∧
        (verdict = none ↔ ¬ Overspent script budget t))
      fun _ _ => False := by
  refine Ensures.bind (Ensures.bind (Ensures.of_get (Ensures.bind (Ensures.of_modify
    (Ensures.of_pure (Ensures.bind (Ensures.of_get (Ensures.of_pure ?_))))))))
  refine ⟨rfl, ?_, ?_⟩
  · split_ifs
    · exact told_some (by decide)
    · exact told_some (by decide)
    · exact told_some (by decide)
    · exact told_some (by decide)
    · exact told_none
  · unfold Overspent
    dsimp only
    rw [Nat.add_sub_cancel]
    split_ifs with htime hinput houtput hcost
    · simp [htime]
    · simp [hinput]
    · simp [houtput]
    · simp [hcost]
    · simp [htime, hinput, houtput, hcost]

/-- A new observation is within its budgets, or the run is left. -/
theorem observe_spec (h : Tally script n l) (hn : n.Within budget) (o : HybridObservation) :
    Ensures (observe budget o) l
      (fun _ t => Tally script n t ∧ (Seen budget l.own → Seen budget t.own))
      (Ended script budget) := by
  refine Ensures.bind (Ensures.of_modify (Ensures.bind (Ensures.of_get ?_)))
  have hown : Routed (recordObservation o l.own) ∧
      (recordObservation o l.own).routes = l.own.routes ∧
      (recordObservation o l.own).router = l.own.router := by
    unfold recordObservation
    cases o.body with
    | dom d =>
      exact ⟨⟨h.routed.count, h.routed.once, h.routed.direction, h.routed.valid⟩, rfl, rfl⟩
    | vision image =>
      exact ⟨⟨h.routed.count, h.routed.once, h.routed.direction, h.routed.valid⟩, rfl, rfl⟩
  have htally : Tally script n
      { l with observation := o, own := recordObservation o l.own } :=
    { h with
      routes := by
        rw [← h.routes]
        exact congrArg List.length hown.2.1
      requests := by
        rw [h.requests]
        exact congrArg (fun r => n.exchanges + r.switchCount) hown.2.2.symm
      routed := hown.1 }
  have htold : Told (observationStatus budget o (recordObservation o l.own)) := by
    unfold observationStatus
    split
    · split_ifs
      · exact told_some (by decide)
      · exact told_some (by decide)
      · exact told_none
    · split_ifs
      · exact told_some (by decide)
      · exact told_some (by decide)
      · exact told_some (by decide)
      · exact told_some (by decide)
      · exact told_none
  refine (htally.quitsIf hn htold).mono ?_ fun _ _ hended => hended
  intro _ t ⟨ht, hnone⟩
  rw [ht]
  refine ⟨htally, fun hseen => ?_⟩
  unfold Seen at hseen ⊢
  unfold observationStatus recordObservation at hnone
  show Seen budget (recordObservation o l.own)
  unfold recordObservation Seen
  cases hbody : o.body with
  | dom d =>
    rw [hbody] at hnone
    dsimp only at hnone ⊢
    split_ifs at hnone
    omega
  | vision v =>
    rw [hbody] at hnone
    dsimp only at hnone ⊢
    split_ifs at hnone
    omega

theorem requestObservation_spec (h : Tally script n { l with requests := l.requests + 1 })
    (hn : n.Within budget) :
    Ensures (requestObservation script) l
      (fun o t => Tally script n t ∧ o = (script.visit l.requests).view ∧ t.own = l.own)
      (Ended script budget) := by
  refine Ensures.bind (Ensures.of_get (Ensures.bind (Ensures.of_modify ?_)))
  have htally : Tally script n { l with
      session := (respondObservation l.session (script.visit l.requests)).1
      requests := l.requests + 1 } := { h with }
  dsimp only
  split
  · exact htally.closes hn
  · exact ⟨htally, rfl, rfl⟩
  · exact htally.quits hn (by decide)

theorem switch_spec (h : Tally script n l) (hseen : Seen budget l.own)
    (hn : { n with routes := n.routes + 1 : Counts }.Within budget) :
    Ensures (switch script category budget) l
      (fun _ t => Tally script { n with routes := n.routes + 1 } t ∧ Seen budget t.own)
      (Ended script budget) := by
  have hrouting : Routing l.observation.modality (remainingAt script budget l) l.own.router
      (chosenAt script category budget l).1 (chosenAt script category budget l).2 :=
    route_spec _ _ _ _ h.routed.once
  have hrouted := h.routed.add hrouting
  have hlength : (l.own.routes ++ [(chosenAt script category budget l).1]).length =
      n.routes + 1 := by
    rw [List.length_append, h.routes]
    rfl
  -- while no other observation is asked for
  have hstays : (chosenAt script category budget l).1.switched = false →
      Tally script { n with routes := n.routes + 1 } (routedAt script category budget l) := by
    intro hswitched
    have hsame : (chosenAt script category budget l).2 = l.own.router := hrouting.stays hswitched
    exact
      { h with
        routes := hlength
        routed := hrouted
        requests := by
          show l.requests = n.exchanges + (chosenAt script category budget l).2.switchCount
          rw [hsame]
          exact h.requests }
  have hkept : Seen budget (routedAt script category budget l).own := hseen
  refine switch_rule ?_ ?_ fun hswitched => ⟨hstays hswitched, hkept⟩
  · intro hrefuses
    refine (hstays ?_).quits hn (by decide)
    rw [← Bool.not_eq_true]
    intro hswitched
    exact (hrouting.granted hswitched).2.2.2.1 hrefuses
  · intro hswitched
    have ⟨_, _, _, _, hzero, hrouter, _⟩ := hrouting.granted hswitched
    have htally : Tally script { n with routes := n.routes + 1 }
        { routedAt script category budget l with requests := l.requests + 1 } :=
      { h with
        routes := hlength
        routed := hrouted
        requests := by
          show l.requests + 1 = n.exchanges + (chosenAt script category budget l).2.switchCount
          rw [h.requests, hrouter, hzero]
          rfl }
    refine Ensures.bind ((requestObservation_spec htally hn).mono ?_ fun _ _ hended => hended)
    intro o t ⟨ht, _, hown⟩
    refine (observe_spec ht hn o).mono ?_ fun _ _ hended => hended
    intro _ u ⟨hu, hnow⟩
    rw [hown] at hnow
    exact ⟨hu, hnow hkept⟩

/-! ## The model call -/

/-- A DOM observation that is sent is within the budget of the compressed bytes. -/
theorem modelObservation_spec (h : Tally script n l) (hn : n.Within budget) :
    Ensures (modelObservation budget) l
      (fun _ t => Tally script n t ∧ (Seen budget l.own → Seen budget t.own))
      (Ended script budget) := by
  refine Ensures.bind (Ensures.of_get ?_)
  split
  · exact ⟨h, id⟩
  · split
    · exact h.quits hn (by decide)
    · rename_i compressed _
      refine Ensures.bind (Ensures.of_modify ?_)
      have htally : Tally script n { l with
          own := { l.own with
            compressedDomBytes := l.own.compressedDomBytes + compressed.serializedBytes } } :=
        { h with
          routed := ⟨h.routed.count, h.routed.once, h.routed.direction, h.routed.valid⟩ }
      dsimp only
      split
      · exact htally.quits hn (by decide)
      · rename_i hbytes
        exact ⟨htally, fun ⟨hdom, hdomBytes, himages, himageBytes, hpixels, hcapture, _⟩ =>
          ⟨hdom, hdomBytes, himages, himageBytes, hpixels, hcapture, Nat.le_of_not_lt hbytes⟩⟩

theorem not_unexplained_of_last {t : Locals kind} {k : Nat} (hturns : t.modelTurns = k + 1)
    (hreply : ∀ usage, script.reply k ≠ .callError usage "") : ¬ Unexplained script budget t := by
  intro hunexplained
  have ⟨j, usage, hj, hempty, _⟩ := hunexplained
  have hsame : j = k := by omega
  rw [hsame] at hempty
  exact hreply usage hempty

/-- A run that is left with its last model call. -/
theorem Tally.endedWith (h : Tally script n l)
    (hn : { n with turns := n.turns + 1 : Counts }.Within budget) {e : Exit} {t : Locals kind}
    (hturns : t.modelTurns = l.modelTurns + 1) (hcalls : t.modelCalls = l.modelCalls)
    (hsteps : t.steps = l.steps)
    (hactions : t.actions = l.actions) (hexchanges : t.exchanges = l.exchanges)
    (hown : t.own = l.own) (hrequests : t.requests = l.requests)
    (hdeletes : t.deletes = l.deletes + 1)
    (hexplained : ∀ status reason, e = .stopped status reason →
      (reason ≠ "" ↔ ¬ Unexplained script budget t)) : Ended script budget e t where
  steps := by
    rw [hsteps, h.steps]
    exact hn.steps
  actions := by
    rw [hactions, h.actions]
    exact hn.steps
  exchanges := by
    rw [hexchanges, h.exchanges]
    exact hn.exchanges
  turns := by
    rw [hturns, h.turns]
    exact hn.turns
  calls := by
    rw [hturns, hcalls, h.turns, h.calls]
    exact hn.calls
  routes := by
    rw [hown, h.routes]
    exact hn.routes
  requests := by
    rw [hrequests, hexchanges, hown, h.exchanges]
    exact h.requests
  deletes := by rw [hdeletes, h.deletes]
  routed := by
    rw [hown]
    exact h.routed
  explained := hexplained

/-- A model call that comes back was answered; else the run is left with the text of the call. -/
theorem complete_spec (h : Tally script n l)
    (hn : { n with turns := n.turns + 1 : Counts }.Within budget) :
    Ensures (complete script wording budget.toAgentBudget 0 safeClose :
        Flow kind HybridActionEnvelope) l
      (fun _ t => Tally script { n with turns := n.turns + 1 } t ∧ t.own = l.own)
      (Ended script budget) := by
  refine Ensures.bind (Ensures.of_get (Ensures.bind (Ensures.of_modify ?_)))
  cases hreply : script.reply l.modelTurns with
  | answer content usage =>
    refine Ensures.bind (Ensures.of_modify ?_)
    have htally : Tally script { n with turns := n.turns + 1 }
        (charge 0 usage { l with modelTurns := l.modelTurns + 1 }) :=
      { h with
        turns := congrArg (· + 1) h.turns
        answered := by
          intro k hk
          by_cases hlast : k = l.modelTurns
          · rw [hlast]
            exact ⟨content, usage, hreply⟩
          · refine h.answered k ?_
            have hnow := h.turns
            have hbound : k < n.turns + 1 := hk
            omega }
    refine Ensures.bind ((postCall_spec _).mono ?_ fun _ _ hnever => hnever.elim)
    intro verdict t ⟨ht, htold, _⟩
    have hread : Tally script { n with turns := n.turns + 1 } t := by
      rw [ht]
      exact { htally with }
    have hown : t.own = l.own := by
      rw [ht]
      rfl
    refine Ensures.bind ((hread.quitsIf hn htold).mono ?_ fun _ _ hended => hended)
    intro _ u ⟨hu, _⟩
    rw [hu]
    cases content with
    | none => exact hread.quits hn (by decide)
    | some decision => exact ⟨hread, hown⟩
  | callError usage safeReason =>
    refine Ensures.bind (Ensures.of_modify (Ensures.bind (Ensures.of_modify ?_)))
    -- whatever the usage is, it only changes the tokens and the cost
    have hcharged : ∀ u : Option ModelUsage, ∃ input output cost,
        (u.elim { l with modelTurns := l.modelTurns + 1 } fun u =>
          charge 0 u { l with modelTurns := l.modelTurns + 1 }) =
        { l with
          modelTurns := l.modelTurns + 1
          inputTokens := input
          outputTokens := output
          costMicrousd := cost } := by
      intro u
      cases u with
      | none => exact ⟨_, _, _, rfl⟩
      | some u => exact ⟨_, _, _, rfl⟩
    have ⟨input, output, cost, hstate⟩ := hcharged usage
    rw [hstate]
    refine Ensures.bind ((postCall_spec _).mono ?_ fun _ _ hnever => hnever.elim)
    intro verdict t ⟨ht, htold, hspent⟩
    have hlast : t.modelTurns = l.modelTurns + 1 := by rw [ht]
    have hended : ∀ status reason, (reason ≠ "" ↔ ¬ Unexplained script budget t) →
        Ended script budget (.stopped status reason) t := by
      intro status reason hexplained
      refine h.endedWith hn hlast ?_ ?_ ?_ ?_ ?_ ?_ ?_ ?_
      · rw [ht]
      · rw [ht]
      · rw [ht]
      · rw [ht]
      · rw [ht]
      · rw [ht]
      · rw [ht]
      · intro _ _ hstopped
        cases hstopped
        exact hexplained
    cases verdict with
    | some verdict =>
      refine hended _ _ ⟨fun _ hunexplained => ?_, fun _ => htold _ _ rfl⟩
      have ⟨_, _, _, _, hunspent⟩ := hunexplained
      cases hspent.mpr hunspent
    | none =>
      have hunspent : ¬ Overspent script budget t := hspent.mp rfl
      refine hended _ _ ⟨fun hreason => ?_, fun hexplained hreason => ?_⟩
      · refine not_unexplained_of_last hlast ?_
        intro given hempty
        rw [hreply] at hempty
        cases hempty
        exact hreason rfl
      · refine hexplained ⟨l.modelTurns, usage, hlast, ?_, hunspent⟩
        rw [← hreason]
        exact hreply
  | failed =>
    refine Ensures.bind (Ensures.of_modify ?_)
    refine h.endedWith hn rfl rfl rfl rfl rfl rfl rfl rfl ?_
    intro _ _ hstopped
    cases hstopped
    refine ⟨fun _ => not_unexplained_of_last (t := { l with
      deletes := l.deletes + 1, modelTurns := l.modelTurns + 1 }) rfl ?_, fun _ => by decide⟩
    intro usage hempty
    rw [hreply] at hempty
    cases hempty
  | cancelled =>
    refine Ensures.bind (Ensures.of_modify ?_)
    refine h.endedWith hn rfl rfl rfl rfl rfl rfl rfl rfl ?_
    intro _ _ hstopped
    cases hstopped

/-! ## The action -/

theorem checkRepeated_spec (h : Tally script n l) (hn : n.Within budget)
    (signature : Modality × BrowserAction Unit) :
    Ensures (checkRepeated wording budget.toAgentBudget signature : Flow kind PUnit) l
      (fun _ t => Tally script n t ∧ t.own = l.own) (Ended script budget) := by
  refine Ensures.bind (Ensures.of_modify (Ensures.bind (Ensures.of_get ?_)))
  have hcounted : ∀ previous repeated, Tally script n
      { l with previousSignature := previous, repeated := repeated } := fun _ _ => { h with }
  by_cases hsame : l.previousSignature = some signature
  · rw [if_pos hsame]
    dsimp only
    split
    · exact (hcounted _ _).quits hn (by decide)
    · exact ⟨hcounted _ _, rfl⟩
  · rw [if_neg hsame]
    dsimp only
    split
    · exact (hcounted _ _).quits hn (by decide)
    · exact ⟨hcounted _ _, rfl⟩

theorem executeAction_spec (h : Tally script n l)
    (hn : { n with exchanges := n.exchanges + 1 : Counts }.Within budget) (actionId : String)
    (r : ActionRequest) :
    Ensures (executeAction script wording limits .hybrid actionId r safeClose : Flow kind _) l
      (fun _ t => Tally script { n with exchanges := n.exchanges + 1 } t ∧ t.own = l.own)
      (Ended script budget) := by
  refine Ensures.bind (Ensures.of_get (Ensures.bind (Ensures.of_modify ?_)))
  have hsent : ∀ session (e : Exchange HybridObservation),
      Tally script { n with exchanges := n.exchanges + 1 }
        { l with
          session := session
          exchanges := l.exchanges ++ [e]
          requests := l.requests + 1 } := by
    intro session e
    exact
      { h with
        exchanges := by
          rw [List.length_append, h.exchanges]
          rfl
        requests := by
          show l.requests + 1 = n.exchanges + 1 + l.own.router.switchCount
          rw [h.requests]
          omega }
  split
  · exact (hsent _ _).closes hn
  · split
    · exact (hsent _ _).quits hn (by decide)
    · exact ⟨hsent _ _, rfl⟩

theorem recordAction_spec (h : Tally script n l) (summary : ActionSummary) :
    Ensures (recordAction summary) l
      (fun _ t => Tally script { n with steps := n.steps + 1 } t ∧
        (Seen budget l.own → Seen budget t.own))
      (Ended script budget) := by
  refine Ensures.bind (Ensures.of_modify (Ensures.of_modify ⟨?_, id⟩))
  have hrouter : (l.own.router.noteAction summary).switchCount = l.own.router.switchCount := by
    unfold RouterState.noteAction
    split <;> rfl
  exact
    { h with
      steps := congrArg (· + 1) h.steps
      actions := by
        rw [List.length_append, h.actions]
        rfl
      requests := by
        show l.requests = n.exchanges + (l.own.router.noteAction summary).switchCount
        rw [hrouter]
        exact h.requests
      routed := by
        refine ⟨?_, ?_, h.routed.direction, h.routed.valid⟩
        · show _ = (l.own.router.noteAction summary).switchCount
          rw [hrouter]
          exact h.routed.count
        · show (l.own.router.noteAction summary).switchCount ≤ 1
          rw [hrouter]
          exact h.routed.once }

theorem checkProgress_spec (h : Tally script n l) (hn : n.Within budget) (print : Fingerprint)
    (hidden : Bool) :
    Ensures (checkProgress wording budget.toAgentBudget print hidden : Flow kind PUnit) l
      (fun _ t => Tally script n t ∧ t.own = l.own) (Ended script budget) := by
  let count := if hidden = true ∨ print ≠ l.priorFingerprint then 0 else l.noProgress + 1
  have hcounted : Tally script n { l with noProgress := count, priorFingerprint := print } :=
    { h with }
  refine Ensures.bind (Ensures.of_modify (Ensures.bind (Ensures.of_get ?_)))
  show Ensures (if budget.maxNoProgress < count then _ else _)
    { l with noProgress := count, priorFingerprint := print } _ _
  split
  · exact hcounted.quits hn (by decide)
  · exact ⟨hcounted, rfl⟩

/-! ## What stays affordable -/

theorem affordable_congr {t : Locals kind} (h : Affordable budget l)
    (hcalls : t.modelCalls = l.modelCalls) (hinput : t.inputTokens = l.inputTokens)
    (houtput : t.outputTokens = l.outputTokens) (hcost : t.costMicrousd = l.costMicrousd) :
    Affordable budget t where
  calls := hcalls ▸ h.calls
  input := hinput ▸ h.input
  output := houtput ▸ h.output
  cost := hcost ▸ h.cost

theorem affordable_quit {α : Type} (status : RunStatus) (reason : String) :
    Maintains (Affordable budget) (quit status reason : Flow kind α) :=
  .bind (.of_modify fun _ h => affordable_congr h rfl rfl rfl rfl) fun _ => .of_throw _

theorem affordable_observe (o : HybridObservation) :
    Maintains (Affordable budget) (observe budget o) := by
  refine .bind (.of_modify fun _ h => affordable_congr h rfl rfl rfl rfl) fun _ => ?_
  refine .bind .of_get fun l => ?_
  cases observationStatus budget o l.own with
  | none => exact .of_pure _
  | some verdict => exact affordable_quit _ _

theorem affordable_switch : Maintains (Affordable budget) (switch script category budget) := by
  intro s hs
  have hrouted : Affordable budget (routedAt script category budget s) :=
    affordable_congr hs rfl rfl rfl rfl
  refine switch_rule (fun _ => affordable_quit _ _ _ hrouted) (fun _ => ?_) fun _ => hrouted
  refine Maintains.bind ?_ (fun o => affordable_observe o) _ hrouted
  refine .bind .of_get fun l => ?_
  refine .bind (.of_modify fun _ h => affordable_congr h rfl rfl rfl rfl) fun _ => ?_
  split
  · exact .bind (.of_modify fun _ h => affordable_congr h rfl rfl rfl rfl) fun _ => .of_throw _
  · exact .of_pure _
  · exact affordable_quit _ _

theorem affordable_modelObservation : Maintains (Affordable budget) (modelObservation budget) := by
  refine .bind .of_get fun l => ?_
  split
  · exact .of_pure _
  · split
    · exact affordable_quit _ _
    · refine .bind (.of_modify fun _ h => affordable_congr h rfl rfl rfl rfl) fun _ => ?_
      split
      · exact affordable_quit _ _
      · exact .of_pure _

end FlowPilot.Agents.Hybrid
