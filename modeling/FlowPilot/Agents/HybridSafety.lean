import FlowPilot.Agents.HybridStatements

/-!
# Budgets of the hybrid agent

What a run of `HybridAgentLoop` may use up, when it calls its model, when it switches, and how it
ends.  A turn is cut in front of its model call, as most budgets are about that call.
-/

open FlowPilot.Lib FlowPilot.Browser

namespace FlowPilot.Agents.Hybrid

/-! ## Schemas -/

/-- The bounds of the fields of `HybridAgentBudget` that a run depends on. -/
def HybridAgentBudget.valid (b : HybridAgentBudget) : Bool :=
  decide (1 ≤ b.maxSteps ∧ b.maxSteps ≤ 24 ∧ 1 ≤ b.maxModelCalls ∧ b.maxModelCalls ≤ 24 ∧
    b.maxSwitches ≤ 2 ∧ 1 ≤ b.maxDomObservations ∧ 1 ≤ b.maxImages)

/-- The constraints of `HybridAgentRunResult`. -/
def HybridAgentRunResult.valid (r : HybridAgentRunResult) : Bool :=
  decide (1 ≤ r.terminalReason.length ∧ r.terminalReason.length ≤ 300 ∧ r.switches ≤ 2 ∧
    r.routes.length ≤ 24 ∧ r.actions.length ≤ 24) && r.routes.all RouteDecision.valid

theorem length_clip (n : Nat) (text : String) : (clip n text).length = min n text.length := by
  unfold clip
  rw [String.length_ofList, List.length_take, String.length_toList]

/-- A text that is not empty is not clipped to nothing. -/
theorem one_le_length_clip {text : String} : 1 ≤ (clip 300 text).length ↔ text ≠ "" := by
  have hempty : text.length = 0 ↔ text = "" := String.length_eq_zero_iff
  rw [length_clip]
  constructor
  · intro h htext
    have hzero := hempty.mpr htext
    omega
  · intro h
    have hpositive : text.length ≠ 0 := fun hzero => h (hempty.mp hzero)
    omega

variable {limits : Limits} {script : Script} {category : RouteCategory}
  {budget : HybridAgentBudget} {n : Counts} {l : Locals kind}

/-! ## Up to the model call -/

variable (script category budget) in
/-- A turn up to its model call. -/
def approach : Flow kind PUnit := do
  let spent ← preCallBudgetStatus script wording budget.toAgentBudget
  quitIf spent
  switch script category budget
  modelObservation budget

/-- The head of the loop after `m` turns. -/
structure Ready (script : Script) (budget : HybridAgentBudget) (m : Nat) (l : Locals kind) :
    Prop where
  tally : Tally script ⟨m, m, m, m, m⟩ l
  seen : Seen budget l.own
  calls : m ≤ budget.maxModelCalls

variable {m : Nat}

/-- The model is called within all budgets. -/
theorem approach_spec (h : Ready script budget m l) (hm : m < budget.maxSteps) :
    Ensures (approach script category budget) l
      (fun _ t => Tally script ⟨m, m, m, m, m + 1⟩ t ∧ Seen budget t.own ∧ Affordable budget t)
      (Ended script budget) := by
  have hwithin : Counts.Within budget ⟨m, m, m, m, m⟩ :=
    ⟨Nat.le_of_lt hm, Nat.le_of_lt hm, h.calls, Nat.le_of_lt hm, rfl⟩
  have hrouted : Counts.Within budget ⟨m, m, m, m, m + 1⟩ :=
    ⟨Nat.le_of_lt hm, Nat.le_of_lt hm, h.calls, hm, rfl⟩
  refine Ensures.bind ((preCall_spec l).mono ?_ fun _ _ hnever => hnever.elim)
  intro verdict s ⟨hs, htold, haffordable⟩
  have htally : Tally script ⟨m, m, m, m, m⟩ s := by
    rw [hs]
    exact { h.tally with }
  have hseen : Seen budget s.own := by
    rw [hs]
    exact h.seen
  refine Ensures.bind ((htally.quitsIf hwithin htold).mono ?_ fun _ _ hended => hended)
  intro _ t ⟨ht, hnone⟩
  rw [ht]
  refine Ensures.bind (((switch_spec htally hseen hrouted).and
    (affordable_switch s (haffordable hnone))).mono ?_ fun _ _ hended => hended.1)
  intro _ u ⟨⟨hu, hnow⟩, hcost⟩
  refine ((modelObservation_spec hu hrouted).and (affordable_modelObservation u hcost)).mono ?_
    fun _ _ hended => hended.1
  exact fun _ v ⟨⟨hv, hsame⟩, hlast⟩ => ⟨hv, hsame hnow, hlast⟩

/-! ## Actions of the observed modality -/

/-- Nothing was sent or observed since `c`. -/
def Same (c t : Locals kind) : Prop :=
  t.exchanges = c.exchanges ∧ t.observation = c.observation

variable {c : Locals kind}

theorem same_quit {α : Type} (status : RunStatus) (reason : String) :
    Maintains (Same c) (quit status reason : Flow kind α) :=
  .bind (.of_modify fun _ h => h) fun _ => .of_throw _

theorem same_complete :
    Maintains (Same c) (complete script wording budget.toAgentBudget 0 safeClose :
      Flow kind HybridActionEnvelope) := by
  have hspent : Maintains (Same c)
      (postCallBudgetStatus script wording budget.toAgentBudget : Flow kind _) :=
    .bind (.bind .of_get fun _ => .bind (.of_modify fun _ h => h) fun _ => .of_pure _) fun _ =>
      .bind .of_get fun _ => .of_pure _
  refine .bind .of_get fun l => .bind (.of_modify fun _ h => h) fun _ => ?_
  split
  · refine .bind (.of_modify fun _ h => h) fun _ => .bind hspent fun verdict => ?_
    refine .bind ?_ fun _ => ?_
    · cases verdict with
      | none => exact .of_pure _
      | some verdict => exact same_quit _ _
    · split
      · exact same_quit _ _
      · exact .of_pure _
  · rename_i usage _ _
    refine .bind (.of_modify fun _ h => ?_) fun _ => ?_
    · cases usage with
      | none => exact h
      | some u => exact h
    · refine .bind (.of_modify fun _ h => h) fun _ => .bind hspent fun verdict => ?_
      cases verdict with
      | none => exact .of_throw _
      | some verdict => exact .of_throw _
  · exact same_quit _ _
  · exact .bind (.of_modify fun _ h => h) fun _ => .of_throw _

theorem same_checkRepeated (signature : Modality × BrowserAction Unit) :
    Maintains (Same c)
      (checkRepeated wording budget.toAgentBudget signature : Flow kind PUnit) := by
  refine .bind (.of_modify fun l h => ?_) fun _ => .bind .of_get fun l => ?_
  · split <;> exact h
  · split
    · exact same_quit _ _
    · exact .of_pure _

/-- One action was sent since `c`, of the modality that was observed then. -/
def Sent (c t : Locals kind) : Prop :=
  ∃ e, t.exchanges = c.exchanges ++ [e] ∧ e.request.modality = c.observation.modality

theorem sent_quit {α : Type} (status : RunStatus) (reason : String) :
    Maintains (Sent c) (quit status reason : Flow kind α) :=
  .bind (.of_modify fun _ h => h) fun _ => .of_throw _

theorem sent_recordAction {summary : ActionSummary} : Maintains (Sent c) (recordAction summary) :=
  .bind (.of_modify fun _ h => h) fun _ => .of_modify fun _ h => h

theorem sent_observe (o : HybridObservation) : Maintains (Sent c) (observe budget o) := by
  refine .bind (.of_modify fun _ h => h) fun _ => .bind .of_get fun l => ?_
  cases observationStatus budget o l.own with
  | none => exact .of_pure _
  | some verdict => exact sent_quit _ _

theorem sent_checkProgress (print : Fingerprint) (hidden : Bool) :
    Maintains (Sent c)
      (checkProgress wording budget.toAgentBudget print hidden : Flow kind PUnit) := by
  refine .bind (.of_modify fun _ h => h) fun _ => .bind .of_get fun l => ?_
  split
  · exact sent_quit _ _
  · exact .of_pure _

theorem sent_executeAction {t : Locals kind} (h : Same c t) {envelope : HybridActionEnvelope}
    (hmodality : envelope.modality = c.observation.modality) (actionId : String) :
    Ensures (executeAction script wording limits .hybrid actionId envelope.request safeClose :
      Flow kind _) t (fun _ u => Sent c u) fun _ u => Sent c u := by
  refine Ensures.bind (Ensures.of_get (Ensures.bind (Ensures.of_modify ?_)))
  have hnow : Sent c { t with
      session := (respond limits t.session .hybrid envelope.request
        (script.visit t.requests)).1
      exchanges := t.exchanges ++
        [⟨t.session, .hybrid, envelope.request, script.visit t.requests⟩]
      requests := t.requests + 1 } :=
    ⟨⟨t.session, .hybrid, envelope.request, script.visit t.requests⟩, by rw [h.1], hmodality⟩
  split
  · exact Ensures.bind (Ensures.of_modify hnow)
  · split
    · exact sent_quit _ _ _ hnow
    · exact hnow

theorem terminalActionStatus_told {τ : Type} (a : BrowserAction τ) (message : String) :
    (terminalActionStatus wording a message).2 ≠ "" := by
  have hmessage : ∀ text : String, text ≠ "" → (if message = "" then text else message) ≠ "" := by
    intro text htext
    by_cases hempty : message = ""
    · rw [if_pos hempty]
      exact htext
    · rw [if_neg hempty]
      exact hempty
  unfold terminalActionStatus
  split
  · decide
  · exact hmessage _ (by decide)
  · exact hmessage _ (by decide)

theorem terminalStatus_told (e : HybridActionEnvelope) (message : String) :
    (terminalStatus e message).2 ≠ "" := by
  unfold terminalStatus
  cases e.action with
  | dom a => exact terminalActionStatus_told a message
  | vision a => exact terminalActionStatus_told a message

/-! ## Results -/

/-- The schema accepts a result unless its reason is empty. -/
theorem result_valid_iff (hbudget : budget.valid = true) {taskId : String} {status : RunStatus}
    {reason : String} {t : Locals kind} (h : Ended script budget (.stopped status reason) t) :
    (result taskId status (clip 300 reason) t).valid = true ↔ ¬ Unexplained script budget t := by
  unfold HybridAgentBudget.valid at hbudget
  rw [decide_eq_true_eq] at hbudget
  have hexplained := h.explained status reason rfl
  have hroutes := h.routes
  have hactions := h.actions
  have honce := h.routed.once
  have hclip : (clip 300 reason).length ≤ 300 := by
    rw [length_clip]
    exact Nat.min_le_left _ _
  have hvalid : t.own.routes.all RouteDecision.valid = true :=
    List.all_eq_true.mpr h.routed.valid
  unfold HybridAgentRunResult.valid
  rw [Bool.and_eq_true, decide_eq_true_eq, ← hexplained, ← one_le_length_clip]
  unfold result
  dsimp only
  constructor
  · intro hresult
    exact hresult.1.1
  · intro hreason
    exact ⟨⟨hreason, hclip, by omega, by omega, by omega⟩, hvalid⟩

/-! ## Turns -/

section

variable [Sha256]

section Turn

variable (limits script category budget)

/-- A turn from its model call on. -/
def callAndAct : Flow kind PUnit := do
  modify fun l => { l with modelCalls := l.modelCalls + 1 }
  let envelope ← complete script wording budget.toAgentBudget 0 safeClose
  let l ← get
  if envelope.modality ≠ l.observation.modality then
    quit .invalidModelOutput "Hybrid model action did not match the current selected modality"
  else do
    checkRepeated wording budget.toAgentBudget envelope.signature
    let answer ← executeAction script wording limits .hybrid envelope.actionId envelope.request
      safeClose
    recordAction ⟨envelope.modality, answer.actionType, answer.success, answer.errorCategory⟩
    if answer.terminal then
      let (status, reason) := terminalStatus envelope answer.message
      quit status reason
    else
      match answer.observation with
      | none => quit .browserError wording.omitted
      | some observation => do
        observe budget observation
        checkProgress wording budget.toAgentBudget (fingerprint observation)
          (Dom.hiddenFormProgress answer.success answer.actionType)

theorem turn_eq : turn limits script category budget =
    approach script category budget >>= fun _ => callAndAct limits script budget := by
  unfold turn approach callAndAct
  simp only [bind_assoc]
  try rfl

/-- The states at the head of the loop, after `n` turns. -/
inductive Head (observation : HybridObservation) : Nat → Locals kind → Prop
  | first {l : Locals kind} : observe budget observation (initial script observation) = .ok ⟨⟩ l →
      Head observation 0 l
  | next {n : Nat} {l t : Locals kind} : Head observation n l → n < budget.maxSteps →
      turn limits script category budget l = .ok ⟨⟩ t → Head observation (n + 1) t

end Turn

/-! ## Runs -/

theorem callAndAct_spec (h : Tally script ⟨m, m, m, m, m + 1⟩ l) (hseen : Seen budget l.own)
    (hcost : Affordable budget l) (hm : m < budget.maxSteps) :
    Ensures (callAndAct limits script budget) l (fun _ t => Ready script budget (m + 1) t)
      (Ended script budget) := by
  have hcalls : m + 1 ≤ budget.maxModelCalls := by
    have hbound := hcost.calls
    rw [h.calls] at hbound
    exact hbound
  have hcalled : Counts.Within budget ⟨m, m, m + 1, m + 1, m + 1⟩ :=
    ⟨Nat.le_of_lt hm, Nat.le_of_lt hm, hcalls, hm, rfl⟩
  have hacted : Counts.Within budget ⟨m, m + 1, m + 1, m + 1, m + 1⟩ :=
    ⟨Nat.le_of_lt hm, hm, hcalls, hm, rfl⟩
  have hstepped : Counts.Within budget ⟨m + 1, m + 1, m + 1, m + 1, m + 1⟩ :=
    ⟨hm, hm, hcalls, hm, rfl⟩
  refine Ensures.bind (Ensures.of_modify ?_)
  have hcounted : Tally script ⟨m, m, m, m + 1, m + 1⟩
      { l with modelCalls := l.modelCalls + 1 } :=
    { h with calls := congrArg (· + 1) h.calls }
  refine Ensures.bind ((complete_spec hcounted hcalled).mono ?_ fun _ _ hended => hended)
  intro envelope s ⟨hs, hown⟩
  refine Ensures.bind (Ensures.of_get ?_)
  split
  · exact hs.quits hcalled (by decide)
  · refine Ensures.bind ((checkRepeated_spec hs hcalled _).mono ?_ fun _ _ hended => hended)
    intro _ t ⟨ht, hsame⟩
    refine Ensures.bind ((executeAction_spec ht hacted _ _).mono ?_ fun _ _ hended => hended)
    intro answer u ⟨hu, hkept⟩
    have hnow : Seen budget u.own := by
      rw [hkept, hsame, hown]
      exact hseen
    refine Ensures.bind ((recordAction_spec hu _).mono ?_ fun _ _ hended => hended)
    intro _ v ⟨hv, hstill⟩
    split
    · exact hv.quits hstepped (terminalStatus_told _ _)
    · split
      · exact hv.quits hstepped (by decide)
      · rename_i observation _
        refine Ensures.bind ((observe_spec hv hstepped observation).mono ?_ fun _ _ h => h)
        intro _ w ⟨hw, hafter⟩
        refine (checkProgress_spec hw hstepped _ _).mono ?_ fun _ _ hended => hended
        intro _ x ⟨hx, hlast⟩
        refine ⟨hx, ?_, hcalls⟩
        rw [hlast]
        exact hafter (hstill hnow)

theorem turn_spec (h : Ready script budget m l) (hm : m < budget.maxSteps) :
    Ensures (turn limits script category budget) l (fun _ t => Ready script budget (m + 1) t)
      (Ended script budget) := by
  rw [turn_eq]
  refine Ensures.bind ((approach_spec h hm).mono ?_ fun _ _ hended => hended)
  exact fun _ t ⟨ht, hseen, hcost⟩ => callAndAct_spec ht hseen hcost hm

theorem first_spec (observation : HybridObservation) :
    Ensures (observe budget observation) (initial script observation)
      (fun _ t => Ready script budget 0 t) (Ended script budget) := by
  have htally : Tally script ⟨0, 0, 0, 0, 0⟩ (initial script observation) :=
    { steps := rfl
      actions := rfl
      exchanges := rfl
      turns := rfl
      calls := rfl
      routes := rfl
      requests := rfl
      deletes := rfl
      routed := ⟨rfl, Nat.zero_le _, fun _ h => absurd h List.not_mem_nil,
        fun _ h => absurd h List.not_mem_nil⟩
      answered := fun _ h => absurd h (Nat.not_lt_zero _) }
  have hwithin : Counts.Within budget ⟨0, 0, 0, 0, 0⟩ :=
    ⟨Nat.zero_le _, Nat.zero_le _, Nat.zero_le _, Nat.zero_le _, rfl⟩
  have hseen : Seen budget (initial script observation).own :=
    ⟨Nat.zero_le _, Nat.zero_le _, Nat.zero_le _, Nat.zero_le _, Nat.zero_le _, Nat.zero_le _,
      Nat.zero_le _⟩
  refine (observe_spec htally hwithin observation).mono ?_ fun _ _ hended => hended
  exact fun _ t ⟨ht, hnow⟩ => ⟨ht, hnow hseen, Nat.zero_le _⟩

/-- Every head of the loop is ready. -/
theorem Head.ready {observation : HybridObservation}
    (h : Head limits script category budget observation m l) : Ready script budget m l := by
  induction h with
  | first hrun => exact (first_spec observation).ok hrun
  | next _ hm hrun ih => exact (turn_spec ih hm).ok hrun

theorem rounds_spec (k : Nat) (h : Ready script budget m l) (hm : m + k = budget.maxSteps) :
    Ensures (rounds wording (turn limits script category budget) k) l (fun _ _ => False)
      (Ended script budget) := by
  induction k generalizing m l with
  | zero =>
    have hwithin : Counts.Within budget ⟨m, m, m, m, m⟩ :=
      ⟨Nat.le_of_eq hm, Nat.le_of_eq hm, h.calls, Nat.le_of_eq hm, rfl⟩
    exact h.tally.quits hwithin (by decide)
  | succ k ih =>
    refine Ensures.bind ((turn_spec h (by omega)).mono ?_ fun _ _ hended => hended)
    exact fun _ t ht => ih ht (by omega)

theorem loop_spec (observation : HybridObservation) :
    Ensures (loop limits script category budget observation) (initial script observation)
      (fun _ _ => False) (Ended script budget) := by
  refine Ensures.bind ((first_spec observation).mono ?_ fun _ _ hended => hended)
  exact fun _ t ht => rounds_spec budget.maxSteps ht (Nat.zero_add _)

/-- From the model call `c` on, at most one action is sent, of the modality that was observed. -/
def Acted (c t : Locals kind) : Prop := t.exchanges = c.exchanges ∨ Sent c t

/-- The action that is sent is the one that the model has chosen for what it was shown. -/
theorem callAndAct_acted (c : Locals kind) :
    Ensures (callAndAct limits script budget) c (fun _ t => Acted c t) fun _ t => Acted c t := by
  have hsame : ∀ {t : Locals kind}, Same c t → Acted c t := fun h => .inl h.1
  refine Ensures.bind (Ensures.of_modify ?_)
  have hcalled : Same c { c with modelCalls := c.modelCalls + 1 } := ⟨rfl, rfl⟩
  refine Ensures.bind ((same_complete _ hcalled).mono ?_ fun _ _ h => hsame h)
  intro envelope s hs
  refine Ensures.bind (Ensures.of_get ?_)
  by_cases hmodality : envelope.modality ≠ s.observation.modality
  · rw [if_pos hmodality]
    exact (same_quit _ _ s hs).mono (fun _ _ h => hsame h) fun _ _ h => hsame h
  · rw [if_neg hmodality]
    rw [ne_eq, not_not, hs.2] at hmodality
    refine Ensures.bind ((same_checkRepeated _ s hs).mono ?_ fun _ _ h => hsame h)
    intro _ t ht
    refine Ensures.bind ((sent_executeAction ht hmodality _).mono ?_ fun _ _ h => .inr h)
    intro answer u hu
    refine Ensures.mono ?_ (fun _ _ h => .inr h) fun _ _ h => .inr h
    refine Maintains.bind (I := Sent c) sent_recordAction (fun _ => ?_) u hu
    split
    · exact sent_quit _ _
    · split
      · exact sent_quit _ _
      · exact .bind (sent_observe _) fun _ => sent_checkProgress _ _

/-- A run of the hybrid agent keeps to its budgets, calls its model within all of them, switches at
most once, acts in the observed modality only and closes its session on every exit; its result
satisfies the schema unless the last model call has raised an error with an empty reason. -/
theorem hybrid_run_safe (limits : Limits) (script : Script) (category : RouteCategory)
    (budget : HybridAgentBudget) (hbudget : budget.valid = true) :
    (∀ observation, script.created = some observation →
      Ensures (loop limits script category budget observation) (initial script observation)
        (fun _ _ => False)
        (fun e t => Ended script budget e t ∧ ∀ taskId status reason, e = .stopped status reason →
          ((result taskId status (clip 300 reason) t).valid = true ↔
            ¬ Unexplained script budget t)) ∧
      ∀ n l, Head limits script category budget observation n l → l.steps = n ∧
        ∀ c, n < budget.maxSteps → approach script category budget l = .ok ⟨⟩ c →
          Affordable budget c ∧ Seen budget c.own ∧
          Ensures (callAndAct limits script budget) c (fun _ t => Acted c t)
            fun _ t => Acted c t) ∧
    (∀ l, l.own.router.switchCount ≤ 1 → WithinCaps (script.visit l.requests).view →
      Ensures (switch script category budget) l (fun _ _ => True)
        fun e _ => ∀ status reason, e = .stopped status reason → status ∉ imageStatuses) ∧
    ∀ taskId r exchanges, run limits script category budget taskId = (some r, exchanges) →
      exchanges.length ≤ budget.maxSteps ∧ r.switches ≤ 1 ∧
      ((∀ k < r.modelCalls, ∀ usage, script.reply k ≠ .callError usage "") → r.valid = true) := by
  have hloop : ∀ observation, Ensures (loop limits script category budget observation)
      (initial script observation) (fun _ _ => False)
      (fun e t => Ended script budget e t ∧ ∀ taskId status reason, e = .stopped status reason →
        ((result taskId status (clip 300 reason) t).valid = true ↔
          ¬ Unexplained script budget t)) := by
    intro observation
    refine (loop_spec observation).mono (fun _ _ h => h) fun e t hended => ⟨hended, ?_⟩
    intro taskId status reason hstopped
    rw [hstopped] at hended
    exact result_valid_iff hbudget hended
  refine ⟨fun observation _ => ⟨hloop observation, ?_⟩, fun l hsound hcaps =>
    switch_affords hcaps hsound, ?_⟩
  · intro n l hhead
    have hready := hhead.ready
    refine ⟨hready.tally.steps, fun c hn hcall => ?_⟩
    have ⟨_, hseen, hcost⟩ := (approach_spec hready hn).ok hcall
    exact ⟨hcost, hseen, callAndAct_acted c⟩
  · intro taskId r exchanges hrun
    unfold run at hrun
    cases hcreated : script.created with
    | none =>
      rw [hcreated] at hrun
      cases hrun
      refine ⟨Nat.zero_le _, Nat.zero_le _, fun _ => ?_⟩
      have hlength : 1 ≤ wording.created.length ∧ wording.created.length ≤ 300 := by decide
      unfold HybridAgentRunResult.valid
      rw [Bool.and_eq_true, decide_eq_true_eq]
      exact ⟨⟨hlength.1, hlength.2, Nat.zero_le _, Nat.zero_le _, Nat.zero_le _⟩, rfl⟩
    | some observation =>
      rw [hcreated] at hrun
      dsimp only at hrun
      unfold ending at hrun
      cases hleft : loop limits script category budget observation (initial script observation) with
      | ok never t => exact never.elim
      | error e t =>
        rw [hleft] at hrun
        have ⟨hended, hresult⟩ := (hloop observation).error hleft
        cases e with
        | raised => cases hrun
        | stopped status reason =>
          cases hrun
          refine ⟨hended.exchanges, hended.routed.once, fun htold => ?_⟩
          refine (hresult taskId status reason rfl).mpr ?_
          intro hunexplained
          have ⟨k, usage, hturns, hreply, _⟩ := hunexplained
          refine htold k ?_ usage hreply
          show k < t.modelCalls
          rw [hended.calls, hturns]
          exact Nat.lt_succ_self k

end

/-! ## A call without a reason -/

namespace Sample

attribute [local instance] polynomialSha256

def view : HybridObservation where
  sessionId := "bw_session"
  generation := 1
  body := .vision {
    observationId := "vobs"
    imageBase64 := ""
    imageWidth := 1
    imageHeight := 1
    imageBytes := 1
    captureDurationMs := 1
    groundings := [] }
  routeSignals := ⟨.usable, 0, none⟩

/-- The first model call raises an error without a reason. -/
def unexplained : Script where
  created := some view
  session := { sessionId := "bw_session", mode := .hybrid, startedAt := 0 }
  visit := fun _ => { now := 1, view := view }
  reply := fun _ => .callError none ""
  clock := fun _ => 0

/-- The result of the run violates its own schema. -/
theorem unexplained_invalid :
    HybridAgentBudget.valid {} = true ∧
    ∃ r exchanges, run {} unexplained .standard {} "w3-joiner-001" = (some r, exchanges) ∧
      r.status = .modelError ∧ r.terminalReason = "" ∧ r.valid = false :=
  ⟨by decide, _, _, rfl, rfl, rfl, by decide⟩

/-- The model finishes at once. -/
def finishing : Script :=
  { unexplained with
    reply := fun _ =>
      .answer (some ⟨"bw_session", 1, .vision (.finish "act_finish" "")⟩) ⟨1, 1, 0⟩ }

theorem hybrid_run_safe_finishing :
    Ensures (loop {} finishing .standard {} view) (initial finishing view) (fun _ _ => False)
      fun e t => Ended finishing {} e t ∧ ∀ taskId status reason, e = .stopped status reason →
        ((result taskId status (clip 300 reason) t).valid = true ↔ ¬ Unexplained finishing {} t) :=
  ((hybrid_run_safe {} finishing .standard {} (by decide)).1 view rfl).1

end Sample

end FlowPilot.Agents.Hybrid
