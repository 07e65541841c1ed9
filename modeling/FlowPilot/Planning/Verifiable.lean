import FlowPilot.Planning.RecoveryStep

/-!
# Steps that can be verified

When every action that a step selects succeeds, the step is verified, unless nothing is selected:
on the page of the last step both of its instructions are filtered away.
-/

open FlowPilot.Lib

namespace FlowPilot.Planning.Recovering

variable {step : PlanStep} {values : SuppliedValues} {page : Page} {selected : List Instruction}

/-! ## The selected instructions -/

/-- The first instruction of every step. -/
def navigateTo (page : Page) : Instruction := ⟨.navigate, none, some (pagePath page)⟩

theorem requiredPage_navigateTo (page : Page) : requiredPage (navigateTo page) = some page := by
  show pathPage (pagePath page) = some page
  exact pathPage_pagePath page

/-- What every step does: it goes to its page and acts on the elements there. -/
theorem instructions_shape (h : instructions step values = some selected) :
    ∃ rest, selected = navigateTo step.expectedPage :: rest ∧ rest ≠ [] ∧
      (∀ i ∈ rest, i.action ∈ [AllowedAction.fill, .click, .read]) ∧
      (step.operation = .finalize → rest = [⟨.read, none, none⟩]) ∧
      ∀ i ∈ rest, i.action = .click → ∃ operation payload,
        step.operation = .mutation operation ∧ mutationPayload step.operation values = .ok payload
    := by
  unfold instructions at h
  cases hoperation : step.operation with
  | inspectEmployee =>
      rw [hoperation] at h
      cases h
      exact ⟨_, rfl, List.cons_ne_nil _ _, by decide, fun _ => rfl, by simp⟩
  | finalize =>
      rw [hoperation] at h
      cases h
      exact ⟨_, rfl, List.cons_ne_nil _ _, by decide, fun _ => rfl, by simp⟩
  | mutation operation =>
      rw [hoperation] at h
      cases operation <;> cases values <;> cases h <;>
        exact ⟨_, rfl, List.cons_ne_nil _ _, by simp [fill, click],
          fun h => Operation.noConfusion h, fun _ _ _ => ⟨_, _, rfl, rfl⟩⟩

/-- The page after the instructions, if they do what they are for. -/
def landsOn (page : Page) : List Instruction → Page
  | [] => page
  | i :: rest =>
    landsOn (if i.action = .navigate then (requiredPage i).getD page else page) rest

theorem landsOn_stays {rest : List Instruction} (h : ∀ i ∈ rest, i.action ≠ .navigate) :
    landsOn page rest = page := by
  induction rest with
  | nil => rfl
  | cons i rest ih =>
      rw [landsOn, if_neg (h i List.mem_cons_self)]
      exact ih fun j hj => h j (List.mem_cons_of_mem _ hj)

/-- What is selected: the way to the page unless it is shown, and the actions there unless the
step is the last one. -/
theorem instructionsForStep_shape
    (h : instructionsForStep step values page = some selected) :
    ∃ rest, rest ≠ [] ∧ (∀ i ∈ rest, i.action ∈ [AllowedAction.fill, .click, .read]) ∧
      (∀ i ∈ rest, i.action = .click → ∃ operation payload,
        step.operation = .mutation operation ∧
          mutationPayload step.operation values = .ok payload) ∧
      selected = (if step.expectedPage = page then [] else [navigateTo step.expectedPage]) ++
        if step.operation = .finalize then [] else rest := by
  unfold instructionsForStep at h
  have ⟨all, hall, hselected⟩ := Option.map_eq_some_iff.mp h
  have ⟨rest, hrest, hne, hactions, hfinal, hclick⟩ := instructions_shape hall
  refine ⟨rest, hne, hactions, hclick, ?_⟩
  have hstays : ∀ i ∈ rest, i.action ≠ .navigate := by
    intro i hi hnavigate
    have hi' := hactions i hi
    rw [hnavigate] at hi'
    exact absurd hi' (by decide)
  have hlater : (rest.filter fun i => ¬ (step.operation = .finalize ∧ i.action = .read) ∧
      ¬ (i.action = .navigate ∧ requiredPage i = some page)) =
        if step.operation = .finalize then [] else rest := by
    by_cases hlast : step.operation = .finalize
    · rw [if_pos hlast, hfinal hlast]
      simp [hlast]
    · rw [if_neg hlast, List.filter_eq_self]
      intro i hi
      simp [hlast, hstays i hi]
  rw [← hselected, hrest, List.filter_cons, hlater]
  by_cases hshown : step.expectedPage = page
  · have hdrop : ¬ decide (¬ (step.operation = .finalize ∧
        (navigateTo step.expectedPage).action = .read) ∧
          ¬ ((navigateTo step.expectedPage).action = .navigate ∧
            requiredPage (navigateTo step.expectedPage) = some page)) = true := by
      rw [requiredPage_navigateTo, hshown]
      simp [navigateTo]
    rw [if_neg hdrop, if_pos hshown, List.nil_append]
  · have hkeep : decide (¬ (step.operation = .finalize ∧
        (navigateTo step.expectedPage).action = .read) ∧
          ¬ ((navigateTo step.expectedPage).action = .navigate ∧
            requiredPage (navigateTo step.expectedPage) = some page)) = true := by
      rw [requiredPage_navigateTo]
      simp [navigateTo, hshown]
    rw [if_pos hkeep, if_neg hshown, List.singleton_append]

/-- Nothing is selected exactly for the last step on its page. -/
theorem selected_nil (h : instructionsForStep step values page = some selected) :
    selected = [] ↔ step.operation = .finalize ∧ page = step.expectedPage := by
  have ⟨rest, hne, _, _, hselected⟩ := instructionsForStep_shape h
  rw [hselected, List.append_eq_nil_iff]
  by_cases hshown : step.expectedPage = page
  · by_cases hlast : step.operation = .finalize
    · simp [hshown, hlast]
    · simp [hlast, hne]
  · simp [hshown, Ne.symm hshown]

/-- The selected instructions lead to the page of the step. -/
theorem landsOn_selected (h : instructionsForStep step values page = some selected) :
    landsOn page selected = step.expectedPage := by
  have ⟨rest, _, hactions, _, hselected⟩ := instructionsForStep_shape h
  have hstays : ∀ l : List Instruction, (l = [] ∨ l = rest) → ∀ i ∈ l, i.action ≠ .navigate := by
    intro l hl i hi hnavigate
    rcases hl with hnil | hall
    · rw [hnil] at hi
      cases hi
    · rw [hall] at hi
      have hi' := hactions i hi
      rw [hnavigate] at hi'
      exact absurd hi' (by decide)
  have hlater : ∀ p, landsOn p (if step.operation = .finalize then [] else rest) = p := by
    intro p
    refine landsOn_stays (hstays _ ?_)
    split
    · exact .inl rfl
    · exact .inr rfl
  rw [hselected]
  by_cases hshown : step.expectedPage = page
  · rw [if_pos hshown, List.nil_append, hlater, hshown]
  · rw [if_neg hshown, List.singleton_append, landsOn, requiredPage_navigateTo, hlater]
    rfl

theorem selected_actions (h : instructionsForStep step values page = some selected) :
    ∀ i ∈ selected, i.action ∈ [AllowedAction.navigate, .fill, .click, .read] ∧
      (i.action = .click → ∃ operation payload, step.operation = .mutation operation ∧
        mutationPayload step.operation values = .ok payload) := by
  have ⟨rest, _, hactions, hclick, hselected⟩ := instructionsForStep_shape h
  intro i hi
  rw [hselected, List.mem_append] at hi
  rcases hi with hfirst | hlater
  · have hnavigate : i = navigateTo step.expectedPage := by
      by_cases hshown : step.expectedPage = page
      · rw [if_pos hshown] at hfirst
        cases hfirst
      · rw [if_neg hshown] at hfirst
        exact List.mem_singleton.mp hfirst
    rw [hnavigate]
    exact ⟨List.mem_cons_self, fun h => AllowedAction.noConfusion h⟩
  · have hrest : i ∈ rest := by
      by_cases hlast : step.operation = .finalize
      · rw [if_pos hlast] at hlater
        cases hlater
      · rw [if_neg hlast] at hlater
        exact hlater
    exact ⟨List.mem_cons_of_mem _ (hactions i hrest), hclick i hrest⟩

/-! ## Successful actions -/

/-- Every action of the list succeeds: its element is there and the reply is a success with an
observation, on the page that the action leads to. -/
def AllSucceed (text : TextFunctions) (replies : Nat → Reply) :
    Nat → Page → HybridDomObservation → List Instruction → Prop
  | _, _, _, [] => True
  | n, page, o, i :: rest =>
    (i.action ≠ .navigate → ∃ element, elementOf text o i.action i.label = .ok element) ∧
    ∃ r o', replies n = .result r ∧ r.success = true ∧ r.terminal = false ∧
      r.observation = some o' ∧ (∀ receipt, r.receipt = some receipt → receipt.state ≠ .mismatch) ∧
      pageOf text o' = .ok (landsOn page [i]) ∧
      AllSucceed text replies (n + 1) (landsOn page [i]) o' rest

/-- The sizes of the observations that come with so many replies. -/
def shownBytes (replies : Nat → Reply) : Nat → Nat → List Nat
  | _, 0 => []
  | n, k + 1 =>
    (match replies n with
      | .result r => (r.observation.map (·.domObservationBytes)).getD 0
      | _ => 0) :: shownBytes replies (n + 1) k

/-- The charges for the actions and their observations. -/
def actionCharges : List Nat → LedgerM Unit
  | [] => pure ()
  | bytes :: rest => do
    TotalBudgetLedger.chargeAction
    TotalBudgetLedger.chargeDomObservation bytes
    actionCharges rest

/-- The charges of a step. -/
def stepCharges (sizes : List Nat) : LedgerM Unit := do
  TotalBudgetLedger.chargeStep false
  actionCharges sizes
  TotalBudgetLedger.chargeVerifier false

/-- The ledger can pay for a step with observations of these sizes. -/
def Affords (l : TotalBudgetLedger) (sizes : List Nat) : Prop :=
  ∃ t, stepCharges sizes l = .ok () t

section Charges

variable {bytes : Nat} {rest : List Nat} {l t u : TotalBudgetLedger} {e : BudgetReason}

theorem actionCharges_ok (haction : TotalBudgetLedger.chargeAction l = .ok () t)
    (hshown : TotalBudgetLedger.chargeDomObservation bytes t = .ok () u) :
    actionCharges (bytes :: rest) l = actionCharges rest u := by
  simp only [actionCharges, bind_apply, haction, hshown]

theorem actionCharges_action (haction : TotalBudgetLedger.chargeAction l = .error e t) :
    actionCharges (bytes :: rest) l = .error e t := by
  simp only [actionCharges, bind_apply, haction]

theorem actionCharges_shown (haction : TotalBudgetLedger.chargeAction l = .ok () t)
    (hshown : TotalBudgetLedger.chargeDomObservation bytes t = .error e u) :
    actionCharges (bytes :: rest) l = .error e u := by
  simp only [actionCharges, bind_apply, haction, hshown]

end Charges

variable {text : TextFunctions} {replies : Nat → Reply} {request : StepRequest}

/-- A charge returns or raises as it does on the ledger alone. -/
theorem ensures_charging {α : Type} {x : LedgerM α} {s : RecoveryRunState}
    {Q : α → RecoveryRunState → Prop} {E : PlanningError → RecoveryRunState → Prop}
    (hok : ∀ a l, x s.ledger = .ok a l → Q a { s with ledger := l })
    (hraise : ∀ e l, x s.ledger = .error e l →
      E (.budgetExceeded e) { s with ledger := l }) : Ensures (charging x) s Q E := by
  refine Ensures.of_zoom ?_
  unfold Ensures
  cases hx : x s.ledger with
  | ok a l => exact hok a l hx
  | error e l => exact hraise e l hx

theorem ensures_result {outcome : ActivityOutcome} {reason : String}
    {receipt : Option ReceiptRecord} {s : RecoveryRunState}
    {E : PlanningError → RecoveryRunState → Prop} :
    Ensures (result request outcome reason receipt) s (fun r _ => r.outcome = outcome) E := by
  unfold result
  refine Ensures.bind (ensures_charging ?_ ?_)
  · intro usage l _
    exact Ensures.bind (Ensures.of_get (Ensures.of_pure rfl))
  · intro e l hraise
    cases hraise

variable [Sha256]

/-- A click that a step selects can be bound. -/
theorem ensures_bindingFor {i : Instruction} {s : RecoveryRunState}
    {E : PlanningError → RecoveryRunState → Prop} {id : StepId} (hid : request.stepId = some id)
    (hclick : i.action = .click → ∃ operation payload, step.operation = .mutation operation ∧
      mutationPayload step.operation request.suppliedValues = .ok payload) :
    Ensures (bindingFor request step i) s (fun _ t => t.ledger = s.ledger ∧ t.sent = s.sent) E := by
  unfold bindingFor
  by_cases hbound : i.action = .click ∧ i.label ≠ some "Show transitions"
  · have ⟨operation, payload, hoperation, hpayload⟩ := hclick hbound.1
    have hbinding : ∃ binding, buildBinding request.binding step.operation = .ok binding := by
      have hstep : request.binding.stepId = some id.text := by
        show request.stepId.map StepId.text = _
        rw [hid]
        rfl
      have hvalues : request.binding.suppliedValues = request.suppliedValues := rfl
      rw [hoperation] at hpayload ⊢
      unfold buildBinding
      rw [hstep, hvalues, hpayload]
      exact ⟨_, rfl⟩
    have ⟨binding, hbinding⟩ := hbinding
    rw [if_pos hbound, hbinding]
    refine Ensures.bind (Ensures.of_get ?_)
    split
    · exact Ensures.bind (Ensures.of_set (Ensures.of_pure ⟨rfl, rfl⟩))
    · exact Ensures.of_pure ⟨rfl, rfl⟩
  · rw [if_neg hbound]
    exact Ensures.of_pure ⟨rfl, rfl⟩

/-- An action whose element is there can be sent. -/
theorem ensures_envelope {o : HybridDomObservation} {i : Instruction} {s : RecoveryRunState}
    {E : PlanningError → RecoveryRunState → Prop} {id : StepId} (hid : request.stepId = some id)
    (haction : i.action ∈ [AllowedAction.navigate, .fill, .click, .read])
    (hclick : i.action = .click → ∃ operation payload, step.operation = .mutation operation ∧
      mutationPayload step.operation request.suppliedValues = .ok payload)
    (helement : i.action ≠ .navigate →
      ∃ element, elementOf text o i.action i.label = .ok element) :
    Ensures (envelope text request step o i) s
      (fun _ t => t.ledger = s.ledger ∧ t.sent = s.sent) E := by
  have hfound : ∀ actionId, ∃ action, actionFor text o actionId i = .ok action := by
    intro actionId
    unfold actionFor
    by_cases hnavigate : i.action = .navigate
    · rw [hnavigate]
      exact ⟨_, rfl⟩
    · have ⟨element, hget⟩ := helement hnavigate
      rw [hget]
      simp only [List.mem_cons, List.not_mem_nil, or_false] at haction
      rcases haction with h | h | h | h
      · exact absurd h hnavigate
      · rw [h]
        exact ⟨_, rfl⟩
      · rw [h]
        exact ⟨_, rfl⟩
      · rw [h]
        exact ⟨_, rfl⟩
  unfold envelope
  refine Ensures.bind (Ensures.of_modify ?_)
  refine Ensures.bind (Ensures.of_get ?_)
  have ⟨action, hget⟩ := hfound ("act_w8_" ++ toString (s.actionNumber + 1))
  dsimp only
  rw [hget]
  refine Ensures.bind (Ensures.of_pure ?_)
  refine Ensures.bind ((ensures_bindingFor hid hclick).mono ?_ fun _ _ h => h)
  intro binding t ht
  exact Ensures.bind (Ensures.of_get (Ensures.of_pure ht))

/-- The loop over actions that succeed ends on the page they lead to, or with the ledger. -/
theorem ensures_perform {id : StepId} (hid : request.stepId = some id) (l : List Instruction) :
    ∀ s page o success receipt,
      (∀ i ∈ l, i.action ∈ [AllowedAction.navigate, .fill, .click, .read] ∧
        (i.action = .click → ∃ operation payload, step.operation = .mutation operation ∧
          mutationPayload step.operation request.suppliedValues = .ok payload)) →
      AllSucceed text replies s.sent page o l → pageOf text o = .ok page →
      Ensures (perform text replies request step l o success receipt) s
        (fun e t => actionCharges (shownBytes replies s.sent l.length) s.ledger = .ok () t.ledger ∧
          ∃ o' receipt', e = .ended o' (success || decide (l ≠ [])) receipt' ∧
            pageOf text o' = .ok (landsOn page l))
        (fun e _ => ∃ reason t, e = .budgetExceeded reason ∧
          actionCharges (shownBytes replies s.sent l.length) s.ledger = .error reason t) := by
  induction l with
  | nil =>
      intro s page o success receipt _ _ hpage
      refine Ensures.of_pure ⟨rfl, o, receipt, ?_, hpage⟩
      simp
  | cons i rest ih =>
      intro s page o success receipt hactions hall hpage
      have ⟨helement, r, o', hreply, hsuccess, hterminal, hobservation, hreceipt, hpage', hrest⟩ :=
        hall
      have ⟨haction, hclick⟩ := hactions i List.mem_cons_self
      have hbytes : shownBytes replies s.sent (rest.length + 1) =
          o'.domObservationBytes :: shownBytes replies (s.sent + 1) rest.length := by
        rw [shownBytes, hreply]
        dsimp only
        rw [hobservation]
        rfl
      rw [List.length_cons, hbytes]
      unfold perform
      refine Ensures.bind (ensures_charging ?_ ?_)
      · intro _ l hcharge
        refine Ensures.bind ((ensures_envelope hid haction hclick helement).mono ?_
          fun _ _ h => h)
        intro (_, binding) t ⟨hledger, hsent⟩
        have hsent' : t.sent = s.sent := hsent
        have hledger' : t.ledger = l := hledger
        -- the reply is the success
        have hexecute : execute replies t = .ok r { t with sent := t.sent + 1 } := by
          unfold execute
          simp only [bind_apply, get_apply, modify_apply]
          rw [hsent', hreply]
          rfl
        have hran : Ensures (execute replies) t
            (fun a u => a = r ∧ u = { t with sent := t.sent + 1 }) (fun _ _ => False) := by
          unfold Ensures
          rw [hexecute]
          exact ⟨rfl, rfl⟩
        refine Ensures.bind (hran.mono ?_ fun _ _ h => h.elim)
        intro a u ⟨ha, hu⟩
        rw [ha, hu, hterminal, hobservation]
        refine Ensures.bind (Ensures.of_modify ?_)
        refine Ensures.bind (ensures_charging ?_ ?_)
        · intro _ l' hcharge'
          dsimp only at hcharge'
          rw [hledger'] at hcharge'
          rw [actionCharges_ok hcharge hcharge']
          have hreplay : rejectsReplay r binding = false := by
            unfold rejectsReplay
            cases hr : r.receipt with
            | none => rfl
            | some reply =>
                cases binding with
                | none => rfl
                | some _ => exact decide_eq_false (hreceipt reply hr)
          have hrecoverable : isRecoverableBrowserFailure r = false := by
            unfold isRecoverableBrowserFailure
            rw [hsuccess]
            rfl
          dsimp only
          rw [hreplay, hrecoverable, hsuccess]
          refine (ih _ (landsOn page [i]) o' true (receiptOf r binding receipt)
            (fun j hj => hactions j (List.mem_cons_of_mem _ hj)) ?_ hpage').mono ?_ ?_
          · dsimp only
            rw [hsent']
            exact hrest
          · intro e v ⟨hcharges, o'', receipt'', hend, hpage''⟩
            dsimp only at hcharges
            rw [hsent'] at hcharges
            refine ⟨hcharges, o'', receipt'', ?_, hpage''⟩
            rw [hend]
            simp
          · intro e v ⟨reason, t', he, hcharges⟩
            dsimp only at hcharges
            rw [hsent'] at hcharges
            exact ⟨reason, t', he, hcharges⟩
        · intro e l' hcharge'
          dsimp only at hcharge'
          rw [hledger'] at hcharge'
          exact ⟨e, l', rfl, actionCharges_shown hcharge hcharge'⟩
      · intro e l hcharge
        exact ⟨e, l, rfl, actionCharges_action hcharge⟩

/-! ## Verification -/

/-- A step that still has to run, and what it selects: its plan is accepted, what it depends on is
completed and no fault is due. -/
structure Executable (text : TextFunctions) (request : StepRequest) (state : RecoveryRunState)
    (step : PlanStep) (page : Page) (selected : List Instruction) : Prop where
  accepted : state.dag.WellFormed
  topology : state.topology = state.dag.topology
  listed : step ∈ state.dag.steps
  named : request.stepId = some step.stepId
  unfinished : step.stepId ∉ state.completed
  ready : ∀ d ∈ step.dependencies, d ∈ state.completed
  noFault : pendingFault request state = none
  shown : pageOf text state.observation = .ok page
  selected : instructionsForStep step request.suppliedValues page = some selected

variable {state : RecoveryRunState}

/-- The attempt verifies the step exactly if it selects something and the ledger pays for it. -/
theorem ensures_attempt (h : Executable text request state step page selected)
    (hall : AllSucceed text replies state.sent page state.observation selected) :
    Ensures (attempt text replies request step) state
      (fun r _ => r.outcome = .verified ↔ selected ≠ [] ∧
        Affords state.ledger (shownBytes replies state.sent selected.length))
      (fun e _ => (∃ reason, e = .budgetExceeded reason) ∧
        ¬ Affords state.ledger (shownBytes replies state.sent selected.length)) := by
  let sizes := shownBytes replies state.sent selected.length
  have hactions := selected_actions h.selected
  unfold attempt
  refine Ensures.bind (ensures_charging ?_ ?_)
  · intro _ l hstep
    have hcharges : stepCharges sizes state.ledger = (do
        actionCharges sizes
        TotalBudgetLedger.chargeVerifier false) l := by
      simp only [stepCharges, bind_apply, hstep]
    refine Ensures.bind (Ensures.of_get ?_)
    dsimp only
    rw [h.shown]
    refine Ensures.bind (Ensures.of_pure ?_)
    rw [h.selected]
    refine Ensures.bind ((ensures_perform h.named selected { state with ledger := l } page
      state.observation false none hactions hall h.shown).mono ?_ ?_)
    · intro e t ⟨hpaid, o', receipt, hend, hpage'⟩
      dsimp only at hpaid
      rw [hend]
      dsimp only
      rw [hpage']
      refine Ensures.bind (Ensures.of_pure ?_)
      rw [landsOn_selected h.selected]
      have hrest : stepCharges sizes state.ledger =
          TotalBudgetLedger.chargeVerifier false t.ledger := by
        rw [hcharges]
        simp only [bind_apply, sizes, hpaid]
      let asked : VerifierRequest :=
        ⟨step.stepId, step.expectedPage, step.expectedPage, false || decide (selected ≠ []), false⟩
      have hverify := verify_eq asked false t.ledger
      cases hpays : TotalBudgetLedger.chargeVerifier false t.ledger with
      | ok a l' =>
        rw [hpays] at hverify
        have haffords : Affords state.ledger sizes := ⟨l', by rw [hrest]; exact hpays⟩
        refine Ensures.bind (ensures_charging ?_ ?_)
        · intro v u hrun
          rw [hverify] at hrun
          cases hrun
          have hjudged := judge_verified asked
          by_cases hnone : selected = []
          · have hunverified : ¬ asked.judge.status = .verified := by
              rw [hjudged]
              simp [asked, hnone]
            rw [if_pos hunverified]
            refine ensures_result.mono ?_ fun _ _ h => h
            intro r _ hr
            rw [hr]
            exact ⟨fun h => ActivityOutcome.noConfusion h, fun h => absurd hnone h.1⟩
          · have hverified : asked.judge.status = .verified := by
              rw [hjudged]
              simp [asked, hnone]
            rw [if_neg (fun h => h hverified)]
            refine Ensures.bind (Ensures.of_modify ?_)
            refine Ensures.bind (ensures_result.mono ?_ fun _ _ h => h)
            intro r u hr
            refine Ensures.bind (Ensures.of_modify (Ensures.of_pure ?_))
            rw [hr]
            exact ⟨fun _ => ⟨hnone, haffords⟩, fun _ => rfl⟩
        · intro e u hrun
          rw [hverify] at hrun
          cases hrun
      | error reason l' =>
        rw [hpays] at hverify
        have hbroke : ¬ Affords state.ledger sizes := by
          intro ⟨l'', hok⟩
          rw [hrest, hpays] at hok
          cases hok
        refine Ensures.bind (ensures_charging ?_ ?_)
        · intro v u hrun
          rw [hverify] at hrun
          cases hrun
          have hinconclusive : VerifierStatus.inconclusive ≠ .verified := by decide
          rw [if_pos hinconclusive]
          refine ensures_result.mono ?_ fun _ _ h => h
          intro r _ hr
          rw [hr]
          exact ⟨fun h => ActivityOutcome.noConfusion h, fun h => absurd h.2 hbroke⟩
        · intro e u hrun
          rw [hverify] at hrun
          cases hrun
    · intro e t ⟨reason, l', he, hraise⟩
      refine ⟨⟨reason, he⟩, ?_⟩
      intro ⟨l'', hok⟩
      dsimp only at hraise
      have hraised : stepCharges sizes state.ledger = .error reason l' := by
        rw [hcharges]
        simp only [bind_apply, sizes, hraise]
      rw [hraised] at hok
      cases hok
  · intro e l hstep
    refine ⟨⟨e, rfl⟩, ?_⟩
    intro ⟨l'', hok⟩
    have hraised : stepCharges sizes state.ledger = .error e l := by
      simp only [stepCharges, bind_apply, hstep]
    rw [hraised] at hok
    cases hok

theorem ensures_attemptSafely (h : Executable text request state step page selected)
    (hall : AllSucceed text replies state.sent page state.observation selected) :
    Ensures (attemptSafely text replies request step) state
      (fun r _ => r.outcome = .verified ↔ selected ≠ [] ∧
        Affords state.ledger (shownBytes replies state.sent selected.length))
      (fun _ _ => False) := by
  unfold attemptSafely
  refine Ensures.of_tryCatch ((ensures_attempt h hall).mono (fun _ _ h => h) ?_)
  intro e t ⟨⟨reason, he⟩, hbroke⟩
  rw [he]
  refine ensures_result.mono ?_ fun _ _ h => h
  intro r _ hr
  rw [hr]
  exact ⟨fun h => ActivityOutcome.noConfusion h, fun h => absurd h.2 hbroke⟩

omit [Sha256] in
/-- Of steps with unique ids, the listed one is found. -/
theorem stepById_eq {dag : PlanningDag} (hnodup : dag.ids.Nodup) (hstep : step ∈ dag.steps) :
    stepById dag step.stepId = some step := by
  cases hfound : stepById dag step.stepId with
  | none =>
      have hmiss := List.find?_eq_none.mp hfound step hstep
      exact absurd (decide_eq_true rfl) hmiss
  | some other =>
      unfold stepById at hfound
      have hother := List.mem_of_find?_eq_some hfound
      have hid := List.find?_some hfound
      rw [decide_eq_true_eq] at hid
      rw [List.inj_on_of_nodup_map hnodup hother hstep hid]

/-- When all the actions that a step selects succeed, the step is reported verified exactly if it
is not the last step on its page, where it selects nothing, and the ledger pays for it. -/
theorem step_verified_iff (text : TextFunctions) (replies : Nat → Reply)
    (request : StepRequest) (state : RecoveryRunState) (step : PlanStep) (page : Page)
    (selected : List Instruction) (h : Executable text request state step page selected)
    (hall : AllSucceed text replies state.sent page state.observation selected) :
    (selected ≠ [] ↔ ¬ (step.operation = .finalize ∧ page = .hris)) ∧
    ((∃ result after, runStep text replies request state = .ok result after ∧
        result.outcome = .verified) ↔
      ¬ (step.operation = .finalize ∧ page = .hris) ∧
        Affords state.ledger (shownBytes replies state.sent selected.length)) := by
  -- the page of the last step is that of its operation
  have hpage : step.operation = .finalize ∧ page = step.expectedPage ↔
      step.operation = .finalize ∧ page = .hris := by
    refine and_congr_right ?_
    intro hlast
    have hcontract := h.accepted.page step h.listed
    rw [hlast] at hcontract
    rw [hcontract]
    rfl
  have hselected : selected ≠ [] ↔ ¬ (step.operation = .finalize ∧ page = .hris) := by
    rw [ne_eq, selected_nil h.selected, hpage]
  refine ⟨hselected, ?_⟩
  rw [← hselected]
  have hlisted : step.stepId ∈ state.topology := by
    rw [h.topology]
    have hperm := PlanningDag.topology_perm h.accepted.named h.accepted.acyclic
    exact hperm.mem_iff.mpr (List.mem_map_of_mem h.listed)
  have hready : ¬ (step.dependencies.any fun d => d ∉ state.completed) = true := by
    intro hany
    have ⟨d, hd, hout⟩ := List.any_eq_true.mp hany
    exact of_decide_eq_true hout (h.ready d hd)
  have hrun : runStep text replies request state =
      attemptSafely text replies request step state := by
    unfold runStep
    simp only [bind_apply, get_apply]
    rw [h.named]
    dsimp only
    rw [if_neg (not_not.mpr hlisted), if_neg h.unfinished, h.noFault]
    dsimp only
    rw [stepById_eq h.accepted.named.nodup h.listed]
    dsimp only
    rw [if_neg hready]
  have hensures := ensures_attemptSafely h hall
  rw [hrun]
  cases hattempt : attemptSafely text replies request step state with
  | ok result after =>
      have hiff := hensures.ok hattempt
      rw [← hiff]
      constructor
      · intro ⟨r, t, hr, houtcome⟩
        cases hr
        exact houtcome
      · exact fun houtcome => ⟨result, after, rfl, houtcome⟩
  | error e after => exact (hensures.error hattempt).elim

/-- How a step was reported. -/
def reported (r : EStateM.Result PlanningError RecoveryRunState PlanningActivityResult) :
    Option ActivityOutcome :=
  match r with
  | .ok result _ => some result.outcome
  | .error _ _ => none

/-! ## The last step of a short plan -/

end FlowPilot.Planning.Recovering

namespace FlowPilot.Planning.Recovering

section

attribute [local instance] polynomialSha256

/-- The path of a plain URL, and names as they are. -/
def plainText : TextFunctions where
  urlPath url := some (String.ofList ((url.toList.drop 7).dropWhile (· ≠ '/')))
  folded name := name

def shownAt (url : String) : HybridDomObservation where
  sessionId := "bw_0123456789abcdef"
  generation := 1
  observationId := "obs_01234567"
  currentUrl := url
  interactiveElements := []
  domObservationBytes := 512
  generation_range := firstGeneration_range

def leaverRequest : StepRequest where
  runId := "run_01234567"
  taskId := "w7-jml-leaver-001-v1"
  suppliedValues := .leaver sampleLeaver
  faultScenario := .none
  stepId := some finalizeStep.stepId
  revision := 1

/-- The first step is completed. -/
def lastStepLeft (url : String) : RecoveryRunState where
  dag := shortPlan
  planHash := zeroHash
  topology := shortPlan.topology
  sessionId := "bw_0123456789abcdef"
  sessionEpoch := 2
  observation := shownAt url
  ledger := .init {} fun _ => 0
  completed := [inspectStep.stepId]

def arrives : Nat → Reply := fun _ =>
  .result ⟨true, false, none, some (shownAt "http://sandbox/hris"), none⟩

theorem lastStep_executable (url : String) (page : Page) (selected : List Instruction)
    (hshown : pageOf plainText (shownAt url) = .ok page)
    (hselected :
      instructionsForStep finalizeStep leaverRequest.suppliedValues page = some selected) :
    Executable plainText leaverRequest (lastStepLeft url) finalizeStep page selected where
  accepted := shortPlan_wellFormed
  topology := rfl
  listed := List.mem_cons_of_mem _ List.mem_cons_self
  named := rfl
  unfinished := by
    show finalizeStep.stepId ∉ [inspectStep.stepId]
    decide
  ready := by
    show ∀ d ∈ finalizeStep.dependencies, d ∈ [inspectStep.stepId]
    decide
  noFault := rfl
  shown := hshown
  selected := hselected

/-- On the page of the last step nothing is selected, and the step is not verified. -/
theorem nothing_verifies_finalize :
    Executable plainText leaverRequest (lastStepLeft "http://sandbox/hris") finalizeStep .hris [] ∧
    AllSucceed plainText arrives 0 .hris (shownAt "http://sandbox/hris") [] ∧
    reported (runStep plainText arrives leaverRequest (lastStepLeft "http://sandbox/hris")) =
      some .permanentFailure := by
  refine ⟨lastStep_executable _ _ _ ?_ ?_, trivial, ?_⟩
  · decide +kernel
  · decide +kernel
  · decide +kernel

/-- From another page the last step is verified. -/
theorem step_verified_from_itsm :
    ∃ result after,
      runStep plainText arrives leaverRequest (lastStepLeft "http://sandbox/itsm") =
        .ok result after ∧ result.outcome = .verified := by
  have hexecutable := lastStep_executable "http://sandbox/itsm" .itsm [navigateTo .hris]
    (by decide +kernel) (by decide +kernel)
  have hall : AllSucceed plainText arrives 0 .itsm (shownAt "http://sandbox/itsm")
      [navigateTo .hris] := by
    refine ⟨fun h => absurd rfl h, _, _, rfl, rfl, rfl, rfl, ?_, ?_, trivial⟩
    · intro receipt h
      cases h
    · decide +kernel
  refine (step_verified_iff plainText arrives leaverRequest (lastStepLeft "http://sandbox/itsm")
    finalizeStep .itsm [navigateTo .hris] hexecutable hall).2.mpr ⟨by decide, ?_⟩
  exact ⟨_, rfl⟩

end

end FlowPilot.Planning.Recovering
