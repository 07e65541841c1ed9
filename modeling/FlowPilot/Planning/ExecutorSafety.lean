import FlowPilot.Planning.Executor

/-!
# Safety of the planning executor

Every run, whatever the browser answers and wherever it ends, keeps `Sound`: what it has done was
allowed, paid for and in order.
-/

open FlowPilot.Lib

namespace FlowPilot.Planning

/-! ## Charges -/

namespace TotalBudgetLedger

/-- The budget is the one given and at least `spent` actions are counted. -/
def Within (budget : TotalBudget) (spent : Nat) (l : TotalBudgetLedger) : Prop :=
  l.budget = budget ∧ spent ≤ l.counters.workerActions

variable {budget : TotalBudget} {spent : Nat}

theorem checkTime_within : Maintains (Within budget spent) checkTime := by
  intro l h
  unfold Ensures
  rw [checkTime_eq]
  by_cases hlate : l.late
  · rw [if_pos hlate]
    exact h
  · rw [if_neg hlate]
    exact h

theorem check_within (exceeded : TotalBudget → Counters → List (Bool × BudgetReason)) :
    Maintains (Within budget spent) (check exceeded) := by
  intro l h
  unfold Ensures
  rw [check_eq]
  cases (exceeded l.budget l.counters).find? (·.1) with
  | none => exact h
  | some found => exact h

theorem charge_within {change : Counters → Counters}
    (hchange : ∀ c, c.workerActions ≤ (change c).workerActions)
    (exceeded : TotalBudget → Counters → List (Bool × BudgetReason)) :
    Maintains (Within budget spent) (charge change exceeded) :=
  checkTime_within.bind fun _ =>
    (Maintains.of_modify fun l h => ⟨h.1, Nat.le_trans h.2 (hchange l.counters)⟩).bind fun _ =>
      check_within exceeded

theorem chargePlan_within (nodes edges depth bytes : Nat) :
    Maintains (Within budget spent) (chargePlan nodes edges depth bytes) := by
  refine charge_within ?_ _
  exact fun c => Nat.le_refl c.workerActions

theorem chargeToolMatch_within (rejected : Bool) :
    Maintains (Within budget spent) (chargeToolMatch rejected) := by
  refine Maintains.bind (charge_within ?_ _) fun _ => ?_
  · exact fun c => Nat.le_refl c.workerActions
  · by_cases h : rejected = true
    · rw [if_pos h]
      refine Maintains.bind (Maintains.of_modify ?_) fun _ => check_within _
      exact fun _ h => h
    · rw [if_neg h]
      exact Maintains.of_pure _

theorem chargeVerifier_within (probe : Bool) :
    Maintains (Within budget spent) (chargeVerifier probe) := by
  refine charge_within ?_ _
  exact fun c => Nat.le_refl c.workerActions

theorem chargeStep_within (blocked : Bool) :
    Maintains (Within budget spent) (chargeStep blocked) := by
  unfold chargeStep
  by_cases h : blocked = true
  · rw [if_pos h]
    refine charge_within ?_ _
    exact fun c => Nat.le_refl c.workerActions
  · rw [if_neg h]
    refine charge_within ?_ _
    exact fun c => Nat.le_refl c.workerActions

theorem chargeAction_within : Maintains (Within budget spent) chargeAction := by
  refine charge_within ?_ _
  exact fun c => Nat.le_succ c.workerActions

theorem chargeDomObservation_within (bytes : Nat) :
    Maintains (Within budget spent) (chargeDomObservation bytes) := by
  refine charge_within ?_ _
  exact fun c => Nat.le_refl c.workerActions

theorem canExecuteAction_within : Maintains (Within budget spent) canExecuteAction :=
  fun _ h => h

theorem snapshot_within : Maintains (Within budget spent) snapshot := fun _ h => h

/-- A charge that returns has counted one action more, and the limit holds. -/
theorem chargeAction_paid (l : TotalBudgetLedger) :
    Ensures chargeAction l
      (fun _ t => t.counters.workerActions = l.counters.workerActions + 1 ∧
        t.counters.workerActions ≤ t.budget.maxSteps)
      fun _ _ => True := by
  unfold Ensures chargeAction
  rw [charge_eq]
  by_cases hlate : l.late
  · rw [if_pos hlate]
    trivial
  · rw [if_neg hlate, check_eq]
    by_cases hover : l.counters.workerActions + 1 > l.budget.maxSteps
    · simp [tick, count, hover]
    · simp [tick, count, hover]
      omega

end TotalBudgetLedger

open TotalBudgetLedger (Within)

theorem reject_within {budget : TotalBudget} {spent : Nat} (reason : ToolRejectionReason) :
    Maintains (Within budget spent) (Matcher.reject reason) :=
  Maintains.of_tryCatch
    ((TotalBudgetLedger.chargeToolMatch_within true).bind fun _ => Maintains.of_pure _)
    fun _ => Maintains.of_pure _

theorem verify_within {budget : TotalBudget} {spent : Nat} (request : VerifierRequest)
    (probe : Bool) : Maintains (Within budget spent) (verify request probe) :=
  Maintains.of_tryCatch
    ((TotalBudgetLedger.chargeVerifier_within probe).bind fun _ => Maintains.of_pure _)
    fun _ => Maintains.of_pure _

/-- A tool that the step, the page and the worker allow. -/
structure Allows (step : PlanStep) (page : Page) (allowed : List AllowedAction)
    (tool : AllowedAction) : Prop where
  byStep : tool ∈ step.allowedActions
  onPage : tool = .navigate ∨ page = step.expectedPage
  byWorker : tool ∈ allowed

/-- What a match with a candidate says. -/
def Matches (step : PlanStep) (candidate : String) (page : Page) (allowed : List AllowedAction)
    (r : ToolMatchResult) : Prop :=
  ∀ tool, r = .matched tool → toolOf candidate = some tool ∧ Allows step page allowed tool

theorem reject_spec {budget : TotalBudget} {spent : Nat} (step : PlanStep) (candidate : String)
    (page : Page) (allowed : List AllowedAction) (reason : ToolRejectionReason)
    (l : TotalBudgetLedger) (h : Within budget spent l) :
    Ensures (Matcher.reject reason) l
      (fun r t => Within budget spent t ∧ Matches step candidate page allowed r)
      fun _ t => Within budget spent t := by
  have hnone : ∀ other, Matches step candidate page allowed (.rejected other) :=
    fun _ tool htool => by cases htool
  have hcharge := TotalBudgetLedger.chargeToolMatch_within true l h
  refine Ensures.of_tryCatch (Ensures.bind (hcharge.mono ?_ ?_))
  · exact fun _ t ht => ⟨ht, hnone _⟩
  · exact fun _ t ht => ⟨ht, hnone _⟩

theorem matcher_spec {budget : TotalBudget} {spent : Nat} (step : PlanStep) (candidate : String)
    (page : Page) (allowed : List AllowedAction) (l : TotalBudgetLedger)
    (h : Within budget spent l) :
    Ensures (Matcher.run step candidate page allowed) l
      (fun r t => Within budget spent t ∧ Matches step candidate page allowed r)
      fun _ t => Within budget spent t := by
  have hreject : ∀ reason t, Within budget spent t → Ensures (Matcher.reject reason) t
      (fun r t => Within budget spent t ∧ Matches step candidate page allowed r)
      fun _ t => Within budget spent t := reject_spec step candidate page allowed
  unfold Matcher.run
  cases htool : toolOf candidate with
  | none => exact hreject _ l h
  | some action =>
    dsimp only
    by_cases hstep : action ∉ step.allowedActions
    · rw [if_pos hstep]
      exact hreject _ l h
    rw [if_neg hstep]
    by_cases hpage : action ≠ .navigate ∧ page ≠ step.expectedPage
    · rw [if_pos hpage]
      exact hreject _ l h
    rw [if_neg hpage]
    by_cases hworker : action ∉ allowed
    · rw [if_pos hworker]
      exact hreject _ l h
    rw [if_neg hworker]
    have hallows : Allows step page allowed action := by
      refine ⟨not_not.mp hstep, ?_, not_not.mp hworker⟩
      rw [not_and_or, not_not, not_not] at hpage
      exact hpage
    refine Ensures.bind ((TotalBudgetLedger.canExecuteAction_within l h).mono ?_ fun _ _ ht => ht)
    intro able t ht
    by_cases hable : able = true
    · rw [if_pos hable]
      refine Ensures.bind ((TotalBudgetLedger.chargeToolMatch_within false t ht).mono ?_
        fun _ _ hu => hu)
      intro _ u hu
      refine ⟨hu, fun tool hmatched => ?_⟩
      cases hmatched
      exact ⟨htool, hallows⟩
    · rw [if_neg hable]
      exact hreject _ t ht

namespace Executor

/-! ## Logs -/

/-- Every event has before it what it needs. -/
def Each (P : List Event → Event → Prop) (events : List Event) : Prop :=
  ∀ earlier e later, events = earlier ++ e :: later → P earlier e

theorem Each.nil {P : List Event → Event → Prop} : Each P [] := by
  intro earlier e later h
  exact absurd h.symm (List.append_ne_nil_of_right_ne_nil _ (List.cons_ne_nil _ _))

theorem Each.snoc {P : List Event → Event → Prop} {events : List Event} {e : Event}
    (h : Each P events) (he : P events e) : Each P (events ++ [e]) := by
  intro earlier e' later hsplit
  -- the split is at the new event, or in the log as it was
  cases later.eq_nil_or_concat with
  | inl hnil =>
    rw [hnil] at hsplit
    have ⟨hevents, hlast⟩ := List.append_inj' hsplit rfl
    rw [← hevents, ← List.singleton_inj.mp hlast]
    exact he
  | inr hmore =>
    have ⟨rest, last, hlast⟩ := hmore
    rw [hlast, List.concat_eq_append, ← List.cons_append, ← List.append_assoc] at hsplit
    exact h earlier e' rest (List.append_inj' hsplit rfl).1

def Event.isCharged : Event → Bool
  | .charged => true
  | _ => false

def Event.isPerformed : Event → Bool
  | .performed _ _ _ => true
  | _ => false

def chargedIn (events : List Event) : Nat := events.countP Event.isCharged

def performedIn (events : List Event) : Nat := events.countP Event.isPerformed

/-- There is a session to close. -/
def Open (events : List Event) : Prop := Event.created ∈ events ∧ Event.closed ∉ events

/-- Whose an action is and who allows it: a started step, or the scenario that only finishes. -/
def Permitted (text : TextFunctions) (scenario : FakeScenario) (steps : List PlanStep)
    (earlier : List Event) (seen : HybridDomObservation) (tool : AllowedAction) :
    Option PlanStep → Prop
  | some step => step ∈ steps ∧ Event.started step.stepId ∈ earlier ∧
      ∃ page, pageOf text seen = .ok page ∧ Allows step page (workerAllowed seen) tool
  | none => scenario = .finishImmediately ∧ tool = .finish ∧ tool ∈ workerAllowed seen

/-- What an event needs before it. -/
def Proper (text : TextFunctions) (scenario : FakeScenario) (steps : List PlanStep)
    (earlier : List Event) : Event → Prop
  | .created => Event.created ∉ earlier
  | .started id => ∀ step ∈ steps, step.stepId = id →
      ∀ d ∈ step.dependencies, Event.verified d ∈ earlier
  | .charged => True
  | .performed step seen action => Open earlier ∧ (∃ before, earlier = before ++ [.charged]) ∧
      Permitted text scenario steps earlier seen action.tool step
  | .verified id => Event.started id ∈ earlier
  | .closed => Open earlier

/-! ## The invariant -/

variable (text : TextFunctions) (browser : BrowserScript) (request : PlanningRunRequest)
  (steps : List PlanStep) (budget : TotalBudget)

/-- What a run has done so far is paid for and in order, and its session is not closed. -/
structure Behaved (s : ExecutorState) : Prop where
  budget_eq : s.ledger.budget = budget
  proper : Each (Proper text request.fakeScenario steps) s.events
  charged : chargedIn s.events ≤ s.ledger.counters.workerActions
  bounded : chargedIn s.events ≤ budget.maxSteps
  performed : performedIn s.events ≤ chargedIn s.events
  session : s.sessionId ≠ none ↔ Event.created ∈ s.events
  unclosed : Event.closed ∉ s.events

/-- `kept` has happened; there are at most so many step results and rejections. -/
structure Sound (kept : List Event) (results rejections : Nat) (s : ExecutorState) : Prop
    extends Behaved text request steps budget s where
  kept_mem : ∀ e ∈ kept, e ∈ s.events
  topology_length : s.topology.length ≤ 16
  actionCount : ∀ r ∈ s.stepResults, r.actionCount ≤ 24
  results_length : s.stepResults.length ≤ results
  rejections_length : s.rejectionReasons.length ≤ rejections
  limits : results ≤ 16 ∧ rejections ≤ 2
  machine : ∀ id own, s.machine.steps id = some own →
    ∀ step ∈ steps, step.stepId = id → step = own
  verified : ∀ id, s.machine.states id = some .verified → Event.verified id ∈ s.events

/-- The text of an exception is not empty. -/
def Worded (e : PlanningError) : Prop :=
  ∀ reason rejection, e = .executionFailure reason rejection → reason ≠ ""

/-- What an exception leaves behind. -/
def Failed (e : PlanningError) (s : ExecutorState) : Prop :=
  Sound text request steps budget [] 16 2 s ∧ Worded e

variable {text browser request steps budget}
variable {kept : List Event} {n m : Nat} {s : ExecutorState} {α : Type}

theorem Sound.weaken (h : Sound text request steps budget kept n m s) :
    Sound text request steps budget [] 16 2 s :=
  { h with
    kept_mem := fun _ he => absurd he List.not_mem_nil
    results_length := Nat.le_trans h.results_length h.limits.1
    rejections_length := Nat.le_trans h.rejections_length h.limits.2
    limits := ⟨Nat.le_refl _, Nat.le_refl _⟩ }

theorem Sound.failed (h : Sound text request steps budget kept n m s) {e : PlanningError}
    (he : Worded e) : Failed text request steps budget e s := ⟨h.weaken, he⟩

theorem worded_other : Worded .other := fun _ _ h => by cases h

theorem worded_cancelled : Worded .cancelled := fun _ _ h => by cases h

theorem worded_budget (reason : BudgetReason) : Worded (.budgetExceeded reason) :=
  fun _ _ h => by cases h

theorem worded_failure {reason : String} (h : reason ≠ "")
    (rejection : Option ToolRejectionReason) :
    Worded (.executionFailure reason rejection) := by
  intro _ _ heq
  cases heq
  exact h

/-- One more event. -/
theorem Sound.log (h : Sound text request steps budget kept n m s) {e : Event}
    (he : Proper text request.fakeScenario steps s.events e) (hcreated : e ≠ .created)
    (hclosed : e ≠ .closed)
    (hcharged : chargedIn (s.events ++ [e]) ≤ s.ledger.counters.workerActions)
    (hbounded : chargedIn (s.events ++ [e]) ≤ budget.maxSteps)
    (hperformed : performedIn (s.events ++ [e]) ≤ chargedIn (s.events ++ [e])) :
    Sound text request steps budget (kept ++ [e]) n m { s with events := s.events ++ [e] } :=
  { h with
    proper := h.proper.snoc he
    charged := hcharged
    bounded := hbounded
    performed := hperformed
    session := by
      rw [List.mem_append, List.mem_singleton, or_iff_left (Ne.symm hcreated)]
      exact h.session
    unclosed := by
      rw [List.mem_append, List.mem_singleton, not_or]
      exact ⟨h.unclosed, Ne.symm hclosed⟩
    kept_mem := by
      intro e' he'
      rw [List.mem_append] at he' ⊢
      exact he'.imp_left (h.kept_mem e')
    verified := fun id hid => List.mem_append_left _ (h.verified id hid) }

theorem Sound.keeps (h : Sound text request steps budget kept n m s) {kept' : List Event}
    (hkept : ∀ e ∈ kept', e ∈ kept) : Sound text request steps budget kept' n m s :=
  { h with kept_mem := fun e he => h.kept_mem e (hkept e he) }

/-! ## Operations -/

theorem Sound.charge (h : Sound text request steps budget kept n m s) {l : TotalBudgetLedger}
    (hl : Within budget s.ledger.counters.workerActions l) :
    Sound text request steps budget kept n m { s with ledger := l } :=
  { h with
    budget_eq := hl.1
    charged := Nat.le_trans h.charged hl.2 }

/-- A charge keeps the invariant, whether it returns or raises. -/
theorem charging_spec {x : LedgerM α} {Q : α → Prop}
    (h : Sound text request steps budget kept n m s)
    (hx : Ensures x s.ledger
      (fun a l => Within budget s.ledger.counters.workerActions l ∧ Q a)
      fun _ l => Within budget s.ledger.counters.workerActions l) :
    Ensures (charging x) s (fun a t => Sound text request steps budget kept n m t ∧ Q a)
      (Failed text request steps budget) := by
  refine Ensures.of_zoom (hx.mono ?_ ?_)
  · exact fun a l hl => ⟨h.charge hl.1, hl.2⟩
  · exact fun e l hl => (h.charge hl).failed (worded_budget e)

theorem charging_sound {x : LedgerM α} (h : Sound text request steps budget kept n m s)
    (hx : ∀ spent, Maintains (Within budget spent) x) :
    Ensures (charging x) s (fun _ t => Sound text request steps budget kept n m t)
      (Failed text request steps budget) := by
  have hwithin : Within budget s.ledger.counters.workerActions s.ledger :=
    ⟨h.budget_eq, Nat.le_refl _⟩
  refine (charging_spec (Q := fun _ => True) h ((hx _ _ hwithin).mono ?_ ?_)).mono ?_ ?_
  · exact fun _ l hl => ⟨hl, trivial⟩
  · exact fun _ l hl => hl
  · exact fun _ t ht => ht.1
  · exact fun _ t ht => ht

theorem charging_events (x : LedgerM α) (s : ExecutorState) :
    Ensures (charging x) s (fun _ t => t.events = s.events) fun _ _ => True := by
  refine Ensures.of_zoom ?_
  unfold Ensures
  cases x s.ledger with
  | ok a l => exact rfl
  | error e l => trivial

theorem fetch_spec {a : Answer α} (h : Sound text request steps budget kept n m s) :
    Ensures (fetch a) s (fun _ t => t = s) (Failed text request steps budget) := by
  cases a with
  | answered value => exact rfl
  | raised => exact h.failed worded_other
  | cancelled => exact h.failed worded_cancelled

theorem orRaise_spec {x : Except PlanningError α} (h : Sound text request steps budget kept n m s)
    (hx : ∀ e, x = .error e → Worded e) :
    Ensures (orRaise x) s (fun a t => t = s ∧ x = .ok a) (Failed text request steps budget) := by
  cases x with
  | ok a => exact ⟨rfl, rfl⟩
  | error e => exact h.failed (hx e rfl)

theorem pageOf_worded {o : HybridDomObservation} {e : PlanningError}
    (h : pageOf text o = .error e) : Worded e := by
  unfold pageOf at h
  split at h
  · cases h
    exact worded_other
  · split at h
    · cases h
      exact worded_failure (by decide) none
    · cases h

theorem elementOf_worded {o : HybridDomObservation} {action : AllowedAction}
    {label : Option String} {e : PlanningError} (h : elementOf text o action label = .error e) :
    Worded e := by
  unfold elementOf at h
  dsimp only at h
  split at h
  · cases h
    exact worded_failure (by decide) none
  · cases h

variable (text) in
/-- The action of an envelope uses the tool of its instruction. -/
theorem actionFor_cases (o : HybridDomObservation) (actionId : String)
    (instruction : Instruction) :
    (∃ action, actionFor text o actionId instruction = .ok action ∧
      action.tool = instruction.action) ∨
    ∃ e, actionFor text o actionId instruction = .error e ∧ Worded e := by
  unfold actionFor
  have helement : ∀ e, elementOf text o instruction.action instruction.label = .error e →
      Worded e := fun _ => elementOf_worded
  cases hfound : elementOf text o instruction.action instruction.label with
  | error e =>
    cases haction : instruction.action with
    | navigate =>
      cases requiredPage instruction with
      | none => exact .inr ⟨_, rfl, worded_failure (by decide) none⟩
      | some page => exact .inl ⟨_, rfl, rfl⟩
    | fill => exact .inr ⟨e, rfl, helement e hfound⟩
    | click => exact .inr ⟨e, rfl, helement e hfound⟩
    | read => exact .inr ⟨e, rfl, helement e hfound⟩
    | select | scroll | wait | finish | fail =>
      exact .inr ⟨_, rfl, worded_failure (by decide) none⟩
  | ok element =>
    cases haction : instruction.action with
    | navigate =>
      cases requiredPage instruction with
      | none => exact .inr ⟨_, rfl, worded_failure (by decide) none⟩
      | some page => exact .inl ⟨_, rfl, rfl⟩
    | fill => exact .inl ⟨_, rfl, rfl⟩
    | click => exact .inl ⟨_, rfl, rfl⟩
    | read => exact .inl ⟨_, rfl, rfl⟩
    | select | scroll | wait | finish | fail =>
      exact .inr ⟨_, rfl, worded_failure (by decide) none⟩

theorem actionFor_spec (h : Sound text request steps budget kept n m s)
    (o : HybridDomObservation) (actionId : String) (instruction : Instruction) :
    Ensures (orRaise (actionFor text o actionId instruction)) s
      (fun action t => t = s ∧ action.tool = instruction.action)
      (Failed text request steps budget) := by
  rcases actionFor_cases text o actionId instruction with
    ⟨action, hok, htool⟩ | ⟨e, herror, hworded⟩
  · rw [hok]
    exact ⟨rfl, htool⟩
  · rw [herror]
    exact h.failed hworded

theorem nextActionId_spec (h : Sound text request steps budget kept n m s) :
    Ensures nextActionId s
      (fun _ t => Sound text request steps budget kept n m t ∧ t.events = s.events)
      (Failed text request steps budget) :=
  ⟨{ h with }, rfl⟩

/-- The last thing that happened is a charge, which no action has used yet. -/
def Paid (events : List Event) : Prop :=
  performedIn events < chargedIn events ∧ ∃ before, events = before ++ [.charged]

theorem chargeAction_spec (h : Sound text request steps budget kept n m s) :
    Ensures chargeAction s
      (fun _ t => Sound text request steps budget kept n m t ∧ Paid t.events)
      (Failed text request steps budget) := by
  have hwithin : Within budget s.ledger.counters.workerActions s.ledger :=
    ⟨h.budget_eq, Nat.le_refl _⟩
  refine Ensures.bind (Ensures.of_zoom
    (((TotalBudgetLedger.chargeAction_within _ hwithin).and
      (TotalBudgetLedger.chargeAction_paid s.ledger)).mono ?_ ?_))
  · intro _ l hl
    have ⟨hledger, hcount, hlimit⟩ := hl
    rw [hledger.1] at hlimit
    -- the charge is counted, so the log may grow by one
    have hcharged : chargedIn (s.events ++ [.charged]) = chargedIn s.events + 1 := by
      simp [chargedIn, Event.isCharged]
    have hperformed : performedIn (s.events ++ [.charged]) = performedIn s.events := by
      simp [performedIn, Event.isPerformed]
    have hbefore := h.charged
    have hfewer := h.performed
    have hlogged := (h.charge hledger).log (e := .charged) trivial (fun h => by cases h)
      (fun h => by cases h)
      (by show chargedIn (s.events ++ [.charged]) ≤ l.counters.workerActions; omega)
      (by show chargedIn (s.events ++ [.charged]) ≤ budget.maxSteps; omega)
      (by
        show performedIn (s.events ++ [.charged]) ≤ chargedIn (s.events ++ [.charged])
        omega)
    refine ⟨hlogged.keeps fun e he => List.mem_append_left _ he, ?_, s.events, rfl⟩
    show performedIn (s.events ++ [.charged]) < chargedIn (s.events ++ [.charged])
    omega
  · intro e l hl
    exact (h.charge hl.1).failed (worded_budget e)

theorem execute_spec (h : Sound text request steps budget kept n m s) (hpaid : Paid s.events)
    (hcreated : Event.created ∈ kept) {step : Option PlanStep} {seen : HybridDomObservation}
    {action : DomAction}
    (hpermitted : Permitted text request.fakeScenario steps s.events seen action.tool step) :
    Ensures (execute browser step seen action) s
      (fun _ t => Sound text request steps budget kept n m t)
      (Failed text request steps budget) := by
  refine Ensures.bind (Ensures.of_get (Ensures.bind (Ensures.of_set ?_)))
  have hcharged : chargedIn (s.events ++ [.performed step seen action]) = chargedIn s.events := by
    simp [chargedIn, Event.isCharged]
  have hperformed : performedIn (s.events ++ [.performed step seen action]) =
      performedIn s.events + 1 := by
    simp [performedIn, Event.isPerformed]
  have hmore := hpaid.1
  have hlogged := h.log (e := .performed step seen action)
    ⟨⟨h.kept_mem _ hcreated, h.unclosed⟩, hpaid.2, hpermitted⟩
    (fun h => by cases h) (fun h => by cases h)
    (by rw [hcharged]; exact h.charged) (by rw [hcharged]; exact h.bounded)
    (by rw [hcharged, hperformed]; exact hmore)
  let t : ExecutorState :=
    { s with sent := s.sent + 1, events := s.events ++ [.performed step seen action] }
  have ht : Sound text request steps budget kept n m t :=
    { hlogged.keeps fun e he => List.mem_append_left _ he with }
  refine (fetch_spec (s := t) ht).mono ?_ fun _ _ hfailed => hfailed
  intro _ u hu
  rw [hu]
  exact ht

theorem toolOf_value (tool : AllowedAction) : toolOf tool.value = some tool := by
  cases tool <;> decide

theorem finish_allowed (o : HybridDomObservation) : AllowedAction.finish ∈ workerAllowed o :=
  List.mem_append_left _ (by decide)

/-- Every instruction adds one action at most. -/
theorem perform_spec {step : PlanStep} (hstep : step ∈ steps)
    (hstarted : Event.started step.stepId ∈ kept) (hcreated : Event.created ∈ kept)
    (selected : List Instruction) : ∀ (o : HybridDomObservation) (actionSuccess : Bool)
    (actionCount : Nat) (s : ExecutorState), Sound text request steps budget kept n m s →
      Ensures (perform text browser step selected o actionSuccess actionCount) s
        (fun r t => Sound text request steps budget kept n m t ∧
          r.2.2 ≤ actionCount + selected.length)
        (Failed text request steps budget) := by
  induction selected with
  | nil => exact fun o actionSuccess actionCount s h => ⟨h, Nat.le_refl _⟩
  | cons instruction rest ih =>
    intro o actionSuccess actionCount s h
    refine Ensures.bind ((orRaise_spec h fun _ => pageOf_worded).mono ?_ fun _ _ ht => ht)
    intro page t ⟨hsame, hpage⟩
    rw [hsame]
    have hmatch := matcher_spec step instruction.action.value page (workerAllowed o) s.ledger
      ⟨h.budget_eq, Nat.le_refl _⟩
    refine Ensures.bind ((charging_spec h hmatch).mono ?_ fun _ _ ht => ht)
    intro r t ⟨ht, hmatches⟩
    cases r with
    | rejected reason => exact ht.failed (worded_failure (by decide) _)
    | matched tool =>
      have ⟨htool, hallows⟩ := hmatches tool rfl
      rw [toolOf_value] at htool
      rw [← Option.some.inj htool] at hallows
      refine Ensures.bind ((nextActionId_spec ht).mono ?_ fun _ _ hu => hu)
      intro actionId u ⟨hu, _⟩
      refine Ensures.bind ((actionFor_spec hu o actionId instruction).mono ?_ fun _ _ hv => hv)
      intro action v ⟨hsame, htool⟩
      rw [hsame]
      refine Ensures.bind ((chargeAction_spec hu).mono ?_ fun _ _ hv => hv)
      intro _ v ⟨hv, hpaid⟩
      rw [← htool] at hallows
      have hpermitted : Permitted text request.fakeScenario steps v.events o action.tool
          (some step) := ⟨hstep, hv.kept_mem _ hstarted, page, hpage, hallows⟩
      refine Ensures.bind ((execute_spec hv hpaid hcreated hpermitted).mono ?_ fun _ _ hw => hw)
      intro result w hw
      cases hresult : result.observation with
      | none => exact hw.failed (worded_failure (by decide) none)
      | some o' =>
        refine Ensures.bind ((charging_sound hw fun _ =>
          TotalBudgetLedger.chargeDomObservation_within _).mono ?_ fun _ _ hx => hx)
        intro _ x hx
        have hlength : actionCount + (instruction :: rest).length =
            actionCount + 1 + rest.length := by
          rw [List.length_cons]
          omega
        rw [hlength]
        by_cases hsuccess : result.success = true
        · rw [if_pos hsuccess]
          exact ih o' true (actionCount + 1) x hx
        · rw [if_neg hsuccess]
          exact ⟨hx, Nat.le_add_right _ _⟩

theorem instructions_length {step : PlanStep} {values : SuppliedValues}
    {selected : List Instruction} (h : instructions step values = some selected) :
    selected.length ≤ 7 := by
  unfold instructions at h
  dsimp only at h
  -- a list of the table, or one with a field and a button
  split at h
  all_goals first
    | rw [← Option.some.inj h]
      simp
    | have ⟨_, _, hlist⟩ := Option.map_eq_some_iff.mp h
      rw [← hlist]
      simp
    | cases h

/-- A step performs at most as many actions as it has instructions. -/
theorem executeOperation_spec {step : PlanStep} (hstep : step ∈ steps)
    (hstarted : Event.started step.stepId ∈ kept) (hcreated : Event.created ∈ kept)
    (o : HybridDomObservation) (h : Sound text request steps budget kept n m s) :
    Ensures (executeOperation text browser request step o) s
      (fun r t => Sound text request steps budget kept n m t ∧ r.2.2 ≤ 24)
      (Failed text request steps budget) := by
  unfold executeOperation
  cases hselected : instructions step request.suppliedValues with
  | none => exact h.failed (worded_failure (by decide) none)
  | some selected =>
    have hlength := instructions_length hselected
    refine (perform_spec hstep hstarted hcreated selected o false 0 s h).mono ?_ fun _ _ ht => ht
    intro r t ⟨ht, hcount⟩
    refine ⟨ht, ?_⟩
    omega

/-! ## The steps -/

/-- The text of a blocked step. -/
def Explained (e : MachineError) : Prop :=
  ∀ message, e = .dependencyBlocked message → message ≠ ""

theorem explained_text {message : String} (h : message ≠ "") :
    Explained (.dependencyBlocked message) := by
  intro _ heq
  cases heq
  exact h

theorem lookup_explained (id : StepId) (machine : StepStateMachine) :
    Ensures (StepStateMachine.lookup id) machine (fun _ _ => True) fun e _ => Explained e := by
  unfold Ensures
  cases hstate : machine.states id with
  | none =>
    rw [lookup_none hstate]
    exact fun _ h => by cases h
  | some value =>
    rw [lookup_some hstate]
    trivial

theorem anyUnverified_explained (l : List StepId) (machine : StepStateMachine) :
    Ensures (StepStateMachine.anyUnverified l) machine (fun _ _ => True)
      fun e _ => Explained e := by
  unfold Ensures
  rcases anyUnverified_eq (m := machine) l with ⟨hrun, _⟩ | ⟨hrun | hrun, _⟩
  · rw [hrun]
    trivial
  · rw [hrun]
    trivial
  · rw [hrun]
    exact fun _ h => by cases h

theorem start_explained (id : StepId) (machine : StepStateMachine) :
    Ensures (StepStateMachine.start id) machine (fun _ _ => True) fun e _ => Explained e := by
  unfold StepStateMachine.start
  refine Ensures.bind (Ensures.of_get ?_)
  cases machine.steps id with
  | none => exact explained_text (by decide)
  | some step =>
    refine Ensures.bind ((lookup_explained id machine).mono ?_ fun _ _ h => h)
    intro value t _
    by_cases hpending : value ≠ .pending
    · rw [if_pos hpending]
      exact explained_text (by decide)
    · rw [if_neg hpending]
      refine Ensures.bind ((anyUnverified_explained step.dependencies t).mono ?_ fun _ _ h => h)
      intro unverified u _
      by_cases hunverified : unverified = true
      · rw [if_pos hunverified]
        exact explained_text (by decide)
      · rw [if_neg hunverified]
        trivial

/-- A step that starts has its dependencies verified. -/
theorem tryStart_spec (id : StepId) (h : Sound text request steps budget kept n m s) :
    Ensures (tryStart id) s
      (fun r t => match r with
        | none => Sound text request steps budget (kept ++ [.started id]) n m t
        | some message => Sound text request steps budget kept n m t ∧ message ≠ "")
      (Failed text request steps budget) := by
  unfold Ensures tryStart
  rcases start_cases id s.machine with ⟨own, hown, hpending, hdeps, hrun⟩ | ⟨⟨e, hrun⟩, _⟩
  · rw [hrun]
    have hproper : Proper text request.fakeScenario steps s.events (.started id) := by
      intro step hstep hid d hd
      rw [h.machine id own hown step hstep hid] at hd
      exact h.verified d (hdeps d hd)
    have hcharged : chargedIn (s.events ++ [.started id]) = chargedIn s.events := by
      simp [chargedIn, Event.isCharged]
    have hperformed : performedIn (s.events ++ [.started id]) = performedIn s.events := by
      simp [performedIn, Event.isPerformed]
    have hlogged := h.log hproper (fun h => by cases h) (fun h => by cases h)
      (by rw [hcharged]; exact h.charged) (by rw [hcharged]; exact h.bounded)
      (by rw [hcharged, hperformed]; exact h.performed)
    refine { hlogged with machine := h.machine, verified := ?_ }
    intro other hother
    by_cases hsame : other = id
    · rw [hsame] at hother
      have hself : (s.machine.write id .executing).states id = some .executing :=
        Function.update_self _ _ _
      have hboth := hself.symm.trans hother
      cases hboth
    · have hold : (s.machine.write id .executing).states other = s.machine.states other :=
        Function.update_of_ne hsame _ _
      exact hlogged.verified other (hold.symm.trans hother)
  · have hexplained := (start_explained id s.machine).error hrun
    rw [hrun]
    cases e with
    | dependencyBlocked message => exact ⟨{ h with }, hexplained message rfl⟩
    | valueError message =>
      have hsame : Sound text request steps budget kept n m { s with machine := s.machine } := h
      exact hsame.failed worded_other
    | keyError =>
      have hsame : Sound text request steps budget kept n m { s with machine := s.machine } := h
      exact hsame.failed worded_other

/-! ## Results -/

/-- The result fits its schema and has the counters of the ledger. -/
structure Reports (s : ExecutorState) (result : PlanningRunResult) : Prop where
  reason : 1 ≤ result.terminalReason.length ∧ result.terminalReason.length ≤ 300
  topology : result.topology.length ≤ 16
  results : result.stepResults.length ≤ 16
  actionCount : ∀ r ∈ result.stepResults, r.actionCount ≤ 24
  rejections : result.toolRejectionReasons.length ≤ 16
  counters : result.usage.toCounters = s.ledger.counters

theorem truncated_length {reason : String} (h : reason ≠ "") :
    1 ≤ (truncated reason).length ∧ (truncated reason).length ≤ 300 := by
  have hlength : (truncated reason).length = min 300 reason.toList.length := by
    unfold truncated
    rw [String.length_ofList, List.length_take]
  have hpositive : 0 < reason.toList.length := by
    rw [List.length_pos_iff]
    intro hempty
    exact h (String.toList_eq_nil_iff.mp hempty)
  omega

theorem conclude_spec {status : PlanningRunStatus} {reason : String} (hreason : reason ≠ "")
    (h : Behaved text request steps budget s) (htopology : s.topology.length ≤ 16)
    (hresults : s.stepResults.length ≤ 16) (hcount : ∀ r ∈ s.stepResults, r.actionCount ≤ 24)
    (hrejections : s.rejectionReasons.length ≤ 16) (E : PlanningError → ExecutorState → Prop) :
    Ensures (conclude request status reason) s
      (fun result t => Behaved text request steps budget t ∧ Reports t result) E :=
  ⟨{ h with }, truncated_length hreason, htopology, hresults, hcount, hrejections, rfl⟩

theorem Sound.concludes (h : Sound text request steps budget kept n m s)
    {status : PlanningRunStatus} {reason : String} (hreason : reason ≠ "") :
    Ensures (conclude request status reason) s
      (fun result t => Behaved text request steps budget t ∧ Reports t result)
      (Failed text request steps budget) := by
  have hlimits := h.limits
  have hresults := h.results_length
  have hrejections := h.rejections_length
  refine conclude_spec hreason h.toBehaved h.topology_length ?_ h.actionCount ?_ _
  · omega
  · omega

theorem Sound.addResult (h : Sound text request steps budget kept n m s) (hroom : n < 16)
    {r : StepExecutionResult} (hr : r.actionCount ≤ 24) :
    Sound text request steps budget kept (n + 1) m
      { s with stepResults := s.stepResults ++ [r] } :=
  { h with
    actionCount := by
      intro r' hr'
      rw [List.mem_append, List.mem_singleton] at hr'
      rcases hr' with hold | hnew
      · exact h.actionCount r' hold
      · rw [hnew]
        exact hr
    results_length := by
      rw [List.length_append]
      exact Nat.succ_le_succ h.results_length
    limits := ⟨hroom, h.limits.2⟩ }

theorem Sound.addRejection (h : Sound text request steps budget kept n m s) (hroom : m < 2)
    (reason : ToolRejectionReason) :
    Sound text request steps budget kept n (m + 1)
      { s with rejectionReasons := s.rejectionReasons ++ [reason] } :=
  { h with
    rejections_length := by
      rw [List.length_append]
      exact Nat.succ_le_succ h.rejections_length
    limits := ⟨h.limits.1, hroom⟩ }

theorem blocked_spec (h : Sound text request steps budget kept n m s) (hroom : n < 16)
    (id : StepId) {message : String} (hmessage : message ≠ "") :
    Ensures (blocked request id message) s
      (fun result t => Behaved text request steps budget t ∧ Reports t result)
      (Failed text request steps budget) := by
  refine Ensures.bind ((charging_sound h fun _ =>
    TotalBudgetLedger.chargeStep_within true).mono ?_ fun _ _ ht => ht)
  intro _ t ht
  refine Ensures.bind (Ensures.of_modify ?_)
  exact (ht.addResult hroom (Nat.zero_le _)).concludes hmessage

theorem probeObservation_spec (probe : Bool) (o : HybridDomObservation)
    (h : Sound text request steps budget kept n m s) :
    Ensures (probeObservation browser probe o) s
      (fun _ t => Sound text request steps budget kept n m t)
      (Failed text request steps budget) := by
  unfold probeObservation
  by_cases hprobe : probe = true
  · rw [if_pos hprobe]
    refine Ensures.bind ((fetch_spec h).mono ?_ fun _ _ ht => ht)
    intro o' t hsame
    rw [hsame]
    refine Ensures.bind ((charging_sound h fun _ =>
      TotalBudgetLedger.chargeDomObservation_within _).mono ?_ fun _ _ ht => ht)
    exact fun _ _ ht => ht
  · rw [if_neg hprobe]
    exact h

theorem terminate_spec {id : StepId} {target : StepState}
    (h : Sound text request steps budget kept n m s) :
    Ensures (onMachine (StepStateMachine.terminate id target)) s
      (fun _ t => Sound text request steps budget kept n m t)
      (Failed text request steps budget) := by
  refine Ensures.of_zoom ?_
  unfold Ensures
  rcases terminate_cases id target s.machine with ⟨htarget, _, hrun⟩ | ⟨e, hrun⟩
  · rw [hrun]
    refine { h with verified := ?_ }
    intro other hother
    by_cases hsame : other = id
    · rw [hsame] at hother
      have hself : (s.machine.write id target).states id = some target :=
        Function.update_self _ _ _
      rw [Option.some.inj (hself.symm.trans hother)] at htarget
      exact absurd htarget (by decide)
    · have hold : (s.machine.write id target).states other = s.machine.states other :=
        Function.update_of_ne hsame _ _
      exact h.verified other (hold.symm.trans hother)
  · rw [hrun]
    have hsame : Sound text request steps budget kept n m { s with machine := s.machine } := h
    exact hsame.failed worded_other

theorem unverified_spec (h : Sound text request steps budget kept n m s) (hroom : n < 16)
    (step : PlanStep) {actionCount : Nat} (hcount : actionCount ≤ 24)
    (verification : VerifierResult) :
    Ensures (unverified request step actionCount verification) s
      (fun result t => Behaved text request steps budget t ∧ Reports t result)
      (Failed text request steps budget) := by
  refine Ensures.bind ((terminate_spec h).mono ?_ fun _ _ ht => ht)
  intro _ t ht
  refine Ensures.bind ((charging_sound ht fun _ =>
    TotalBudgetLedger.chargeStep_within true).mono ?_ fun _ _ hu => hu)
  intro _ u hu
  refine Ensures.bind (Ensures.of_modify ?_)
  exact (hu.addResult hroom hcount).concludes (by decide)

theorem verify_spec {id : StepId} (h : Sound text request steps budget kept n m s) :
    Ensures (onMachine (StepStateMachine.verify id)) s
      (fun _ t => t = { s with machine := s.machine.write id .verified })
      (Failed text request steps budget) := by
  refine Ensures.of_zoom ?_
  unfold Ensures
  rcases verify_cases id s.machine with ⟨_, hrun⟩ | ⟨_, e, hrun⟩
  · rw [hrun]
  · rw [hrun]
    have hsame : Sound text request steps budget kept n m { s with machine := s.machine } := h
    exact hsame.failed worded_other

/-- A step that started is verified, and its result is added. -/
theorem markVerified_spec (h : Sound text request steps budget kept n m s) (hroom : n < 16)
    {step : PlanStep} (hstarted : Event.started step.stepId ∈ kept) {actionCount : Nat}
    (hcount : actionCount ≤ 24) (verification : VerifierResult) :
    Ensures (markVerified step actionCount verification) s
      (fun _ t => Sound text request steps budget kept (n + 1) m t)
      (Failed text request steps budget) := by
  refine Ensures.bind ((verify_spec h).mono ?_ fun _ _ ht => ht)
  intro _ t hsame
  rw [hsame]
  refine Ensures.bind (Ensures.of_modify ?_)
  refine Ensures.of_modify ?_
  have hcharged : chargedIn (s.events ++ [.verified step.stepId]) = chargedIn s.events := by
    simp [chargedIn, Event.isCharged]
  have hperformed : performedIn (s.events ++ [.verified step.stepId]) =
      performedIn s.events := by
    simp [performedIn, Event.isPerformed]
  have hlogged := h.log (e := .verified step.stepId) (h.kept_mem _ hstarted)
    (fun h => by cases h) (fun h => by cases h)
    (by rw [hcharged]; exact h.charged) (by rw [hcharged]; exact h.bounded)
    (by rw [hcharged, hperformed]; exact h.performed)
  -- the step that is verified now is in the log
  have hmoved : Sound text request steps budget (kept ++ [.verified step.stepId]) n m
      { s with
        machine := s.machine.write step.stepId .verified
        events := s.events ++ [.verified step.stepId] } := by
    refine { hlogged with machine := h.machine, verified := ?_ }
    intro other hother
    by_cases hsame : other = step.stepId
    · rw [hsame]
      exact List.mem_append_right _ (List.mem_singleton.mpr rfl)
    · have hold : (s.machine.write step.stepId .verified).states other =
          s.machine.states other := Function.update_of_ne hsame _ _
      exact hlogged.verified other (hold.symm.trans hother)
  exact (hmoved.addResult hroom hcount).keeps fun e he => List.mem_append_left _ he

theorem stepById_mem {dag : PlanningDag} {id : StepId} {step : PlanStep}
    (h : Recovering.stepById dag id = some step) : step ∈ dag.steps ∧ step.stepId = id := by
  have hfound : dag.steps.find? (fun step => step.stepId = id) = some step := h
  have hid := List.find?_some hfound
  rw [decide_eq_true_eq] at hid
  exact ⟨List.mem_of_find?_eq_some hfound, hid⟩

variable (text request steps budget) in
/-- What the loop over the topology leaves: a result, or all its steps started. -/
def Stepped (kept : List Event) (n m : Nat) (r : PlanningRunResult ⊕ HybridDomObservation)
    (t : ExecutorState) : Prop :=
  match r with
  | .inl result => Behaved text request steps budget t ∧ Reports t result
  | .inr _ => Sound text request steps budget kept n m t

theorem runSteps_spec {dag : PlanningDag} (ids : List StepId) :
    ∀ (kept : List Event) (n : Nat) (probe : Bool) (o : HybridDomObservation) (s : ExecutorState),
      Event.created ∈ kept → n + ids.length ≤ 16 →
      Sound text request dag.steps budget kept n m s →
      Ensures (runSteps text browser request dag ids probe o) s
        (fun r t => Stepped text request dag.steps budget (kept ++ ids.map .started)
          (n + ids.length) m r t)
        (Failed text request dag.steps budget) := by
  induction ids with
  | nil =>
    intro kept n probe o s _ _ h
    show Sound text request dag.steps budget (kept ++ []) n m s
    rw [List.append_nil]
    exact h
  | cons id rest ih =>
    intro kept n probe o s hcreated hroom h
    rw [List.length_cons] at hroom ⊢
    have hfree : n < 16 := by omega
    unfold runSteps
    cases hfound : Recovering.stepById dag id with
    | none => exact h.failed worded_other
    | some step =>
      have ⟨hstep, hid⟩ := stepById_mem hfound
      refine Ensures.bind ((tryStart_spec id h).mono ?_ fun _ _ ht => ht)
      intro r t ht
      cases r with
      | some message =>
        refine Ensures.bind ((blocked_spec ht.1 hfree id ht.2).mono ?_ fun _ _ hu => hu)
        exact fun _ _ hu => hu
      | none =>
        -- from here on the step has started
        have hstarted : Event.started step.stepId ∈ kept ++ [.started id] := by
          rw [hid]
          exact List.mem_append_right _ (List.mem_singleton.mpr rfl)
        have hopened : Event.created ∈ kept ++ [.started id] := List.mem_append_left _ hcreated
        refine Ensures.bind ((charging_sound ht fun _ =>
          TotalBudgetLedger.chargeStep_within false).mono ?_ fun _ _ hu => hu)
        intro _ u hu
        refine Ensures.bind ((executeOperation_spec hstep hstarted hopened o hu).mono ?_
          fun _ _ hv => hv)
        intro ⟨o', actionSuccess, actionCount⟩ v ⟨hv, hcount⟩
        refine Ensures.bind ((probeObservation_spec probe o' hv).mono ?_ fun _ _ hw => hw)
        intro o'' w hw
        refine Ensures.bind ((orRaise_spec hw fun _ => pageOf_worded).mono ?_ fun _ _ hx => hx)
        intro page x ⟨hsame, _⟩
        rw [hsame]
        refine Ensures.bind (Ensures.of_get ?_)
        refine Ensures.bind ((charging_sound hw fun _ => verify_within _ _).mono ?_
          fun _ _ hy => hy)
        intro verification y hy
        by_cases hverified : verification.status ≠ .verified
        · rw [if_pos hverified]
          refine Ensures.bind ((unverified_spec hy hfree step hcount verification).mono ?_
            fun _ _ hz => hz)
          exact fun _ _ hz => hz
        · rw [if_neg hverified]
          refine Ensures.bind ((markVerified_spec hy hfree hstarted hcount verification).mono ?_
            fun _ _ hz => hz)
          intro _ z hz
          have hrest := ih (kept ++ [.started id]) (n + 1) false o'' z hopened (by omega) hz
          rw [List.append_assoc, List.singleton_append, Nat.add_right_comm, Nat.add_assoc] at hrest
          exact hrest

/-! ## The run -/

theorem boundedFinish_spec {step : Option PlanStep} {o : HybridDomObservation}
    (hcreated : Event.created ∈ kept)
    (hpermitted : ∀ events, (∀ e ∈ kept, e ∈ events) →
      Permitted text request.fakeScenario steps events o .finish step)
    (h : Sound text request steps budget kept n m s) :
    Ensures (boundedFinish browser step o) s
      (fun _ t => Sound text request steps budget kept n m t)
      (Failed text request steps budget) := by
  have hfinish : Ensures (finish browser step o) s
      (fun _ t => Sound text request steps budget kept n m t)
      (Failed text request steps budget) := by
    refine Ensures.bind ((chargeAction_spec h).mono ?_ fun _ _ ht => ht)
    intro _ t ⟨ht, hpaid⟩
    refine Ensures.bind ((nextActionId_spec ht).mono ?_ fun _ _ hu => hu)
    intro actionId u ⟨hu, hevents⟩
    rw [← hevents] at hpaid
    exact execute_spec hu hpaid hcreated (hpermitted u.events hu.kept_mem)
  refine Ensures.bind (hfinish.mono ?_ fun _ _ ht => ht)
  intro r t ht
  by_cases hrefused : (!r.success || !r.terminal) = true
  · rw [if_pos hrefused]
    exact ht.failed (worded_failure (by decide) none)
  · rw [if_neg hrefused]
    exact ht

theorem stepAt_spec {dag : PlanningDag} (id : Option StepId)
    (h : Sound text request dag.steps budget kept n m s) :
    Ensures (stepAt dag id) s
      (fun step t => t = s ∧ step ∈ dag.steps ∧ id = some step.stepId)
      (Failed text request dag.steps budget) := by
  unfold stepAt
  cases id with
  | none => exact h.failed worded_other
  | some id =>
    rw [Option.bind_some]
    cases hfound : Recovering.stepById dag id with
    | none => exact h.failed worded_other
    | some step =>
      have ⟨hstep, hid⟩ := stepById_mem hfound
      rw [← hid]
      exact ⟨rfl, hstep, rfl⟩

theorem outOfOrderProbe_spec (topology : List StepId) (hroom : n < 16)
    (h : Sound text request steps budget kept n m s) :
    Ensures (outOfOrderProbe request topology) s
      (fun result t => Behaved text request steps budget t ∧ Reports t result)
      (Failed text request steps budget) := by
  unfold outOfOrderProbe
  cases topology[1]? with
  | none => exact h.failed worded_other
  | some id =>
    refine Ensures.bind ((tryStart_spec id h).mono ?_ fun _ _ ht => ht)
    intro r t ht
    cases r with
    | none => exact ht.failed (worded_failure (by decide) none)
    | some message => exact blocked_spec ht.1 hroom id ht.2

theorem toolProbe_spec {dag : PlanningDag} (topology : List StepId) (o : HybridDomObservation)
    (hroom : m < 2) (h : Sound text request dag.steps budget kept n m s) :
    Ensures (toolProbe text dag topology o) s
      (fun _ t => Sound text request dag.steps budget kept n (m + 1) t)
      (Failed text request dag.steps budget) := by
  refine Ensures.bind ((stepAt_spec _ h).mono ?_ fun _ _ ht => ht)
  intro first t ⟨hsame, _⟩
  rw [hsame]
  refine Ensures.bind ((orRaise_spec h fun _ => pageOf_worded).mono ?_ fun _ _ ht => ht)
  intro page t ⟨hsame, _⟩
  rw [hsame]
  have hmatch := matcher_spec first "shell" page globalTools s.ledger
    ⟨h.budget_eq, Nat.le_refl _⟩
  refine Ensures.bind ((charging_spec h hmatch).mono ?_ fun _ _ ht => ht)
  intro r t ⟨ht, _⟩
  cases r with
  | rejected reason => exact Ensures.of_modify (ht.addRejection hroom reason)
  | matched tool => exact ht.failed (worded_failure (by decide) none)

theorem finalFinish_spec {dag : PlanningDag} {topology : List StepId}
    (hcreated : Event.created ∈ kept) (hstarted : ∀ id ∈ topology, Event.started id ∈ kept)
    (o : HybridDomObservation) (hroom : m < 2)
    (h : Sound text request dag.steps budget kept n m s) :
    Ensures (finalFinish text browser request dag topology o) s
      (fun result t => Behaved text request dag.steps budget t ∧ Reports t result)
      (Failed text request dag.steps budget) := by
  refine Ensures.bind ((stepAt_spec _ h).mono ?_ fun _ _ ht => ht)
  intro final t ⟨hsame, hfinal, hlast⟩
  rw [hsame]
  refine Ensures.bind ((orRaise_spec h fun _ => pageOf_worded).mono ?_ fun _ _ ht => ht)
  intro page t ⟨hsame, hpage⟩
  rw [hsame]
  have hmatch := matcher_spec final "finish" page globalTools s.ledger
    ⟨h.budget_eq, Nat.le_refl _⟩
  refine Ensures.bind ((charging_spec h hmatch).mono ?_ fun _ _ ht => ht)
  intro r t ⟨ht, hmatches⟩
  cases r with
  | rejected reason =>
    refine Ensures.bind (Ensures.of_modify ?_)
    exact (ht.addRejection hroom reason).failed (worded_failure (by decide) _)
  | matched tool =>
    have ⟨htool, hallows⟩ := hmatches tool rfl
    have hfinish : toolOf "finish" = some .finish := by decide
    rw [← Option.some.inj (hfinish.symm.trans htool)] at hallows
    have hmem := List.mem_of_getLast? hlast
    refine Ensures.bind ((boundedFinish_spec hcreated ?_ ht).mono ?_ fun _ _ hu => hu)
    · intro events hevents
      exact ⟨hfinal, hevents _ (hstarted _ hmem), page, hpage, hallows.byStep, hallows.onPage,
        finish_allowed o⟩
    · intro _ u hu
      exact hu.concludes (by decide)

theorem Sound.initMachine {dag : PlanningDag} (hnodup : dag.ids.Nodup)
    (h : Sound text request dag.steps budget kept n m s) :
    Sound text request dag.steps budget kept n m { s with machine := .init dag } := by
  refine { h with machine := ?_, verified := ?_ }
  · intro id own hown step hstep hid
    have hbyId : dag.byId id = some own := hown
    rw [← hid, PlanningDag.byId_eq hnodup hstep] at hbyId
    exact Option.some.inj hbyId
  · intro id hid
    have hstate : (if id ∈ dag.ids then some StepState.pending else none) = some .verified := hid
    by_cases hmem : id ∈ dag.ids
    · rw [if_pos hmem] at hstate
      cases hstate
    · rw [if_neg hmem] at hstate
      cases hstate

theorem withSession_spec {dag : PlanningDag} {topology : List StepId} (hnodup : dag.ids.Nodup)
    (hlength : topology.length ≤ 16) (o : HybridDomObservation)
    (h : Sound text request dag.steps budget [.created] 0 0 s) :
    Ensures (withSession text browser request dag topology o) s
      (fun result t => Behaved text request dag.steps budget t ∧ Reports t result)
      (Failed text request dag.steps budget) := by
  refine Ensures.bind ((charging_sound h fun _ =>
    TotalBudgetLedger.chargeDomObservation_within _).mono ?_ fun _ _ ht => ht)
  intro _ t ht
  by_cases himmediately : request.fakeScenario = .finishImmediately
  · rw [if_pos himmediately]
    refine Ensures.bind ((boundedFinish_spec List.mem_cons_self ?_ ht).mono ?_ fun _ _ hu => hu)
    · exact fun _ _ => ⟨himmediately, rfl, finish_allowed o⟩
    · exact fun _ _ hu => hu.concludes (by decide)
  · rw [if_neg himmediately]
    refine Ensures.bind (Ensures.of_modify ?_)
    have hinit := ht.initMachine hnodup
    by_cases hprobe : request.fakeScenario = .outOfOrderProbe
    · rw [if_pos hprobe]
      exact outOfOrderProbe_spec topology (by decide) hinit
    · rw [if_neg hprobe]
      refine Ensures.bind ((toolProbe_spec topology o (by decide) hinit).mono ?_ fun _ _ hu => hu)
      intro _ u hu
      refine Ensures.bind ((runSteps_spec topology [.created] 0 true o u List.mem_cons_self
        (by omega) hu).mono ?_ fun _ _ hv => hv)
      intro r v hv
      cases r with
      | inl result => exact hv
      | inr o' =>
        refine finalFinish_spec List.mem_cons_self ?_ o' (by decide) hv
        intro id hid
        exact List.mem_append_right [Event.created] (List.mem_map_of_mem hid)

/-- Before there is a session. -/
theorem createSession_spec (hunopened : Event.created ∉ s.events)
    (h : Sound text request steps budget [] n m s) :
    Ensures (createSession browser) s
      (fun _ t => Sound text request steps budget [.created] n m t)
      (Failed text request steps budget) := by
  refine Ensures.bind ((fetch_spec h).mono ?_ fun _ _ ht => ht)
  intro ⟨sessionId, o⟩ t hsame
  rw [hsame]
  have hcharged : chargedIn (s.events ++ [.created]) = chargedIn s.events := by
    simp [chargedIn, Event.isCharged]
  have hperformed : performedIn (s.events ++ [.created]) = performedIn s.events := by
    simp [performedIn, Event.isPerformed]
  refine Ensures.bind (Ensures.of_modify ?_)
  exact
    { h with
      proper := h.proper.snoc hunopened
      charged := by
        show chargedIn (s.events ++ [.created]) ≤ _
        rw [hcharged]
        exact h.charged
      bounded := by
        show chargedIn (s.events ++ [.created]) ≤ _
        rw [hcharged]
        exact h.bounded
      performed := by
        show performedIn (s.events ++ [.created]) ≤ chargedIn (s.events ++ [.created])
        rw [hcharged, hperformed]
        exact h.performed
      session :=
        ⟨fun _ => List.mem_append_right _ List.mem_cons_self, fun _ => Option.some_ne_none _⟩
      unclosed := by
        rw [List.mem_append, List.mem_singleton, not_or]
        exact ⟨h.unclosed, fun h => by cases h⟩
      kept_mem := fun e he => List.mem_append_right _ he
      verified := fun id hid => List.mem_append_left _ (h.verified id hid) }

theorem budgetReason_value (reason : BudgetReason) : reason.value ≠ "" := by
  cases reason <;> decide

/-- A session that was created is closed once, last. -/
def Closed (events : List Event) : Prop :=
  (Event.created ∉ events ∧ Event.closed ∉ events) ∨
    ∃ before, events = before ++ [.closed] ∧ Open before

variable (text request steps budget) in
/-- What has happened when a run is over. -/
structure Finished (s : ExecutorState) : Prop where
  performed : performedIn s.events ≤ budget.maxSteps
  charged : performedIn s.events ≤ chargedIn s.events ∧
    chargedIn s.events ≤ s.ledger.counters.workerActions
  proper : Each (Proper text request.fakeScenario steps) s.events
  closed : Closed s.events

variable (browser) in
/-- The session is closed whether the call returns, raises or is cancelled. -/
theorem closeSession_spec (h : Behaved text request steps budget s) :
    Ensures (closeSession browser) s
      (fun _ t => Finished text request steps budget t ∧
        t.ledger.counters = s.ledger.counters)
      fun e t => e = .cancelled ∧ Finished text request steps budget t := by
  have hlimit := Nat.le_trans h.performed h.bounded
  refine Ensures.bind (Ensures.of_get ?_)
  cases hsession : s.sessionId with
  | none =>
    have hunopened : Event.created ∉ s.events := fun hmem => h.session.mpr hmem hsession
    exact ⟨⟨hlimit, ⟨h.performed, h.charged⟩, h.proper, .inl ⟨hunopened, h.unclosed⟩⟩, rfl⟩
  | some id =>
    have hopened : Open s.events := by
      refine ⟨h.session.mp ?_, h.unclosed⟩
      rw [hsession]
      exact Option.some_ne_none id
    have hcharged : chargedIn (s.events ++ [.closed]) = chargedIn s.events := by
      simp [chargedIn, Event.isCharged]
    have hperformed : performedIn (s.events ++ [.closed]) = performedIn s.events := by
      simp [performedIn, Event.isPerformed]
    have hfinished : Finished text request steps budget
        { s with events := s.events ++ [.closed] } := by
      refine ⟨?_, ⟨?_, ?_⟩, h.proper.snoc hopened, .inr ⟨s.events, rfl, hopened⟩⟩
      · show performedIn (s.events ++ [.closed]) ≤ _
        rw [hperformed]
        exact hlimit
      · show performedIn (s.events ++ [.closed]) ≤ chargedIn (s.events ++ [.closed])
        rw [hperformed, hcharged]
        exact h.performed
      · show chargedIn (s.events ++ [.closed]) ≤ _
        rw [hcharged]
        exact h.charged
    refine Ensures.bind (Ensures.of_modify ?_)
    cases browser.close with
    | answered _ => exact ⟨hfinished, rfl⟩
    | raised => exact ⟨hfinished, rfl⟩
    | cancelled => exact ⟨rfl, hfinished⟩

section

variable [Sha256]

/-- The steps of the plan, if the planner made one. -/
def planSteps (plan : Option PlanningDag) : List PlanStep := plan.elim [] PlanningDag.steps

theorem body_spec {plan : Option PlanningDag} (hunopened : Event.created ∉ s.events)
    (h : Sound text request (planSteps plan) budget [] 0 0 s) :
    Ensures (body text browser request plan) s
      (fun result t => Behaved text request (planSteps plan) budget t ∧ Reports t result)
      (Failed text request (planSteps plan) budget) := by
  cases plan with
  | none => exact h.failed worded_other
  | some dag =>
    unfold body
    dsimp only
    cases hvalidation : validateDag dag with
    | none => exact h.failed worded_other
    | some validation =>
      dsimp only
      by_cases hinvalid : validation.valid = false ∨ validation.planId = none
      · rw [if_pos hinvalid]
        exact h.concludes (by decide)
      · rw [if_neg hinvalid]
        rw [not_or, Bool.not_eq_false] at hinvalid
        have hformed := validateDag_valid.mp ⟨validation, hvalidation, hinvalid.1⟩
        have ⟨htopology, _, _⟩ := validateDag_reports hformed hvalidation
        have hlength : validation.topology.length ≤ 16 := by
          rw [htopology, (PlanningDag.topology_perm hformed.named hformed.acyclic).length_eq]
          have hnodes := hformed.nodes
          unfold PlanningDag.ids
          rw [List.length_map]
          exact hnodes
        refine Ensures.bind (Ensures.of_modify ?_)
        have hplanned : Sound text request dag.steps budget [] 0 0
            { s with planId := validation.planId, topology := validation.topology } :=
          { h with topology_length := hlength }
        have hcharge := charging_sound (x := TotalBudgetLedger.chargePlan validation.nodeCount
          validation.edgeCount validation.depth validation.serializedBytes) hplanned fun _ =>
            TotalBudgetLedger.chargePlan_within _ _ _ _
        refine Ensures.bind ((hcharge.and (charging_events _ _)).mono ?_ fun _ _ ht => ht.1)
        intro _ t ⟨ht, hevents⟩
        have hunopened' : Event.created ∉ t.events := by
          rw [hevents]
          exact hunopened
        refine Ensures.bind ((createSession_spec hunopened' ht).mono ?_ fun _ _ hu => hu)
        exact fun o u hu => withSession_spec hformed.named.nodup hlength o hu

/-- Only a cancellation is raised again. -/
theorem handled_spec {plan : Option PlanningDag} (hunopened : Event.created ∉ s.events)
    (h : Sound text request (planSteps plan) budget [] 0 0 s) :
    Ensures (handled text browser request plan) s
      (fun result t => Behaved text request (planSteps plan) budget t ∧ Reports t result)
      fun e t => e = .cancelled ∧ Behaved text request (planSteps plan) budget t := by
  refine Ensures.of_tryCatch ((body_spec hunopened h).mono (fun _ _ ht => ht) ?_)
  intro e t ⟨ht, hworded⟩
  have hconclude : ∀ status reason, reason ≠ "" →
      Ensures (conclude request status reason) t
        (fun result t => Behaved text request (planSteps plan) budget t ∧ Reports t result)
        fun e t => e = .cancelled ∧ Behaved text request (planSteps plan) budget t :=
    fun status reason hreason => conclude_spec hreason ht.toBehaved ht.topology_length
      ht.results_length ht.actionCount (Nat.le_trans ht.rejections_length (by decide)) _
  cases e with
  | budgetExceeded reason => exact hconclude _ _ (budgetReason_value reason)
  | executionFailure reason rejection =>
    have hreason := hworded reason rejection rfl
    cases rejection with
    | none => exact hconclude _ _ hreason
    | some rejection =>
      refine Ensures.bind (Ensures.of_modify ?_)
      refine conclude_spec (s := { t with rejectionReasons := t.rejectionReasons ++ [rejection] })
        hreason { ht.toBehaved with } ht.topology_length ht.results_length ht.actionCount ?_ _
      rw [List.length_append]
      exact Nat.le_trans (Nat.succ_le_succ ht.rejections_length) (by decide)
  | cancelled => exact ⟨rfl, ht.toBehaved⟩
  | httpError => exact hconclude _ _ (by decide)
  | other => exact hconclude _ _ (by decide)

/-- Whatever the plan, the budget, the scenario and the browser: at most `max_steps` actions, each
right after its charge and allowed; steps start after their dependencies; the session is closed
once, last; a returned result fits its schema and counts what the ledger counts. -/
theorem planning_run_safe (text : TextFunctions) (browser : BrowserScript)
    (request : PlanningRunRequest) (plan : Option PlanningDag) (ledger : TotalBudgetLedger)
    (number : Nat) :
    Ensures (run text browser request plan) { ledger := ledger, actionNumber := number }
      (fun result t =>
        Finished text request (planSteps plan) ledger.budget t ∧ Reports t result)
      fun e t => e = .cancelled ∧ Finished text request (planSteps plan) ledger.budget t := by
  let s : ExecutorState := { ledger := ledger, actionNumber := number }
  have hinit : Sound text request (planSteps plan) ledger.budget [] 0 0 s := by
    refine
      { budget_eq := rfl
        proper := Each.nil
        charged := Nat.zero_le _
        bounded := Nat.zero_le _
        performed := Nat.le_refl _
        session := ?_
        unclosed := List.not_mem_nil
        kept_mem := ?_
        topology_length := Nat.zero_le _
        actionCount := ?_
        results_length := Nat.le_refl _
        rejections_length := Nat.le_refl _
        limits := ⟨Nat.zero_le _, Nat.zero_le _⟩
        machine := ?_
        verified := ?_ }
    · exact ⟨fun h => absurd rfl h, fun h => absurd h List.not_mem_nil⟩
    · exact fun e he => absurd he List.not_mem_nil
    · exact fun r hr => absurd hr List.not_mem_nil
    · intro id own hown
      cases hown
    · intro id hid
      cases hid
  have hhandled : Ensures (handled text browser request plan) s _ _ :=
    handled_spec List.not_mem_nil hinit
  unfold Ensures run
  cases hrun : handled text browser request plan s with
  | ok result t =>
    have ⟨ht, hreports⟩ := hhandled.ok hrun
    have hclose := closeSession_spec browser ht
    dsimp only
    cases hended : closeSession browser t with
    | ok _ u =>
      have ⟨hfinished, hcounters⟩ := hclose.ok hended
      exact ⟨hfinished, { hreports with counters := hreports.counters.trans hcounters.symm }⟩
    | error e u => exact hclose.error hended
  | error e t =>
    have ⟨hcancelled, ht⟩ := hhandled.error hrun
    have hclose := closeSession_spec browser ht
    dsimp only
    cases hended : closeSession browser t with
    | ok _ u => exact ⟨hcancelled, (hclose.ok hended).1⟩
    | error e' u => exact hclose.error hended

end

/-! ## The scenario that only finishes -/

section

attribute [local instance] polynomialSha256

/-- A plan whose step cannot finish. -/
def inspectPlan : PlanningDag where
  process := .leaver
  category := .leaver
  steps := [inspectStep]

def hrisPage : HybridDomObservation where
  sessionId := "bw_0123456789abcdef"
  generation := 1
  observationId := "obs_01234567"
  currentUrl := "/hris"
  interactiveElements := []
  domObservationBytes := 512
  generation_range := firstGeneration_range

/-- A worker that takes the finish. -/
def finishing : BrowserScript where
  create := .answered ("bw_0123456789abcdef", hrisPage)
  actions _ := .answered ⟨true, true, none, rfl⟩
  observe := .raised
  close := .answered ()

def finishRequest : PlanningRunRequest where
  runId := "run_01234567"
  taskId := "w7-jml-leaver-001-v1"
  suppliedValues := .leaver sampleLeaver
  fakeScenario := .finishImmediately

def paths : TextFunctions where
  urlPath := some
  folded name := name

/-- An action for no step, with a tool that no step allows. -/
def Event.isForeign (steps : List PlanStep) : Event → Bool
  | .performed none _ action => steps.all fun step => decide (action.tool ∉ step.allowedActions)
  | _ => false

theorem isForeign_performed {e : Event} (h : e.isForeign steps = true) :
    ∃ seen action, e = .performed none seen action ∧
      ∀ step ∈ steps, action.tool ∉ step.allowedActions := by
  unfold Event.isForeign at h
  split at h
  · refine ⟨_, _, rfl, fun step hstep => ?_⟩
    exact of_decide_eq_true (List.all_eq_true.mp h step hstep)
  · cases h

/-- The run returns, and has performed an action for no step. -/
def returnsForeign (steps : List PlanStep) : EStateM.Result PlanningError ExecutorState PlanningRunResult → Bool
  | .ok _ s => s.events.any (Event.isForeign steps)
  | .error _ _ => false

theorem returnsForeign_ok {outcome : EStateM.Result PlanningError ExecutorState PlanningRunResult}
    (h : returnsForeign steps outcome = true) :
    ∃ result s, outcome = .ok result s ∧ ∃ seen action, Event.performed none seen action ∈ s.events ∧
      ∀ step ∈ steps, action.tool ∉ step.allowedActions := by
  cases outcome with
  | error e s => cases h
  | ok result s =>
    obtain ⟨e, hmem, he⟩ := List.any_eq_true.mp h
    obtain ⟨seen, action, rfl, htool⟩ := isForeign_performed he
    exact ⟨result, s, rfl, seen, action, hmem, htool⟩

/-- The plan is valid, and the run finishes though no step of the plan allows it. -/
theorem finish_without_step :
    inspectPlan.WellFormed ∧ ∃ result s,
      run paths finishing finishRequest (some inspectPlan)
        { ledger := .init {} fun _ => 0 } = .ok result s ∧
      ∃ seen action, Event.performed none seen action ∈ s.events ∧
        ∀ step ∈ inspectPlan.steps, action.tool ∉ step.allowedActions := by
  refine ⟨PlanningDag.reasonCodes_nil.mp (by decide +kernel), ?_⟩
  exact returnsForeign_ok (by decide +kernel)

/-! ## A plan of two steps -/

def recordPage : HybridDomObservation :=
  { hrisPage with interactiveElements := [⟨"ref_record01", "Employee record", false, [.read]⟩] }

/-- A worker that takes a navigation and a reading for each step, and the finish after them. -/
def obliging : BrowserScript where
  create := .answered ("bw_0123456789abcdef", recordPage)
  actions n :=
    if n < 4 then .answered ⟨true, false, some recordPage, rfl⟩ else .answered ⟨true, true, none, rfl⟩
  observe := .answered recordPage
  close := .answered ()

def probingRequest : PlanningRunRequest :=
  { finishRequest with fakeScenario := .completeWithRejectionProbe }

/-- The run returns, and has performed so many actions. -/
def finishesAfter (actions : Nat) :
    EStateM.Result PlanningError ExecutorState PlanningRunResult → Bool
  | .ok result s =>
    decide (result.status = .finishedUngraded ∧ performedIn s.events = actions)
  | .error _ _ => false

theorem finishesAfter_ok {actions : Nat}
    {outcome : EStateM.Result PlanningError ExecutorState PlanningRunResult}
    (h : finishesAfter actions outcome = true) :
    ∃ result t, outcome = .ok result t ∧ result.status = .finishedUngraded ∧
      performedIn t.events = actions := by
  cases outcome with
  | ok result t => exact ⟨result, t, rfl, of_decide_eq_true h⟩
  | error e t => cases h

/-- The five actions of a run that verifies both steps. -/
theorem planning_run_safe_shortPlan :
    ∃ result t,
      run paths obliging probingRequest (some shortPlan) { ledger := .init {} fun _ => 0 } =
        .ok result t ∧
      result.status = .finishedUngraded ∧ performedIn t.events = 5 ∧
      Finished paths probingRequest shortPlan.steps {} t ∧ Reports t result := by
  have hsafe : ∀ plan ledger result t,
      run paths obliging probingRequest plan { ledger := ledger } = .ok result t →
        Finished paths probingRequest (planSteps plan) ledger.budget t ∧ Reports t result := by
    intro plan ledger result t hrun
    exact (planning_run_safe paths obliging probingRequest plan ledger 0).ok hrun
  have ⟨result, t, hrun, hstatus, hperformed⟩ :
      ∃ result t, run paths obliging probingRequest (some shortPlan)
          { ledger := .init {} fun _ => 0 } = .ok result t ∧
        result.status = .finishedUngraded ∧ performedIn t.events = 5 :=
    finishesAfter_ok (by decide +kernel)
  exact ⟨result, t, hrun, hstatus, hperformed, hsafe (some shortPlan) _ result t hrun⟩

end

end Executor

end FlowPilot.Planning
