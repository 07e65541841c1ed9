import FlowPilot.Browser.Runtime

/-!
# An agent's session

An agent sends one request after the other and waits for each answer, so on its session the
handlers run one at a time.  What the page, the clock of the worker and the network do to a request
comes from outside.
-/

open FlowPilot.Browser

namespace FlowPilot.Agents

/-- What the agent's client makes of the answer. -/
inductive Delivery where
  | delivered
  /-- The client raises: no connection, a timeout, or an answer that does not validate. -/
  | failed
  | cancelled
  deriving DecidableEq, Repr

/-- One request from outside; `ω` is what an agent reads in an observation. -/
structure Visit (ω : Type) where
  now : Time
  /-- The session has expired. -/
  gone : Bool := false
  dispatch : DispatchOutcome := .done
  /-- The outcomes of the handler's observations, in turn. -/
  observations : List ObserveOutcome := []
  message : String := ""
  view : ω
  delivery : Delivery := .delivered

variable {ω : Type}

/-- The handler goes on to its answer.  One that still waits for an observation has none. -/
def conclude (endpoint : Mode) (a : Action) :
    Session → Handler → List ObserveOutcome → Session × Reply
  | s, .observe success category guarded, o :: rest =>
    conclude endpoint a (s.afterOutcome o) (afterObserve endpoint a success category guarded o) rest
  | s, .close after, _ => (s.close, after)
  | s, .answer reply, _ => (s, reply)
  | s, _, _ => (s, .raised)

/-- The action endpoint of a mode. -/
def respond (limits : Limits) (s : Session) (endpoint : Mode) (r : ActionRequest)
    (v : Visit ω) : Session × Reply :=
  if v.gone ∨ s.closed ∨ s.mode ≠ endpoint then (s, .unknownSession)
  else
    match State.begin limits v.now s (.action endpoint r) with
    | (t, .dispatch) =>
      conclude endpoint r.action (t.navigated r.action v.dispatch)
        (afterDispatch endpoint r.action v.dispatch) v.observations
    | (t, h) => conclude endpoint r.action t h v.observations

/-- `request_hybrid_observation`. -/
def respondObservation (s : Session) (v : Visit ω) : Session × Reply :=
  if v.gone ∨ s.closed ∨ s.mode ≠ .hybrid then (s, .unknownSession)
  else
    match v.observations with
    | [] => (s, .raised)
    | o :: _ =>
      match afterRefresh o with
      | .close after => ((s.afterOutcome o).close, after)
      | _ => (s.afterOutcome o, .observation)

/-- An action request of a run, with the session as the worker had it then. -/
structure Exchange (ω : Type) where
  session : Session
  endpoint : Mode
  request : ActionRequest
  visit : Visit ω

/-- The outcomes of an observation that end a hybrid session with a result. -/
def breaksOff : ObserveOutcome → Bool
  | .refused _ | .timeout | .browserError => true
  | _ => false

namespace Exchange

variable (limits : Limits) (e : Exchange ω)

def reply : Reply := (respond limits e.session e.endpoint e.request e.visit).2

/-- The result that the agent's client returned. -/
def result : Option Browser.ActionResult :=
  match e.visit.delivery, e.reply limits with
  | .delivered, .result r => some r
  | _, _ => none

/-- The worker accepted a finish: its answer is a terminal result with success. -/
def accepted : Prop :=
  e.request.action.type = .finish ∧
    ∃ r, e.reply limits = .result r ∧ r.terminal = true ∧ r.success = true

/-! ## What decides about a finish -/

/-- The lookup of the session finds it. -/
def live : Prop := e.visit.gone = false ∧ e.session.closed = false ∧ e.session.mode = e.endpoint

/-- The session has no time or no actions left. -/
def spent : Prop :=
  timedOut limits e.session e.visit.now ∨ limits.maxActions ≤ e.session.actionCount

/-- A hybrid action names its session, the current observation and its modality. -/
def current : Prop :=
  e.endpoint = .hybrid →
    e.request.sessionId = e.session.sessionId ∧ e.request.generation = e.session.hybridGeneration ∧
      e.session.hybridModality = some e.request.modality

/-- The observation that comes with a failure cannot be built, which ends a hybrid session. -/
def unobservable : Prop :=
  e.session.hybridModality = none ∨
    ∃ o rest, e.visit.observations = o :: rest ∧ breaksOff o = true

/-- A finish is not answered by a terminal refusal that the agent reads, and a finish that the
worker accepts is answered in time. -/
def heard : Prop :=
  e.request.action.type = .finish → e.live →
    (e.spent limits → e.visit.delivery ≠ .delivered) ∧
    (¬ e.spent limits → e.current → e.visit.delivery = .delivered) ∧
    (¬ e.spent limits → ¬ e.current → e.unobservable → e.visit.delivery ≠ .delivered)

end Exchange

/-- Some finish of the run was accepted. -/
def Accepted (limits : Limits) (exchanges : List (Exchange ω)) : Prop :=
  ∃ e ∈ exchanges, e.accepted limits

/-- Every finish of the run was heard. -/
def FinishesHeard (limits : Limits) (exchanges : List (Exchange ω)) : Prop :=
  ∀ e ∈ exchanges, e.heard limits

/-! ## Answers to a finish -/

section Answers

variable {limits : Limits} {e : Exchange ω}

theorem budgetError_finish {s : Session} {a : Action} {now : Time} (ha : a.type = .finish) :
    budgetError limits s a now =
      if timedOut limits s now then some .sessionTimeout
      else if limits.maxActions ≤ s.actionCount then some .actionBudgetExhausted
      else none := by
  unfold budgetError
  simp [ha]

theorem budgetError_spent (ha : e.request.action.type = .finish) (hspent : e.spent limits) :
    ∃ category, budgetError limits e.session e.request.action e.visit.now = some category := by
  rw [budgetError_finish ha]
  by_cases htime : timedOut limits e.session e.visit.now
  · exact ⟨.sessionTimeout, if_pos htime⟩
  · have hactions : limits.maxActions ≤ e.session.actionCount := hspent.resolve_left htime
    exact ⟨.actionBudgetExhausted, by rw [if_neg htime, if_pos hactions]⟩

theorem budgetError_unspent (ha : e.request.action.type = .finish) (hspent : ¬ e.spent limits) :
    budgetError limits e.session e.request.action e.visit.now = none := by
  have htime : ¬ timedOut limits e.session e.visit.now := fun h => hspent (.inl h)
  have hactions : ¬ limits.maxActions ≤ e.session.actionCount := fun h => hspent (.inr h)
  rw [budgetError_finish ha, if_neg htime, if_neg hactions]

theorem reply_gone (h : ¬ e.live) : e.reply limits = .unknownSession := by
  have hgone : e.visit.gone ∨ e.session.closed ∨ e.session.mode ≠ e.endpoint := by
    by_contra hnot
    push Not at hnot
    exact h ⟨by simpa using hnot.1, by simpa using hnot.2.1, hnot.2.2⟩
  unfold Exchange.reply respond
  rw [if_pos hgone]

theorem respond_live (h : e.live) :
    respond limits e.session e.endpoint e.request e.visit =
      match State.begin limits e.visit.now e.session (.action e.endpoint e.request) with
      | (t, .dispatch) =>
        conclude e.endpoint e.request.action (t.navigated e.request.action e.visit.dispatch)
          (afterDispatch e.endpoint e.request.action e.visit.dispatch) e.visit.observations
      | (t, h) => conclude e.endpoint e.request.action t h e.visit.observations := by
  have hlive : ¬ (e.visit.gone ∨ e.session.closed ∨ e.session.mode ≠ e.endpoint) := by
    simp [h.1, h.2.1, h.2.2]
  unfold respond
  rw [if_neg hlive]

theorem conclude_close (endpoint : Mode) (a : Action) (s : Session) (after : Reply)
    (os : List ObserveOutcome) : conclude endpoint a s (.close after) os = (s.close, after) := by
  cases os <;> rfl

theorem conclude_answer (endpoint : Mode) (a : Action) (s : Session) (reply : Reply)
    (os : List ObserveOutcome) : conclude endpoint a s (.answer reply) os = (s, reply) := by
  cases os <;> rfl

theorem begin_refused (limits : Limits) (hrecovery : e.endpoint ≠ .recovery)
    {category : ErrorCategory}
    (h : budgetError limits e.session e.request.action e.visit.now = some category) :
    State.begin limits e.visit.now e.session (.action e.endpoint e.request) =
      (e.session, endWith (terminalFailure category)) := by
  cases hendpoint : e.endpoint with
  | recovery => exact absurd hendpoint hrecovery
  | dom =>
      show executeAction limits e.session e.request e.visit.now = _
      unfold executeAction terminalBudgetError
      rw [h]
  | vision =>
      show executeVisionAction limits e.session e.request e.visit.now = _
      unfold executeVisionAction visionTerminalBudgetError
      rw [h]
  | hybrid =>
      show executeHybridAction limits e.session e.request e.visit.now = _
      unfold executeHybridAction hybridTerminalBudgetError
      rw [h]

/-- The agents' endpoints have the same answer to a finish that no budget refuses and that names
what it should. -/
theorem begin_finish (limits : Limits) (ha : e.request.action.type = .finish)
    (hrecovery : e.endpoint ≠ .recovery)
    (h : budgetError limits e.session e.request.action e.visit.now = none) :
    State.begin limits e.visit.now e.session (.action e.endpoint e.request) =
      (e.session.counted,
        if e.endpoint ≠ .hybrid then endWith ⟨true, true, none⟩
        else if e.request.sessionId ≠ e.session.sessionId then
          hybridFailure e.session .unknownHybridRef false
        else if e.request.generation ≠ e.session.hybridGeneration then
          hybridFailure e.session .staleHybridRef false
        else if e.session.hybridModality ≠ some e.request.modality then
          hybridFailure e.session .invalidModality false
        else endWith ⟨true, true, none⟩) := by
  cases hendpoint : e.endpoint with
  | recovery => exact absurd hendpoint hrecovery
  | dom =>
      show executeAction limits e.session e.request e.visit.now = _
      unfold executeAction terminalBudgetError
      rw [h]
      simp [ha, ActionType.ends]
  | vision =>
      show executeVisionAction limits e.session e.request e.visit.now = _
      unfold executeVisionAction visionTerminalBudgetError
      rw [h]
      simp [ha, ActionType.ends]
  | hybrid =>
      show executeHybridAction limits e.session e.request e.visit.now = _
      unfold executeHybridAction hybridTerminalBudgetError
      rw [h]
      simp [ha, ActionType.ends]

theorem reply_ends {t : Session} {r : Browser.ActionResult} (h : e.live)
    (hbegin : State.begin limits e.visit.now e.session (.action e.endpoint e.request) =
      (t, endWith r)) : e.reply limits = .result r := by
  unfold Exchange.reply
  rw [respond_live h, hbegin]
  show (conclude e.endpoint e.request.action t (endWith r) e.visit.observations).2 = .result r
  unfold endWith
  rw [conclude_close]

/-- A finish on a session without time or actions is refused. -/
theorem reply_spent (hlive : e.live) (ha : e.request.action.type = .finish)
    (hrecovery : e.endpoint ≠ .recovery) (hspent : e.spent limits) :
    ∃ category, e.reply limits = .result (terminalFailure category) := by
  obtain ⟨category, hcategory⟩ := budgetError_spent ha hspent
  exact ⟨category, reply_ends hlive (begin_refused limits hrecovery hcategory)⟩

theorem reply_current (hlive : e.live) (ha : e.request.action.type = .finish)
    (hrecovery : e.endpoint ≠ .recovery) (hspent : ¬ e.spent limits) (hcurrent : e.current) :
    e.reply limits = .result ⟨true, true, none⟩ := by
  have hbegin := begin_finish limits ha hrecovery (budgetError_unspent ha hspent)
  by_cases hhybrid : e.endpoint = .hybrid
  · obtain ⟨hid, hgeneration, hmodality⟩ := hcurrent hhybrid
    simp only [hhybrid, hid, hgeneration, hmodality, ne_eq, not_true_eq_false, if_false] at hbegin
    rw [← hhybrid] at hbegin
    exact reply_ends hlive hbegin
  · simp only [ne_eq, hhybrid, not_false_eq_true, if_true] at hbegin
    exact reply_ends hlive hbegin

/-- A hybrid finish that names an older state of its session. -/
theorem begin_outdated (ha : e.request.action.type = .finish) (hrecovery : e.endpoint ≠ .recovery)
    (hspent : ¬ e.spent limits) (hcurrent : ¬ e.current) :
    e.endpoint = .hybrid ∧ ∃ category,
      State.begin limits e.visit.now e.session (.action e.endpoint e.request) =
        (e.session.counted, hybridFailure e.session category false) := by
  unfold Exchange.current at hcurrent
  push Not at hcurrent
  obtain ⟨hhybrid, hother⟩ := hcurrent
  have hbegin := begin_finish limits ha hrecovery (budgetError_unspent ha hspent)
  refine ⟨hhybrid, ?_⟩
  by_cases hid : e.request.sessionId = e.session.sessionId
  · by_cases hgeneration : e.request.generation = e.session.hybridGeneration
    · have hmodality := hother hid hgeneration
      refine ⟨.invalidModality, ?_⟩
      rw [hbegin]
      simp [hhybrid, hid, hgeneration, hmodality]
    · refine ⟨.staleHybridRef, ?_⟩
      rw [hbegin]
      simp [hhybrid, hid, hgeneration]
  · refine ⟨.unknownHybridRef, ?_⟩
    rw [hbegin]
    simp [hhybrid, hid]

theorem reply_unobservable (hlive : e.live) (ha : e.request.action.type = .finish)
    (hrecovery : e.endpoint ≠ .recovery) (hspent : ¬ e.spent limits) (hcurrent : ¬ e.current)
    (hview : e.unobservable) :
    ∃ category, e.reply limits = .result (terminalFailure category) := by
  obtain ⟨hhybrid, category, hbegin⟩ := begin_outdated ha hrecovery hspent hcurrent
  unfold hybridFailure at hbegin
  by_cases hmodality : e.session.hybridModality = none
  · rw [if_pos hmodality] at hbegin
    exact ⟨.internalError, reply_ends hlive hbegin⟩
  · rw [if_neg hmodality] at hbegin
    obtain ⟨o, rest, hobservations, hbreaks⟩ := hview.resolve_left hmodality
    unfold Exchange.reply
    rw [respond_live hlive, hbegin, hhybrid, hobservations]
    cases o with
    | refused refusal => exact ⟨refusal, congrArg Prod.snd (conclude_close _ _ _ _ rest)⟩
    | timeout => exact ⟨.browserTimeout, congrArg Prod.snd (conclude_close _ _ _ _ rest)⟩
    | browserError => exact ⟨.browserError, congrArg Prod.snd (conclude_close _ _ _ _ rest)⟩
    | built _ | security | invalidValue | failed | cancelled => cases hbreaks

/-- Otherwise such a finish is answered by an observation, or not at all. -/
theorem reply_observed (hlive : e.live) (ha : e.request.action.type = .finish)
    (hrecovery : e.endpoint ≠ .recovery) (hspent : ¬ e.spent limits) (hcurrent : ¬ e.current)
    (hview : ¬ e.unobservable) {r : Browser.ActionResult} (hr : e.reply limits = .result r) :
    r.terminal = false := by
  obtain ⟨hhybrid, category, hbegin⟩ := begin_outdated ha hrecovery hspent hcurrent
  have hmodality : ¬ e.session.hybridModality = none := fun h => hview (.inl h)
  unfold hybridFailure at hbegin
  rw [if_neg hmodality] at hbegin
  unfold Exchange.reply at hr
  rw [respond_live hlive, hbegin, hhybrid] at hr
  cases hobservations : e.visit.observations with
  | nil =>
      rw [hobservations] at hr
      cases hr
  | cons o rest =>
      have hfine : breaksOff o ≠ true := fun h => hview (.inr ⟨o, rest, hobservations, h⟩)
      rw [hobservations] at hr
      cases o with
      | built view =>
          have hreply : Reply.result ⟨false, false, some category⟩ = .result r :=
            (congrArg Prod.snd (conclude_answer .hybrid e.request.action _ _ rest)).symm.trans hr
          cases hreply
          rfl
      | security | invalidValue | failed =>
          have hreply : Reply.raised = .result r :=
            (congrArg Prod.snd (conclude_answer .hybrid e.request.action _ _ rest)).symm.trans hr
          cases hreply
      | cancelled =>
          have hreply : Reply.cancelled = .result r :=
            (congrArg Prod.snd (conclude_close .hybrid e.request.action _ _ rest)).symm.trans hr
          cases hreply
      | refused _ | timeout | browserError => exact absurd rfl hfine

end Answers

/-! ## Heard and accepted -/

section Heard

variable {limits : Limits} {e : Exchange ω}

theorem result_some {r : Browser.ActionResult} (h : e.result limits = some r) :
    e.visit.delivery = .delivered ∧ e.reply limits = .result r := by
  unfold Exchange.result at h
  split at h
  · rename_i hdelivery hreply
    cases h
    exact ⟨hdelivery, hreply⟩
  · cases h

theorem result_delivered {r : Browser.ActionResult} (hdelivery : e.visit.delivery = .delivered)
    (hreply : e.reply limits = .result r) : e.result limits = some r := by
  unfold Exchange.result
  rw [hdelivery, hreply]

theorem live_of_result {r : Browser.ActionResult} (h : e.reply limits = .result r) : e.live := by
  by_contra hgone
  rw [reply_gone hgone] at h
  cases h

/-- A finish with an answer that lets the run go on was not accepted. -/
theorem heard_of_running {r : Browser.ActionResult} (hrecovery : e.endpoint ≠ .recovery)
    (hr : e.result limits = some r) (hrunning : r.terminal = false) :
    e.heard limits ∧ ¬ e.accepted limits := by
  have hreply := (result_some hr).2
  have hterminal : ∀ category, e.reply limits ≠ .result (terminalFailure category) := by
    intro category h
    rw [hreply] at h
    cases h
    cases hrunning
  constructor
  · intro ha hlive
    refine ⟨?_, fun _ _ => (result_some hr).1, ?_⟩
    · intro hspent
      obtain ⟨category, hrefused⟩ := reply_spent hlive ha hrecovery hspent
      exact absurd hrefused (hterminal category)
    · intro hspent hcurrent hview
      obtain ⟨category, hrefused⟩ :=
        reply_unobservable hlive ha hrecovery hspent hcurrent hview
      exact absurd hrefused (hterminal category)
  · intro haccepted
    obtain ⟨_, other, hother, hends, _⟩ := haccepted
    rw [hreply] at hother
    cases hother
    rw [hrunning] at hends
    cases hends

/-- Where an answer ends the run, a finish was heard exactly when it succeeded. -/
theorem heard_iff_success {r : Browser.ActionResult} (hrecovery : e.endpoint ≠ .recovery)
    (hr : e.result limits = some r) (hends : r.terminal = true)
    (ha : e.request.action.type = .finish) : e.heard limits ↔ r.success = true := by
  obtain ⟨hdelivered, hreply⟩ := result_some hr
  have hlive := live_of_result hreply
  by_cases hspent : e.spent limits
  · obtain ⟨category, hrefused⟩ := reply_spent hlive ha hrecovery hspent
    rw [hreply] at hrefused
    cases hrefused
    exact ⟨fun h => absurd hdelivered ((h ha hlive).1 hspent), fun h => by cases h⟩
  · by_cases hcurrent : e.current
    · have haccepted := reply_current hlive ha hrecovery hspent hcurrent
      rw [hreply] at haccepted
      cases haccepted
      exact ⟨fun _ => rfl, fun _ _ _ => ⟨fun h => absurd h hspent, fun _ _ => hdelivered,
        fun _ h => absurd hcurrent h⟩⟩
    · by_cases hview : e.unobservable
      · obtain ⟨category, hrefused⟩ :=
          reply_unobservable hlive ha hrecovery hspent hcurrent hview
        rw [hreply] at hrefused
        cases hrefused
        exact ⟨fun h => absurd hdelivered ((h ha hlive).2.2 hspent hcurrent hview),
          fun h => by cases h⟩
      · have hgoes := reply_observed hlive ha hrecovery hspent hcurrent hview hreply
        rw [hgoes] at hends
        cases hends

/-- Where the client raises, the worker accepted a finish exactly when it was not heard. -/
theorem accepted_iff_unheard (hrecovery : e.endpoint ≠ .recovery)
    (hr : e.result limits = none) : e.accepted limits ↔ ¬ e.heard limits := by
  have hlost : ∀ r, e.reply limits = .result r → e.visit.delivery ≠ .delivered := by
    intro r hreply hdelivered
    rw [result_delivered hdelivered hreply] at hr
    cases hr
  constructor
  · intro haccepted hheard
    obtain ⟨ha, r, hreply, hends, hsuccess⟩ := haccepted
    have hlive := live_of_result hreply
    have hspent : ¬ e.spent limits := by
      intro hspent
      obtain ⟨category, hrefused⟩ := reply_spent hlive ha hrecovery hspent
      rw [hreply] at hrefused
      cases hrefused
      cases hsuccess
    have hcurrent : e.current := by
      by_contra hcurrent
      by_cases hview : e.unobservable
      · obtain ⟨category, hrefused⟩ :=
          reply_unobservable hlive ha hrecovery hspent hcurrent hview
        rw [hreply] at hrefused
        cases hrefused
        cases hsuccess
      · rw [reply_observed hlive ha hrecovery hspent hcurrent hview hreply] at hends
        cases hends
    exact hlost r hreply ((hheard ha hlive).2.1 hspent hcurrent)
  · intro hunheard
    unfold Exchange.heard at hunheard
    push Not at hunheard
    obtain ⟨ha, hlive, hfails⟩ := hunheard
    have hspent : ¬ e.spent limits := by
      intro hspent
      obtain ⟨category, hrefused⟩ := reply_spent hlive ha hrecovery hspent
      have hnot := hlost _ hrefused
      obtain ⟨h, _⟩ := hfails (fun _ => hnot) fun h => absurd hspent h
      exact h hspent
    have hcurrent : e.current := by
      by_contra hcurrent
      obtain ⟨_, _, hview, hdelivered⟩ :=
        hfails (fun h => absurd h hspent) fun _ h => absurd h hcurrent
      obtain ⟨category, hrefused⟩ :=
        reply_unobservable hlive ha hrecovery hspent hcurrent hview
      exact hlost _ hrefused hdelivered
    exact ⟨ha, _, reply_current hlive ha hrecovery hspent hcurrent, rfl, rfl⟩

end Heard

end FlowPilot.Agents
