import FlowPilot.Browser.Lifecycle

/-!
# The hard limits of a session

A session counts its actions, navigations, observations, observation bytes and screenshots.  The
first two stand in `Session`; the others are counted where an observation is refreshed.  Requests
hold the lock of the session one after the other.
-/

namespace FlowPilot.Browser

/-! ## Counters of observations -/

structure ObservationLimits where
  maxVisionScreenshots : Nat := 24
  maxVisionScreenshotBytes : Nat := 184320
  maxVisionCaptureMs : Nat := 3000
  maxHybridObservations : Nat := 24
  maxHybridDomObservationBytes : Nat := 262144

structure Meter where
  visionScreenshotCount : Nat := 0
  visionImageBytes : Nat := 0
  visionCaptureMs : Nat := 0
  hybridObservationCount : Nat := 0
  hybridDomObservationBytes : Nat := 0
  /-- `hybrid_route_signals` has been set. -/
  routeSignals : Bool := false
  deriving DecidableEq

/-- What leaves an observation builder instead of an observation. -/
inductive BuildError where
  /-- `VisionCaptureError`. -/
  | capture (category : ErrorCategory)
  | security
  | invalidValue
  | timeout
  | browserError
  | failed
  | cancelled
  deriving DecidableEq

structure DomBuild where
  observation : Observation
  /-- The length of the dumped observation. -/
  bytes : Nat

structure VisionBuild where
  observation : Observation
  imageBytes : Nat
  captureMs : Nat

/-- What the page shows while an observation is built. -/
structure Glance where
  /-- The page has left the sandbox. -/
  outside : Bool := false
  dom : Except BuildError DomBuild
  vision : Except BuildError VisionBuild

def BuildError.outcome : BuildError → ObserveOutcome
  | .capture category => .refused category
  | .security => .security
  | .invalidValue => .invalidValue
  | .timeout => .timeout
  | .browserError => .browserError
  | .failed => .failed
  | .cancelled => .cancelled

def Meter.shot (m : Meter) : Meter :=
  { m with visionScreenshotCount := m.visionScreenshotCount + 1 }

def Meter.looked (m : Meter) : Meter :=
  { m with hybridObservationCount := m.hybridObservationCount + 1 }

def Meter.charged (m : Meter) (built : VisionBuild) : Meter :=
  { m with
    visionImageBytes := m.visionImageBytes + built.imageBytes
    visionCaptureMs := m.visionCaptureMs + built.captureMs }

/-- The totals of a session have room for as many screenshots of the largest size. -/
def chargeScreenshot (limits : ObservationLimits) (m : Meter) (built : VisionBuild) :
    Meter × ObserveOutcome :=
  let charged := m.charged built
  if limits.maxVisionScreenshots * limits.maxVisionScreenshotBytes < charged.visionImageBytes ∨
      limits.maxVisionScreenshots * limits.maxVisionCaptureMs < charged.visionCaptureMs then
    (charged, .refused .screenshotBudgetExhausted)
  else (charged, .built built.observation)

/-- `_refresh_vision_observation` behind its preflight. -/
def captureScreenshot (limits : ObservationLimits) (m : Meter) (g : Glance) :
    Meter × ObserveOutcome :=
  if limits.maxVisionScreenshots ≤ m.visionScreenshotCount then
    (m, .refused .screenshotBudgetExhausted)
  else
    match g.vision with
    | .error e => (m.shot, e.outcome)
    | .ok built => chargeScreenshot limits m.shot built

/-- `_refresh_vision_observation`, with its preflight over the DOM. -/
def refreshVision (limits : ObservationLimits) (m : Meter) (g : Glance) :
    Meter × ObserveOutcome :=
  if g.outside then (m, .refused .invalidUrl)
  else
    match g.dom with
    | .error e => (m, e.outcome)
    | .ok _ => captureScreenshot limits m g

/-- The DOM part of `_refresh_hybrid_observation`. -/
def refreshHybridDom (limits : ObservationLimits) (m : Meter) (g : Glance) :
    Meter × ObserveOutcome :=
  if g.outside then (m, .refused .invalidUrl)
  else
    match g.dom with
    | .error e => (m, e.outcome)
    | .ok built =>
      if limits.maxHybridDomObservationBytes < m.hybridDomObservationBytes + built.bytes then
        (m, .refused .hybridDomObservationBudgetExhausted)
      else
        ({ m with
            hybridDomObservationBytes := m.hybridDomObservationBytes + built.bytes
            routeSignals := true },
          .built built.observation)

/-- The vision part of `_refresh_hybrid_observation`: it needs the signals of a DOM observation. -/
def refreshHybridVision (limits : ObservationLimits) (m : Meter) (g : Glance) :
    Meter × ObserveOutcome :=
  match refreshVision limits m g with
  | (m, .built o) => if m.routeSignals then (m, .built o) else (m, .refused .internalError)
  | refused => refused

/-- `_refresh_hybrid_observation`. -/
def refreshHybrid (limits : ObservationLimits) (m : Meter) (modality : Modality) (g : Glance) :
    Meter × ObserveOutcome :=
  if limits.maxHybridObservations < m.looked.hybridObservationCount then
    (m.looked, .refused .hybridObservationBudgetExhausted)
  else
    match modality with
    | .dom => refreshHybridDom limits m.looked g
    | .vision => refreshHybridVision limits m.looked g

/-- The observation of a plain DOM session.  Its page is `checked` behind a dispatch only. -/
def buildDom (checked : Bool) (g : Glance) : ObserveOutcome :=
  if checked ∧ g.outside then .refused .invalidUrl
  else
    match g.dom with
    | .error e => e.outcome
    | .ok built => .built built.observation

/-- The observation that a handler of the endpoint builds; a hybrid session keeps its modality. -/
def takeObservation (limits : ObservationLimits) (endpoint : Mode) (guarded : Bool) (s : Session)
    (m : Meter) (g : Glance) : Meter × ObserveOutcome :=
  match endpoint with
  | .dom => (m, buildDom guarded g)
  | .vision => refreshVision limits m g
  | .hybrid => refreshHybrid limits m (s.hybridModality.getD .dom) g
  | .recovery => refreshHybrid limits m .dom g

/-! ## Metered requests -/

structure Metered where
  session : Session
  meter : Meter := {}
  deriving DecidableEq

/-- What comes from outside during a request. -/
structure Look where
  now : Time
  dispatch : DispatchOutcome := .done
  /-- The modality of an observation request. -/
  modality : Modality := .dom
  glances : List Glance := []

/-- What a request does to the page. -/
inductive Effect where
  /-- An action is counted and processed. -/
  | processed
  /-- It is dispatched, this long after the start of its session. -/
  | dispatched (elapsed : Time)
  | navigated
  | waited (durationMs : Nat)
  deriving DecidableEq

/-- `advance` with the counters of its observations. -/
def Metered.advance (limits : ObservationLimits) (endpoint : Mode) (a : Action) :
    Metered → Handler → List Glance → Metered × Handler
  | s, .observe success category guarded, g :: rest =>
    let (m, o) := takeObservation limits endpoint guarded s.session s.meter g
    Metered.advance limits endpoint a ⟨s.session.afterOutcome o, m⟩
      (afterObserve endpoint a success category guarded o) rest
  | s, .close after, _ => (s, .close after)
  | s, .answer reply, _ => (s, .answer reply)
  | s, _, _ => (s, .answer .raised)

/-- `_close_session`. -/
def Metered.close (s : Metered) : Metered :=
  if s.session.closed then s else { s with session := s.session.close }

/-- The session behind a handler that has come to its end. -/
def Metered.leave : Metered × Handler → Metered
  | (s, .close _) => s.close
  | (s, _) => s

/-- `_dispatch`: what it does to the page. -/
def dispatchEffects (s : Session) (a : Action) (v : Look) : List Effect :=
  .dispatched (v.now - s.startedAt) ::
    match a.type with
    | .navigate => if v.dispatch = .refused then [] else [.navigated]
    | .wait => [.waited a.durationMs]
    | _ => []

/-- The action has been counted. -/
def countedEffects (s t : Session) : List Effect :=
  if t.actionCount = s.actionCount then [] else [.processed]

/-- An action of a session, from the grant of the lock. -/
def Metered.act (limits : Limits) (budgets : ObservationLimits) (s : Metered) (r : ActionRequest)
    (v : Look) : Metered × List Effect :=
  match State.begin limits v.now s.session (.action s.session.mode r) with
  | (t, .dispatch) =>
    (Metered.leave (Metered.advance budgets s.session.mode r.action
        ⟨t.navigated r.action v.dispatch, s.meter⟩
        (afterDispatch s.session.mode r.action v.dispatch) v.glances),
      countedEffects s.session t ++ dispatchEffects s.session r.action v)
  | (t, h) =>
    (Metered.leave (Metered.advance budgets s.session.mode r.action ⟨t, s.meter⟩ h v.glances),
      countedEffects s.session t)

/-- `request_hybrid_observation` and `request_recovery_observation`. -/
def Metered.look (budgets : ObservationLimits) (s : Metered) (sessionEpoch : Nat) (v : Look) :
    Metered :=
  let modality := if s.session.mode = .recovery then .dom else v.modality
  if s.session.mode = .recovery ∧ s.session.recoveryEpoch ≠ some sessionEpoch then s
  else
    match v.glances with
    | [] => s.close
    | g :: _ =>
      let (m, o) := refreshHybrid budgets s.meter modality g
      Metered.leave (⟨s.session.afterOutcome o, m⟩, afterRefresh o)

/-! ## Runs of a session -/

/-- A request that holds the lock of the session. -/
inductive Held where
  | act (r : ActionRequest) (v : Look)
  | look (sessionEpoch : Nat) (v : Look)
  /-- A delete endpoint or the expiry task. -/
  | close

def Metered.perform (limits : Limits) (budgets : ObservationLimits) (s : Metered) :
    Held → Metered × List Effect
  | .act r v => s.act limits budgets r v
  | .look sessionEpoch v => (s.look budgets sessionEpoch v, [])
  | .close => (s.close, [])

/-- The session of a create call, whose first observation has been built. -/
def Metered.create (budgets : ObservationLimits) (mode : Mode) (sessionId : String)
    (startedAt : Time) (sessionEpoch : Option Nat) (g : Glance) : Option Metered :=
  let fresh := (Site.fresh mode sessionId startedAt sessionEpoch).session
  match takeObservation budgets mode false fresh {} g with
  | (m, .built o) => some ⟨fresh.observed o, m⟩
  | _ => none

/-- The session behind the requests, and what they did to the page. -/
def Metered.after (limits : Limits) (budgets : ObservationLimits) :
    Metered → List Held → Metered × List Effect
  | s, [] => (s, [])
  | s, request :: rest =>
    let (t, effects) := s.perform limits budgets request
    let (u, later) := t.after limits budgets rest
    (u, effects ++ later)

/-! ## What the limits say -/

/-- The counters that an observation may drive over their limits. -/
structure Meter.Within (budgets : ObservationLimits) (m : Meter) : Prop where
  observations : m.hybridObservationCount ≤ budgets.maxHybridObservations
  imageBytes :
    m.visionImageBytes ≤ budgets.maxVisionScreenshots * budgets.maxVisionScreenshotBytes
  captureMs : m.visionCaptureMs ≤ budgets.maxVisionScreenshots * budgets.maxVisionCaptureMs

/-- The counters that never exceed their limits. -/
structure Meter.Bounded (budgets : ObservationLimits) (m : Meter) : Prop where
  domBytes : m.hybridDomObservationBytes ≤ budgets.maxHybridDomObservationBytes
  screenshots : m.visionScreenshotCount ≤ budgets.maxVisionScreenshots

/-- A session and what was done to its page keep the hard limits. -/
structure KeepsLimits (limits : Limits) (budgets : ObservationLimits) (s : Metered)
    (log : List Effect) : Prop where
  actions : log.count .processed ≤ limits.maxActions
  /-- With the initial one. -/
  navigations : 1 + log.count .navigated ≤ limits.maxNavigations
  waits : ∀ durationMs, .waited durationMs ∈ log → durationMs ≤ limits.maxWaitMs
  dispatches : ∀ elapsed, .dispatched elapsed ∈ log → elapsed ≤ limits.maxSessionSeconds * second
  bounded : s.meter.Bounded budgets
  within : s.session.closed = false → s.meter.Within budgets

/-- A recovery action passes the checks of its handler in front of the dispatch. -/
structure Dispatchable (limits : Limits) (s : Session) (r : ActionRequest) (now : Time) :
    Prop where
  actions : s.actionCount < limits.maxActions
  time : ¬ timedOut limits s now
  sessionId : r.sessionId = s.sessionId
  epoch : some r.sessionEpoch = s.recoveryEpoch
  generation : r.generation = s.hybridGeneration
  modality : s.hybridModality = some .dom
  idempotency : r.idempotent = true → r.action.type = .click

/-- A recovery action that is dispatched navigates and waits only within the limits, which its
handler leaves to the caller. -/
def Held.Compliant (limits : Limits) (s : Session) : Held → Prop
  | .act r v =>
    s.mode = .recovery → Dispatchable limits s r v.now →
      (r.action.type = .navigate → s.navigationCount < limits.maxNavigations) ∧
        (r.action.type = .wait → r.action.durationMs ≤ limits.maxWaitMs)
  | .look _ _ | .close => True

def Compliant (limits : Limits) (budgets : ObservationLimits) : Metered → List Held → Prop
  | _, [] => True
  | s, request :: rest =>
    request.Compliant limits s.session ∧
      Compliant limits budgets (s.perform limits budgets request).1 rest

/-! ## Refreshed observations -/

section Refresh

variable {budgets : ObservationLimits} {m : Meter} {g : Glance}

/-- What an observation does to the counters: those that it may drive over their limits are over
them only when it is refused. -/
structure Charges (budgets : ObservationLimits) (m : Meter) (r : Meter × ObserveOutcome) : Prop where
  bounded : m.Bounded budgets → r.1.Bounded budgets
  within : m.Within budgets → r.1.Within budgets ∨ ∃ category, r.2 = .refused category

theorem Charges.same (o : ObserveOutcome) : Charges budgets m (m, o) := ⟨id, .inl⟩

theorem Charges.trans {n : Meter} {r : Meter × ObserveOutcome}
    (hbounded : m.Bounded budgets → n.Bounded budgets) (hwithin : m.Within budgets → n.Within budgets)
    (h : Charges budgets n r) : Charges budgets m r :=
  ⟨fun hm => h.bounded (hbounded hm), fun hm => h.within (hwithin hm)⟩

theorem chargeScreenshot_charges (built : VisionBuild) :
    Charges budgets m (chargeScreenshot budgets m built) := by
  have hbounded : m.Bounded budgets → (m.charged built).Bounded budgets :=
    fun h => ⟨h.domBytes, h.screenshots⟩
  unfold chargeScreenshot
  by_cases hover :
      budgets.maxVisionScreenshots * budgets.maxVisionScreenshotBytes <
          (m.charged built).visionImageBytes ∨
        budgets.maxVisionScreenshots * budgets.maxVisionCaptureMs < (m.charged built).visionCaptureMs
  · rw [if_pos hover]
    exact ⟨hbounded, fun _ => .inr ⟨_, rfl⟩⟩
  · rw [if_neg hover]
    push Not at hover
    exact ⟨hbounded, fun h => .inl ⟨h.observations, hover.1, hover.2⟩⟩

theorem captureScreenshot_charges : Charges budgets m (captureScreenshot budgets m g) := by
  unfold captureScreenshot
  by_cases hfull : budgets.maxVisionScreenshots ≤ m.visionScreenshotCount
  · rw [if_pos hfull]
    exact Charges.same _
  · rw [if_neg hfull]
    -- the screenshot is counted before it is taken
    have hroom : m.shot.visionScreenshotCount ≤ budgets.maxVisionScreenshots := by
      show m.visionScreenshotCount + 1 ≤ budgets.maxVisionScreenshots
      omega
    have hcounted : ∀ r, Charges budgets m.shot r → Charges budgets m r :=
      fun r h => Charges.trans (n := m.shot) (fun hm => ⟨hm.domBytes, hroom⟩)
        (fun hm => ⟨hm.observations, hm.imageBytes, hm.captureMs⟩) h
    cases g.vision with
    | error e => exact hcounted _ (Charges.same _)
    | ok built => exact hcounted _ (chargeScreenshot_charges built)

theorem refreshVision_charges : Charges budgets m (refreshVision budgets m g) := by
  unfold refreshVision
  by_cases houtside : g.outside = true
  · rw [if_pos houtside]
    exact Charges.same _
  · rw [if_neg houtside]
    cases g.dom with
    | error e => exact Charges.same _
    | ok built => exact captureScreenshot_charges

theorem refreshHybridDom_charges : Charges budgets m (refreshHybridDom budgets m g) := by
  unfold refreshHybridDom
  by_cases houtside : g.outside = true
  · rw [if_pos houtside]
    exact Charges.same _
  · rw [if_neg houtside]
    cases g.dom with
    | error e => exact Charges.same _
    | ok built =>
      show Charges budgets m (if budgets.maxHybridDomObservationBytes <
        m.hybridDomObservationBytes + built.bytes then _ else _)
      by_cases hover : budgets.maxHybridDomObservationBytes <
          m.hybridDomObservationBytes + built.bytes
      · rw [if_pos hover]
        exact Charges.same _
      · rw [if_neg hover]
        refine ⟨fun h => ⟨?_, h.screenshots⟩, fun h => .inl ⟨h.observations, h.imageBytes, h.captureMs⟩⟩
        show m.hybridDomObservationBytes + built.bytes ≤ budgets.maxHybridDomObservationBytes
        omega

theorem refreshHybridVision_charges : Charges budgets m (refreshHybridVision budgets m g) := by
  have hvision : Charges budgets m (refreshVision budgets m g) := refreshVision_charges
  unfold refreshHybridVision
  split
  · rename_i n o heq
    rw [heq] at hvision
    by_cases hsignals : n.routeSignals = true
    · rw [if_pos hsignals]
      exact hvision
    · rw [if_neg hsignals]
      exact ⟨hvision.bounded, fun _ => .inr ⟨_, rfl⟩⟩
  · exact hvision

theorem refreshHybrid_charges (modality : Modality) :
    Charges budgets m (refreshHybrid budgets m modality g) := by
  unfold refreshHybrid
  have hbounded : m.Bounded budgets → m.looked.Bounded budgets :=
    fun h => ⟨h.domBytes, h.screenshots⟩
  by_cases hover : budgets.maxHybridObservations < m.looked.hybridObservationCount
  · rw [if_pos hover]
    exact ⟨hbounded, fun _ => .inr ⟨_, rfl⟩⟩
  · rw [if_neg hover]
    have hcounted : ∀ r, Charges budgets m.looked r → Charges budgets m r :=
      fun r h => Charges.trans (n := m.looked) hbounded
        (fun hm => ⟨Nat.le_of_not_lt hover, hm.imageBytes, hm.captureMs⟩) h
    cases modality with
    | dom => exact hcounted _ refreshHybridDom_charges
    | vision => exact hcounted _ refreshHybridVision_charges

theorem takeObservation_charges (endpoint : Mode) (guarded : Bool) (s : Session) :
    Charges budgets m (takeObservation budgets endpoint guarded s m g) := by
  cases endpoint with
  | dom => exact Charges.same _
  | vision => exact refreshVision_charges
  | hybrid => exact refreshHybrid_charges (s.hybridModality.getD .dom)
  | recovery => exact refreshHybrid_charges .dom

/-- A refused observation ends the session of every mode that counts its observations. -/
theorem refused_closes {endpoint : Mode} (hcounts : endpoint ≠ .dom) (a : Action) (success : Bool)
    (category : Option ErrorCategory) (guarded : Bool) (refusal : ErrorCategory) :
    ∃ after, afterObserve endpoint a success category guarded (.refused refusal) =
      .close after := by
  cases endpoint with
  | dom => exact absurd rfl hcounts
  | vision | hybrid => exact ⟨.result (terminalFailure refusal), rfl⟩
  | recovery => exact ⟨.result (terminalFailure (category.getD .internalError)), rfl⟩

end Refresh

/-! ## Handlers and their counters -/

/-- What an observation leaves alone in its session. -/
structure Session.Counts (s t : Session) : Prop where
  actions : t.actionCount = s.actionCount
  navigations : t.navigationCount = s.navigationCount
  startedAt : t.startedAt = s.startedAt
  kept : s.Kept t

theorem Session.Counts.refl (s : Session) : s.Counts s := ⟨rfl, rfl, rfl, .refl s⟩

theorem Session.Counts.trans {s t u : Session} (h : s.Counts t) (h' : t.Counts u) : s.Counts u :=
  ⟨h'.actions.trans h.actions, h'.navigations.trans h.navigations,
    h'.startedAt.trans h.startedAt, h.kept.trans h'.kept⟩

theorem Session.counts_afterOutcome (s : Session) (o : ObserveOutcome) :
    s.Counts (s.afterOutcome o) := by
  cases o <;> exact ⟨rfl, rfl, rfl, s.kept_afterOutcome _⟩

/-- What a handler does on its way: a counter that goes over its limit makes it close the
session. -/
structure Metered.Goes (budgets : ObservationLimits) (s : Metered) (r : Metered × Handler) :
    Prop where
  counts : s.session.Counts r.1.session
  bounded : s.meter.Bounded budgets → r.1.meter.Bounded budgets
  within : s.meter.Within budgets → r.1.meter.Within budgets ∨ ∃ after, r.2 = .close after

section Handlers

variable {limits : Limits} {budgets : ObservationLimits}

theorem Metered.goes_same (s : Metered) (h : Handler) : s.Goes budgets (s, h) :=
  ⟨Session.Counts.refl s.session, id, .inl⟩

theorem goes_advance_close (endpoint : Mode) (a : Action) (s : Metered) (after : Reply)
    (gs : List Glance) :
    Metered.advance budgets endpoint a s (.close after) gs = (s, .close after) := by
  cases gs <;> rfl

theorem goes_advance (endpoint : Mode) (a : Action) (gs : List Glance) :
    ∀ (s : Metered) (h : Handler), s.Goes budgets (Metered.advance budgets endpoint a s h gs) := by
  induction gs with
  | nil =>
    intro s h
    cases h <;> exact s.goes_same _
  | cons g rest ih =>
    intro s h
    cases h with
    | dispatch | refresh | close _ | closing _ | answer _ => exact s.goes_same _
    | observe success category guarded =>
      have hcharges : Charges budgets s.meter
          (takeObservation budgets endpoint guarded s.session s.meter g) :=
        takeObservation_charges endpoint guarded s.session
      show s.Goes budgets (Metered.advance budgets endpoint a
        ⟨s.session.afterOutcome (takeObservation budgets endpoint guarded s.session s.meter g).2,
          (takeObservation budgets endpoint guarded s.session s.meter g).1⟩
        (afterObserve endpoint a success category guarded
          (takeObservation budgets endpoint guarded s.session s.meter g).2) rest)
      cases htaken : takeObservation budgets endpoint guarded s.session s.meter g with
      | mk m o =>
        rw [htaken] at hcharges
        have hrest := ih ⟨s.session.afterOutcome o, m⟩
          (afterObserve endpoint a success category guarded o)
        refine ⟨(s.session.counts_afterOutcome o).trans hrest.counts,
          fun h => hrest.bounded (hcharges.bounded h), fun h => ?_⟩
        rcases hcharges.within h with hwithin | ⟨refusal, hrefused⟩
        · exact hrest.within hwithin
        · by_cases hdom : endpoint = .dom
          · -- plain observations count nothing
            subst hdom
            have hsame : m = s.meter := (congrArg Prod.fst htaken).symm
            exact hrest.within (hsame ▸ h)
          · have hrefused : o = .refused refusal := hrefused
            obtain ⟨after, hafter⟩ := refused_closes hdom a success category guarded refusal
            subst hrefused
            refine .inr ⟨after, ?_⟩
            show (Metered.advance budgets endpoint a _ (afterObserve endpoint a success category
              guarded (.refused refusal)) rest).2 = .close after
            rw [hafter, goes_advance_close]

/-- Without its counters a metered handler is a handler: what the budgets decide is among the
outcomes of its observations. -/
theorem advance_refines (endpoint : Mode) (a : Action) (gs : List Glance) :
    ∀ (s : Metered) (h : Handler), ∃ os : List ObserveOutcome,
      (Metered.advance budgets endpoint a s h gs).1.session =
          (Browser.advance endpoint a s.session h os).1 ∧
        (Metered.advance budgets endpoint a s h gs).2 =
          (Browser.advance endpoint a s.session h os).2 := by
  induction gs with
  | nil =>
    intro s h
    refine ⟨[], ?_⟩
    cases h <;> exact ⟨rfl, rfl⟩
  | cons g rest ih =>
    intro s h
    cases h with
    | dispatch | refresh | close _ | closing _ | answer _ => exact ⟨[], rfl, rfl⟩
    | observe success category guarded =>
      obtain ⟨os, hsession, hhandler⟩ :=
        ih ⟨s.session.afterOutcome (takeObservation budgets endpoint guarded s.session s.meter g).2,
            (takeObservation budgets endpoint guarded s.session s.meter g).1⟩
          (afterObserve endpoint a success category guarded
            (takeObservation budgets endpoint guarded s.session s.meter g).2)
      exact ⟨(takeObservation budgets endpoint guarded s.session s.meter g).2 :: os, hsession, hhandler⟩

/-! ## How an action begins -/

/-- An action that is refused leaves its session alone, and another one is counted below the limit;
a dispatched one is in time, and outside of recovery sessions no navigation or wait too many. -/
structure BeginsWithin (limits : Limits) (now : Time) (s : Session) (r : ActionRequest)
    (b : Session × Handler) : Prop where
  counted : b.1 = s ∨ b.1 = s.counted ∧ s.actionCount < limits.maxActions
  dispatched : b.2 = .dispatch → b.1 = s.counted ∧ ¬ timedOut limits s now ∧
    (s.mode ≠ .recovery →
      (r.action.type = .navigate → s.navigationCount < limits.maxNavigations) ∧
        (r.action.type = .wait → r.action.durationMs ≤ limits.maxWaitMs))

theorem budgetError_passed {s : Session} {a : Action} {now : Time}
    (h : budgetError limits s a now = none) :
    ¬ timedOut limits s now ∧ s.actionCount < limits.maxActions ∧
      (a.type = .navigate → s.navigationCount < limits.maxNavigations) ∧
        (a.type = .wait → a.durationMs ≤ limits.maxWaitMs) := by
  unfold budgetError at h
  by_cases htime : timedOut limits s now
  · rw [if_pos htime] at h
    cases h
  · rw [if_neg htime] at h
    by_cases hactions : limits.maxActions ≤ s.actionCount
    · rw [if_pos hactions] at h
      cases h
    · rw [if_neg hactions] at h
      by_cases hnavigations : a.type = .navigate ∧ limits.maxNavigations ≤ s.navigationCount
      · rw [if_pos hnavigations] at h
        cases h
      · rw [if_neg hnavigations] at h
        by_cases hwait : a.type = .wait ∧ limits.maxWaitMs < a.durationMs
        · rw [if_pos hwait] at h
          cases h
        · exact ⟨htime, Nat.lt_of_not_le hactions,
            fun ha => Nat.lt_of_not_le fun hle => hnavigations ⟨ha, hle⟩,
            fun ha => Nat.le_of_not_lt fun hlt => hwait ⟨ha, hlt⟩⟩

section Begin

variable {s : Session} {r : ActionRequest} {now : Time}

theorem beginsWithin_refused (h : Handler) (hclosing : h ≠ .dispatch) :
    BeginsWithin limits now s r (s, h) :=
  ⟨.inl rfl, fun hdispatch => absurd hdispatch hclosing⟩

theorem beginsWithin_passed (h : Handler) (hpassed : budgetError limits s r.action now = none) :
    BeginsWithin limits now s r (s.counted, h) := by
  obtain ⟨htime, hactions, hrest⟩ := budgetError_passed hpassed
  exact ⟨.inr ⟨rfl, hactions⟩, fun _ => ⟨rfl, htime, fun _ => hrest⟩⟩

theorem endWith_ne_dispatch (result : ActionResult) : endWith result ≠ .dispatch := by
  intro h
  cases h

theorem beginsWithin_dom : BeginsWithin limits now s r (executeAction limits s r now) := by
  unfold executeAction
  cases hbudget : terminalBudgetError limits s r.action now with
  | some category => exact beginsWithin_refused _ (endWith_ne_dispatch _)
  | none =>
    by_cases hends : r.action.type.ends = true
    · rw [if_pos hends]
      exact beginsWithin_passed _ hbudget
    · rw [if_neg hends]
      exact beginsWithin_passed _ hbudget

theorem beginsWithin_vision : BeginsWithin limits now s r (executeVisionAction limits s r now) := by
  unfold executeVisionAction
  cases hbudget : visionTerminalBudgetError limits s r.action now with
  | some category => exact beginsWithin_refused _ (endWith_ne_dispatch _)
  | none =>
    by_cases hends : r.action.type.ends = true
    · rw [if_pos hends]
      exact beginsWithin_passed _ hbudget
    · rw [if_neg hends]
      exact beginsWithin_passed _ hbudget

theorem beginsWithin_hybrid : BeginsWithin limits now s r (executeHybridAction limits s r now) := by
  unfold executeHybridAction
  cases hbudget : hybridTerminalBudgetError limits s r now with
  | some category => exact beginsWithin_refused _ (endWith_ne_dispatch _)
  | none => exact beginsWithin_passed _ hbudget

/-- The one check that leaves out navigations and waits. -/
theorem beginsWithin_recovery (hmode : s.mode = .recovery) :
    BeginsWithin limits now s r (executeRecoveryAction limits s r now) := by
  unfold executeRecoveryAction
  by_cases hspent : limits.maxActions ≤ s.actionCount ∨ timedOut limits s now
  · rw [if_pos hspent]
    exact beginsWithin_refused _ (endWith_ne_dispatch _)
  · rw [if_neg hspent]
    refine ⟨.inr ⟨rfl, Nat.lt_of_not_le fun h => hspent (.inl h)⟩, fun _ => ⟨rfl, ?_, ?_⟩⟩
    · exact fun h => hspent (.inr h)
    · exact fun h => absurd hmode h

/-- Where a recovery action is dispatched, all checks have passed. -/
theorem dispatchable_of_dispatch (h : (executeRecoveryAction limits s r now).2 = .dispatch) :
    Dispatchable limits s r now := by
  unfold executeRecoveryAction at h
  by_cases hspent : limits.maxActions ≤ s.actionCount ∨ timedOut limits s now
  · rw [if_pos hspent] at h
    cases h
  · rw [if_neg hspent] at h
    dsimp only at h
    split at h
    · cases h
    next hsession =>
      split at h
      · cases h
      next hepoch =>
        split at h
        · cases h
        next hgeneration =>
          split at h
          · cases h
          next hmodality =>
            refine ⟨Nat.lt_of_not_le fun hle => hspent (.inl hle), fun ht => hspent (.inr ht),
              not_not.mp hsession, not_not.mp hepoch, not_not.mp hgeneration,
              not_not.mp hmodality, fun hidempotent => ?_⟩
            split at h
            · cases h
            · split at h
              · split at h
                · cases h
                next hplaced => exact not_not.mp fun hclick => hplaced ⟨hidempotent, hclick⟩
              next hfailed => exact absurd h hfailed

theorem beginsWithin : BeginsWithin limits now s r (State.begin limits now s (.action s.mode r)) := by
  cases hmode : s.mode with
  | dom => exact beginsWithin_dom
  | vision => exact beginsWithin_vision
  | hybrid => exact beginsWithin_hybrid
  | recovery => exact beginsWithin_recovery hmode

end Begin

end Handlers

/-! ## Limits over runs -/

/-- The log of a session agrees with the counters that its limits are checked by. -/
structure Metered.Logged (limits : Limits) (budgets : ObservationLimits) (s : Metered)
    (log : List Effect) : Prop where
  processed : log.count .processed = s.session.actionCount
  navigated : 1 + log.count .navigated = s.session.navigationCount
  keeps : KeepsLimits limits budgets s log

section Runs

variable {limits : Limits} {budgets : ObservationLimits} {s : Metered} {log : List Effect}

/-- How a request leaves its session: counted as it was, and closed where a counter has gone over
its limit. -/
structure Metered.Follows (budgets : ObservationLimits) (s t : Metered) : Prop where
  actions : t.session.actionCount = s.session.actionCount
  navigations : t.session.navigationCount = s.session.navigationCount
  closed : t.session.closed = false → s.session.closed = false
  bounded : s.meter.Bounded budgets → t.meter.Bounded budgets
  within : t.session.closed = false → s.meter.Within budgets → t.meter.Within budgets

theorem close_closed (t : Metered) : t.close.session.closed = true := by
  unfold Metered.close
  by_cases hclosed : t.session.closed = true
  · rw [if_pos hclosed]
    exact hclosed
  · rw [if_neg hclosed]
    rfl

theorem close_follows (t : Metered) : t.Follows budgets t.close := by
  have hclosed : t.close.session.closed = false → False := fun h =>
    absurd ((close_closed t).symm.trans h) (by decide)
  have hsame : t.close.session.actionCount = t.session.actionCount ∧
      t.close.session.navigationCount = t.session.navigationCount ∧ t.close.meter = t.meter := by
    unfold Metered.close
    by_cases h : t.session.closed = true
    · rw [if_pos h]
      exact ⟨rfl, rfl, rfl⟩
    · rw [if_neg h]
      exact ⟨rfl, rfl, rfl⟩
  exact ⟨hsame.1, hsame.2.1, fun h => absurd (hclosed h) id, fun h => hsame.2.2 ▸ h,
    fun h => absurd (hclosed h) id⟩

theorem leave_follows {r : Metered × Handler} (hgoes : s.Goes budgets r) :
    s.Follows budgets (Metered.leave r) := by
  have hopen : ∀ h : Handler, (∀ after, h ≠ .close after) → r.2 = h → s.Follows budgets r.1 := by
    intro h hnot heq
    refine ⟨hgoes.counts.actions, hgoes.counts.navigations,
      fun hclosed => hgoes.counts.kept.closed.symm.trans hclosed, hgoes.bounded, fun _ hmeter => ?_⟩
    rcases hgoes.within hmeter with hwithin | ⟨after, hafter⟩
    · exact hwithin
    · exact absurd (heq.symm.trans hafter) (hnot after)
  obtain ⟨t, h⟩ := r
  cases h with
  | close after =>
    have hclose : t.Follows budgets t.close := close_follows t
    have hclosed : t.close.session.closed = false → False := fun h =>
      absurd ((close_closed t).symm.trans h) (by decide)
    exact ⟨hclose.actions.trans hgoes.counts.actions,
      hclose.navigations.trans hgoes.counts.navigations, fun h => absurd (hclosed h) id,
      fun h => hclose.bounded (hgoes.bounded h), fun h => absurd (hclosed h) id⟩
  | answer reply => exact hopen (.answer reply) (fun _ h => by cases h) rfl
  | dispatch => exact hopen .dispatch (fun _ h => by cases h) rfl
  | observe b c g => exact hopen (.observe b c g) (fun _ h => by cases h) rfl
  | refresh => exact hopen .refresh (fun _ h => by cases h) rfl
  | closing after => exact hopen (.closing after) (fun _ h => by cases h) rfl

/-- A request that only observes or closes adds nothing to the log. -/
theorem Metered.Logged.follow {t : Metered} (h : s.Logged limits budgets log)
    (hfollows : s.Follows budgets t) : t.Logged limits budgets log := by
  obtain ⟨hprocessed, hnavigated, hkeeps⟩ := h
  refine ⟨hprocessed.trans hfollows.actions.symm, hnavigated.trans hfollows.navigations.symm,
    hkeeps.actions, hkeeps.navigations, hkeeps.waits, hkeeps.dispatches,
    hfollows.bounded hkeeps.bounded, fun hclosed => ?_⟩
  exact hfollows.within hclosed (hkeeps.within (hfollows.closed hclosed))

theorem look_follows (sessionEpoch : Nat) (v : Look) :
    s.Follows budgets (s.look budgets sessionEpoch v) := by
  have hsame : s.Follows budgets s := leave_follows (s.goes_same (.answer .raised))
  unfold Metered.look
  by_cases hepoch : s.session.mode = .recovery ∧ s.session.recoveryEpoch ≠ some sessionEpoch
  · show s.Follows budgets (if _ then _ else _)
    rw [if_pos hepoch]
    exact hsame
  · show s.Follows budgets (if _ then _ else _)
    rw [if_neg hepoch]
    cases v.glances with
    | nil => exact close_follows s
    | cons g rest =>
      have hcharges : Charges budgets s.meter (refreshHybrid budgets s.meter
          (if s.session.mode = .recovery then .dom else v.modality) g) :=
        refreshHybrid_charges _
      refine leave_follows ⟨s.session.counts_afterOutcome _, hcharges.bounded, fun h => ?_⟩
      rcases hcharges.within h with hwithin | ⟨refusal, hrefused⟩
      · exact .inl hwithin
      · exact .inr ⟨.raised, congrArg afterRefresh hrefused⟩

/-- Effects that the counters of the session account for. -/
structure Accounts (limits : Limits) (s t : Session) (effects : List Effect) : Prop where
  processed : t.actionCount = s.actionCount + effects.count .processed
  navigated : t.navigationCount = s.navigationCount + effects.count .navigated
  actions : t.actionCount ≤ limits.maxActions
  navigations : t.navigationCount ≤ limits.maxNavigations
  waits : ∀ durationMs, .waited durationMs ∈ effects → durationMs ≤ limits.maxWaitMs
  dispatches : ∀ elapsed, .dispatched elapsed ∈ effects →
    elapsed ≤ limits.maxSessionSeconds * second
  closed : t.closed = s.closed

theorem Metered.Logged.extend {t : Session} {effects : List Effect}
    (h : s.Logged limits budgets log) (haccounts : Accounts limits s.session t effects) :
    Metered.Logged limits budgets ⟨t, s.meter⟩ (log ++ effects) := by
  obtain ⟨hprocessed, hnavigated, hkeeps⟩ := h
  have hprocesses : (log ++ effects).count .processed = t.actionCount := by
    rw [List.count_append, hprocessed, haccounts.processed]
  have hnavigates : 1 + (log ++ effects).count .navigated = t.navigationCount := by
    rw [List.count_append, haccounts.navigated, ← hnavigated, Nat.add_assoc]
  refine ⟨hprocesses, hnavigates, ?_, ?_, ?_, ?_, hkeeps.bounded, fun hclosed => ?_⟩
  · rw [hprocesses]
    exact haccounts.actions
  · rw [hnavigates]
    exact haccounts.navigations
  · intro durationMs hmem
    rcases List.mem_append.mp hmem with hmem | hmem
    · exact hkeeps.waits durationMs hmem
    · exact haccounts.waits durationMs hmem
  · intro elapsed hmem
    rcases List.mem_append.mp hmem with hmem | hmem
    · exact hkeeps.dispatches elapsed hmem
    · exact haccounts.dispatches elapsed hmem
  · exact hkeeps.within (haccounts.closed.symm.trans hclosed)

theorem Metered.Logged.counters (h : s.Logged limits budgets log) :
    s.session.actionCount ≤ limits.maxActions ∧
      s.session.navigationCount ≤ limits.maxNavigations := by
  rw [← h.processed, ← h.navigated]
  exact ⟨h.keeps.actions, h.keeps.navigations⟩

theorem counted_logged {b : Session × Handler} {now : Time} {r : ActionRequest}
    (h : s.Logged limits budgets log) (hbegins : BeginsWithin limits now s.session r b) :
    Metered.Logged limits budgets ⟨b.1, s.meter⟩ (log ++ countedEffects s.session b.1) := by
  obtain ⟨hactions, hnavigations⟩ := h.counters
  rcases hbegins.counted with hsame | ⟨hcounted, hroom⟩
  · have hnone : countedEffects s.session b.1 = [] := if_pos (by rw [hsame])
    rw [hnone, List.append_nil, hsame]
    exact h
  · have hone : countedEffects s.session b.1 = [.processed] := by
      refine if_neg ?_
      rw [hcounted]
      show ¬ s.session.actionCount + 1 = s.session.actionCount
      omega
    rw [hone, hcounted]
    refine h.extend ⟨rfl, rfl, hroom, hnavigations, fun _ hmem => ?_, fun _ hmem => ?_, rfl⟩
    · cases List.mem_singleton.mp hmem
    · cases List.mem_singleton.mp hmem

/-- What a dispatch adds to a session that is in time. -/
theorem dispatch_accounts {t : Session} {a : Action} {v : Look}
    (htime : ¬ timedOut limits s.session v.now) (hactions : t.actionCount ≤ limits.maxActions)
    (hnavigations : t.navigationCount ≤ limits.maxNavigations)
    (hnavigates : a.type = .navigate → t.navigationCount < limits.maxNavigations)
    (hwaits : a.type = .wait → a.durationMs ≤ limits.maxWaitMs) :
    Accounts limits t (t.navigated a v.dispatch) (dispatchEffects s.session a v) := by
  have helapsed : v.now - s.session.startedAt ≤ limits.maxSessionSeconds * second :=
    Nat.le_of_not_lt htime
  have hplain : ∀ effects : List Effect,
      (effects = [] ∨ ∃ durationMs, effects = [.waited durationMs] ∧ durationMs ≤ limits.maxWaitMs) →
      Accounts limits t t (.dispatched (v.now - s.session.startedAt) :: effects) := by
    intro effects heffects
    have hcounts : effects.count .processed = 0 ∧ effects.count .navigated = 0 := by
      rcases heffects with hnone | ⟨durationMs, hone, _⟩
      · rw [hnone]
        exact ⟨rfl, rfl⟩
      · rw [hone]
        exact ⟨rfl, rfl⟩
    refine ⟨?_, ?_, hactions, hnavigations, ?_, ?_, rfl⟩
    · rw [List.count_cons_of_ne (by simp), hcounts.1]
      rfl
    · rw [List.count_cons_of_ne (by simp), hcounts.2]
      rfl
    · intro durationMs hmem
      rcases heffects with hnone | ⟨waited, hone, hle⟩
      · rw [hnone] at hmem
        cases List.mem_singleton.mp hmem
      · rw [hone] at hmem
        rcases List.mem_cons.mp hmem with hmem | hmem
        · cases hmem
        · cases List.mem_singleton.mp hmem
          exact hle
    · intro elapsed hmem
      rcases List.mem_cons.mp hmem with hmem | hmem
      · cases hmem
        exact helapsed
      · rcases heffects with hnone | ⟨waited, hone, _⟩
        · rw [hnone] at hmem
          cases hmem
        · rw [hone] at hmem
          cases List.mem_singleton.mp hmem
  have hstays : a.type ≠ .navigate → t.navigated a v.dispatch = t := fun h =>
    if_neg fun hboth => h hboth.1
  unfold dispatchEffects
  cases htype : a.type with
  | navigate =>
    by_cases hrefused : v.dispatch = .refused
    · have hsame : t.navigated a v.dispatch = t := if_neg fun hboth => hboth.2 hrefused
      rw [hsame]
      show Accounts limits t t (_ :: if v.dispatch = .refused then [] else [.navigated])
      rw [if_pos hrefused]
      exact hplain [] (.inl rfl)
    · have hnext : t.navigated a v.dispatch =
          { t with navigationCount := t.navigationCount + 1 } := if_pos ⟨htype, hrefused⟩
      rw [hnext]
      show Accounts limits t _ (_ :: if v.dispatch = .refused then [] else [.navigated])
      rw [if_neg hrefused]
      refine ⟨rfl, rfl, hactions, hnavigates htype, ?_, ?_, rfl⟩
      · intro durationMs hmem
        rcases List.mem_cons.mp hmem with hmem | hmem
        · cases hmem
        · cases List.mem_singleton.mp hmem
      · intro elapsed hmem
        rcases List.mem_cons.mp hmem with hmem | hmem
        · cases hmem
          exact helapsed
        · cases List.mem_singleton.mp hmem
  | wait =>
    rw [hstays (by rw [htype]; decide)]
    exact hplain [.waited a.durationMs] (.inr ⟨a.durationMs, rfl, hwaits htype⟩)
  | click | fill | select | read | scroll | finish | fail =>
    rw [hstays (by rw [htype]; decide)]
    exact hplain [] (.inl rfl)

theorem act_logged {r : ActionRequest} {v : Look} (h : s.Logged limits budgets log)
    (hcompliant : Held.Compliant limits s.session (.act r v)) :
    (s.act limits budgets r v).1.Logged limits budgets
      (log ++ (s.act limits budgets r v).2) := by
  have hbegins : BeginsWithin limits v.now s.session r
      (State.begin limits v.now s.session (.action s.session.mode r)) := beginsWithin
  have hcounted := counted_logged h hbegins
  unfold Metered.act
  cases hbegin : State.begin limits v.now s.session (.action s.session.mode r) with
  | mk t handler =>
    rw [hbegin] at hbegins hcounted
    have hstays : ∀ handler : Handler, Metered.Logged limits budgets
        (Metered.leave (Metered.advance budgets s.session.mode r.action ⟨t, s.meter⟩ handler
          v.glances)) (log ++ countedEffects s.session t) := fun handler =>
      hcounted.follow (leave_follows (goes_advance s.session.mode r.action v.glances _ handler))
    cases handler with
    | dispatch =>
      obtain ⟨_, htime, hlimits⟩ := hbegins.dispatched rfl
      have ht : t = s.session.counted := (hbegins.dispatched rfl).1
      have hnavigations : t.navigationCount = s.session.navigationCount := by
        rw [ht]
        rfl
      have hboth : (r.action.type = .navigate → t.navigationCount < limits.maxNavigations) ∧
          (r.action.type = .wait → r.action.durationMs ≤ limits.maxWaitMs) := by
        rw [hnavigations]
        by_cases hmode : s.session.mode = .recovery
        · refine hcompliant hmode (dispatchable_of_dispatch ?_)
          rw [hmode] at hbegin
          exact congrArg Prod.snd hbegin
        · exact hlimits hmode
      obtain ⟨hactions, hroom⟩ := hcounted.counters
      have haccounts := dispatch_accounts htime hactions hroom hboth.1 hboth.2
      have hdispatched := hcounted.extend haccounts
      rw [List.append_assoc] at hdispatched
      exact hdispatched.follow (leave_follows (goes_advance s.session.mode r.action v.glances _ _))
    | observe b c g => exact hstays (.observe b c g)
    | refresh => exact hstays .refresh
    | close after => exact hstays (.close after)
    | closing after => exact hstays (.closing after)
    | answer reply => exact hstays (.answer reply)

theorem perform_logged (request : Held) (h : s.Logged limits budgets log)
    (hcompliant : request.Compliant limits s.session) :
    (s.perform limits budgets request).1.Logged limits budgets
      (log ++ (s.perform limits budgets request).2) := by
  cases request with
  | act r v => exact act_logged h hcompliant
  | look sessionEpoch v =>
    show Metered.Logged limits budgets _ (log ++ [])
    rw [List.append_nil]
    exact h.follow (look_follows sessionEpoch v)
  | close =>
    show Metered.Logged limits budgets _ (log ++ [])
    rw [List.append_nil]
    exact h.follow (close_follows s)

theorem after_logged (requests : List Held) :
    ∀ (s : Metered) (log : List Effect), s.Logged limits budgets log →
      Compliant limits budgets s requests →
      (s.after limits budgets requests).1.Logged limits budgets
        (log ++ (s.after limits budgets requests).2) := by
  induction requests with
  | nil =>
    intro s log h _
    show s.Logged limits budgets (log ++ [])
    rw [List.append_nil]
    exact h
  | cons request rest ih =>
    intro s log h hcompliant
    have hnext := ih _ _ (perform_logged request h hcompliant.1) hcompliant.2
    rw [List.append_assoc] at hnext
    exact hnext

theorem create_logged {mode : Mode} {sessionId : String} {startedAt : Time}
    {sessionEpoch : Option Nat} {g : Glance} (hroom : 0 < limits.maxNavigations)
    (h : Metered.create budgets mode sessionId startedAt sessionEpoch g = some s) :
    s.Logged limits budgets [] := by
  have hcharges : Charges budgets {} (takeObservation budgets mode false
      (Site.fresh mode sessionId startedAt sessionEpoch).session {} g) :=
    takeObservation_charges mode false _
  have hbounded : Meter.Bounded budgets {} := ⟨Nat.zero_le _, Nat.zero_le _⟩
  have hwithin : Meter.Within budgets {} := ⟨Nat.zero_le _, Nat.zero_le _, Nat.zero_le _⟩
  unfold Metered.create at h
  cases htaken : takeObservation budgets mode false
      (Site.fresh mode sessionId startedAt sessionEpoch).session {} g with
  | mk m o =>
    rw [htaken] at hcharges
    simp only [htaken] at h
    cases o with
    | built view =>
      cases h
      refine ⟨rfl, rfl, Nat.zero_le _, hroom, fun _ hmem => absurd hmem (List.not_mem_nil),
        fun _ hmem => absurd hmem (List.not_mem_nil), hcharges.bounded hbounded, fun _ => ?_⟩
      rcases hcharges.within hwithin with hmeter | ⟨refusal, hrefused⟩
      · exact hmeter
      · cases hrefused
    | refused _ | security | invalidValue | timeout | browserError | failed | cancelled => cases h

end Runs

/-- Over every run of a session of any mode in which each navigation and each wait of a recovery
action that is dispatched is within its limit, all hard limits hold. -/
theorem limits_hold (limits : Limits) (budgets : ObservationLimits) {mode : Mode}
    {sessionId : String} {startedAt : Time} {sessionEpoch : Option Nat} {g : Glance} {s : Metered}
    (requests : List Held) (hroom : 0 < limits.maxNavigations)
    (hcreate : Metered.create budgets mode sessionId startedAt sessionEpoch g = some s)
    (hcompliant : Compliant limits budgets s requests) :
    KeepsLimits limits budgets (s.after limits budgets requests).1
      (s.after limits budgets requests).2 :=
  (after_logged requests s [] (create_logged hroom hcreate) hcompliant).keeps

/-! ## A navigation of a recovery session -/

def sandboxPage : Glance where
  dom := .ok { observation := { observationId := "obs_1" }, bytes := 1000 }
  vision := .error .failed

def recoverySession : Metered where
  session :=
    { sessionId := "bw_1", mode := .recovery, startedAt := 0, observationId := "obs_1"
      hybridGeneration := 1, hybridModality := some .dom, recoveryEpoch := some 1 }
  meter :=
    { hybridObservationCount := 1, hybridDomObservationBytes := 1000, routeSignals := true }

theorem recoverySession_created :
    Metered.create {} .recovery "bw_1" 0 (some 1) sandboxPage = some recoverySession := rfl

def navigateOnce : List Held :=
  [.act { action := { type := .navigate }, sessionId := "bw_1", sessionEpoch := 1, generation := 1 }
    { now := second, glances := [sandboxPage] }]

theorem limits_hold_navigateOnce :
    Compliant {} {} recoverySession navigateOnce ∧
      KeepsLimits {} {} (recoverySession.after {} {} navigateOnce).1
        (recoverySession.after {} {} navigateOnce).2 := by
  have hcompliant : Compliant {} {} recoverySession navigateOnce :=
    ⟨fun _ _ => ⟨fun _ => by decide, fun h => by cases h⟩, trivial⟩
  exact ⟨hcompliant, limits_hold {} {} navigateOnce (by decide) recoverySession_created hcompliant⟩

/-- With one navigation allowed, the initial one, a recovery session navigates again. -/
theorem recovery_navigates_too_often :
    (recoverySession.after { maxNavigations := 1 } {} navigateOnce).2 =
        [.processed, .dispatched second, .navigated] ∧
      ¬ KeepsLimits { maxNavigations := 1 } {}
        (recoverySession.after { maxNavigations := 1 } {} navigateOnce).1
        (recoverySession.after { maxNavigations := 1 } {} navigateOnce).2 := by
  have hlog : (recoverySession.after { maxNavigations := 1 } {} navigateOnce).2 =
      [.processed, .dispatched second, .navigated] := rfl
  refine ⟨hlog, fun h => ?_⟩
  have hnavigations := h.navigations
  rw [hlog] at hnavigations
  exact absurd hnavigations (by decide)

end FlowPilot.Browser
