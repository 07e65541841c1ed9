import FlowPilot.Browser.Closing
import FlowPilot.Lib.Escape

/-!
# From launch to close

Opening, observing, registering and closing a session are sequences of awaited steps, and any of
them may fail or be cancelled.  What each step does comes from outside; what is open, registered and
marked closed when a call ends is what the code makes of it.
-/

open FlowPilot.Lib

namespace FlowPilot.Browser

/-! ## The awaited steps -/

/-- What leaves an awaited step that does not return. -/
inductive Raise where
  | playwrightError
  /-- An `Exception` that no clause of a handler names. -/
  | error
  /-- A cancellation, which `except Exception` lets through. -/
  | cancelled
  deriving DecidableEq, Repr

/-- The handles that have been opened and not been closed. -/
structure Handles where
  playwright : Bool := false
  browser : Bool := false
  context : Bool := false
  page : Bool := false
  /-- A browser was launched, open or not. -/
  launched : Bool := false
  deriving DecidableEq

/-- All handles of a live session. -/
def Handles.all : Handles := ⟨true, true, true, true, true⟩

def Handles.AllClosed (h : Handles) : Prop :=
  h.playwright = false ∧ h.browser = false ∧ h.context = false ∧ h.page = false

/-- How a `close` of a handle ends.  One that raises may have closed its handle or not. -/
structure CloseEnd where
  raises : Option Raise := none
  closes : Bool := true
  deriving DecidableEq

/-- How the steps of `_close_session` end. -/
structure Closing where
  page : CloseEnd := {}
  context : CloseEnd := {}
  browser : CloseEnd := {}
  playwright : CloseEnd := {}
  /-- The lock of the session table. -/
  table : Option Raise := none
  deriving DecidableEq

/-- How the steps of `create_session` and its siblings end. -/
structure Creation where
  /-- `resolve_navigation`, before anything is started. -/
  address : Option Raise := none
  start : Option Raise := none
  launch : Option Raise := none
  newContext : Option Raise := none
  newPage : Option Raise := none
  route : Option Raise := none
  /-- `goto` and the check of the address behind it. -/
  goto : Option Raise := none
  observe : Option Raise := none
  view : Observation := { observationId := "" }
  /-- The lock of the session table in `_register_session`. -/
  table : Option Raise := none
  closing : Closing := {}

/-- How the steps of one request end. -/
structure Events where
  now : Time
  dispatch : DispatchOutcome := .done
  /-- The outcomes of its observations, in turn. -/
  observations : List ObserveOutcome := []
  closing : Closing := {}

/-- A session and what the runtime holds for it. -/
structure Site where
  session : Session
  handles : Handles := {}
  /-- The session is in `_sessions`. -/
  registered : Bool := false
  /-- Its expiry task is pending. -/
  expiring : Bool := false
  deriving DecidableEq

abbrev Call := EStateM Raise Site

/-! ## Closing -/

def await (o : Option Raise) : Call Unit :=
  match o with
  | none => pure ()
  | some e => throw e

/-- A handle is closed by a `close` that returns, and possibly by one that raises. -/
def CloseEnd.takesEffect (e : CloseEnd) : Bool := e.raises = none || e.closes

/-- `_close_handles` goes on after it. -/
def CloseEnd.suppressed (e : CloseEnd) : Bool :=
  e.raises = none || e.raises = some .playwrightError

/-- One turn of the loop of `_close_handles`. -/
def closeHandle (isOpen : Handles → Bool) (clear : Handles → Handles) (e : CloseEnd) :
    Call Unit := do
  let site ← get
  if isOpen site.handles then
    if e.takesEffect then modify fun s => { s with handles := clear s.handles }
    if e.suppressed then pure () else await e.raises

/-- A context goes with its page, a browser with its context, and the driver with its browser. -/
def Handles.closePage (h : Handles) : Handles := { h with page := false }

def Handles.closeContext (h : Handles) : Handles := { h.closePage with context := false }

def Handles.closeBrowser (h : Handles) : Handles := { h.closeContext with browser := false }

def Handles.stopPlaywright (h : Handles) : Handles := { h.closeBrowser with playwright := false }

/-- `_close_handles`. -/
def closeHandles (c : Closing) : Call Unit := do
  closeHandle (·.page) Handles.closePage c.page
  closeHandle (·.context) Handles.closeContext c.context
  closeHandle (·.browser) Handles.closeBrowser c.browser
  closeHandle (·.playwright) Handles.stopPlaywright c.playwright

/-- `_close_session`. -/
def closeSession (c : Closing) : Call Unit := do
  let site ← get
  if site.session.closed then return
  modify fun s => { s with session := s.session.close, expiring := false }
  closeHandles c
  await c.table
  modify fun s => { s with registered := false }

/-! ## Creating -/

/-- `_open_session`. -/
def openSession (w : Creation) : Call Unit := do
  await w.address
  await w.start
  modify fun s => { s with handles := { s.handles with playwright := true } }
  tryCatch (do
    await w.launch
    modify fun s => { s with handles := { s.handles with browser := true, launched := true } }
    await w.newContext
    modify fun s => { s with handles := { s.handles with context := true } }
    await w.newPage
    modify fun s => { s with handles := { s.handles with page := true } }
    await w.route
    await w.goto) fun e => do
      closeHandles w.closing
      throw e

/-- `_register_session`; behind its lock nothing is awaited. -/
def registerSession (w : Creation) : Call Unit := do
  await w.table
  modify fun s => { s with registered := true, expiring := true }

/-- The first observation.  `_refresh_hybrid_observation` has a clause of its own for a
cancellation. -/
def firstObservation (mode : Mode) (w : Creation) : Call Unit :=
  match mode with
  | .dom | .vision => await w.observe
  | .hybrid | .recovery =>
    tryCatch (await w.observe) fun e => do
      if e = .cancelled then closeSession w.closing
      throw e

/-- The clause behind the first observation: `except Exception` or `except BaseException`. -/
def closesOn (mode : Mode) (e : Raise) : Bool :=
  match mode with
  | .dom | .vision => e ≠ .cancelled
  | .hybrid | .recovery => true

/-- `create_session`, `create_vision_session`, `create_hybrid_session` and
`create_recovery_session`. -/
def createSession (mode : Mode) (w : Creation) : Call Unit := do
  openSession w
  tryCatch (do
    firstObservation mode w
    modify fun s => { s with session := s.session.observed w.view }
    registerSession w) fun e => do
      if closesOn mode e then closeSession w.closing
      throw e

/-! ## Requests -/

/-- The handler goes on until it answers or closes the session.  One that still waits for an
observation has been left by an exception. -/
def advance (endpoint : Mode) (a : Action) :
    Session → Handler → List ObserveOutcome → Session × Handler
  | s, .observe success category guarded, o :: rest =>
    advance endpoint a (s.afterOutcome o) (afterObserve endpoint a success category guarded o) rest
  | s, .close after, _ => (s, .close after)
  | s, .answer reply, _ => (s, .answer reply)
  | s, _, _ => (s, .answer .raised)

/-- A request from the grant of the session lock to its answer or to `_close_session`. -/
def handle (limits : Limits) (s : Session) (op : Operation) (e : Events) : Session × Handler :=
  match op, State.begin limits e.now s op with
  | .action endpoint r, (t, .dispatch) =>
    advance endpoint r.action (t.navigated r.action e.dispatch)
      (afterDispatch endpoint r.action e.dispatch) e.observations
  | .action endpoint r, (t, h) => advance endpoint r.action t h e.observations
  | _, (t, .refresh) =>
    match e.observations with
    | [] => (t, .close .raised)
    | o :: _ => (t.afterOutcome o, afterRefresh o)
  | _, (t, h) => (t, h)

/-- A request that holds the session lock.  One that its lookup refuses, or that is cancelled while
it waits, leaves the session alone. -/
def serve (limits : Limits) (op : Operation) (e : Events) : Call Reply := do
  let site ← get
  let (s, h) := handle limits site.session op e
  set { site with session := s }
  match h with
  | .close after =>
    closeSession e.closing
    return after
  | .answer reply => return reply
  | _ => return .raised

/-! ## Sites -/

/-- What a call leaves behind, whether it returns or raises. -/
def Call.after {α : Type} (x : Call α) (s : Site) : Site :=
  match x s with
  | .ok _ t | .error _ t => t

/-- The session of a create call, before anything is open. -/
def Site.fresh (mode : Mode) (sessionId : String) (startedAt : Time) (sessionEpoch : Option Nat) :
    Site where
  session :=
    { sessionId := sessionId, mode := mode, startedAt := startedAt, recoveryEpoch := sessionEpoch }

/-- The site at the start of each of the requests and behind the last one. -/
def Site.along (limits : Limits) : Site → List (Operation × Events) → List Site
  | s, [] => [s]
  | s, (op, e) :: rest => s :: ((serve limits op e).after s).along limits rest

/-- The site at the end of each call: of the one that creates the session, and of the requests if
it returns. -/
def Site.lifetime (limits : Limits) (mode : Mode) (s : Site) (w : Creation)
    (requests : List (Operation × Events)) : List Site :=
  match createSession mode w s with
  | .ok _ t => t.along limits requests
  | .error _ t => [t]

/-- In the table, with a pending expiry task, and not marked closed. -/
structure Site.Live (s : Site) : Prop where
  registered : s.registered = true
  expiring : s.expiring = true
  unclosed : s.session.closed = false

/-- No longer in the table, and all handles of the browser closed, if there was one. -/
structure Site.Gone (s : Site) : Prop where
  handles : s.handles.launched = true → s.handles.AllClosed
  unregistered : s.registered = false

/-- Nothing has leaked. -/
structure Site.Settled (s : Site) : Prop where
  accounted : s.Live ∨ s.Gone
  closed : s.session.closed = true → s.Gone

/-! ## What the awaited steps must come to -/

/-- `_close_handles` closes every handle: it comes to the driver, as no close before it raises
anything but a Playwright error, and the driver stops. -/
structure Closing.Empties (c : Closing) (h : Handles) : Prop where
  page : h.page = true → c.page.suppressed = true
  context : h.context = true → c.context.suppressed = true
  browser : h.browser = true → c.browser.suppressed = true
  playwright : h.playwright = true → c.playwright.takesEffect = true

/-- `_close_session` also comes to the table. -/
structure Closing.Completes (c : Closing) (h : Handles) : Prop where
  empties : c.Empties h
  suppressed : c.playwright.suppressed = true
  table : c.table = none

/-- The handles that the opening obtained. -/
def Creation.opened (w : Creation) : Handles where
  playwright := w.address = none && w.start = none
  browser := w.address = none && w.start = none && w.launch = none
  context := w.address = none && w.start = none && w.launch = none && w.newContext = none
  page :=
    w.address = none && w.start = none && w.launch = none && w.newContext = none && w.newPage = none
  launched := w.address = none && w.start = none && w.launch = none

/-- `_open_session` returns. -/
def Creation.Opens (w : Creation) : Prop := w.opened.page = true ∧ w.route = none ∧ w.goto = none

/-- The first step behind the opening that raises. -/
def Creation.failure (w : Creation) : Option Raise := w.observe.or w.table

/-- A creation that fails behind its launch closes what it opened, and one that is cancelled behind
its opening has a clause for it. -/
structure Creation.Spared (mode : Mode) (w : Creation) : Prop where
  opening : ¬ w.Opens → w.opened.launched = true → w.closing.Empties w.opened
  caught : w.Opens → ∀ e, w.failure = some e →
    closesOn mode e = true ∧ w.closing.Empties w.opened

/-- A request that closes the session completes the closing. -/
def Events.Spared (limits : Limits) (s : Site) (op : Operation) (e : Events) : Prop :=
  s.session.closed = false →
    ∀ after, (handle limits s.session op e).2 = .close after → e.closing.Completes s.handles

def SparedAlong (limits : Limits) : Site → List (Operation × Events) → Prop
  | _, [] => True
  | s, (op, e) :: rest => e.Spared limits s op ∧ SparedAlong limits ((serve limits op e).after s) rest

/-- Each call of the lifetime is spared. -/
def SparedThroughout (limits : Limits) (mode : Mode) (s : Site) (w : Creation)
    (requests : List (Operation × Events)) : Prop :=
  w.Spared mode ∧ ∀ a t, createSession mode w s = .ok a t → SparedAlong limits t requests

/-! ## Closing the handles -/

section Closes

variable {s : Site}

theorem await_ensures {o : Option Raise} {Q : Unit → Site → Prop} {E : Raise → Site → Prop}
    (hreturns : o = none → Q () s) (hraises : ∀ e, o = some e → E e s) :
    Ensures (await o) s Q E := by
  cases o with
  | none => exact hreturns rfl
  | some e => exact hraises e rfl

/-- What is open after a `close`. -/
def Handles.shut (h : Handles) (isOpen : Handles → Bool) (clear : Handles → Handles)
    (e : CloseEnd) : Handles :=
  if isOpen h = true ∧ e.takesEffect = true then clear h else h

theorem suppressed_eq_false {e : CloseEnd} (h : e.suppressed = false) :
    ∃ r, e.raises = some r := by
  cases hr : e.raises with
  | none =>
    unfold CloseEnd.suppressed at h
    rw [hr] at h
    cases h
  | some r => exact ⟨r, rfl⟩

theorem closeHandle_ensures {isOpen : Handles → Bool} {clear : Handles → Handles} {e : CloseEnd}
    {Q : Unit → Site → Prop} {E : Raise → Site → Prop}
    (hgoes : (isOpen s.handles = true → e.suppressed = true) →
      Q () { s with handles := s.handles.shut isOpen clear e })
    (hcut : isOpen s.handles = true → e.suppressed = false →
      ∀ r, E r { s with handles := s.handles.shut isOpen clear e }) :
    Ensures (closeHandle isOpen clear e) s Q E := by
  unfold closeHandle
  refine Ensures.bind (Ensures.of_get ?_)
  by_cases hopen : isOpen s.handles = true
  · rw [if_pos hopen]
    have hafter : ∀ t, t = { s with handles := s.handles.shut isOpen clear e } →
        Ensures (if e.suppressed = true then pure () else await e.raises) t Q E := by
      intro t ht
      subst ht
      by_cases hsuppressed : e.suppressed = true
      · rw [if_pos hsuppressed]
        exact Ensures.of_pure (hgoes fun _ => hsuppressed)
      · have hsuppressed : e.suppressed = false := by simpa using hsuppressed
        have hraises := suppressed_eq_false hsuppressed
        rw [if_neg (by rw [hsuppressed]; decide)]
        refine await_ensures (fun h => ?_) fun r _ => hcut hopen hsuppressed r
        rw [h] at hraises
        exact absurd hraises (by simp)
    by_cases htakes : e.takesEffect = true
    · have hshut : s.handles.shut isOpen clear e = clear s.handles := if_pos ⟨hopen, htakes⟩
      rw [if_pos htakes]
      refine Ensures.bind (Ensures.of_modify (hafter _ ?_))
      rw [hshut]
    · have hshut : s.handles.shut isOpen clear e = s.handles := if_neg fun h => htakes h.2
      rw [if_neg htakes]
      refine Ensures.bind (Ensures.of_pure (hafter _ ?_))
      rw [hshut]
  · have hshut : s.handles.shut isOpen clear e = s.handles := if_neg fun h => hopen h.1
    rw [if_neg hopen]
    have h := hgoes fun h => absurd h hopen
    rw [hshut] at h
    exact Ensures.of_pure h

/-- What `_close_handles` does to its site. -/
structure Closing.Leaves (c : Closing) (s t : Site) : Prop where
  handles : t.handles.AllClosed ↔ c.Empties s.handles
  launched : t.handles.launched = s.handles.launched
  session : t.session = s.session
  registered : t.registered = s.registered
  expiring : t.expiring = s.expiring

/-- A close leaves alone what its effect leaves alone. -/
theorem Handles.shut_keeps {f : Handles → Bool} {clear : Handles → Handles}
    (hclear : ∀ h, f (clear h) = f h) (h : Handles) (isOpen : Handles → Bool) (e : CloseEnd) :
    f (h.shut isOpen clear e) = f h := by
  unfold shut
  split
  · exact hclear h
  · rfl

/-- Of an open driver only its stop leaves nothing open. -/
theorem Handles.shut_playwright {h : Handles} (hopen : h.playwright = true) (e : CloseEnd) :
    (h.shut (·.playwright) stopPlaywright e).AllClosed ↔ e.takesEffect = true := by
  unfold shut
  by_cases htakes : e.takesEffect = true
  · rw [if_pos ⟨hopen, htakes⟩]
    exact iff_of_true ⟨rfl, rfl, rfl, rfl⟩ htakes
  · rw [if_neg fun h => htakes h.2]
    exact iff_of_false (fun h => absurd (h.1.symm.trans hopen) (by decide)) htakes

/-- While the driver is open the order of the closes decides what stays open. -/
theorem closeHandles_ensures (c : Closing) (hopen : s.handles.playwright = true) :
    Ensures (closeHandles c) s
      (fun _ t => c.Leaves s t ∧ c.playwright.suppressed = true)
      (fun _ t => c.Leaves s t ∧ ¬ (c.Empties s.handles ∧ c.playwright.suppressed = true)) := by
  -- the driver is closed last, so a cut leaves it open
  have hcut : ∀ t : Site, t.handles.playwright = true → ¬ c.Empties s.handles →
      (t.handles.AllClosed ↔ c.Empties s.handles) := fun t ht hnot =>
    iff_of_false (fun h => absurd (h.1.symm.trans ht) (by decide)) hnot
  -- what each close leaves alone of the ones behind it
  have hpage (f : Handles → Bool) (hf : ∀ h, f h.closePage = f h) :
      f (s.handles.shut (·.page) Handles.closePage c.page) = f s.handles :=
    Handles.shut_keeps hf _ _ _
  have hcontext (f : Handles → Bool) (hf : ∀ h, f h.closePage = f h)
      (hf' : ∀ h, f h.closeContext = f h) :
      f ((s.handles.shut (·.page) Handles.closePage c.page).shut (·.context)
        Handles.closeContext c.context) = f s.handles :=
    (Handles.shut_keeps hf' _ _ _).trans (hpage f hf)
  have hbrowser (f : Handles → Bool) (hf : ∀ h, f h.closePage = f h)
      (hf' : ∀ h, f h.closeContext = f h) (hf'' : ∀ h, f h.closeBrowser = f h) :
      f (((s.handles.shut (·.page) Handles.closePage c.page).shut (·.context)
        Handles.closeContext c.context).shut (·.browser) Handles.closeBrowser c.browser) =
          f s.handles :=
    (Handles.shut_keeps hf'' _ _ _).trans (hcontext f hf hf')
  have hplaywright := (hbrowser (·.playwright) (fun _ => rfl) (fun _ => rfl) fun _ => rfl).trans
    hopen
  unfold closeHandles
  refine Ensures.bind (closeHandle_ensures (fun hpageEnd => ?_) fun hpageOpen hraised r => ?_)
  · refine Ensures.bind (closeHandle_ensures (fun hcontextEnd => ?_)
      fun hcontextOpen hraised r => ?_)
    · refine Ensures.bind (closeHandle_ensures (fun hbrowserEnd => ?_)
        fun hbrowserOpen hraised r => ?_)
      · have hleaves : ∀ t : Site, t.handles = (((s.handles.shut (·.page) Handles.closePage
              c.page).shut (·.context) Handles.closeContext c.context).shut (·.browser)
              Handles.closeBrowser c.browser).shut (·.playwright) Handles.stopPlaywright
              c.playwright → (t.handles.AllClosed ↔ c.Empties s.handles) := by
          intro t ht
          rw [hpage (·.context) fun _ => rfl] at hcontextEnd
          rw [hcontext (·.browser) (fun _ => rfl) fun _ => rfl] at hbrowserEnd
          rw [ht, Handles.shut_playwright hplaywright]
          exact ⟨fun h => ⟨hpageEnd, hcontextEnd, hbrowserEnd, fun _ => h⟩,
            fun h => h.playwright hopen⟩
        have hstop : ∀ h, (Handles.stopPlaywright h).launched = h.launched := fun _ => rfl
        have hlaunched :=
          (Handles.shut_keeps (f := (·.launched)) hstop _ (·.playwright) c.playwright).trans
            (hbrowser (·.launched) (fun _ => rfl) (fun _ => rfl) fun _ => rfl)
        refine closeHandle_ensures (fun hend => ?_) fun _ hraised r => ?_
        · exact ⟨⟨hleaves _ rfl, hlaunched, rfl, rfl, rfl⟩, hend hplaywright⟩
        · refine ⟨⟨hleaves _ rfl, hlaunched, rfl, rfl, rfl⟩, fun h => ?_⟩
          exact absurd (h.2.symm.trans hraised) (by decide)
      · rw [hcontext (·.browser) (fun _ => rfl) fun _ => rfl] at hbrowserOpen
        have hnot : ¬ c.Empties s.handles := fun h =>
          absurd ((h.browser hbrowserOpen).symm.trans hraised) (by decide)
        exact ⟨⟨hcut _ hplaywright hnot, hbrowser (·.launched) (fun _ => rfl) (fun _ => rfl)
          fun _ => rfl, rfl, rfl, rfl⟩, fun h => hnot h.1⟩
    · rw [hpage (·.context) fun _ => rfl] at hcontextOpen
      have hnot : ¬ c.Empties s.handles := fun h =>
        absurd ((h.context hcontextOpen).symm.trans hraised) (by decide)
      exact ⟨⟨hcut _ ((hcontext (·.playwright) (fun _ => rfl) fun _ => rfl).trans hopen) hnot,
        hcontext (·.launched) (fun _ => rfl) fun _ => rfl, rfl, rfl, rfl⟩, fun h => hnot h.1⟩
  · have hnot : ¬ c.Empties s.handles := fun h =>
      absurd ((h.page hpageOpen).symm.trans hraised) (by decide)
    exact ⟨⟨hcut _ ((hpage (·.playwright) fun _ => rfl).trans hopen) hnot,
      hpage (·.launched) fun _ => rfl, rfl, rfl, rfl⟩, fun h => hnot h.1⟩

/-- What `_close_session` does to a session that is not marked closed. -/
structure Closing.Shuts (c : Closing) (s t : Site) : Prop where
  handles : t.handles.AllClosed ↔ c.Empties s.handles
  launched : t.handles.launched = s.handles.launched
  session : t.session = s.session.close
  expiring : t.expiring = false

theorem closeSession_closed (c : Closing) {Q : Unit → Site → Prop} {E : Raise → Site → Prop}
    (hclosed : s.session.closed = true) (h : Q () s) : Ensures (closeSession c) s Q E := by
  unfold closeSession
  refine Ensures.bind (Ensures.of_get ?_)
  rw [if_pos hclosed]
  exact Ensures.of_pure h

theorem closeSession_ensures (c : Closing) (hopen : s.handles.playwright = true)
    (hunclosed : s.session.closed = false) :
    Ensures (closeSession c) s
      (fun _ t => c.Shuts s t ∧ t.registered = false ∧ c.playwright.suppressed = true ∧
        c.table = none)
      (fun _ t => c.Shuts s t ∧ t.registered = s.registered ∧ ¬ c.Completes s.handles) := by
  unfold closeSession
  refine Ensures.bind (Ensures.of_get ?_)
  rw [if_neg (by rw [hunclosed]; decide)]
  refine Ensures.bind (Ensures.of_modify (Ensures.bind ?_))
  have hclose := closeHandles_ensures
    (s := { s with session := s.session.close, expiring := false }) c hopen
  refine hclose.mono ?_ ?_
  · rintro ⟨⟩ t ⟨hleaves, hsuppressed⟩
    have hshuts : c.Shuts s t :=
      ⟨hleaves.handles, hleaves.launched, hleaves.session, hleaves.expiring⟩
    refine Ensures.bind (await_ensures (fun htable => ?_) fun e htable => ?_)
    · exact Ensures.of_modify ⟨⟨hshuts.handles, hshuts.launched, hshuts.session,
        hshuts.expiring⟩, rfl, hsuppressed, htable⟩
    · refine ⟨hshuts, hleaves.registered, fun h => ?_⟩
      rw [h.table] at htable
      cases htable
  · rintro e t ⟨hleaves, hcut⟩
    exact ⟨⟨hleaves.handles, hleaves.launched, hleaves.session, hleaves.expiring⟩,
      hleaves.registered, fun h => hcut ⟨h.empties, h.suppressed⟩⟩

/-- A session that is not in the table only has handles to close. -/
theorem closeSession_unregistered (c : Closing) (hopen : s.handles.playwright = true)
    (hunclosed : s.session.closed = false) (hunregistered : s.registered = false) :
    Ensures (closeSession c) s
      (fun _ t => c.Shuts s t ∧ t.registered = false)
      (fun _ t => c.Shuts s t ∧ t.registered = false) :=
  (closeSession_ensures c hopen hunclosed).mono (fun _ _ h => ⟨h.1, h.2.1⟩)
    fun _ _ h => ⟨h.1, h.2.1.trans hunregistered⟩

theorem Closing.Shuts.closed {c : Closing} {t : Site} (h : c.Shuts s t) :
    t.session.closed = true := by
  rw [h.session]
  rfl

/-- A session marked closed is settled when it is gone. -/
theorem Site.settled_closed {t : Site} (hclosed : t.session.closed = true) :
    t.Settled ↔ t.Gone :=
  ⟨fun h => h.closed hclosed, fun h => ⟨.inr h, fun _ => h⟩⟩

theorem Closing.Shuts.gone_iff {c : Closing} {t : Site} (h : c.Shuts s t)
    (hlaunched : s.handles.launched = true) (hunregistered : t.registered = false) :
    t.Gone ↔ c.Empties s.handles :=
  ⟨fun hgone => h.handles.mp (hgone.handles (h.launched.trans hlaunched)),
    fun hempties => ⟨fun _ => h.handles.mpr hempties, hunregistered⟩⟩

end Closes

/-! ## Creations -/

section Creations

variable {s : Site} {w : Creation}

theorem Closing.empties_none (c : Closing) : c.Empties {} where
  page h := absurd h (by decide)
  context h := absurd h (by decide)
  browser h := absurd h (by decide)
  playwright h := absurd h (by decide)

/-- What an opening that fails leaves behind. -/
structure Creation.Fails (w : Creation) (s t : Site) : Prop where
  handles : t.handles.AllClosed ↔ w.closing.Empties w.opened
  launched : t.handles.launched = w.opened.launched
  session : t.session = s.session
  registered : t.registered = s.registered
  failed : ¬ w.Opens

/-- A step of the opening raised: what it had opened is what has to be closed. -/
theorem openingFails_ensures {start : Site} {e : Raise} {Q : Unit → Site → Prop}
    (hsession : s.session = start.session) (hregistered : s.registered = start.registered)
    (hhandles : s.handles = w.opened) (hplaywright : w.opened.playwright = true)
    (hfails : ¬ w.Opens) :
    Ensures (do closeHandles w.closing; throw e : Call Unit) s Q fun _ t => w.Fails start t := by
  have hclose := closeHandles_ensures (s := s) w.closing (by rw [hhandles, hplaywright])
  have hleaves : ∀ t, w.closing.Leaves s t → w.Fails start t := by
    intro t h
    refine ⟨?_, ?_, h.session.trans hsession, h.registered.trans hregistered, hfails⟩
    · rw [← hhandles]
      exact h.handles
    · rw [← hhandles]
      exact h.launched
  exact Ensures.bind (hclose.mono (fun _ t h => Ensures.of_throw (hleaves t h.1))
    fun _ t h => hleaves t h.1)

theorem openSession_ensures (hnone : s.handles = {}) :
    Ensures (openSession w) s
      (fun _ t => t = { s with handles := w.opened } ∧ w.Opens) fun _ t => w.Fails s t := by
  unfold openSession
  -- before the driver runs there is nothing to close
  have hearly : w.opened = {} → w.Fails s s := by
    intro hopened
    refine ⟨iff_of_true ?_ ?_, ?_, rfl, rfl, fun h => ?_⟩
    · rw [hnone]
      exact ⟨rfl, rfl, rfl, rfl⟩
    · rw [hopened]
      exact w.closing.empties_none
    · rw [hnone, hopened]
    · rw [Creation.Opens, hopened] at h
      exact absurd h.1 (by decide)
  refine Ensures.bind (await_ensures (fun haddress => ?_) fun e haddress => ?_)
  · refine Ensures.bind (await_ensures (fun hstart => ?_) fun e hstart => ?_)
    · have hplaywright : w.opened.playwright = true := by simp [Creation.opened, haddress, hstart]
      refine Ensures.bind (Ensures.of_modify (Ensures.of_tryCatch ?_))
      refine Ensures.bind (await_ensures (fun hlaunch => ?_) fun e hlaunch => ?_)
      · refine Ensures.bind (Ensures.of_modify (Ensures.bind
          (await_ensures (fun hcontext => ?_) fun e hcontext => ?_)))
        · refine Ensures.bind (Ensures.of_modify (Ensures.bind
            (await_ensures (fun hpage => ?_) fun e hpage => ?_)))
          · have hopened : w.opened = .all := by
              simp [Creation.opened, Handles.all, haddress, hstart, hlaunch, hcontext, hpage]
            refine Ensures.bind (Ensures.of_modify (Ensures.bind
              (await_ensures (fun hroute => ?_) fun e hroute => ?_)))
            · refine await_ensures (fun hgoto => ?_) fun e hgoto => ?_
              · refine ⟨?_, ?_, hroute, hgoto⟩
                · rw [hopened]
                  rfl
                · rw [hopened]
                  rfl
              · refine openingFails_ensures rfl rfl ?_ hplaywright fun h => ?_
                · rw [hopened]
                  rfl
                · rw [h.2.2] at hgoto
                  cases hgoto
            · refine openingFails_ensures rfl rfl ?_ hplaywright fun h => ?_
              · rw [hopened]
                rfl
              · rw [h.2.1] at hroute
                cases hroute
          · have hopened : w.opened = ⟨true, true, true, false, true⟩ := by
              simp [Creation.opened, haddress, hstart, hlaunch, hcontext, hpage]
            refine openingFails_ensures rfl rfl ?_ hplaywright fun h => ?_
            · rw [hopened, hnone]
            · rw [Creation.Opens, hopened] at h
              exact absurd h.1 (by decide)
        · have hopened : w.opened = ⟨true, true, false, false, true⟩ := by
            simp [Creation.opened, haddress, hstart, hlaunch, hcontext]
          refine openingFails_ensures rfl rfl ?_ hplaywright fun h => ?_
          · rw [hopened, hnone]
          · rw [Creation.Opens, hopened] at h
            exact absurd h.1 (by decide)
      · have hopened : w.opened = ⟨true, false, false, false, false⟩ := by
          simp [Creation.opened, haddress, hstart, hlaunch]
        refine openingFails_ensures rfl rfl ?_ hplaywright fun h => ?_
        · rw [hopened, hnone]
        · rw [Creation.Opens, hopened] at h
          exact absurd h.1 (by decide)
    · exact hearly (by simp [Creation.opened, haddress, hstart])
  · exact hearly (by simp [Creation.opened, haddress])

/-- The site of an open session that is not in the table. -/
structure Site.Opened (s : Site) (w : Creation) : Prop where
  handles : s.handles = w.opened
  opened : w.opened = .all
  unclosed : s.session.closed = false
  unregistered : s.registered = false

/-- A step behind the opening has raised: the session is still open, or its own clause has closed
it. -/
def AfterFailure (mode : Mode) (w : Creation) (e : Raise) (t : Site) : Prop :=
  (w.failure = some e ∧ t.Opened w) ∨
    (closesOn mode e = true ∧ (∀ e', w.failure = some e' → closesOn mode e' = true) ∧
      w.failure ≠ none ∧ t.session.closed = true ∧ (t.Gone ↔ w.closing.Empties w.opened))

theorem firstObservation_ensures {mode : Mode} (hopened : s.Opened w) :
    Ensures (firstObservation mode w) s (fun _ t => t = s ∧ w.observe = none)
      (AfterFailure mode w) := by
  have hplain : Ensures (await w.observe) s (fun _ t => t = s ∧ w.observe = none)
      fun e t => t = s ∧ w.observe = some e :=
    await_ensures (fun h => ⟨rfl, h⟩) fun e h => ⟨rfl, h⟩
  have hfailure : ∀ e, w.observe = some e → w.failure = some e := by
    intro e h
    rw [Creation.failure, h]
    rfl
  have hclause : (∀ e, closesOn mode e = true) →
      Ensures (tryCatch (await w.observe) fun e => do
        if e = .cancelled then closeSession w.closing
        throw e) s (fun _ t => t = s ∧ w.observe = none) (AfterFailure mode w) := by
    intro hcloses
    refine Ensures.of_tryCatch (hplain.mono (fun _ _ h => h) ?_)
    rintro e t ⟨rfl, he⟩
    by_cases hcancelled : e = .cancelled
    · rw [if_pos hcancelled]
      have hall : t.handles = .all := hopened.handles.trans hopened.opened
      have hshut : ∀ r u, w.closing.Shuts t u ∧ u.registered = false →
          AfterFailure mode w r u := by
        rintro r u ⟨hshuts, hunregistered⟩
        refine .inr ⟨hcloses r, fun e' _ => hcloses e', ?_, hshuts.closed, ?_⟩
        · rw [hfailure e he]
          exact Option.some_ne_none e
        · rw [hshuts.gone_iff (by rw [hall]; rfl) hunregistered, hopened.handles]
      exact Ensures.bind ((closeSession_unregistered w.closing (by rw [hall]; rfl) hopened.unclosed
        hopened.unregistered).mono (fun _ u h => Ensures.of_throw (hshut e u h)) hshut)
    · rw [if_neg hcancelled]
      exact Ensures.bind (Ensures.of_pure (Ensures.of_throw (.inl ⟨hfailure e he, hopened⟩)))
  have huncaught : Ensures (await w.observe) s (fun _ t => t = s ∧ w.observe = none)
      (AfterFailure mode w) := by
    refine hplain.mono (fun _ _ h => h) ?_
    rintro e t ⟨rfl, he⟩
    exact .inl ⟨hfailure e he, hopened⟩
  cases mode with
  | dom => exact huncaught
  | vision => exact huncaught
  | hybrid => exact hclause fun _ => rfl
  | recovery => exact hclause fun _ => rfl

theorem Creation.opened_full (h : w.opened.page = true) : w.opened = .all := by
  simp only [opened, Bool.and_eq_true] at h
  obtain ⟨⟨⟨⟨haddress, hstart⟩, hlaunch⟩, hcontext⟩, hpage⟩ := h
  simp [opened, Handles.all, haddress, hstart, hlaunch, hcontext, hpage]

/-- What is not in the table and still open has leaked. -/
theorem Site.Opened.not_settled (h : s.Opened w) : ¬ s.Settled := by
  intro hsettled
  rcases hsettled.accounted with hlive | hgone
  · exact absurd (hlive.registered.symm.trans h.unregistered) (by decide)
  · have hall : s.handles = .all := h.handles.trans h.opened
    have hclosed := (hgone.handles (by rw [hall]; rfl)).1
    rw [hall] at hclosed
    cases hclosed

/-- The clause behind the first observation. -/
theorem failureClause_ensures {mode : Mode} {e : Raise} (hopens : w.Opens)
    (h : AfterFailure mode w e s) :
    Ensures (do
        if closesOn mode e then closeSession w.closing
        throw e : Call Unit) s
      (fun _ t => t.Live ∧ t.handles = .all ∧ w.Spared mode)
      (fun _ t => t.Settled ↔ w.Spared mode) := by
  have hspared : (∀ e, w.failure = some e → closesOn mode e = true) → w.failure ≠ none →
      (w.closing.Empties w.opened ↔ w.Spared mode) := by
    intro hcloses hfails
    obtain ⟨e₀, he₀⟩ := Option.ne_none_iff_exists'.mp hfails
    exact ⟨fun h => ⟨fun hnot => absurd hopens hnot, fun _ e he => ⟨hcloses e he, h⟩⟩,
      fun h => (h.caught hopens e₀ he₀).2⟩
  rcases h with ⟨hfailure, hopened⟩ | ⟨hcloses, hall, hfails, hclosed, hgone⟩
  · by_cases hcloses : closesOn mode e = true
    · rw [if_pos hcloses]
      have hopen : s.handles = .all := hopened.handles.trans hopened.opened
      have hall : ∀ e', w.failure = some e' → closesOn mode e' = true := by
        intro e' he'
        rw [hfailure] at he'
        cases he'
        exact hcloses
      have hend : ∀ t, w.closing.Shuts s t ∧ t.registered = false →
          (t.Settled ↔ w.Spared mode) := by
        rintro t ⟨hshuts, hunregistered⟩
        rw [Site.settled_closed hshuts.closed, hshuts.gone_iff (by rw [hopen]; rfl) hunregistered,
          hopened.handles]
        exact hspared hall (by rw [hfailure]; exact Option.some_ne_none e)
      exact Ensures.bind ((closeSession_unregistered w.closing (by rw [hopen]; rfl)
        hopened.unclosed hopened.unregistered).mono (fun _ t h => Ensures.of_throw (hend t h))
          fun _ t h => hend t h)
    · rw [if_neg hcloses]
      refine Ensures.bind (Ensures.of_pure (Ensures.of_throw ?_))
      exact ⟨fun h => absurd h hopened.not_settled,
        fun h => absurd (h.caught hopens e hfailure).1 hcloses⟩
  · rw [if_pos hcloses]
    refine Ensures.bind (closeSession_closed w.closing hclosed (Ensures.of_throw ?_))
    rw [Site.settled_closed hclosed, hgone]
    exact hspared hall hfails

theorem createSession_ensures {mode : Mode} (hnone : s.handles = {})
    (hunclosed : s.session.closed = false) (hunregistered : s.registered = false) :
    Ensures (createSession mode w) s
      (fun _ t => t.Live ∧ t.handles = .all ∧ w.Spared mode)
      (fun _ t => t.Settled ↔ w.Spared mode) := by
  unfold createSession
  refine Ensures.bind ((openSession_ensures hnone).mono ?_ ?_)
  · rintro _ t ⟨rfl, hopens⟩
    have hopened : Site.Opened { s with handles := w.opened } w :=
      ⟨rfl, Creation.opened_full hopens.1, hunclosed, hunregistered⟩
    refine Ensures.of_tryCatch (Ensures.bind ((firstObservation_ensures hopened).mono ?_ ?_))
    · rintro _ u ⟨rfl, hobserve⟩
      refine Ensures.bind (Ensures.of_modify ?_)
      refine Ensures.bind (await_ensures (fun htable => ?_) fun e htable => ?_)
      · refine Ensures.of_modify ⟨⟨rfl, rfl, hunclosed⟩, Creation.opened_full hopens.1, ?_⟩
        refine ⟨fun hnot => absurd hopens hnot, fun _ e he => ?_⟩
        rw [Creation.failure, hobserve, htable] at he
        cases he
      · refine failureClause_ensures hopens (.inl ⟨?_, rfl, hopened.opened, hunclosed,
          hunregistered⟩)
        rw [Creation.failure, hobserve, htable]
        rfl
    · intro e t hfailed
      exact failureClause_ensures hopens hfailed
  · rintro _ t ⟨hhandles, hlaunched, hsession, hregistered, hnot⟩
    have hgone : t.Gone ↔ (w.opened.launched = true → w.closing.Empties w.opened) := by
      rw [← hlaunched]
      exact ⟨fun h hl => hhandles.mp (h.handles hl),
        fun h => ⟨fun hl => hhandles.mpr (h hl), hregistered.trans hunregistered⟩⟩
    constructor
    · intro h
      have hnotlive : ¬ t.Live := fun hlive =>
        absurd ((hlive.registered.symm.trans hregistered).trans hunregistered) (by decide)
      exact ⟨fun _ => hgone.mp (h.accounted.resolve_left hnotlive), fun hopens => absurd hopens hnot⟩
    · intro h
      refine ⟨.inr (hgone.mpr (h.opening hnot)), fun hclosed => ?_⟩
      rw [hsession, hunclosed] at hclosed
      cases hclosed

end Creations

/-! ## Requests on an open session -/

section Requests

variable {limits : Limits} {s : Site} {op : Operation} {e : Events}

theorem kept_advance (endpoint : Mode) (a : Action) (os : List ObserveOutcome) :
    ∀ (s : Session) (h : Handler), s.Kept (advance endpoint a s h os).1 := by
  induction os with
  | nil =>
    intro s h
    cases h <;> exact .refl s
  | cons o rest ih =>
    intro s h
    cases h with
    | observe success category guarded =>
      exact (s.kept_afterOutcome o).trans
        (ih (s.afterOutcome o) (afterObserve endpoint a success category guarded o))
    | dispatch | refresh | close _ | closing _ | answer _ => exact .refl s

theorem kept_handle (limits : Limits) (s : Session) (op : Operation) (e : Events) :
    s.Kept (handle limits s op e).1 := by
  have hbegin := kept_begin limits e.now s op
  unfold handle
  split
  · rename_i endpoint r t heq
    rw [heq] at hbegin
    exact (hbegin.trans (t.kept_navigated r.action e.dispatch)).trans (kept_advance _ _ _ _ _)
  · rename_i heq
    rw [heq] at hbegin
    exact hbegin.trans (kept_advance _ _ _ _ _)
  · rename_i heq
    rw [heq] at hbegin
    split
    · exact hbegin
    · exact hbegin.trans (Session.kept_afterOutcome _ _)
  · rename_i heq
    rw [heq] at hbegin
    exact hbegin

/-- A session that is not marked closed is live with all its handles. -/
def Site.Standing (s : Site) : Prop :=
  s.session.closed = false → s.Live ∧ s.handles = .all

theorem ensures_after {α : Type} {x : Call α} {P : Site → Prop}
    (h : Ensures x s (fun _ t => P t) fun _ t => P t) : P (x.after s) := by
  unfold Ensures at h
  unfold Call.after
  split
  · rename_i hx
    rw [hx] at h
    exact h
  · rename_i hx
    rw [hx] at h
    exact h

/-- What a request does to its site: the handler only touches the session, and closes it at most at
its end. -/
theorem serve_ensures {P : Site → Prop}
    (hleaves : (∀ after, (handle limits s.session op e).2 ≠ .close after) →
      P { s with session := (handle limits s.session op e).1 })
    (hcloses : ∀ after, (handle limits s.session op e).2 = .close after →
      Ensures (closeSession e.closing) { s with session := (handle limits s.session op e).1 }
        (fun _ t => P t) fun _ t => P t) :
    P ((serve limits op e).after s) := by
  refine ensures_after ?_
  unfold serve
  refine Ensures.bind (Ensures.of_get ?_)
  cases hhandle : handle limits s.session op e with
  | mk t h =>
    rw [hhandle] at hleaves hcloses
    refine Ensures.bind (Ensures.of_set ?_)
    cases h with
    | close after =>
      exact Ensures.bind ((hcloses after rfl).mono (fun _ _ h => Ensures.of_pure h) fun _ _ h => h)
    | answer reply => exact Ensures.of_pure (hleaves fun after h => by cases h)
    | dispatch => exact Ensures.of_pure (hleaves fun after h => by cases h)
    | observe _ _ _ => exact Ensures.of_pure (hleaves fun after h => by cases h)
    | refresh => exact Ensures.of_pure (hleaves fun after h => by cases h)
    | closing _ => exact Ensures.of_pure (hleaves fun after h => by cases h)

theorem serve_standing (hstanding : s.Standing) : ((serve limits op e).after s).Standing := by
  have hkept := kept_handle limits s.session op e
  refine serve_ensures (fun _ hunclosed => ?_) fun after _ => ?_
  · obtain ⟨hlive, hhandles⟩ := hstanding (hkept.closed.symm.trans hunclosed)
    exact ⟨⟨hlive.registered, hlive.expiring, hunclosed⟩, hhandles⟩
  · cases hclosed : s.session.closed with
    | true =>
      have hclosed' := hkept.closed.trans hclosed
      exact closeSession_closed e.closing hclosed' fun h =>
        absurd (hclosed'.symm.trans h) (by decide)
    | false =>
      obtain ⟨hlive, hhandles⟩ := hstanding hclosed
      have hplaywright : s.handles.playwright = true := by
        rw [hhandles]
        rfl
      have hmarked : ∀ t : Site, e.closing.Shuts
          { s with session := (handle limits s.session op e).1 } t → t.Standing :=
        fun t hshuts h => absurd (hshuts.closed.symm.trans h) (by decide)
      have hclose := closeSession_ensures
        (s := { s with session := (handle limits s.session op e).1 }) e.closing hplaywright
        (hkept.closed.trans hclosed)
      exact hclose.mono (fun _ t h => hmarked t h.1) fun _ t h => hmarked t h.1

theorem serve_settled_iff (hstanding : s.Standing) (hsettled : s.Settled) :
    ((serve limits op e).after s).Settled ↔ e.Spared limits s op := by
  have hkept := kept_handle limits s.session op e
  cases hclosed : s.session.closed with
  | true =>
    -- a closed session is not closed again
    have hclosed' := hkept.closed.trans hclosed
    have hgone := hsettled.closed hclosed
    have hsame : Site.Settled { s with session := (handle limits s.session op e).1 } :=
      (Site.settled_closed hclosed').mpr ⟨hgone.handles, hgone.unregistered⟩
    have hspared : e.Spared limits s op := fun h => absurd (hclosed.symm.trans h) (by decide)
    exact iff_of_true (serve_ensures (fun _ => hsame) fun after _ =>
      closeSession_closed e.closing hclosed' hsame) hspared
  | false =>
    obtain ⟨hlive, hhandles⟩ := hstanding hclosed
    have hunclosed := hkept.closed.trans hclosed
    have hplaywright : s.handles.playwright = true := by
      rw [hhandles]
      rfl
    refine serve_ensures (P := fun t => t.Settled ↔ e.Spared limits s op) (fun hnot => ?_)
      fun after hcloses => ?_
    · refine iff_of_true ⟨.inl ⟨hlive.registered, hlive.expiring, hunclosed⟩, fun h => ?_⟩ ?_
      · exact absurd (hunclosed.symm.trans h) (by decide)
      · exact fun _ after h => absurd h (hnot after)
    · have hspared : e.Spared limits s op ↔ e.closing.Completes s.handles :=
        ⟨fun h => h hclosed after hcloses, fun h _ _ _ => h⟩
      rw [hspared]
      have hclose := closeSession_ensures
        (s := { s with session := (handle limits s.session op e).1 }) e.closing hplaywright
        hunclosed
      refine hclose.mono ?_ ?_
      · rintro _ t ⟨hshuts, hunregistered, hsuppressed, htable⟩
        rw [Site.settled_closed hshuts.closed,
          hshuts.gone_iff (by rw [hhandles]; rfl) hunregistered]
        exact ⟨fun h => ⟨h, hsuppressed, htable⟩, fun h => h.empties⟩
      · rintro _ t ⟨hshuts, hregistered, hnot⟩
        rw [Site.settled_closed hshuts.closed]
        refine iff_of_false (fun h => ?_) hnot
        exact absurd (h.unregistered.symm.trans (hregistered.trans hlive.registered)) (by decide)

theorem along_settled_iff (requests : List (Operation × Events)) :
    ∀ s : Site, s.Standing → s.Settled →
      ((∀ t ∈ s.along limits requests, t.Settled) ↔ SparedAlong limits s requests) := by
  induction requests with
  | nil =>
    intro s _ hsettled
    exact iff_of_true (fun t ht => by rw [List.mem_singleton.mp ht]; exact hsettled) trivial
  | cons request rest ih =>
    intro s hstanding hsettled
    obtain ⟨op, e⟩ := request
    have hstep : ((serve limits op e).after s).Settled ↔ e.Spared limits s op :=
      serve_settled_iff hstanding hsettled
    have hnext : ((serve limits op e).after s).Standing := serve_standing hstanding
    show (∀ t ∈ s :: ((serve limits op e).after s).along limits rest, t.Settled) ↔
      e.Spared limits s op ∧ SparedAlong limits ((serve limits op e).after s) rest
    rw [List.forall_mem_cons]
    constructor
    · rintro ⟨_, hall⟩
      have hafter : ((serve limits op e).after s).Settled :=
        hall _ (by cases rest <;> exact List.mem_cons_self ..)
      exact ⟨hstep.mp hafter, (ih _ hnext hafter).mp hall⟩
    · rintro ⟨hspared, hrest⟩
      have hafter := hstep.mpr hspared
      exact ⟨hsettled, (ih _ hnext hafter).mpr hrest⟩

end Requests

/-- In every mode a browser is accounted for at the end of each call, whatever its awaited steps
come to, exactly when each call is spared: a creation is not cancelled where only `except Exception`
stands behind it, and a closing that has begun runs to its end. -/
theorem no_leak_iff (limits : Limits) (mode : Mode) (sessionId : String) (startedAt : Time)
    (sessionEpoch : Option Nat) (w : Creation) (requests : List (Operation × Events)) :
    (∀ t ∈ (Site.fresh mode sessionId startedAt sessionEpoch).lifetime limits mode w requests,
        t.Settled) ↔
      SparedThroughout limits mode (Site.fresh mode sessionId startedAt sessionEpoch) w
        requests := by
  have hcreate : Ensures (createSession mode w)
      (Site.fresh mode sessionId startedAt sessionEpoch) _ _ := createSession_ensures rfl rfl rfl
  unfold Site.lifetime SparedThroughout
  cases hcall : createSession mode w (Site.fresh mode sessionId startedAt sessionEpoch) with
  | ok a t =>
    obtain ⟨hlive, hhandles, hspared⟩ := hcreate.ok hcall
    have hsettled : t.Settled :=
      ⟨.inl hlive, fun h => absurd (hlive.unclosed.symm.trans h) (by decide)⟩
    rw [along_settled_iff requests t (fun _ => ⟨hlive, hhandles⟩) hsettled]
    constructor
    · intro h
      refine ⟨hspared, fun b u hu => ?_⟩
      cases hu
      exact h
    · intro h
      exact h.2 a t rfl
  | error e t =>
    have hsettled := hcreate.error hcall
    constructor
    · intro h
      refine ⟨hsettled.mp (h t (List.mem_singleton.mpr rfl)), fun b u hu => ?_⟩
      cases hu
    · intro h u hu
      rw [List.mem_singleton.mp hu]
      exact hsettled.mpr h.1

/-- A session that is created and then ended by its finish is live at first and gone at last. -/
theorem no_leak_iff_finished :
    ∀ t ∈ (Site.fresh .dom "bw_1" 0 none).lifetime {} .dom {}
        [(Sample.finishAction, { now := second })], t.Settled := by
  refine (no_leak_iff {} .dom "bw_1" 0 none {} _).mpr ⟨⟨fun h => ?_, fun _ _ h => ?_⟩, ?_⟩
  · exact absurd ⟨rfl, rfl, rfl⟩ h
  · cases h
  · rintro a t hcreated
    cases hcreated
    exact ⟨fun _ _ _ => ⟨⟨fun _ => rfl, fun _ => rfl, fun _ => rfl, fun _ => rfl⟩, rfl, rfl⟩,
      trivial⟩

/-- A `create_session` that is cancelled during its first observation leaves its browser open. -/
theorem cancelled_creation_leaks :
    ¬ ∀ t ∈ (Site.fresh .dom "bw_1" 0 none).lifetime {} .dom { observe := some .cancelled } [],
      t.Settled := by
  intro h
  have hleft : (Site.fresh .dom "bw_1" 0 none).lifetime {} .dom
      { observe := some .cancelled } [] =
        [{ Site.fresh .dom "bw_1" 0 none with handles := .all }] := rfl
  have hsettled := h _ (by rw [hleft]; exact List.mem_singleton.mpr rfl)
  rcases hsettled.accounted with hlive | hgone
  · exact absurd hlive.registered (by decide)
  · exact absurd (hgone.handles rfl).1 (by decide)

end FlowPilot.Browser
