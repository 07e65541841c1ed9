import FlowPilot.Browser.Worker
import FlowPilot.Lib.FairLock
import FlowPilot.Lib.System

/-!
# Requests on one session

Any number of action, observation and delete requests and the expiry task share a session.  Each
looks the session up, waits for its lock and then runs its handler; between two suspensions no
other task of the event loop runs.
-/

open FlowPilot.Lib

namespace FlowPilot.Browser

inductive Operation where
  /-- The action endpoint of a mode. -/
  | action (endpoint : Mode) (r : ActionRequest)
  /-- `request_hybrid_observation` and `request_recovery_observation`. -/
  | observe (endpoint : Mode) (sessionEpoch : Nat)
  /-- The delete endpoint of a mode. -/
  | delete (endpoint : Mode)
  /-- `_expire_session`; before its lookup it sleeps. -/
  | expiry
  deriving DecidableEq

inductive Phase where
  | looking
  | waiting
  | running (h : Handler)
  | ended (reply : Reply)
  deriving DecidableEq

structure Request where
  op : Operation
  phase : Phase := .looking
  deriving DecidableEq

/-- A request is named by its position. -/
structure State where
  session : Session
  /-- The session is in `_sessions`. -/
  registered : Bool := true
  lock : FairLock Nat := {}
  requests : List Request := []
  /-- The requests whose action was handed to `_dispatch`. -/
  dispatched : List Nat := []

namespace State

def setPhase (s : State) (i : Nat) (r : Request) (phase : Phase) : State :=
  { s with requests := s.requests.set i { r with phase := phase } }

/-- `_require_session` and the lookups of the delete endpoints: the answer to a request that goes
no further. -/
def lookup (s : State) : Operation → Option Reply
  | .action endpoint _ | .observe endpoint _ =>
    if ¬ s.registered ∨ s.session.closed ∨ s.session.mode ≠ endpoint then some .unknownSession
    else none
  | .delete .recovery =>
    if ¬ s.registered ∨ s.session.mode ≠ .recovery ∨ s.session.recoveryEpoch = none then
      some .unknownSession
    else none
  | .delete _ => if ¬ s.registered then some .sessionClosed else none
  | .expiry => if ¬ s.registered ∨ s.session.closed then some .returned else none

/-- The handler from the grant of the lock on. -/
def begin (limits : Limits) (now : Time) (s : Session) : Operation → Session × Handler
  | .action .dom r => executeAction limits s r now
  | .action .vision r => executeVisionAction limits s r now
  | .action .hybrid r => executeHybridAction limits s r now
  | .action .recovery r => executeRecoveryAction limits s r now
  | .observe .recovery sessionEpoch =>
    if s.recoveryEpoch ≠ some sessionEpoch then (s, .answer .unknownSession) else (s, .refresh)
  | .observe _ _ => (s, .refresh)
  | .delete .recovery => (s, .close .sessionClosed)
  | .delete endpoint =>
    if s.mode ≠ endpoint then (s, .answer .unknownSession) else (s, .close .sessionClosed)
  | .expiry => (s, .close .returned)

/-- The request gives the lock back with its reply. -/
def finish (s : State) (i : Nat) (r : Request) (reply : Reply) : State :=
  { s.setPhase i r (.ended reply) with lock := s.lock.release }

/-- The handler goes on to its next suspension.  A session that is closed already is not closed
again. -/
def goto (s : State) (i : Nat) (r : Request) : Handler → State
  | .answer reply => s.finish i r reply
  | .close after =>
    if s.session.closed then s.finish i r after
    else { s.setPhase i r (.running (.closing after)) with session := s.session.close }
  | .dispatch =>
    { s.setPhase i r (.running .dispatch) with dispatched := s.dispatched ++ [i] }
  | h => s.setPhase i r (.running h)

end State

/-- `session.navigation_count += 1`, unless the address was refused. -/
def Session.navigated (s : Session) (a : Action) (o : DispatchOutcome) : Session :=
  if a.type = .navigate ∧ o ≠ .refused then { s with navigationCount := s.navigationCount + 1 }
  else s

def Session.afterOutcome (s : Session) : ObserveOutcome → Session
  | .built o => s.observed o
  | _ => s

def State.initial (session : Session) : State := { session := session }

inductive State.Step (limits : Limits) : State → State → Prop where
  | arrive (s : State) (op : Operation) :
      Step limits s { s with requests := s.requests ++ [{ op := op }] }
  | refuse (s : State) (i : Nat) (r : Request) (reply : Reply)
      (hr : s.requests[i]? = some r) (hphase : r.phase = .looking)
      (hlookup : s.lookup r.op = some reply) :
      Step limits s (s.setPhase i r (.ended reply))
  | queue (s : State) (i : Nat) (r : Request)
      (hr : s.requests[i]? = some r) (hphase : r.phase = .looking)
      (hlookup : s.lookup r.op = none) :
      Step limits s { s.setPhase i r .waiting with lock := s.lock.request i }
  | wake (s : State) (i : Nat) (hnext : s.lock.Next i) :
      Step limits s { s with lock := s.lock.wake }
  | enter (s : State) (i : Nat) (r : Request) (now : Time)
      (hr : s.requests[i]? = some r) (hphase : r.phase = .waiting)
      (hholder : s.lock.holder = some i) :
      Step limits s ({ s with session := (State.begin limits now s.session r.op).1 }.goto i r
        (State.begin limits now s.session r.op).2)
  | dispatchEnds (s : State) (i : Nat) (r : Request) (endpoint : Mode) (request : ActionRequest)
      (o : DispatchOutcome) (hr : s.requests[i]? = some r)
      (hphase : r.phase = .running .dispatch) (hop : r.op = .action endpoint request) :
      Step limits s ({ s with session := s.session.navigated request.action o }.goto i r
        (afterDispatch endpoint request.action o))
  | observeEnds (s : State) (i : Nat) (r : Request) (endpoint : Mode) (request : ActionRequest)
      (success : Bool) (category : Option ErrorCategory) (guarded : Bool) (o : ObserveOutcome)
      (hr : s.requests[i]? = some r)
      (hphase : r.phase = .running (.observe success category guarded))
      (hop : r.op = .action endpoint request) :
      Step limits s ({ s with session := s.session.afterOutcome o }.goto i r
        (afterObserve endpoint request.action success category guarded o))
  | refreshEnds (s : State) (i : Nat) (r : Request) (o : ObserveOutcome)
      (hr : s.requests[i]? = some r) (hphase : r.phase = .running .refresh) :
      Step limits s ({ s with session := s.session.afterOutcome o }.goto i r (afterRefresh o))
  | handlesClosed (s : State) (i : Nat) (r : Request) (after : Reply)
      (hr : s.requests[i]? = some r) (hphase : r.phase = .running (.closing after)) :
      Step limits s ({ s with registered := false }.finish i r after)
  /-- What breaks `_close_handles` off leaves the closed session in `_sessions`. -/
  | closeBroken (s : State) (i : Nat) (r : Request) (after reply : Reply)
      (hr : s.requests[i]? = some r) (hphase : r.phase = .running (.closing after))
      (hreply : reply = .raised ∨ reply = .cancelled) :
      Step limits s (s.finish i r reply)
  | cancelLooking (s : State) (i : Nat) (r : Request)
      (hr : s.requests[i]? = some r) (hphase : r.phase = .looking) :
      Step limits s (s.setPhase i r (.ended .cancelled))
  | cancelWaiting (s : State) (i : Nat) (r : Request)
      (hr : s.requests[i]? = some r) (hphase : r.phase = .waiting) :
      Step limits s
        { s.setPhase i r (.ended .cancelled) with
          lock := if s.lock.holder = some i then s.lock.release else s.lock.abandon i }

end FlowPilot.Browser
