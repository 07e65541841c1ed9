import FlowPilot.Browser.Runtime

/-!
# Closed sessions

`_require_session` looks at the closed flag before the lock, and nobody looks at it behind the
lock.  So closed means closed where nobody whom that would let through waits for the lock while the
session is closed.
-/

open Relation
open FlowPilot.Lib

namespace FlowPilot.Browser

/-! ## What handlers keep -/

/-- A request leaves the mode and the epoch of its session and never opens it again. -/
structure Session.Kept (s t : Session) : Prop where
  mode : t.mode = s.mode
  epoch : t.recoveryEpoch = s.recoveryEpoch
  closed : t.closed = s.closed

theorem Session.Kept.refl (s : Session) : s.Kept s := ⟨rfl, rfl, rfl⟩

theorem Session.Kept.trans {s t u : Session} (h : s.Kept t) (h' : t.Kept u) : s.Kept u :=
  ⟨h'.mode.trans h.mode, h'.epoch.trans h.epoch, h'.closed.trans h.closed⟩

theorem Session.kept_counted (s : Session) : s.Kept s.counted := ⟨rfl, rfl, rfl⟩

theorem Session.kept_navigated (s : Session) (a : Action) (o : DispatchOutcome) :
    s.Kept (s.navigated a o) := by
  unfold navigated
  split
  · exact ⟨rfl, rfl, rfl⟩
  · exact .refl s

theorem Session.kept_afterOutcome (s : Session) (o : ObserveOutcome) :
    s.Kept (s.afterOutcome o) := by
  cases o <;> exact ⟨rfl, rfl, rfl⟩

theorem kept_begin (limits : Limits) (now : Time) (s : Session) (op : Operation) :
    s.Kept (State.begin limits now s op).1 := by
  cases op with
  | action endpoint r =>
      cases endpoint with
      | dom =>
          show s.Kept (executeAction limits s r now).1
          unfold executeAction
          split
          · exact .refl s
          · split
            · exact s.kept_counted
            · exact s.kept_counted
      | vision =>
          show s.Kept (executeVisionAction limits s r now).1
          unfold executeVisionAction
          split
          · exact .refl s
          · split
            · exact s.kept_counted
            · exact s.kept_counted
      | hybrid =>
          show s.Kept (executeHybridAction limits s r now).1
          unfold executeHybridAction
          split
          · exact .refl s
          · exact s.kept_counted
      | recovery =>
          show s.Kept (executeRecoveryAction limits s r now).1
          unfold executeRecoveryAction
          by_cases hspent : limits.maxActions ≤ s.actionCount ∨ timedOut limits s now
          · rw [if_pos hspent]
            exact .refl s
          · rw [if_neg hspent]
            exact s.kept_counted
  | observe endpoint sessionEpoch =>
      cases endpoint with
      | recovery =>
          show s.Kept (if s.recoveryEpoch ≠ some sessionEpoch then (s, _) else (s, _)).1
          split
          · exact .refl s
          · exact .refl s
      | dom | vision | hybrid => exact .refl s
  | delete endpoint =>
      cases endpoint with
      | recovery => exact .refl s
      | dom | vision | hybrid =>
          show s.Kept (if s.mode ≠ _ then (s, _) else (s, _)).1
          split
          · exact .refl s
          · exact .refl s
  | expiry => exact .refl s

/-! ## Answers about sessions that are not there -/

/-- What an endpoint answers about a session that it does not know: the delete endpoints of three
modes answer as if they had closed it. -/
def Operation.unknownAnswer : Operation → Reply
  | .action .. | .observe .. | .delete .recovery => .unknownSession
  | .delete _ => .sessionClosed
  | .expiry => .returned

theorem lookup_unregistered {s : State} (h : s.registered = false) (op : Operation) :
    s.lookup op = some op.unknownAnswer := by
  have hrefuse (b : Prop) : ¬ s.registered = true ∨ b := .inl (by rw [h]; decide)
  cases op with
  | action endpoint r => exact if_pos (hrefuse _)
  | observe endpoint sessionEpoch => exact if_pos (hrefuse _)
  | delete endpoint =>
      cases endpoint with
      | recovery => exact if_pos (hrefuse _)
      | dom | vision | hybrid => exact if_pos (by rw [h]; decide)
  | expiry => exact if_pos (hrefuse _)

/-- The reply is that of an unknown session. -/
def Operation.Unknown (op : Operation) (reply : Reply) : Prop :=
  reply = .unknownSession ∨ reply = op.unknownAnswer

/-- The reply reports that an action or an observation has succeeded. -/
def Reply.success : Reply → Bool
  | .result r => r.success
  | .observation => true
  | .sessionClosed | .unknownSession | .returned | .raised | .cancelled => false

theorem Operation.Unknown.success {op : Operation} {reply : Reply} (h : op.Unknown reply) :
    reply.success = false := by
  rcases h with rfl | rfl
  · rfl
  · cases op with
    | delete endpoint => cases endpoint <;> rfl
    | _ => rfl

/-- Behind the lock of a closed session the request is answered as on an unknown one. -/
def Operation.Idle (s : Session) : Operation → Prop
  | .action .. => False
  | .observe endpoint sessionEpoch => endpoint = .recovery ∧ s.recoveryEpoch ≠ some sessionEpoch
  | .delete endpoint => endpoint ≠ .recovery
  | .expiry => True

theorem Operation.Idle.kept {s t : Session} {op : Operation} (h : op.Idle s)
    (hepoch : t.recoveryEpoch = s.recoveryEpoch) : op.Idle t := by
  cases op with
  | action endpoint r => exact h
  | observe endpoint sessionEpoch => exact ⟨h.1, hepoch ▸ h.2⟩
  | delete endpoint => exact h
  | expiry => trivial

/-- When the session is closed, nobody waits for its lock who would be served, and afterwards no
delete of the recovery endpoint passes its lookup. -/
structure Unhurried (s t : State) : Prop where
  queue : s.session.closed = false → t.session.closed = true →
    ∀ (i : Nat) (r : Request), s.requests[i]? = some r → r.phase = .waiting →
      s.lock.holder ≠ some i → r.op.Idle s.session
  lookup : s.session.closed = true →
    ∀ (i : Nat) (r : Request), s.requests[i]? = some r → r.phase = .looking →
      r.op = .delete .recovery → t.requests[i]? ≠ some { r with phase := .waiting }

/-! ## Who runs has the lock -/

def Exclusive (s : State) : Prop :=
  ∀ (i : Nat) (r : Request) (h : Handler), s.requests[i]? = some r → r.phase = .running h →
    s.lock.holder = some i

variable {base s t : State} {i : Nat} {r : Request} {phase : Phase}

theorem getElem?_set_cases {requests : List Request} {j : Nat} {u v : Request}
    (h : (requests.set i v)[j]? = some u) : j = i ∧ u = v ∨ j ≠ i ∧ requests[j]? = some u := by
  rw [List.getElem?_set] at h
  by_cases hij : i = j
  · rw [if_pos hij] at h
    split at h
    · exact .inl ⟨hij.symm, (Option.some.inj h).symm⟩
    · cases h
  · rw [if_neg hij] at h
    exact .inr ⟨fun hji => hij hji.symm, h⟩

theorem Exclusive.set (h : Exclusive s)
    (hrequests : t.requests = s.requests.set i { r with phase := phase })
    (hself : ∀ handler, phase = .running handler → t.lock.holder = some i)
    (hothers : ∀ j, j ≠ i → s.lock.holder = some j → t.lock.holder = some j) : Exclusive t := by
  intro j u handler hu hrunning
  rw [hrequests] at hu
  rcases getElem?_set_cases hu with ⟨rfl, rfl⟩ | ⟨hne, hold⟩
  · exact hself handler hrunning
  · exact hothers j hne (h j u handler hold hrunning)

/-- A handler that does not come to its end keeps the lock. -/
theorem goto_spec (s : State) (i : Nat) (r : Request) (h : Handler) :
    ∃ phase, (s.goto i r h).requests = s.requests.set i { r with phase := phase } ∧
      ((∃ handler, phase = .running handler) ∧ (s.goto i r h).lock = s.lock ∨
        (∃ reply, phase = .ended reply) ∧ (s.goto i r h).lock = s.lock.release) := by
  cases h with
  | close after =>
      by_cases hclosed : s.session.closed = true
      · have hgoto : s.goto i r (.close after) = s.finish i r after := if_pos hclosed
        rw [hgoto]
        exact ⟨.ended after, rfl, .inr ⟨⟨after, rfl⟩, rfl⟩⟩
      · have hgoto : s.goto i r (.close after) =
            { s.setPhase i r (.running (.closing after)) with session := s.session.close } :=
          if_neg hclosed
        rw [hgoto]
        exact ⟨.running (.closing after), rfl, .inl ⟨⟨_, rfl⟩, rfl⟩⟩
  | answer reply => exact ⟨.ended reply, rfl, .inr ⟨⟨reply, rfl⟩, rfl⟩⟩
  | dispatch => exact ⟨.running .dispatch, rfl, .inl ⟨⟨_, rfl⟩, rfl⟩⟩
  | observe success category guarded => exact ⟨_, rfl, .inl ⟨⟨_, rfl⟩, rfl⟩⟩
  | refresh => exact ⟨_, rfl, .inl ⟨⟨_, rfl⟩, rfl⟩⟩
  | closing after => exact ⟨_, rfl, .inl ⟨⟨_, rfl⟩, rfl⟩⟩

theorem Exclusive.goto (h : Exclusive s) (hholder : s.lock.holder = some i) (session : Session)
    (handler : Handler) : Exclusive ({ s with session := session }.goto i r handler) := by
  obtain ⟨phase, hrequests, hlock⟩ := goto_spec { s with session := session } i r handler
  refine h.set hrequests ?_ ?_
  · intro running hrunning
    rcases hlock with ⟨_, hlock⟩ | ⟨⟨reply, hended⟩, _⟩
    · rw [hlock]
      exact hholder
    · rw [hended] at hrunning
      cases hrunning
  · intro j hne hj
    exact absurd (Option.some.inj (hj.symm.trans hholder)) hne

/-- The step lemma: at most the holder of the lock runs. -/
theorem Exclusive.step {limits : Limits} (h : Exclusive s) (hstep : State.Step limits s t) :
    Exclusive t := by
  have hnobody : ∀ {i : Nat} {r : Request} {handler : Handler}, s.requests[i]? = some r →
      r.phase = .running handler → ∀ j, j ≠ i → s.lock.holder ≠ some j := by
    intro i r handler hr hphase j hne hj
    exact hne (Option.some.inj (hj.symm.trans (h i r handler hr hphase)))
  cases hstep with
  | arrive op =>
      intro j u handler hu hrunning
      rw [List.getElem?_append] at hu
      split at hu
      · exact h j u handler hu hrunning
      · rw [List.mem_singleton.mp (List.mem_of_getElem? hu)] at hrunning
        cases hrunning
  | refuse j u reply hu hphase hlookup =>
      exact h.set rfl (fun _ hp => by cases hp) fun _ _ hj => hj
  | queue j u hu hphase hlookup =>
      exact h.set rfl (fun _ hp => by cases hp) fun _ _ hj => FairLock.request_held _ hj
  | wake j hnext =>
      intro k u handler hu hrunning
      have hholder := h k u handler hu hrunning
      rw [hnext.1] at hholder
      cases hholder
  | enter j u now hu hphase hholder => exact h.goto hholder _ _
  | dispatchEnds j u endpoint request o hu hphase hop => exact h.goto (h j u _ hu hphase) _ _
  | observeEnds j u endpoint request success category guarded o hu hphase hop =>
      exact h.goto (h j u _ hu hphase) _ _
  | refreshEnds j u o hu hphase => exact h.goto (h j u _ hu hphase) _ _
  | handlesClosed j u after hu hphase =>
      exact h.set rfl (fun _ hp => by cases hp)
        fun k hne hk => absurd hk (hnobody hu hphase k hne)
  | closeBroken j u after reply hu hphase hreply =>
      exact h.set rfl (fun _ hp => by cases hp)
        fun k hne hk => absurd hk (hnobody hu hphase k hne)
  | cancelLooking j u hu hphase =>
      exact h.set rfl (fun _ hp => by cases hp) fun _ _ hj => hj
  | cancelWaiting j u hu hphase =>
      refine h.set rfl (fun _ hp => by cases hp) fun k hne hk => ?_
      show (if s.lock.holder = some j then s.lock.release else s.lock.abandon j).holder = some k
      rw [if_neg, FairLock.abandon_holder]
      · exact hk
      · rw [hk]
        exact fun hj => hne (Option.some.inj hj)

/-! ## Behind the close -/

/-- Where the answer to a request comes from, when the session was closed in `base`. -/
inductive Answers (base : State) (i : Nat) (op : Operation) (reply : Reply) : Prop where
  /-- It had been given there. -/
  | before {b : Request} (hb : base.requests[i]? = some b) (hended : b.phase = .ended reply)
  /-- The request is the one that closes the session, and it answers what it closes it with. -/
  | closing {b : Request} {after : Reply} (hb : base.requests[i]? = some b)
      (hclosing : b.phase = .running (.closing after))
      (hreply : reply = after ∨ reply = .raised ∨ reply = .cancelled)
  /-- It is that of an unknown session, unless the request is cancelled. -/
  | late (hreply : op.Unknown reply ∨ reply = .cancelled) (hsuccess : reply.success = false)

theorem answers_late {op : Operation} {reply : Reply} (h : op.Unknown reply) :
    Answers base i op reply := .late (.inl h) h.success

theorem answers_cancelled (op : Operation) : Answers base i op .cancelled := .late (.inr rfl) rfl

/-- How far a request has come since `base`. -/
inductive Since (base : State) (i : Nat) (r : Request) : Prop where
  | looking (hphase : r.phase = .looking)
  | waiting (hphase : r.phase = .waiting) (hidle : r.op.Idle base.session)
  | closing {b : Request} {after : Reply} (hb : base.requests[i]? = some b)
      (hclosing : b.phase = .running (.closing after)) (hphase : r.phase = b.phase)
  | ended {reply : Reply} (hphase : r.phase = .ended reply)
      (hanswers : Answers base i r.op reply)

structure Settled (base s : State) : Prop where
  closed : s.session.closed = true
  epoch : s.session.recoveryEpoch = base.session.recoveryEpoch
  dispatched : s.dispatched = base.dispatched
  requests : ∀ i r, s.requests[i]? = some r → Since base i r

/-- What is settled since `base` is settled in itself. -/
theorem Settled.self (h : Settled base s) : Settled s s := by
  refine ⟨h.closed, rfl, rfl, fun i r hr => ?_⟩
  cases h.requests i r hr with
  | looking hphase => exact .looking hphase
  | waiting hphase hidle => exact .waiting hphase (hidle.kept h.epoch)
  | closing _ hclosing hphase => exact .closing hr (hphase.trans hclosing) rfl
  | ended hphase _ => exact .ended hphase (.before hr hphase)

theorem Settled.waiting (h : Settled base s) (hr : s.requests[i]? = some r)
    (hphase : r.phase = .waiting) : r.op.Idle base.session := by
  cases h.requests i r hr with
  | waiting _ hidle => exact hidle
  | looking hlooking => cases hphase.symm.trans hlooking
  | closing _ hclosing hsame => cases hphase.symm.trans (hsame.trans hclosing)
  | ended hended _ => cases hphase.symm.trans hended

/-- Whoever still runs is closing the session. -/
theorem Settled.running (h : Settled base s) (hr : s.requests[i]? = some r) {handler : Handler}
    (hphase : r.phase = .running handler) :
    ∃ b after, base.requests[i]? = some b ∧ b.phase = .running (.closing after) ∧
      handler = .closing after := by
  cases h.requests i r hr with
  | looking hlooking => cases hphase.symm.trans hlooking
  | waiting hwaiting _ => cases hphase.symm.trans hwaiting
  | closing hb hclosing hsame =>
      exact ⟨_, _, hb, hclosing, Phase.running.inj (hphase.symm.trans (hsame.trans hclosing))⟩
  | ended hended _ => cases hphase.symm.trans hended

/-- The request moves on and nothing else does. -/
theorem Settled.set (h : Settled base s) (hsession : t.session = s.session)
    (hdispatched : t.dispatched = s.dispatched)
    (hrequests : t.requests = s.requests.set i { r with phase := phase })
    (hsince : Since base i { r with phase := phase }) : Settled base t := by
  refine ⟨hsession ▸ h.closed, hsession ▸ h.epoch, hdispatched.trans h.dispatched, ?_⟩
  intro j u hu
  rw [hrequests] at hu
  rcases getElem?_set_cases hu with ⟨rfl, rfl⟩ | ⟨_, hold⟩
  · exact hsince
  · exact h.requests j u hold

/-- The lookup of a closed session lets only the deletes pass. -/
theorem lookup_closed (hclosed : s.session.closed = true) (op : Operation) :
    s.lookup op = some op.unknownAnswer ∨ s.lookup op = none ∧ ∃ endpoint, op = .delete endpoint := by
  have hrefuse (b : Prop) : ¬ s.registered = true ∨ s.session.closed = true ∨ b :=
    .inr (.inl hclosed)
  by_cases hregistered : s.registered = true
  · cases op with
    | action endpoint r => exact .inl (if_pos (hrefuse _))
    | observe endpoint sessionEpoch => exact .inl (if_pos (hrefuse _))
    | delete endpoint =>
        cases endpoint with
        | recovery =>
            have hlookup : s.lookup (.delete .recovery) = if ¬ s.registered = true ∨
                s.session.mode ≠ .recovery ∨ s.session.recoveryEpoch = none then
                some .unknownSession else none := rfl
            rw [hlookup]
            split
            · exact .inl rfl
            · exact .inr ⟨rfl, _, rfl⟩
        | dom | vision | hybrid => exact .inr ⟨if_neg (not_not.mpr hregistered), _, rfl⟩
    | expiry => exact .inl (if_pos (.inr hclosed))
  · exact .inl (lookup_unregistered (Bool.not_eq_true _ ▸ hregistered) op)

/-- A closed session is not closed again. -/
theorem goto_close (hclosed : s.session.closed = true) {after : Reply} :
    s.goto i r (.close after) = s.finish i r after := if_pos hclosed

/-- An idle request leaves a closed session with the answer of an unknown one. -/
theorem begin_idle (limits : Limits) (now : Time) (hclosed : s.session.closed = true)
    {op : Operation} (hidle : op.Idle s.session) (i : Nat) (r : Request) :
    (State.begin limits now s.session op).1 = s.session ∧
      ∃ reply, op.Unknown reply ∧
        s.goto i r (State.begin limits now s.session op).2 = s.finish i r reply := by
  cases op with
  | action endpoint request => cases hidle
  | observe endpoint sessionEpoch =>
      obtain ⟨rfl, hepoch⟩ := hidle
      have hbegin : State.begin limits now s.session (.observe .recovery sessionEpoch) =
          (s.session, .answer .unknownSession) := if_pos hepoch
      rw [hbegin]
      exact ⟨rfl, .unknownSession, .inl rfl, rfl⟩
  | delete endpoint =>
      cases endpoint with
      | recovery => exact absurd rfl hidle
      | dom | vision | hybrid =>
          simp only [State.begin]
          split
          · exact ⟨rfl, .unknownSession, .inl rfl, rfl⟩
          · exact ⟨rfl, .sessionClosed, .inr rfl, goto_close hclosed⟩
  | expiry => exact ⟨rfl, .returned, .inr rfl, goto_close hclosed⟩

/-- The step lemma: what one step does to a settled state. -/
theorem Settled.step {limits : Limits} (h : Settled base s) (hunhurried : Unhurried s t)
    (hstep : State.Step limits s t) : Settled base t := by
  have hclosed := h.closed
  cases hstep with
  | arrive op =>
      refine ⟨hclosed, h.epoch, h.dispatched, fun i r hr => ?_⟩
      rw [List.getElem?_append] at hr
      split at hr
      · exact h.requests i r hr
      · rw [List.mem_singleton.mp (List.mem_of_getElem? hr)]
        exact .looking rfl
  | refuse i r reply hr hphase hlookup =>
      refine h.set rfl rfl rfl (.ended rfl (answers_late (.inr ?_)))
      rcases lookup_closed hclosed r.op with hrefused | ⟨hpassed, _⟩
      · exact Option.some.inj (hlookup.symm.trans hrefused)
      · cases hlookup.symm.trans hpassed
  | queue i r hr hphase hlookup =>
      rcases lookup_closed hclosed r.op with hrefused | ⟨_, endpoint, hop⟩
      · cases hlookup.symm.trans hrefused
      · refine h.set rfl rfl rfl (.waiting rfl ?_)
        show r.op.Idle base.session
        rw [hop]
        -- the delete of the recovery endpoint is the one that would be served
        rintro rfl
        refine hunhurried.lookup hclosed i r hr hphase hop ?_
        exact List.getElem?_set_self (List.getElem?_eq_some_iff.mp hr).1
  | wake i hnext => exact ⟨hclosed, h.epoch, h.dispatched, h.requests⟩
  | enter i r now hr hphase hholder =>
      have hidle := (h.waiting hr hphase).kept h.epoch
      obtain ⟨hsession, reply, hreply, hgoto⟩ := begin_idle limits now hclosed hidle i r
      rw [hsession, hgoto]
      exact h.set rfl rfl rfl (.ended rfl (answers_late hreply))
  | dispatchEnds i r endpoint request o hr hphase hop =>
      obtain ⟨_, _, _, _, hclosing⟩ := h.running hr hphase
      cases hclosing
  | observeEnds i r endpoint request success category guarded o hr hphase hop =>
      obtain ⟨_, _, _, _, hclosing⟩ := h.running hr hphase
      cases hclosing
  | refreshEnds i r o hr hphase =>
      obtain ⟨_, _, _, _, hclosing⟩ := h.running hr hphase
      cases hclosing
  | handlesClosed i r after hr hphase =>
      obtain ⟨b, after', hb, hbase, hsame⟩ := h.running hr hphase
      refine h.set rfl rfl rfl (.ended rfl (.closing hb hbase (.inl ?_)))
      exact Handler.closing.inj hsame
  | closeBroken i r after reply hr hphase hreply =>
      obtain ⟨b, after', hb, hbase, hsame⟩ := h.running hr hphase
      exact h.set rfl rfl rfl (.ended rfl (.closing hb hbase (.inr hreply)))
  | cancelLooking i r hr hphase =>
      exact h.set rfl rfl rfl (.ended rfl (answers_cancelled _))
  | cancelWaiting i r hr hphase =>
      exact h.set rfl rfl rfl (.ended rfl (answers_cancelled _))

/-! ## The close -/

/-- The holder of the lock closes the session: nobody else runs, and whoever waits is idle. -/
theorem Exclusive.closes (hexclusive : Exclusive s) (hholder : s.lock.holder = some i)
    (hr : s.requests[i]? = some r) {session : Session} (hkept : s.session.Kept session)
    {handler : Handler} (hopen : s.session.closed = false)
    (hclosed : ({ s with session := session }.goto i r handler).session.closed = true)
    (hqueue : ∀ j u, s.requests[j]? = some u → u.phase = .waiting → s.lock.holder ≠ some j →
      u.op.Idle s.session) :
    Settled ({ s with session := session }.goto i r handler)
      ({ s with session := session }.goto i r handler) := by
  have hnot : session.closed ≠ true := by
    rw [hkept.closed, hopen]
    decide
  cases handler with
  | close after =>
      have hgoto : { s with session := session }.goto i r (.close after) =
          { { s with session := session }.setPhase i r (.running (.closing after)) with
            session := session.close } := if_neg hnot
      rw [hgoto]
      refine ⟨rfl, rfl, rfl, fun j u hu => ?_⟩
      rcases getElem?_set_cases hu with ⟨rfl, rfl⟩ | ⟨hne, hold⟩
      · exact .closing hu rfl rfl
      · have hnobody : s.lock.holder ≠ some j := by
          rw [hholder]
          exact fun hj => hne (Option.some.inj hj).symm
        cases hphase : u.phase with
        | looking => exact .looking hphase
        | waiting => exact .waiting hphase ((hqueue j u hold hphase hnobody).kept hkept.epoch)
        | running handler => exact absurd (hexclusive j u handler hold hphase) hnobody
        | ended reply => exact .ended hphase (.before hu hphase)
  | _ => exact absurd hclosed hnot

/-- The step lemma: a closed session is settled. -/
theorem settled_of_step {limits : Limits} (hexclusive : Exclusive s)
    (hsettled : s.session.closed = true → Settled s s) (hunhurried : Unhurried s t)
    (hstep : State.Step limits s t) (hclosed : t.session.closed = true) : Settled t t := by
  by_cases hbefore : s.session.closed = true
  · exact ((hsettled hbefore).step hunhurried hstep).self
  · have hopen : s.session.closed = false := by simpa using hbefore
    have hqueue := hunhurried.queue hopen hclosed
    cases hstep with
    | enter i r now hr hphase hholder =>
        exact hexclusive.closes hholder hr (kept_begin limits now s.session r.op) hopen hclosed
          hqueue
    | dispatchEnds i r endpoint request o hr hphase hop =>
        exact hexclusive.closes (hexclusive i r _ hr hphase) hr
          (s.session.kept_navigated request.action o) hopen hclosed hqueue
    | observeEnds i r endpoint request success category guarded o hr hphase hop =>
        exact hexclusive.closes (hexclusive i r _ hr hphase) hr (s.session.kept_afterOutcome o)
          hopen hclosed hqueue
    | refreshEnds i r o hr hphase =>
        exact hexclusive.closes (hexclusive i r _ hr hphase) hr (s.session.kept_afterOutcome o)
          hopen hclosed hqueue
    | _ => exact absurd hclosed hbefore

/-! ## Runs -/

/-- Closed means closed in every run in which nobody who would be served waits while the session is
closed: it stays closed, nothing more is dispatched to its page, and whatever is answered later is
answered as on an unknown session, but for the request that closes it. -/
theorem closed_means_closed {limits : Limits} {session : Session} {base s : State}
    (hrun : ReflTransGen (Guarded Unhurried (State.Step limits)) (State.initial session) base)
    (hclosed : base.session.closed = true)
    (hlater : ReflTransGen (Guarded Unhurried (State.Step limits)) base s) :
    s.session.closed = true ∧ s.dispatched = base.dispatched ∧
    ∀ i r reply, s.requests[i]? = some r → r.phase = .ended reply →
      Answers base i r.op reply := by
  have hstart : Exclusive (State.initial session) ∧
      ((State.initial session).session.closed = true →
        Settled (State.initial session) (State.initial session)) :=
    ⟨fun _ _ _ hr => (by cases hr), fun h => ⟨h, rfl, rfl, fun _ _ hr => (by cases hr)⟩⟩
  have hbase : Exclusive base ∧ (base.session.closed = true → Settled base base) :=
    invariant_of_run (I := fun s => Exclusive s ∧ (s.session.closed = true → Settled s s))
      (fun _ _ h hstep => ⟨h.1.step hstep.2, settled_of_step h.1 h.2 hstep.1 hstep.2⟩) hstart hrun
  have hsettled : Settled base s :=
    invariant_of_run (fun _ _ h hstep => h.step hstep.1 hstep.2) (hbase.2 hclosed) hlater
  refine ⟨hsettled.closed, hsettled.dispatched, fun i r reply hr hphase => ?_⟩
  cases hsettled.requests i r hr with
  | ended hended hanswers =>
      rw [hphase] at hended
      rw [Phase.ended.inj hended]
      exact hanswers
  | looking hlooking => cases hphase.symm.trans hlooking
  | waiting hwaiting _ => cases hphase.symm.trans hwaiting
  | closing _ hclosing hsame => cases hphase.symm.trans (hsame.trans hclosing)

/-! ## Requests around a close -/

namespace Sample

def opened : Session := { sessionId := "bw_session", mode := .dom, startedAt := 0 }

def finishAction : Operation := .action .dom { action := { type := .finish } }

def navigateAction : Operation := .action .dom { action := { type := .navigate } }

def finished : Reply := .result ⟨true, true, none⟩

/-- A delete holds the lock and closes the session, and two actions wait for the lock. -/
def hurried : State where
  session := opened.close
  lock := ⟨some 0, [1, 2]⟩
  requests :=
    [⟨.delete .dom, .running (.closing .sessionClosed)⟩, ⟨finishAction, .waiting⟩,
      ⟨navigateAction, .waiting⟩]

/-- The first action has been answered, and the second one is on the page. -/
def served : State where
  session := opened.close.counted.counted
  registered := false
  lock := ⟨some 2, []⟩
  requests :=
    [⟨.delete .dom, .ended .sessionClosed⟩, ⟨finishAction, .ended finished⟩,
      ⟨navigateAction, .running .dispatch⟩]
  dispatched := [2]

theorem hurried_run : ReflTransGen (State.Step {}) (State.initial opened) hurried := by
  have harrived : ReflTransGen (State.Step {}) (State.initial opened)
      { session := opened
        requests :=
          [⟨.delete .dom, .looking⟩, ⟨finishAction, .looking⟩, ⟨navigateAction, .looking⟩] } :=
    ((ReflTransGen.single (.arrive _ _)).tail (.arrive _ _)).tail (.arrive _ _)
  have hqueued := ((harrived.tail (.queue _ 0 _ rfl rfl rfl)).tail
    (.queue _ 1 ⟨finishAction, .looking⟩ rfl rfl rfl)).tail
      (.queue _ 2 ⟨navigateAction, .looking⟩ rfl rfl rfl)
  exact hqueued.tail (.enter _ 0 ⟨.delete .dom, .waiting⟩ 0 rfl rfl rfl)

theorem served_run : ReflTransGen (State.Step {}) hurried served := by
  have hreleased : State.Step {} hurried _ := .handlesClosed _ 0 _ .sessionClosed rfl rfl
  have hfinished := ((ReflTransGen.single hreleased).tail (.wake _ 1 ⟨rfl, rfl⟩)).tail
    (.enter _ 1 ⟨finishAction, .waiting⟩ 0 rfl rfl rfl)
  exact (hfinished.tail (.wake _ 2 ⟨rfl, rfl⟩)).tail
    (.enter _ 2 ⟨navigateAction, .waiting⟩ 0 rfl rfl rfl)

/-- A finish that waits while the session is closed reports success, and a navigation that waits is
dispatched to the closed page. -/
theorem waiting_actions_served :
    ∃ base s : State, ReflTransGen (State.Step {}) (State.initial opened) base ∧
      base.session.closed = true ∧ ReflTransGen (State.Step {}) base s ∧
      base.requests[1]? = some ⟨finishAction, .waiting⟩ ∧
      s.requests[1]? = some ⟨finishAction, .ended finished⟩ ∧ finished.success = true ∧
      base.requests[2]? = some ⟨navigateAction, .waiting⟩ ∧ 2 ∉ base.dispatched ∧
      2 ∈ s.dispatched :=
  ⟨hurried, served, hurried_run, rfl, served_run, rfl, rfl, rfl, rfl, by decide, by decide⟩

/-- A finish holds the lock and closes the session, and a delete waits for the lock. -/
def closing : State where
  session := opened.counted.close
  lock := ⟨some 0, [1]⟩
  requests := [⟨finishAction, .running (.closing finished)⟩, ⟨.delete .dom, .waiting⟩]

/-- The finish and the delete have been answered, and so has a navigation that came between. -/
def answered : State where
  session := opened.counted.close
  registered := false
  requests :=
    [⟨finishAction, .ended finished⟩, ⟨.delete .dom, .ended .sessionClosed⟩,
      ⟨navigateAction, .ended .unknownSession⟩]

/-- Steps of a session that is open. -/
theorem guarded_open {s t : State} (hs : s.session.closed = false) (ht : t.session.closed = false)
    (h : State.Step {} s t) : Guarded Unhurried (State.Step {}) s t :=
  ⟨⟨fun _ hc => (by rw [ht] at hc; cases hc), fun hc => (by rw [hs] at hc; cases hc)⟩, h⟩

/-- Steps of a closed session that no delete of the recovery endpoint looks up. -/
theorem guarded_closed {s t : State} (hs : s.session.closed = true)
    (hrequests : ∀ r ∈ s.requests, r.op ≠ .delete .recovery) (h : State.Step {} s t) :
    Guarded Unhurried (State.Step {}) s t :=
  ⟨⟨fun hc => (by rw [hs] at hc; cases hc),
    fun _ _ r hr _ hop => absurd hop (hrequests r (List.mem_of_getElem? hr))⟩, h⟩

theorem closing_run :
    ReflTransGen (Guarded Unhurried (State.Step {})) (State.initial opened) closing := by
  have harrived := (ReflTransGen.single
    (guarded_open rfl rfl (.arrive (State.initial opened) finishAction))).tail
      (guarded_open rfl rfl (.arrive _ (.delete .dom)))
  have hqueued := (harrived.tail (guarded_open rfl rfl (.queue _ 0 _ rfl rfl rfl))).tail
    (guarded_open rfl rfl (.queue _ 1 ⟨.delete .dom, .looking⟩ rfl rfl rfl))
  refine hqueued.tail ⟨⟨fun _ _ i r hr _ hholder => ?_, fun hc => (by cases hc)⟩,
    .enter _ 0 ⟨finishAction, .waiting⟩ 0 rfl rfl rfl⟩
  match i, hr, hholder with
  | 0, _, hholder => exact absurd rfl hholder
  | 1, hr, _ =>
      cases hr
      exact fun h => by cases h

theorem answered_run : ReflTransGen (Guarded Unhurried (State.Step {})) closing answered := by
  have hrefused := (ReflTransGen.single (guarded_closed rfl (by decide)
    (.arrive closing navigateAction))).tail (guarded_closed rfl (by decide)
      (.refuse _ 2 ⟨navigateAction, .looking⟩ .unknownSession rfl rfl rfl))
  have hreleased := (hrefused.tail (guarded_closed rfl (by decide)
    (.handlesClosed _ 0 ⟨finishAction, .running (.closing finished)⟩ finished rfl rfl))).tail
      (guarded_closed rfl (by decide) (.wake _ 1 ⟨rfl, rfl⟩))
  exact hreleased.tail (guarded_closed rfl (by decide)
    (.enter _ 1 ⟨.delete .dom, .waiting⟩ 0 rfl rfl rfl))

theorem closed_means_closed_answered :
    answered.session.closed = true ∧ answered.dispatched = closing.dispatched ∧
      Answers closing 1 (.delete .dom) .sessionClosed ∧
      Answers closing 2 navigateAction .unknownSession := by
  obtain ⟨hclosed, hdispatched, hanswers⟩ := closed_means_closed closing_run rfl answered_run
  exact ⟨hclosed, hdispatched, hanswers 1 _ _ rfl rfl, hanswers 2 _ _ rfl rfl⟩

end Sample

end FlowPilot.Browser
