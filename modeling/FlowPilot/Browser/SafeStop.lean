import FlowPilot.Browser.Lifecycle

/-!
# The security guard of an action

The guard runs inside the observation of an action's result.  An observation is built on the success
path, for a reference that does not resolve, and by the clauses that turn an exception into a
result; only some of these places stand inside the `try` block whose clause makes the rejection a
terminal result.
-/

open FlowPilot.Lib

namespace FlowPilot.Browser

/-! ## Rejections -/

/-- The guard rejects the content of an observation of the request. -/
def rejects (endpoint : Mode) (a : Action) : Handler → List ObserveOutcome → Bool
  | .observe _ _ _, .security :: _ => true
  | .observe success category guarded, o :: rest =>
    rejects endpoint a (afterObserve endpoint a success category guarded o) rest
  | _, _ => false

/-- The guard rejects some content while the action is handled. -/
def Rejected (limits : Limits) (s : Session) (endpoint : Mode) (r : ActionRequest) (e : Events) :
    Prop :=
  match State.begin limits e.now s (.action endpoint r) with
  | (_, .dispatch) =>
    e.dispatch = .security ∨
      rejects endpoint r.action (afterDispatch endpoint r.action e.dispatch) e.observations = true
  | (_, h) => rejects endpoint r.action h e.observations = true

/-- The session is closed and removed, and the caller has the terminal result. -/
def SafelyStopped (limits : Limits) (s : Site) (endpoint : Mode) (r : ActionRequest) (e : Events) :
    Prop :=
  ∃ t, serve limits (.action endpoint r) e s =
      .ok (.result (terminalFailure .actionNotAllowed)) t ∧
    t.session.closed = true ∧ t.Gone

/-! ## Where a rejection finds its clause -/

/-- A hybrid or recovery action names its session and the current observation. -/
def Identified (s : Session) (endpoint : Mode) (r : ActionRequest) : Prop :=
  match endpoint with
  | .dom | .vision => True
  | .hybrid =>
    r.sessionId = s.sessionId ∧ r.generation = s.hybridGeneration ∧
      s.hybridModality = some r.modality
  | .recovery =>
    r.sessionId = s.sessionId ∧ some r.sessionEpoch = s.recoveryEpoch ∧
      r.generation = s.hybridGeneration ∧ s.hybridModality = some .dom

/-- The modality whose references the action uses. -/
def targetModality (endpoint : Mode) (r : ActionRequest) : Modality :=
  match endpoint with
  | .dom | .recovery => .dom
  | .vision => .vision
  | .hybrid => r.modality

/-- What `_resolve_target` or `_resolve_vision_target` says of the action. -/
def resolution (s : Session) (endpoint : Mode) (r : ActionRequest) : Option ErrorCategory :=
  if r.action.type.targeted then
    match targetModality endpoint r with
    | .dom => resolveTarget s r.action
    | .vision => resolveVisionTarget s r.action
  else none

/-- These handlers look the reference up inside the `try` block. -/
def looksUpInside : Mode → Bool
  | .dom | .vision => false
  | .hybrid | .recovery => true

/-- An idempotency key on an action that is no click. -/
def Misplaced (endpoint : Mode) (r : ActionRequest) : Prop :=
  endpoint = .recovery ∧ r.idempotent = true ∧ r.action.type ≠ .click

/-- The guard rejects the first observation. -/
def rejectsFirst : List ObserveOutcome → Bool
  | .security :: _ => true
  | _ => false

/-- The dispatch raises nothing. -/
def DispatchOutcome.quiet : DispatchOutcome → Bool
  | .done | .receiptMismatch => true
  | _ => false

/-- The guard rejects the first observation of the request, and that one is built inside the `try`
block: behind a dispatch that raised nothing, or for a reference looked up inside. -/
def Sheltered (s : Session) (endpoint : Mode) (r : ActionRequest) (e : Events) : Prop :=
  Identified s endpoint r ∧
    match resolution s endpoint r with
    | some _ => looksUpInside endpoint = true ∧ rejectsFirst e.observations = true
    | none =>
      ¬ Misplaced endpoint r ∧
        (e.dispatch = .security ∨
          e.dispatch.quiet = true ∧ rejectsFirst e.observations = true)

/-! ## How a request begins -/

/-- Where an action stands when its handler is suspended for the first time. -/
inductive Begins (s : Session) (endpoint : Mode) (r : ActionRequest) : Handler → Prop where
  /-- A budget is spent, or the action ends the session. -/
  | ends (after : Reply) : Begins s endpoint r (.close after)
  | unidentified (category : ErrorCategory) (h : ¬ Identified s endpoint r) :
      Begins s endpoint r (.observe false (some category) false)
  | unresolved (category : ErrorCategory) (hidentified : Identified s endpoint r)
      (h : resolution s endpoint r ≠ none) :
      Begins s endpoint r (.observe false (some category) (looksUpInside endpoint))
  | misplaced (hidentified : Identified s endpoint r) (hresolved : resolution s endpoint r = none)
      (h : Misplaced endpoint r) :
      Begins s endpoint r (.observe false (some .inputRejected) false)
  | dispatches (hidentified : Identified s endpoint r)
      (hresolved : resolution s endpoint r = none) (h : ¬ Misplaced endpoint r) :
      Begins s endpoint r .dispatch

theorem dispatchTarget_failed {a : Action} {resolve : Action → Option ErrorCategory}
    {category : ErrorCategory} (guarded : Bool)
    (h : (if a.type.targeted then resolve a else none) = some category) :
    dispatchTarget a resolve guarded = .observe false (some category) guarded := by
  unfold dispatchTarget
  by_cases htargeted : a.type.targeted = true
  · rw [if_pos htargeted] at h ⊢
    rw [h]
  · rw [if_neg htargeted] at h
    cases h

theorem dispatchTarget_resolved {a : Action} {resolve : Action → Option ErrorCategory}
    (guarded : Bool) (h : (if a.type.targeted then resolve a else none) = none) :
    dispatchTarget a resolve guarded = .dispatch := by
  unfold dispatchTarget
  by_cases htargeted : a.type.targeted = true
  · rw [if_pos htargeted] at h ⊢
    rw [h]
  · rw [if_neg htargeted]

section Begin

variable {s : Session} {endpoint : Mode} {r : ActionRequest}

/-- The end of a handler that has no budget to refuse and no ending to serve. -/
theorem begins_target {resolve : Action → Option ErrorCategory}
    (hidentified : Identified s endpoint r) (hplaced : ¬ Misplaced endpoint r)
    (hresolve : (if r.action.type.targeted then resolve r.action else none) = none ↔
      resolution s endpoint r = none) :
    Begins s endpoint r (dispatchTarget r.action resolve (looksUpInside endpoint)) := by
  cases hlookup : (if r.action.type.targeted then resolve r.action else none) with
  | none =>
    rw [dispatchTarget_resolved _ hlookup]
    exact .dispatches hidentified (hresolve.mp hlookup) hplaced
  | some category =>
    rw [dispatchTarget_failed _ hlookup]
    refine .unresolved category hidentified fun h => ?_
    rw [hresolve.mpr h] at hlookup
    cases hlookup

theorem hybridError_none {resolve : Action → Option ErrorCategory} :
    (if r.action.type.targeted then (resolve r.action).map hybridError else none) = none ↔
      (if r.action.type.targeted then resolve r.action else none) = none := by
  by_cases htargeted : r.action.type.targeted = true
  · rw [if_pos htargeted, if_pos htargeted, Option.map_eq_none_iff]
  · rw [if_neg htargeted, if_neg htargeted]

theorem not_misplaced (h : endpoint ≠ .recovery) : ¬ Misplaced endpoint r := fun hmisplaced =>
  h hmisplaced.1

theorem begins_dom (limits : Limits) (now : Time) :
    Begins s .dom r (executeAction limits s r now).2 := by
  unfold executeAction
  cases terminalBudgetError limits s r.action now with
  | some category => exact .ends _
  | none =>
    by_cases hends : r.action.type.ends = true
    · rw [if_pos hends]
      exact .ends _
    · rw [if_neg hends]
      exact begins_target trivial (not_misplaced (by decide)) Iff.rfl

theorem begins_vision (limits : Limits) (now : Time) :
    Begins s .vision r (executeVisionAction limits s r now).2 := by
  unfold executeVisionAction
  cases visionTerminalBudgetError limits s r.action now with
  | some category => exact .ends _
  | none =>
    by_cases hends : r.action.type.ends = true
    · rw [if_pos hends]
      exact .ends _
    · rw [if_neg hends]
      exact begins_target trivial (not_misplaced (by decide)) Iff.rfl

theorem begins_hybridFailure {category : ErrorCategory} (h : ¬ Identified s .hybrid r) :
    Begins s .hybrid r (hybridFailure s category false) := by
  unfold hybridFailure
  by_cases hmodality : s.hybridModality = none
  · rw [if_pos hmodality]
    exact .ends _
  · rw [if_neg hmodality]
    exact .unidentified category h

theorem begins_hybrid (limits : Limits) (now : Time) :
    Begins s .hybrid r (executeHybridAction limits s r now).2 := by
  unfold executeHybridAction
  cases hybridTerminalBudgetError limits s r now with
  | some category => exact .ends _
  | none =>
    show Begins s .hybrid r (if r.sessionId ≠ s.sessionId then _ else _)
    by_cases hid : r.sessionId = s.sessionId
    · rw [if_neg (not_not.mpr hid)]
      by_cases hgeneration : r.generation = s.hybridGeneration
      · rw [if_neg (not_not.mpr hgeneration)]
        by_cases hmodality : s.hybridModality = some r.modality
        · rw [if_neg (not_not.mpr hmodality)]
          by_cases hends : r.action.type.ends = true
          · rw [if_pos hends]
            exact .ends _
          · rw [if_neg hends]
            have hidentified : Identified s .hybrid r := ⟨hid, hgeneration, hmodality⟩
            refine begins_target hidentified (not_misplaced (by decide)) ?_
            have hmode : targetModality .hybrid r = r.modality := rfl
            unfold resolution
            rw [hmode]
            cases r.modality with
            | dom => exact hybridError_none
            | vision => exact hybridError_none
        · rw [if_pos hmodality]
          exact begins_hybridFailure fun h => hmodality h.2.2
      · rw [if_pos hgeneration]
        exact begins_hybridFailure fun h => hgeneration h.2.1
    · rw [if_pos hid]
      exact begins_hybridFailure fun h => hid h.1

theorem begins_recovery (limits : Limits) (now : Time) :
    Begins s .recovery r (executeRecoveryAction limits s r now).2 := by
  unfold executeRecoveryAction
  by_cases hspent : limits.maxActions ≤ s.actionCount ∨ timedOut limits s now
  · rw [if_pos hspent]
    exact .ends _
  · rw [if_neg hspent]
    show Begins s .recovery r (if r.sessionId ≠ s.sessionId then _ else _)
    by_cases hid : r.sessionId = s.sessionId
    · rw [if_neg (not_not.mpr hid)]
      by_cases hepoch : some r.sessionEpoch = s.recoveryEpoch
      · rw [if_neg (not_not.mpr hepoch)]
        by_cases hgeneration : r.generation = s.hybridGeneration
        · rw [if_neg (not_not.mpr hgeneration)]
          by_cases hmodality : s.hybridModality = some .dom
          · rw [if_neg (not_not.mpr hmodality)]
            by_cases hends : r.action.type.ends = true
            · rw [if_pos hends]
              exact .ends _
            · rw [if_neg hends]
              have hidentified : Identified s .recovery r := ⟨hid, hepoch, hgeneration, hmodality⟩
              have hlookup : (if r.action.type.targeted = true then
                    (resolveTarget s r.action).map hybridError else none) = none ↔
                  (if r.action.type.targeted = true then resolveTarget s r.action
                    else none) = none := hybridError_none
              cases hfound : (if r.action.type.targeted = true then
                  (resolveTarget s r.action).map hybridError else none) with
              | some category =>
                rw [dispatchTarget_failed _ hfound]
                refine .unresolved category hidentified fun h => ?_
                rw [hlookup.mpr h] at hfound
                cases hfound
              | none =>
                have hresolved : resolution s .recovery r = none := hlookup.mp hfound
                rw [dispatchTarget_resolved _ hfound]
                by_cases hmisplaced : r.idempotent = true ∧ r.action.type ≠ .click
                · show Begins s .recovery r (if _ then _ else _)
                  rw [if_pos hmisplaced]
                  exact .misplaced hidentified hresolved ⟨rfl, hmisplaced⟩
                · show Begins s .recovery r (if _ then _ else _)
                  rw [if_neg hmisplaced]
                  exact .dispatches hidentified hresolved fun h => hmisplaced h.2
          · rw [if_pos hmodality]
            exact .unidentified _ fun h => hmodality h.2.2.2
        · rw [if_pos hgeneration]
          exact .unidentified _ fun h => hgeneration h.2.2.1
      · rw [if_pos hepoch]
        exact .unidentified _ fun h => hepoch h.2.1
    · rw [if_pos hid]
      exact .unidentified _ fun h => hid h.1

theorem begins (limits : Limits) (now : Time) :
    Begins s endpoint r (State.begin limits now s (.action endpoint r)).2 := by
  cases endpoint with
  | dom => exact begins_dom limits now
  | vision => exact begins_vision limits now
  | hybrid => exact begins_hybrid limits now
  | recovery => exact begins_recovery limits now

end Begin

/-! ## What becomes of a rejection -/

section Rejects

variable {endpoint : Mode} {a : Action}

theorem rejects_answer (reply : Reply) (os : List ObserveOutcome) :
    rejects endpoint a (.answer reply) os = false := by
  cases os <;> rfl

theorem rejects_close (after : Reply) (os : List ObserveOutcome) :
    rejects endpoint a (.close after) os = false := by
  cases os <;> rfl

theorem advance_answer (s : Session) (reply : Reply) (os : List ObserveOutcome) :
    (advance endpoint a s (.answer reply) os).2 = .answer reply := by
  cases os <;> rfl

theorem advance_close (s : Session) (after : Reply) (os : List ObserveOutcome) :
    (advance endpoint a s (.close after) os).2 = .close after := by
  cases os <;> rfl

/-- Behind an observation outside of the `try` block no other one follows. -/
theorem rejects_outside {success : Bool} {category : Option ErrorCategory} {o : ObserveOutcome}
    {os : List ObserveOutcome} (ho : o ≠ .security) :
    rejects endpoint a (afterObserve endpoint a success category false o) os = false := by
  cases o with
  | security => exact absurd rfl ho
  | built _ => exact rejects_answer _ os
  | failed => exact rejects_answer _ os
  | invalidValue =>
    cases endpoint with
    | dom | vision | hybrid | recovery => exact rejects_answer _ os
  | refused _ =>
    cases endpoint with
    | dom => exact rejects_answer _ os
    | vision | hybrid | recovery => exact rejects_close _ os
  | timeout | browserError =>
    cases endpoint with
    | dom | vision => exact rejects_answer _ os
    | hybrid | recovery => exact rejects_close _ os
  | cancelled =>
    cases endpoint with
    | dom | vision => exact rejects_answer _ os
    | hybrid | recovery => exact rejects_close _ os

/-- A rejection outside of the `try` block leaves the handler with the session open. -/
theorem escapes {success : Bool} {category : Option ErrorCategory} {os : List ObserveOutcome}
    (s : Session) (h : rejects endpoint a (.observe success category false) os = true) :
    (advance endpoint a s (.observe success category false) os).2 = .answer .raised := by
  cases os with
  | nil => cases h
  | cons o rest =>
    by_cases ho : o = .security
    · subst ho
      exact advance_answer _ .raised rest
    · have hnone : rejects endpoint a (.observe success category false) (o :: rest) =
          rejects endpoint a (afterObserve endpoint a success category false o) rest := by
        cases o <;> first | rfl | exact absurd rfl ho
      rw [hnone, rejects_outside ho] at h
      cases h

/-- Inside the block a rejection of the first observation has a clause. -/
theorem caught {success : Bool} {category : Option ErrorCategory} {os : List ObserveOutcome}
    (s : Session) (h : rejectsFirst os = true) :
    (advance endpoint a s (.observe success category true) os).2 =
      .close (.result (terminalFailure .actionNotAllowed)) := by
  cases os with
  | nil => cases h
  | cons o rest =>
    cases o with
    | security => exact advance_close _ _ rest
    | built _ | refused _ | invalidValue | timeout | browserError | failed | cancelled => cases h

/-- Inside the block another outcome is followed by an observation outside of it, if at all. -/
theorem escapes_later {success : Bool} {category : Option ErrorCategory}
    {os : List ObserveOutcome} (s : Session)
    (h : rejects endpoint a (.observe success category true) os = true)
    (hlater : rejectsFirst os = false) :
    (advance endpoint a s (.observe success category true) os).2 = .answer .raised := by
  cases os with
  | nil => cases h
  | cons o rest =>
    cases o with
    | security => cases hlater
    | built _ =>
      exact absurd ((rejects_answer _ rest).symm.trans h) (by decide)
    | failed => exact absurd ((rejects_answer _ rest).symm.trans h) (by decide)
    | invalidValue =>
      cases endpoint with
      | recovery => exact escapes s h
      | dom | vision | hybrid => exact absurd ((rejects_answer _ rest).symm.trans h) (by decide)
    | refused _ =>
      cases endpoint with
      | dom => exact escapes s h
      | vision | hybrid | recovery => exact absurd ((rejects_close _ rest).symm.trans h) (by decide)
    | timeout | browserError =>
      cases endpoint with
      | dom | vision => exact escapes s h
      | hybrid | recovery => exact absurd ((rejects_close _ rest).symm.trans h) (by decide)
    | cancelled =>
      cases endpoint with
      | dom | vision => exact absurd ((rejects_answer _ rest).symm.trans h) (by decide)
      | hybrid | recovery => exact absurd ((rejects_close _ rest).symm.trans h) (by decide)

end Rejects

section Stops

variable {limits : Limits} {s : Site} {endpoint : Mode} {r : ActionRequest} {e : Events}

/-- A dispatch that raised is behind the `try` block, with its observation outside. -/
theorem afterDispatch_raised {o : DispatchOutcome} (hquiet : o.quiet = false) (ho : o ≠ .security)
    {os : List ObserveOutcome} (t : Session)
    (h : rejects endpoint r.action (afterDispatch endpoint r.action o) os = true) :
    (advance endpoint r.action t (afterDispatch endpoint r.action o) os).2 = .answer .raised := by
  have hend : ∀ (success : Bool) (category : ErrorCategory),
      afterDispatch endpoint r.action o = .observe success (some category) false →
      (advance endpoint r.action t (afterDispatch endpoint r.action o) os).2 = .answer .raised := by
    intro success category heq
    rw [heq] at h ⊢
    exact escapes t h
  cases o with
  | done | receiptMismatch => cases hquiet
  | security => exact absurd rfl ho
  | refused | policy =>
    by_cases hnavigates : endpoint ≠ .recovery ∧ r.action.type = .navigate
    · exact hend false .invalidUrl (if_pos hnavigates)
    · exact hend false .inputRejected (if_neg hnavigates)
  | invalidValue =>
    by_cases hrecovery : endpoint = .recovery
    · exact hend false .inputRejected (if_pos hrecovery)
    · have heq : afterDispatch endpoint r.action .invalidValue = .answer .raised := if_neg hrecovery
      rw [heq]
      exact advance_answer t .raised os
  | timeout => exact hend false .browserTimeout rfl
  | browserError => exact hend false .browserError rfl
  | failed => exact advance_answer t .raised os
  | cancelled =>
    cases endpoint with
    | dom | vision => exact absurd ((rejects_answer _ os).symm.trans h) (by decide)
    | hybrid | recovery => exact absurd ((rejects_close _ os).symm.trans h) (by decide)

/-- A rejection is turned into the terminal result where it is sheltered, and escapes elsewhere. -/
theorem handle_rejected (hrejected : Rejected limits s.session endpoint r e) :
    (Sheltered s.session endpoint r e →
      (handle limits s.session (.action endpoint r) e).2 =
        .close (.result (terminalFailure .actionNotAllowed))) ∧
    (¬ Sheltered s.session endpoint r e →
      (handle limits s.session (.action endpoint r) e).2 = .answer .raised) := by
  have hbegins : Begins s.session endpoint r
      (State.begin limits e.now s.session (.action endpoint r)).2 := begins limits e.now
  unfold Rejected at hrejected
  unfold handle
  cases hbegin : State.begin limits e.now s.session (.action endpoint r) with
  | mk t h =>
    rw [hbegin] at hbegins hrejected
    cases hbegins with
    | ends after => exact absurd ((rejects_close after e.observations).symm.trans hrejected) (by decide)
    | unidentified category hnot =>
      exact ⟨fun hsheltered => absurd hsheltered.1 hnot, fun _ => escapes t hrejected⟩
    | unresolved category hidentified hunresolved =>
      obtain ⟨found, hfound⟩ := Option.ne_none_iff_exists'.mp hunresolved
      have hsheltered : Sheltered s.session endpoint r e ↔
          looksUpInside endpoint = true ∧ rejectsFirst e.observations = true := by
        unfold Sheltered
        rw [hfound]
        exact ⟨fun h => h.2, fun h => ⟨hidentified, h⟩⟩
      rw [hsheltered]
      by_cases hinside : looksUpInside endpoint = true
      · rw [hinside] at hrejected ⊢
        refine ⟨fun h => caught t h.2, fun h => escapes_later t hrejected ?_⟩
        exact Bool.eq_false_iff.mpr fun hfirst => h ⟨rfl, hfirst⟩
      · have houtside : looksUpInside endpoint = false := by simpa using hinside
        rw [houtside] at hrejected ⊢
        exact ⟨fun h => absurd h.1 (by decide), fun _ => escapes t hrejected⟩
    | misplaced hidentified hresolved hmisplaced =>
      refine ⟨fun hsheltered => ?_, fun _ => escapes t hrejected⟩
      unfold Sheltered at hsheltered
      rw [hresolved] at hsheltered
      exact absurd hmisplaced hsheltered.2.1
    | dispatches hidentified hresolved hplaced =>
      have hsheltered : Sheltered s.session endpoint r e ↔ (e.dispatch = .security ∨
          e.dispatch.quiet = true ∧ rejectsFirst e.observations = true) := by
        unfold Sheltered
        rw [hresolved]
        exact ⟨fun h => h.2.2, fun h => ⟨hidentified, hplaced, h⟩⟩
      rw [hsheltered]
      show (_ → (advance endpoint r.action (t.navigated r.action e.dispatch)
          (afterDispatch endpoint r.action e.dispatch) e.observations).2 = _) ∧
        (_ → (advance endpoint r.action (t.navigated r.action e.dispatch)
          (afterDispatch endpoint r.action e.dispatch) e.observations).2 = _)
      by_cases hsecurity : e.dispatch = .security
      · rw [hsecurity]
        exact ⟨fun _ => advance_close _ _ e.observations, fun h => absurd (.inl rfl) h⟩
      · have hobserved := hrejected.resolve_left hsecurity
        cases hquiet : e.dispatch.quiet with
        | false =>
          refine ⟨fun h => ?_, fun _ => afterDispatch_raised hquiet hsecurity _ hobserved⟩
          rcases h with h | h
          · exact absurd h hsecurity
          · exact absurd h.1 (by decide)
        | true =>
          have hguarded : ∃ success category,
              afterDispatch endpoint r.action e.dispatch = .observe success category true := by
            cases hd : e.dispatch with
            | done => exact ⟨true, none, rfl⟩
            | receiptMismatch => exact ⟨false, some .idempotencyMismatch, rfl⟩
            | security | refused | policy | invalidValue | timeout | browserError | failed
            | cancelled =>
              rw [hd] at hquiet
              cases hquiet
          obtain ⟨success, category, hafter⟩ := hguarded
          rw [hafter] at hobserved ⊢
          refine ⟨fun h => ?_, fun h => escapes_later _ hobserved ?_⟩
          · exact caught _ (h.resolve_left hsecurity).2
          · exact Bool.eq_false_iff.mpr fun hfirst => h (.inr ⟨rfl, hfirst⟩)

theorem serve_answer {op : Operation} {reply : Reply}
    (h : (handle limits s.session op e).2 = .answer reply) :
    serve limits op e s = .ok reply { s with session := (handle limits s.session op e).1 } := by
  cases hhandle : handle limits s.session op e with
  | mk t handler =>
    rw [hhandle] at h
    cases h
    unfold serve
    simp only [bind_apply, get_apply, hhandle, set_apply, pure_apply]

theorem serve_close {op : Operation} {after : Reply}
    (h : (handle limits s.session op e).2 = .close after) :
    serve limits op e s = EStateM.bind (closeSession e.closing) (fun _ => EStateM.pure after)
      { s with session := (handle limits s.session op e).1 } := by
  cases hhandle : handle limits s.session op e with
  | mk t handler =>
    rw [hhandle] at h
    cases h
    unfold serve
    simp only [bind_apply, get_apply, hhandle, set_apply, pure_apply]
    rfl

/-- The rejection of an action on a live session stops it safely exactly when it comes from the
first observation inside the `try` block and nothing breaks off the closing. -/
theorem safe_stop_iff (hlive : s.Live) (hopen : s.handles = .all)
    (hrejected : Rejected limits s.session endpoint r e) :
    SafelyStopped limits s endpoint r e ↔
      Sheltered s.session endpoint r e ∧ e.closing.Completes s.handles := by
  obtain ⟨hcaught, hescapes⟩ := handle_rejected hrejected
  by_cases hsheltered : Sheltered s.session endpoint r e
  · have hclose := closeSession_ensures
      (s := { s with session := (handle limits s.session (.action endpoint r) e).1 }) e.closing
      (by rw [hopen]; rfl)
      ((kept_handle limits s.session (.action endpoint r) e).closed.trans hlive.unclosed)
    unfold SafelyStopped
    rw [serve_close (hcaught hsheltered)]
    unfold EStateM.bind
    cases hrun : closeSession e.closing
        { s with session := (handle limits s.session (.action endpoint r) e).1 } with
    | ok a t =>
      obtain ⟨hshuts, hunregistered, hsuppressed, htable⟩ := hclose.ok hrun
      constructor
      · rintro ⟨u, hu, _, hgone⟩
        cases hu
        exact ⟨hsheltered, (hshuts.gone_iff (by rw [hopen]; rfl) hunregistered).mp hgone,
          hsuppressed, htable⟩
      · rintro ⟨_, hcompletes⟩
        exact ⟨t, rfl, hshuts.closed, (hshuts.gone_iff (by rw [hopen]; rfl) hunregistered).mpr
          hcompletes.empties⟩
    | error raise t =>
      obtain ⟨_, _, hbroken⟩ := hclose.error hrun
      constructor
      · rintro ⟨u, hu, _⟩
        cases hu
      · rintro ⟨_, hcompletes⟩
        exact absurd hcompletes hbroken
  · refine ⟨?_, fun h => absurd h.1 hsheltered⟩
    rintro ⟨t, ht, _⟩
    rw [serve_answer (hescapes hsheltered)] at ht
    cases ht

end Stops

/-! ## Two requests on a session -/

def domSite : Site where
  session := { sessionId := "bw_1", mode := .dom, startedAt := 0, observationId := "obs_1" }
  handles := .all
  registered := true
  expiring := true

def waitAction : ActionRequest := { action := { type := .wait, durationMs := 100 } }

def staleClick : ActionRequest := { action := { type := .click, observationId := "obs_0" } }

/-- The page has become one that the guard rejects. -/
def poisoned : Events := { now := 0, observations := [.security] }

theorem safe_stop_iff_wait :
    SafelyStopped {} domSite .dom waitAction poisoned ∧
      Sheltered domSite.session .dom waitAction poisoned := by
  have hsheltered : Sheltered domSite.session .dom waitAction poisoned :=
    ⟨trivial, fun h => absurd h.1 (by decide), .inr ⟨rfl, rfl⟩⟩
  have hcompletes : poisoned.closing.Completes domSite.handles :=
    ⟨⟨fun _ => rfl, fun _ => rfl, fun _ => rfl, fun _ => rfl⟩, rfl, rfl⟩
  have hrejected : Rejected {} domSite.session .dom waitAction poisoned :=
    Or.inr (a := poisoned.dispatch = .security) (rfl : rejects .dom waitAction.action
      (afterDispatch .dom waitAction.action poisoned.dispatch) poisoned.observations = true)
  exact ⟨(safe_stop_iff ⟨rfl, rfl, rfl⟩ rfl hrejected).mpr ⟨hsheltered, hcompletes⟩, hsheltered⟩

/-- The observation that tells of a stale reference is built in front of the `try` block: its
rejection leaves the handler, and the session stays open. -/
theorem stale_click_escapes :
    Rejected {} domSite.session .dom staleClick poisoned ∧
      serve {} (.action .dom staleClick) poisoned domSite =
        .ok .raised { domSite with session := domSite.session.counted } ∧
      ¬ SafelyStopped {} domSite .dom staleClick poisoned := by
  have hserve : serve {} (.action .dom staleClick) poisoned domSite =
      .ok .raised { domSite with session := domSite.session.counted } := rfl
  refine ⟨rfl, hserve, ?_⟩
  rintro ⟨t, ht, _⟩
  rw [hserve] at ht
  cases ht

end FlowPilot.Browser
