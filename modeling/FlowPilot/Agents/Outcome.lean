import FlowPilot.Agents.Vision
import FlowPilot.Agents.Hybrid

/-!
# What a finished run says

A run ends as `finished_ungraded` exactly when the worker accepted its finish, as long as every
finish was heard: `_terminal_action_status` looks at the action only, and not at the success of
its result.
-/

open FlowPilot.Lib FlowPilot.Browser

namespace FlowPilot.Agents

variable {K : Kind} {α β δ : Type}

/-! ## Statements that send no action -/

def Exit.finished : Exit → Prop
  | .stopped status _ => status = .finishedUngraded
  | .raised => False

/-- The statement sends no action request, returns a value in `P`, and where it ends the run it is
not as finished. -/
def Quiet (P : α → Prop) (x : Flow K α) : Prop :=
  ∀ s, Ensures x s (fun a t => t.exchanges = s.exchanges ∧ P a)
    (fun e t => t.exchanges = s.exchanges ∧ ¬ e.finished)

/-- Any value. -/
def Anything (_ : α) : Prop := True

theorem quiet_pure {P : α → Prop} {a : α} (h : P a) : Quiet P (pure a : Flow K α) :=
  fun _ => ⟨rfl, h⟩

theorem quiet_get : Quiet Anything (get : Flow K (Locals K)) := fun _ => ⟨rfl, trivial⟩

theorem quiet_modify {f : Locals K → Locals K} (h : ∀ l, (f l).exchanges = l.exchanges) :
    Quiet Anything (modify f : Flow K PUnit) := fun l => ⟨h l, trivial⟩

theorem quiet_stop {P : α → Prop} {status : RunStatus} (reason : String)
    (h : status ≠ .finishedUngraded) : Quiet P (stop status reason : Flow K α) := fun _ => ⟨rfl, h⟩

theorem quiet_raise {P : α → Prop} : Quiet P (throw .raised : Flow K α) := fun _ => ⟨rfl, id⟩

theorem quiet_bind {P : α → Prop} {Q : β → Prop} {x : Flow K α} {f : α → Flow K β}
    (hx : Quiet P x) (hf : ∀ a, P a → Quiet Q (f a)) : Quiet Q (x >>= f) := by
  intro s
  refine Ensures.bind ((hx s).mono ?_ fun _ _ h => h)
  intro a t ht
  have hnext := hf a ht.2 t
  rw [ht.1] at hnext
  exact hnext

theorem quiet_safeClose : Quiet Anything (safeClose : Flow K PUnit) := quiet_modify fun _ => rfl

theorem quiet_quit {P : α → Prop} {status : RunStatus} (reason : String)
    (h : status ≠ .finishedUngraded) : Quiet P (quit status reason : Flow K α) :=
  quiet_bind quiet_safeClose fun _ _ => quiet_stop reason h

/-- A verdict that does not end a run as finished. -/
def Sober (verdict : Option (RunStatus × String)) : Prop :=
  verdict.map (·.1) ≠ some .finishedUngraded

theorem quiet_quitIf {verdict : Option (RunStatus × String)} (h : Sober verdict) :
    Quiet Anything (quitIf verdict : Flow K PUnit) := by
  cases verdict with
  | none => exact quiet_pure trivial
  | some verdict =>
      have hstatus : verdict.1 ≠ .finishedUngraded := fun hs => h (congrArg some hs)
      exact quiet_quit verdict.2 hstatus

section Statements

variable (script : Script K.Observation δ) (w : Wording) (budget : AgentBudget)

theorem quiet_elapsed : Quiet Anything (elapsed script : Flow K Time) :=
  quiet_bind quiet_get fun _ _ =>
    quiet_bind (quiet_modify fun _ => rfl) fun _ _ => quiet_pure trivial

theorem quiet_preCallBudgetStatus :
    Quiet Sober (preCallBudgetStatus script w budget : Flow K _) := by
  refine quiet_bind (quiet_elapsed script) fun time _ => quiet_bind quiet_get fun l _ => ?_
  refine quiet_pure ?_
  unfold Sober
  split_ifs <;> simp

theorem quiet_postCallBudgetStatus :
    Quiet Sober (postCallBudgetStatus script w budget : Flow K _) := by
  refine quiet_bind (quiet_elapsed script) fun time _ => quiet_bind quiet_get fun l _ => ?_
  refine quiet_pure ?_
  unfold Sober
  split_ifs <;> simp

theorem quiet_complete (calls : Nat) {onCancel : Flow K PUnit} (h : Quiet Anything onCancel) :
    Quiet Anything (complete script w budget calls onCancel : Flow K δ) := by
  refine quiet_bind quiet_get fun l _ => quiet_bind (quiet_modify fun _ => rfl) fun _ _ => ?_
  cases script.reply l.modelTurns with
  | answer content usage =>
      refine quiet_bind (quiet_modify fun _ => rfl) fun _ _ =>
        quiet_bind (quiet_postCallBudgetStatus script w budget) fun verdict hverdict =>
          quiet_bind (quiet_quitIf hverdict) fun _ _ => ?_
      cases content with
      | none => exact quiet_quit _ (by decide)
      | some decision => exact quiet_pure trivial
  | callError usage safeReason =>
      have hcharge : ∀ l : Locals K,
          (usage.elim l fun u => charge calls u l).exchanges = l.exchanges := by
        intro l
        cases usage <;> rfl
      refine quiet_bind (quiet_modify hcharge) fun _ _ =>
        quiet_bind quiet_safeClose fun _ _ =>
          quiet_bind (quiet_postCallBudgetStatus script w budget) fun verdict hverdict => ?_
      cases verdict with
      | none => exact quiet_stop _ (by decide)
      | some verdict => exact quiet_stop _ fun hs => hverdict (congrArg some hs)
  | failed => exact quiet_quit _ (by decide)
  | cancelled => exact quiet_bind h fun _ _ => quiet_raise

theorem quiet_checkRepeated [DecidableEq K.Signature] (signature : K.Signature) :
    Quiet Anything (checkRepeated w budget signature : Flow K PUnit) := by
  have hcount : ∀ l : Locals K,
      (if l.previousSignature = some signature then { l with repeated := l.repeated + 1 }
        else { l with repeated := 1, previousSignature := some signature }).exchanges =
        l.exchanges := by
    intro l
    split <;> rfl
  refine quiet_bind (quiet_modify hcount) fun _ _ => quiet_bind quiet_get fun l _ => ?_
  split
  · exact quiet_quit _ (by decide)
  · exact quiet_pure trivial

theorem quiet_checkProgress [DecidableEq K.Fingerprint] (fingerprint : K.Fingerprint)
    (hidden : Bool) :
    Quiet Anything (checkProgress w budget fingerprint hidden : Flow K PUnit) := by
  refine quiet_bind (quiet_modify fun _ => rfl) fun _ _ => quiet_bind quiet_get fun l _ => ?_
  split
  · exact quiet_quit _ (by decide)
  · exact quiet_pure trivial

theorem quiet_record (summary : K.Summary) :
    Quiet Anything (record summary : Flow K PUnit) := quiet_modify fun _ => rfl

end Statements

/-! ## Runs so far -/

section Runs

variable {limits : Limits}

/-- Every action so far was answered by a result that let the run go on. -/
def Going (limits : Limits) (endpoint : Mode) {ω : Type} (exchanges : List (Exchange ω)) : Prop :=
  ∀ e ∈ exchanges, e.endpoint = endpoint ∧ ∃ r, e.result limits = some r ∧ r.terminal = false

/-- The status of the run agrees with the worker exactly when its finishes were heard. -/
def Settled (limits : Limits) {ω : Type} (finished : Prop) (exchanges : List (Exchange ω)) :
    Prop :=
  (finished ↔ Accepted limits exchanges) ↔ FinishesHeard limits exchanges

variable {ω : Type} {endpoint : Mode} {exchanges : List (Exchange ω)}

theorem Going.heard (hrecovery : endpoint ≠ .recovery) (h : Going limits endpoint exchanges) :
    ∀ e ∈ exchanges, e.heard limits ∧ ¬ e.accepted limits := by
  intro e he
  obtain ⟨hendpoint, r, hr, hrunning⟩ := h e he
  exact heard_of_running (hendpoint ▸ hrecovery) hr hrunning

/-- A run that ends without a further action agrees with the worker. -/
theorem Going.settled (hrecovery : endpoint ≠ .recovery) (h : Going limits endpoint exchanges)
    {finished : Prop} (hfinished : ¬ finished) : Settled limits finished exchanges := by
  have hnone : ¬ Accepted limits exchanges := by
    intro haccepted
    obtain ⟨e, he, hsome⟩ := haccepted
    exact (h.heard hrecovery e he).2 hsome
  have hheard : FinishesHeard limits exchanges := fun e he => (h.heard hrecovery e he).1
  exact ⟨fun _ => hheard, fun _ => ⟨fun hf => absurd hf hfinished, fun ha => absurd ha hnone⟩⟩

theorem accepted_append (hrecovery : endpoint ≠ .recovery) (h : Going limits endpoint exchanges)
    (e : Exchange ω) : Accepted limits (exchanges ++ [e]) ↔ e.accepted limits := by
  constructor
  · intro haccepted
    obtain ⟨other, hother, hsome⟩ := haccepted
    rcases List.mem_append.mp hother with hold | hnew
    · exact absurd hsome (h.heard hrecovery other hold).2
    · rwa [List.mem_singleton.mp hnew] at hsome
  · intro hsome
    exact ⟨e, List.mem_append_right _ (List.mem_singleton.mpr rfl), hsome⟩

theorem finishesHeard_append (hrecovery : endpoint ≠ .recovery)
    (h : Going limits endpoint exchanges) (e : Exchange ω) :
    FinishesHeard limits (exchanges ++ [e]) ↔ e.heard limits := by
  constructor
  · intro hheard
    exact hheard e (List.mem_append_right _ (List.mem_singleton.mpr rfl))
  · intro hheard other hother
    rcases List.mem_append.mp hother with hold | hnew
    · exact (h.heard hrecovery other hold).1
    · rw [List.mem_singleton.mp hnew]
      exact hheard

/-- A run whose last answer is terminal has the status of its last action. -/
theorem settled_of_terminal (hrecovery : endpoint ≠ .recovery)
    (h : Going limits endpoint exchanges) {e : Exchange ω} (hendpoint : e.endpoint = endpoint)
    {r : Browser.ActionResult} (hr : e.result limits = some r) (hends : r.terminal = true)
    {finished : Prop} (hfinished : finished ↔ e.request.action.type = .finish) :
    Settled limits finished (exchanges ++ [e]) := by
  have hagent : e.endpoint ≠ .recovery := hendpoint ▸ hrecovery
  have hreply := (result_some hr).2
  unfold Settled
  rw [accepted_append hrecovery h, finishesHeard_append hrecovery h, hfinished]
  by_cases ha : e.request.action.type = .finish
  · rw [heard_iff_success hagent hr hends ha]
    constructor
    · intro hagrees
      obtain ⟨_, other, hother, _, hsuccess⟩ := hagrees.mp ha
      rw [hreply] at hother
      cases hother
      exact hsuccess
    · intro hsuccess
      exact ⟨fun _ => ⟨ha, r, hreply, hends, hsuccess⟩, fun _ => ha⟩
  · have hnone : ¬ e.accepted limits := fun haccepted => ha haccepted.1
    exact ⟨fun _ hfinish => absurd hfinish ha,
      fun _ => ⟨fun hfinish => absurd hfinish ha, fun haccepted => absurd haccepted hnone⟩⟩

/-- A run that ends because the client raised. -/
theorem settled_of_raise (hrecovery : endpoint ≠ .recovery) (h : Going limits endpoint exchanges)
    {e : Exchange ω} (hendpoint : e.endpoint = endpoint) (hr : e.result limits = none)
    {finished : Prop} (hfinished : ¬ finished) : Settled limits finished (exchanges ++ [e]) := by
  have hagent : e.endpoint ≠ .recovery := hendpoint ▸ hrecovery
  have hunheard := accepted_iff_unheard hagent hr
  unfold Settled
  rw [accepted_append hrecovery h, finishesHeard_append hrecovery h, hunheard]
  by_cases hheard : e.heard limits
  · exact ⟨fun _ => hheard, fun _ => ⟨fun hf => absurd hf hfinished, fun hn => absurd hheard hn⟩⟩
  · exact ⟨fun hagrees => absurd (hagrees.mpr hheard) hfinished, fun hh => absurd hh hheard⟩

end Runs

/-! ## Turns -/

section Turns

variable (limits : Limits)

/-- How a run may end: with an exception, or with a status that agrees with the worker exactly when
its finishes were heard. -/
def Ends (e : Exit) (t : Locals K) : Prop :=
  e = .raised ∨ Settled limits e.finished t.exchanges

/-- The answer to the last action of the run. -/
structure Answered (endpoint : Mode) (r : ActionRequest)
    (before : List (Exchange K.Observation)) (answer : ActionResult K.Observation)
    (e : Exchange K.Observation) (result : Browser.ActionResult) (t : Locals K) : Prop where
  exchanges : t.exchanges = before ++ [e]
  endpoint : e.endpoint = endpoint
  request : e.request = r
  answered : e.result limits = some result
  terminal : answer.terminal = result.terminal

variable {limits} {endpoint : Mode} {s t : Locals K}

theorem ensures_quiet {P : α → Prop} {Q : β → Locals K → Prop} {x : Flow K α} {f : α → Flow K β}
    (hrecovery : endpoint ≠ .recovery) (hs : Going limits endpoint s.exchanges) (hx : Quiet P x)
    (hf : ∀ a t, P a → Going limits endpoint t.exchanges → Ensures (f a) t Q (Ends limits)) :
    Ensures (x >>= f) s Q (Ends limits) := by
  refine Ensures.bind ((hx s).mono ?_ ?_)
  · intro a t ht
    exact hf a t ht.2 (ht.1 ▸ hs)
  · intro e t ht
    refine .inr ?_
    rw [ht.1]
    exact hs.settled hrecovery ht.2

/-- A quiet statement at the end of a turn. -/
theorem ensures_last {P : α → Prop} {x : Flow K α} (hrecovery : endpoint ≠ .recovery)
    (hs : Going limits endpoint s.exchanges) (hx : Quiet P x) :
    Ensures x s (fun _ t => Going limits endpoint t.exchanges) (Ends limits) := by
  refine (hx s).mono ?_ ?_
  · intro a t ht
    exact ht.1 ▸ hs
  · intro e t ht
    refine .inr ?_
    rw [ht.1]
    exact hs.settled hrecovery ht.2

theorem ensures_executeAction (script : Script K.Observation δ) (w : Wording)
    (hrecovery : endpoint ≠ .recovery) (hs : Going limits endpoint s.exchanges)
    (actionId : String) (r : ActionRequest) {onCancel : Flow K PUnit}
    (hcancel : ∀ t, Ensures onCancel t (fun _ _ => True) (Ends limits)) :
    Ensures (executeAction script w limits endpoint actionId r onCancel) s
      (fun answer t => ∃ e result, Answered limits endpoint r s.exchanges answer e result t)
      (Ends limits) := by
  let e : Exchange K.Observation := ⟨s.session, endpoint, r, script.visit s.requests⟩
  let t : Locals K :=
    { s with
      session := (respond limits e.session e.endpoint e.request e.visit).1
      exchanges := s.exchanges ++ [e]
      requests := s.requests + 1 }
  refine Ensures.bind (Ensures.of_get (Ensures.bind (Ensures.of_modify (s := s) ?_)))
  show Ensures (if e.visit.delivery = .cancelled then _ else _) t _ _
  by_cases hcancelled : e.visit.delivery = .cancelled
  · rw [if_pos hcancelled]
    exact Ensures.bind ((hcancel t).mono (fun _ _ _ => .inl rfl) fun _ _ h => h)
  · rw [if_neg hcancelled]
    cases hresult : e.result limits with
    | none =>
        have hfinished : ¬ (Exit.stopped .browserError w.rejected).finished := by
          intro h
          cases h
        exact .inr (settled_of_raise hrecovery hs rfl hresult hfinished)
    | some result => exact ⟨e, result, ⟨rfl, rfl, rfl, hresult, rfl⟩⟩

theorem Answered.going {r : ActionRequest} {before : List (Exchange K.Observation)}
    {answer : ActionResult K.Observation} {e : Exchange K.Observation}
    {result : Browser.ActionResult} (h : Answered limits endpoint r before answer e result t)
    (hbefore : Going limits endpoint before) (hrunning : answer.terminal = false) :
    Going limits endpoint t.exchanges := by
  intro other hother
  rw [h.exchanges] at hother
  rcases List.mem_append.mp hother with hold | hnew
  · exact hbefore other hold
  · rw [List.mem_singleton.mp hnew]
    exact ⟨h.endpoint, result, h.answered, h.terminal ▸ hrunning⟩

theorem Answered.congr {r : ActionRequest} {before : List (Exchange K.Observation)}
    {answer : ActionResult K.Observation} {e : Exchange K.Observation}
    {result : Browser.ActionResult} (h : Answered limits endpoint r before answer e result s)
    (ht : t.exchanges = s.exchanges) : Answered limits endpoint r before answer e result t :=
  { h with exchanges := ht.trans h.exchanges }

/-- A terminal answer ends the run with the status of the action. -/
theorem Answered.settled {r : ActionRequest} {before : List (Exchange K.Observation)}
    {answer : ActionResult K.Observation} {e : Exchange K.Observation}
    {result : Browser.ActionResult} (h : Answered limits endpoint r before answer e result t)
    (hrecovery : endpoint ≠ .recovery) (hbefore : Going limits endpoint before)
    (hends : answer.terminal = true) {finished : Prop}
    (hfinished : finished ↔ r.action.type = .finish) :
    Settled limits finished t.exchanges := by
  rw [h.exchanges]
  rw [← h.request] at hfinished
  exact settled_of_terminal hrecovery hbefore h.endpoint h.answered (h.terminal ▸ hends) hfinished

theorem terminalActionStatus_finished {τ : Type} (w : Wording) (a : BrowserAction τ)
    (message : String) :
    (terminalActionStatus w a message).1 = .finishedUngraded ↔ a.type = .finish := by
  cases a with
  | fail actionId category reason =>
      cases category <;> simp [terminalActionStatus, BrowserAction.type]
  | _ => simp [terminalActionStatus, BrowserAction.type]

/-- Whatever a turn keeps, the rounds of the loop end as a turn may. -/
theorem ensures_rounds (w : Wording) {turn : Flow K PUnit} (hrecovery : endpoint ≠ .recovery)
    (hturn : ∀ s : Locals K, Going limits endpoint s.exchanges →
      Ensures turn s (fun _ t => Going limits endpoint t.exchanges) (Ends limits))
    (n : Nat) : ∀ s : Locals K, Going limits endpoint s.exchanges →
      Ensures (rounds w turn n) s (fun _ _ => False) (Ends limits) := by
  induction n with
  | zero =>
      intro s hs
      have hquit : Quiet (fun _ => False)
          (quit .stepBudgetExhausted w.steps : Flow K Empty) := quiet_quit _ (by decide)
      refine (hquit s).mono (fun _ _ h => h.2) ?_
      intro e t ht
      refine .inr ?_
      rw [ht.1]
      exact hs.settled hrecovery ht.2
  | succ n ih =>
      intro s hs
      exact Ensures.bind ((hturn s hs).mono (fun _ t ht => ih t ht) fun _ _ h => h)

theorem settled_of_ending {ρ : Type} {status : ρ → RunStatus}
    {result : RunStatus → String → Locals K → ρ} (hstatus : ∀ x reason l, status (result x reason l) = x)
    {loop : Flow K Empty} (h : Ensures loop s (fun _ _ => False) (Ends limits)) {outcome : ρ}
    {exchanges : List (Exchange K.Observation)}
    (hrun : ending result loop s = (some outcome, exchanges)) :
    Settled limits (status outcome = .finishedUngraded) exchanges := by
  obtain ⟨e, t, hloop, hends⟩ := h.raises
  unfold ending at hrun
  rw [hloop] at hrun
  cases e with
  | raised => cases hrun
  | stopped final reason =>
      cases hrun
      rw [hstatus]
      exact hends.resolve_left fun h => by cases h

end Turns

/-! ## The DOM agent -/

namespace Dom

variable (limits : Limits) (script : Script) (budget : AgentBudget)

theorem ensures_turn (s : Locals kind) (hs : Going limits .dom s.exchanges) :
    Ensures (turn limits script budget) s (fun _ t => Going limits .dom t.exchanges)
      (Ends limits) := by
  have hagent : Mode.dom ≠ .recovery := by decide
  refine ensures_quiet hagent hs (quiet_preCallBudgetStatus _ _ _) fun verdict s hverdict hs => ?_
  refine ensures_quiet hagent hs (quiet_quitIf hverdict) fun _ s _ hs => ?_
  refine ensures_quiet hagent hs (quiet_complete _ _ _ _ (quiet_pure trivial)) fun action s _ hs => ?_
  refine ensures_quiet hagent hs (quiet_checkRepeated _ _ _) fun _ s _ hs => ?_
  refine Ensures.bind ((ensures_executeAction script wording hagent hs _ _
    fun _ => Ensures.of_pure trivial).mono ?_ fun _ _ h => h)
  intro answer t hanswered
  obtain ⟨e, result, hanswered⟩ := hanswered
  refine Ensures.bind (Ensures.of_modify ?_)
  by_cases hterminal : answer.terminal = true
  · rw [if_pos hterminal]
    exact .inr ((hanswered.congr rfl).settled hagent hs hterminal (terminalActionStatus_finished _ _ _))
  · rw [if_neg hterminal]
    have hgoing := (hanswered.congr rfl).going hs (Bool.eq_false_iff.mpr hterminal)
    cases answer.observation with
    | none => exact ensures_last hagent hgoing (quiet_quit _ (by decide) (P := Anything))
    | some observation =>
        exact ensures_last hagent hgoing (quiet_bind (quiet_modify fun _ => rfl)
          fun _ _ => quiet_checkProgress _ _ _ _)

/-- Where a run of the DOM agent returns a result. -/
theorem settled_run {taskId : String} {outcome : AgentRunResult}
    {exchanges : List (Exchange Observation)}
    (hrun : run limits script budget taskId = (some outcome, exchanges)) :
    Settled limits (outcome.status = .finishedUngraded) exchanges := by
  have hagent : Mode.dom ≠ .recovery := by decide
  have hempty : Going limits .dom ([] : List (Exchange Observation)) := by
    intro e he
    cases he
  unfold run at hrun
  cases hcreated : script.created with
  | none =>
      rw [hcreated] at hrun
      cases hrun
      exact hempty.settled hagent fun h => by cases h
  | some observation =>
      rw [hcreated] at hrun
      exact settled_of_ending (fun _ _ _ => rfl)
        (ensures_rounds wording hagent (ensures_turn limits script budget) _ _ hempty) hrun

end Dom

/-! ## The vision agent -/

namespace Vision

variable [Sha256] (limits : Limits) (script : Script) (budget : VisionAgentBudget)

omit [Sha256] in
theorem quiet_observeImage (observation : VisionObservation) :
    Quiet Anything (observeImage budget observation) := by
  refine quiet_bind (quiet_modify fun _ => rfl) fun _ _ => quiet_bind quiet_get fun l _ => ?_
  have hsober : Sober (imageBudgetStatus l.own budget) := by
    unfold Sober imageBudgetStatus
    split_ifs <;> simp
  exact quiet_quitIf hsober

theorem ensures_turn (s : Locals kind) (hs : Going limits .vision s.exchanges) :
    Ensures (turn limits script budget) s (fun _ t => Going limits .vision t.exchanges)
      (Ends limits) := by
  have hagent : Mode.vision ≠ .recovery := by decide
  refine ensures_quiet hagent hs (quiet_preCallBudgetStatus _ _ _) fun verdict s hverdict hs => ?_
  refine ensures_quiet hagent hs (quiet_quitIf hverdict) fun _ s _ hs => ?_
  refine ensures_quiet hagent hs (quiet_complete _ _ _ _ (quiet_pure trivial)) fun action s _ hs => ?_
  refine ensures_quiet hagent hs (quiet_checkRepeated _ _ _) fun _ s _ hs => ?_
  refine Ensures.bind ((ensures_executeAction script wording hagent hs _ _
    fun _ => Ensures.of_pure trivial).mono ?_ fun _ _ h => h)
  intro answer t hanswered
  obtain ⟨e, result, hanswered⟩ := hanswered
  refine Ensures.bind (Ensures.of_modify ?_)
  by_cases hterminal : answer.terminal = true
  · rw [if_pos hterminal]
    exact .inr ((hanswered.congr rfl).settled hagent hs hterminal (terminalActionStatus_finished _ _ _))
  · rw [if_neg hterminal]
    have hgoing := (hanswered.congr rfl).going hs (Bool.eq_false_iff.mpr hterminal)
    cases answer.observation with
    | none => exact ensures_last hagent hgoing (quiet_quit _ (by decide) (P := Anything))
    | some observation =>
        exact ensures_last hagent hgoing (quiet_bind (quiet_observeImage budget observation)
          fun _ _ => quiet_checkProgress _ _ _ _)

/-- Where a run of the vision agent returns a result. -/
theorem settled_run {taskId : String} {outcome : VisionAgentRunResult}
    {exchanges : List (Exchange VisionObservation)}
    (hrun : run limits script budget taskId = (some outcome, exchanges)) :
    Settled limits (outcome.status = .finishedUngraded) exchanges := by
  have hagent : Mode.vision ≠ .recovery := by decide
  have hempty : Going limits .vision ([] : List (Exchange VisionObservation)) := by
    intro e he
    cases he
  unfold run at hrun
  cases hcreated : script.created with
  | none =>
      rw [hcreated] at hrun
      cases hrun
      exact hempty.settled hagent fun h => by cases h
  | some observation =>
      rw [hcreated] at hrun
      exact settled_of_ending (fun _ _ _ => rfl)
        (ensures_quiet hagent hempty (quiet_observeImage budget observation)
          fun _ s _ hs =>
            ensures_rounds wording hagent (ensures_turn limits script budget) _ s hs) hrun

end Vision

/-! ## The hybrid agent -/

namespace Hybrid

variable [Sha256] (limits : Limits) (script : Script) (category : RouteCategory)
  (budget : HybridAgentBudget)

omit [Sha256] in
theorem quiet_observe (o : HybridObservation) : Quiet Anything (observe budget o) := by
  refine quiet_bind (quiet_modify fun _ => rfl) fun _ _ => quiet_bind quiet_get fun l _ => ?_
  have hsober : Sober (observationStatus budget o l.own) := by
    unfold Sober observationStatus
    split
    · split_ifs <;> simp
    · split_ifs <;> simp
  exact quiet_quitIf hsober

omit [Sha256] in
theorem quiet_requestObservation : Quiet Anything (requestObservation script) := by
  refine quiet_bind quiet_get fun l _ => quiet_bind (quiet_modify fun _ => rfl) fun _ _ => ?_
  split
  · exact quiet_bind quiet_safeClose fun _ _ => quiet_raise
  · exact quiet_pure trivial
  · exact quiet_quit _ (by decide)

omit [Sha256] in
theorem quiet_switch : Quiet Anything (switch script category budget) := by
  have hrouter : Quiet Anything (routerBudget script budget) :=
    quiet_bind (quiet_elapsed (K := kind) script) fun _ _ =>
      quiet_bind quiet_get fun _ _ => quiet_pure trivial
  refine quiet_bind hrouter fun remaining _ => quiet_bind quiet_get fun l _ => ?_
  split
  refine quiet_bind (quiet_modify fun _ => rfl) fun _ _ => ?_
  split
  · exact quiet_quit _ (by decide)
  · split
    · exact quiet_bind (quiet_requestObservation script) fun o _ => quiet_observe budget o
    · exact quiet_pure trivial

omit [Sha256] in
theorem quiet_modelObservation : Quiet Anything (modelObservation budget) := by
  refine quiet_bind quiet_get fun l _ => ?_
  split
  · exact quiet_pure trivial
  · split
    · exact quiet_quit _ (by decide)
    · refine quiet_bind (quiet_modify fun _ => rfl) fun _ _ => ?_
      split
      · exact quiet_quit _ (by decide)
      · exact quiet_pure trivial

omit [Sha256] in
theorem terminalStatus_finished (e : HybridActionEnvelope) (message : String) :
    (terminalStatus e message).1 = .finishedUngraded ↔ e.request.action.type = .finish := by
  unfold terminalStatus HybridActionEnvelope.request
  cases e.action with
  | dom a => exact terminalActionStatus_finished wording a message
  | vision a => exact terminalActionStatus_finished wording a message

theorem ensures_turn (s : Locals kind) (hs : Going limits .hybrid s.exchanges) :
    Ensures (turn limits script category budget) s (fun _ t => Going limits .hybrid t.exchanges)
      (Ends limits) := by
  have hagent : Mode.hybrid ≠ .recovery := by decide
  refine ensures_quiet hagent hs (quiet_preCallBudgetStatus _ _ _) fun verdict s hverdict hs => ?_
  refine ensures_quiet hagent hs (quiet_quitIf hverdict) fun _ s _ hs => ?_
  refine ensures_quiet hagent hs (quiet_switch script category budget) fun _ s _ hs => ?_
  refine ensures_quiet hagent hs (quiet_modelObservation budget) fun _ s _ hs => ?_
  refine ensures_quiet hagent hs (quiet_modify fun _ => rfl) fun _ s _ hs => ?_
  refine ensures_quiet hagent hs (quiet_complete _ _ _ _ quiet_safeClose) fun envelope s _ hs => ?_
  refine ensures_quiet hagent hs quiet_get fun l s _ hs => ?_
  by_cases hmodality : envelope.modality ≠ l.observation.modality
  · rw [if_pos hmodality]
    exact ensures_last hagent hs (quiet_quit _ (by decide) (P := Anything))
  · rw [if_neg hmodality]
    refine ensures_quiet hagent hs (quiet_checkRepeated _ _ _) fun _ s _ hs => ?_
    refine Ensures.bind ((ensures_executeAction script wording hagent hs _ _
      fun _ => Ensures.of_modify trivial).mono ?_ fun _ _ h => h)
    intro answer t hanswered
    obtain ⟨e, result, hanswered⟩ := hanswered
    refine Ensures.bind (Ensures.bind (Ensures.of_modify (Ensures.of_modify ?_)))
    by_cases hterminal : answer.terminal = true
    · rw [if_pos hterminal]
      refine Ensures.bind (Ensures.of_modify ?_)
      exact .inr ((hanswered.congr rfl).settled hagent hs hterminal (terminalStatus_finished _ _))
    · rw [if_neg hterminal]
      have hgoing := (hanswered.congr rfl).going hs (Bool.eq_false_iff.mpr hterminal)
      cases answer.observation with
      | none => exact ensures_last hagent hgoing (quiet_quit _ (by decide) (P := Anything))
      | some observation =>
          exact ensures_last hagent hgoing (quiet_bind (quiet_observe budget observation)
            fun _ _ => quiet_checkProgress _ _ _ _)

/-- Where a run of the hybrid agent returns a result. -/
theorem settled_run {taskId : String} {outcome : HybridAgentRunResult}
    {exchanges : List (Exchange HybridObservation)}
    (hrun : run limits script category budget taskId = (some outcome, exchanges)) :
    Settled limits (outcome.status = .finishedUngraded) exchanges := by
  have hagent : Mode.hybrid ≠ .recovery := by decide
  have hempty : Going limits .hybrid ([] : List (Exchange HybridObservation)) := by
    intro e he
    cases he
  unfold run at hrun
  cases hcreated : script.created with
  | none =>
      rw [hcreated] at hrun
      cases hrun
      exact hempty.settled hagent fun h => by cases h
  | some observation =>
      rw [hcreated] at hrun
      exact settled_of_ending (fun _ _ _ => rfl)
        (ensures_quiet hagent hempty (quiet_observe budget observation)
          fun _ s _ hs =>
            ensures_rounds wording hagent (ensures_turn limits script category budget) _ s hs) hrun

end Hybrid

/-! ## All three agents -/

/-- A result says `finished_ungraded` exactly when the worker accepted a finish of the run, if and
only if every finish of the run was heard. -/
theorem finished_iff_accepted [Sha256] (limits : Limits) :
    (∀ script budget taskId outcome exchanges,
      Dom.run limits script budget taskId = (some outcome, exchanges) →
        ((outcome.status = .finishedUngraded ↔ Accepted limits exchanges) ↔
          FinishesHeard limits exchanges)) ∧
    (∀ script budget taskId outcome exchanges,
      Vision.run limits script budget taskId = (some outcome, exchanges) →
        ((outcome.status = .finishedUngraded ↔ Accepted limits exchanges) ↔
          FinishesHeard limits exchanges)) ∧
    ∀ script category budget taskId outcome exchanges,
      Hybrid.run limits script category budget taskId = (some outcome, exchanges) →
        ((outcome.status = .finishedUngraded ↔ Accepted limits exchanges) ↔
          FinishesHeard limits exchanges) := by
  refine ⟨?_, ?_, ?_⟩
  · intro script budget taskId outcome exchanges hrun
    exact Dom.settled_run limits script budget hrun
  · intro script budget taskId outcome exchanges hrun
    exact Vision.settled_run limits script budget hrun
  · intro script category budget taskId outcome exchanges hrun
    exact Hybrid.settled_run limits script category budget hrun

/-! ## A finish beyond the action budget -/

namespace Sample

def page : Dom.Observation where
  currentUrl := "http://sandbox/hris"
  pageTitle := "HRIS"
  semanticNodes := []
  interactiveElements := []

def session (mode : Mode) : Session := { sessionId := "bw_session", mode := mode, startedAt := 0 }

/-- The model waits and then finishes. -/
def script : Dom.Script where
  created := some page
  session := session .dom
  visit := fun _ => { now := 1, observations := [.built { observationId := "obs" }], view := page }
  reply := fun
    | 0 => .answer (some (.wait "act_wait" 1)) ⟨1, 1, 0⟩
    | _ => .answer (some (.finish "act_finish" "")) ⟨1, 1, 0⟩
  clock := fun _ => 0

def refused : Dom.AgentRunResult where
  taskId := "w3-joiner-001"
  status := .finishedUngraded
  terminalReason := clip 300 Dom.wording.finished
  steps := 2
  actionCount := 2
  modelCalls := 2
  inputTokens := 2
  outputTokens := 2
  costMicrousd := 0
  actions := [⟨"act_wait", .wait, true, none, clip 160 ""⟩,
    ⟨"act_finish", .finish, false, some .actionBudgetExhausted, clip 160 ""⟩]

def requests : List (Exchange Dom.Observation) :=
  [⟨session .dom, .dom, { action := { type := .wait, durationMs := 1 } }, script.visit 0⟩,
    ⟨((session .dom).counted.navigated { type := .wait, durationMs := 1 } .done).observed
      { observationId := "obs" }, .dom, { action := { type := .finish } }, script.visit 1⟩]

/-- With a budget of one action the worker refuses the finish, and the run is
`finished_ungraded`. -/
theorem refused_finish_reported :
    Dom.run { maxActions := 1 } script {} "w3-joiner-001" = (some refused, requests) ∧
      refused.status = .finishedUngraded ∧ ¬ Accepted { maxActions := 1 } requests := by
  refine ⟨rfl, rfl, ?_⟩
  intro haccepted
  obtain ⟨e, he, _, r, hreply, hends, hsuccess⟩ := haccepted
  cases he with
  | head =>
      cases hreply
      cases hends
  | tail _ he =>
      cases he with
      | head =>
          cases hreply
          cases hsuccess
      | tail _ he => cases he

def accepted : Dom.AgentRunResult :=
  { refused with
    actions := [⟨"act_wait", .wait, true, none, clip 160 ""⟩,
      ⟨"act_finish", .finish, true, none, clip 160 ""⟩] }

def image : Vision.VisionObservation where
  observationId := "vobs"
  screenshotRef := "shot"
  imageBase64 := ""
  imageWidth := 1
  imageHeight := 1
  imageBytes := 1
  captureDurationMs := 1
  groundings := []

/-- The vision model finishes at once, and so does the hybrid one. -/
def visionScript : Vision.Script where
  created := some image
  session := session .vision
  visit := fun _ => { now := 1, view := image }
  reply := fun _ => .answer (some (.finish "act_finish" "")) ⟨1, 1, 0⟩
  clock := fun _ => 0

def visionFinished : Vision.VisionAgentRunResult where
  taskId := "w3-joiner-001"
  status := .finishedUngraded
  terminalReason := clip 300 Vision.wording.finished
  steps := 1
  actionCount := 1
  modelCalls := 1
  images := ⟨1, 1, 1, 1⟩
  inputTokens := 1
  outputTokens := 1
  costMicrousd := 0
  actions := [⟨"act_finish", .finish, true, none, clip 160 ""⟩]

def view : Hybrid.HybridObservation where
  sessionId := "bw_session"
  generation := 1
  body := .vision {
    observationId := "vobs"
    imageBase64 := ""
    imageWidth := 1
    imageHeight := 1
    imageBytes := 1
    captureDurationMs := 1
    groundings := [] }
  routeSignals := ⟨.usable, 0, none⟩

def envelope : Hybrid.HybridActionEnvelope := ⟨"bw_session", 1, .vision (.finish "act_finish" "")⟩

def hybridSession : Session :=
  { session .hybrid with hybridGeneration := 1, hybridModality := some .vision }

def hybridScript : Hybrid.Script where
  created := some view
  session := hybridSession
  visit := fun _ => { now := 1, view := view }
  reply := fun _ => .answer (some envelope) ⟨1, 1, 0⟩
  clock := fun _ => 0

def hybridFinished : Hybrid.HybridAgentRunResult where
  taskId := "w3-joiner-001"
  status := .finishedUngraded
  terminalReason := clip 300 Hybrid.wording.finished
  steps := 1
  actionCount := 1
  modelCalls := 1
  switches := 0
  domObservationCount := 0
  domObservationBytes := 0
  compressedDomBytes := 0
  imageCount := 1
  imageBytes := 1
  imagePixels := 1
  captureDurationMs := 1
  inputTokens := 1
  outputTokens := 1
  costMicrousd := 0
  routes := [Hybrid.decision .vision .vision .visionRetained 0]
  actions := [⟨.vision, .finish, true, none⟩]

theorem finished_iff_accepted_finishes :
    ((accepted.status = .finishedUngraded ↔ Accepted {} requests) ↔ FinishesHeard {} requests) ∧
    ((visionFinished.status = .finishedUngraded ↔
        Accepted {} [⟨session .vision, .vision, { action := { type := .finish } },
          visionScript.visit 0⟩]) ↔
      FinishesHeard {} [⟨session .vision, .vision, { action := { type := .finish } },
        visionScript.visit 0⟩]) ∧
    ((hybridFinished.status = .finishedUngraded ↔
        Accepted {} [⟨hybridSession, .hybrid, envelope.request, hybridScript.visit 0⟩]) ↔
      FinishesHeard {} [⟨hybridSession, .hybrid, envelope.request, hybridScript.visit 0⟩]) := by
  have hagents := @finished_iff_accepted polynomialSha256 {}
  exact ⟨hagents.1 script {} "w3-joiner-001" accepted requests rfl,
    hagents.2.1 visionScript {} "w3-joiner-001" visionFinished _ rfl,
    hagents.2.2 hybridScript .standard {} "w3-joiner-001" hybridFinished _ rfl⟩

end Sample

end FlowPilot.Agents
