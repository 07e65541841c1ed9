import FlowPilot.Agents.Outcome

/-!
# Repeated actions

The guard of the three loops against a repeated action.  It counts equal signatures in a row; what
it should count is equal logical actions, which act on the same element in the same way.
-/

open FlowPilot.Lib FlowPilot.Browser

namespace FlowPilot.Agents

/-! ## Streaks -/

/-- How often the first item stands at the front. -/
def streak {α : Type} [DecidableEq α] : List α → Nat
  | [] => 0
  | a :: rest => (rest.takeWhile fun b => b = a).length + 1

theorem streak_cons {α : Type} [DecidableEq α] (a b : α) (rest : List α) :
    streak (a :: b :: rest) = if b = a then streak (b :: rest) + 1 else 1 := by
  show ((b :: rest).takeWhile fun c => decide (c = a)).length + 1 =
    if b = a then (rest.takeWhile fun c => decide (c = b)).length + 1 + 1 else 1
  rw [List.takeWhile_cons]
  by_cases hsame : b = a
  · subst hsame
    rw [decide_eq_true rfl, if_pos rfl, if_pos rfl, List.length_cons]
  · rw [decide_eq_false hsame, if_neg hsame]
    rfl

/-- Lists whose neighbours are equal in the same places have the same streak. -/
theorem streak_congr {ι α β : Type} [DecidableEq α] [DecidableEq β] {f : ι → α} {g : ι → β}
    {items : List ι} (h : items.IsChain fun i j => f i = f j ↔ g i = g j) :
    streak (items.map f) = streak (items.map g) := by
  induction items with
  | nil => rfl
  | cons i rest ih =>
    cases rest with
    | nil => rfl
    | cons j rest =>
      rw [List.isChain_cons_cons] at h
      have hrest := ih h.2
      rw [List.map_cons, List.map_cons] at hrest ⊢
      rw [List.map_cons, List.map_cons, streak_cons, streak_cons, hrest]
      have hsame : f j = f i ↔ g j = g i := by
        rw [eq_comm, h.1, eq_comm]
      by_cases hf : f j = f i
      · rw [if_pos hf, if_pos (hsame.mp hf)]
      · rw [if_neg hf, if_neg fun hg => hf (hsame.mpr hg)]

variable {K : Kind} {α β δ : Type}

/-! ## Statements beside the guard -/

/-- The run is left for a repeated action. -/
def Exit.limited : Exit → Prop
  | .stopped status _ => status = .repeatedActionLimit
  | .raised => False

/-- What the guard remembers is the same. -/
def SameMemory (s t : Locals K) : Prop :=
  t.previousSignature = s.previousSignature ∧ t.repeated = s.repeated

/-- The statement leaves the memory of the guard alone, returns a value in `P`, and ends no run for
a repeated action. -/
def Beside (P : α → Prop) (x : Flow K α) : Prop :=
  ∀ s, Ensures x s (fun a t => SameMemory s t ∧ P a) fun e _ => ¬ e.limited

theorem beside_pure {P : α → Prop} {a : α} (h : P a) : Beside P (pure a : Flow K α) :=
  fun _ => ⟨⟨rfl, rfl⟩, h⟩

theorem beside_get : Beside Anything (get : Flow K (Locals K)) := fun _ => ⟨⟨rfl, rfl⟩, trivial⟩

theorem beside_modify {f : Locals K → Locals K} (h : ∀ l, SameMemory l (f l)) :
    Beside Anything (modify f : Flow K PUnit) := fun l => ⟨h l, trivial⟩

theorem beside_stop {P : α → Prop} {status : RunStatus} (reason : String)
    (h : status ≠ .repeatedActionLimit) : Beside P (stop status reason : Flow K α) := fun _ => h

theorem beside_raise {P : α → Prop} : Beside P (throw .raised : Flow K α) := fun _ => id

theorem beside_bind {P : α → Prop} {Q : β → Prop} {x : Flow K α} {f : α → Flow K β}
    (hx : Beside P x) (hf : ∀ a, P a → Beside Q (f a)) : Beside Q (x >>= f) := by
  intro s
  refine Ensures.bind ((hx s).mono ?_ fun _ _ h => h)
  intro a t ht
  refine (hf a ht.2 t).mono (fun b u hu => ?_) fun _ _ h => h
  exact ⟨⟨hu.1.1.trans ht.1.1, hu.1.2.trans ht.1.2⟩, hu.2⟩

theorem Beside.any {P : α → Prop} {x : Flow K α} (h : Beside P x) : Beside Anything x :=
  fun s => (h s).mono (fun _ _ ht => ⟨ht.1, trivial⟩) fun _ _ he => he

theorem beside_safeClose : Beside Anything (safeClose : Flow K PUnit) :=
  beside_modify fun _ => ⟨rfl, rfl⟩

theorem beside_quit {P : α → Prop} {status : RunStatus} (reason : String)
    (h : status ≠ .repeatedActionLimit) : Beside P (quit status reason : Flow K α) :=
  beside_bind beside_safeClose fun _ _ => beside_stop reason h

/-- A verdict that is not for a repeated action. -/
def Other (verdict : Option (RunStatus × String)) : Prop :=
  verdict.map (·.1) ≠ some .repeatedActionLimit

theorem beside_quitIf {verdict : Option (RunStatus × String)} (h : Other verdict) :
    Beside Anything (quitIf verdict : Flow K PUnit) := by
  cases verdict with
  | none => exact beside_pure trivial
  | some verdict =>
    have hstatus : verdict.1 ≠ .repeatedActionLimit := fun hs => h (congrArg some hs)
    exact beside_quit verdict.2 hstatus

/-- The model answers with the decision. -/
def Proposed {Observation : Type} (script : Script Observation δ) (decision : δ) : Prop :=
  ∃ n usage, script.reply n = .answer (some decision) usage

section Statements

variable (script : Script K.Observation δ) (w : Wording) (budget : AgentBudget)

theorem beside_elapsed : Beside Anything (elapsed script : Flow K Time) :=
  beside_bind beside_get fun _ _ =>
    beside_bind (beside_modify fun _ => ⟨rfl, rfl⟩) fun _ _ => beside_pure trivial

theorem beside_preCallBudgetStatus :
    Beside Other (preCallBudgetStatus script w budget : Flow K _) := by
  refine beside_bind (beside_elapsed script) fun time _ => beside_bind beside_get fun l _ => ?_
  refine beside_pure ?_
  unfold Other
  split_ifs <;> simp

theorem beside_postCallBudgetStatus :
    Beside Other (postCallBudgetStatus script w budget : Flow K _) := by
  refine beside_bind (beside_elapsed script) fun time _ => beside_bind beside_get fun l _ => ?_
  refine beside_pure ?_
  unfold Other
  split_ifs <;> simp

theorem beside_complete (calls : Nat) {onCancel : Flow K PUnit} (h : Beside Anything onCancel) :
    Beside (Proposed script) (complete script w budget calls onCancel : Flow K δ) := by
  refine beside_bind beside_get fun l _ =>
    beside_bind (beside_modify fun _ => ⟨rfl, rfl⟩) fun _ _ => ?_
  cases hreply : script.reply l.modelTurns with
  | answer content usage =>
    refine beside_bind (beside_modify fun _ => ⟨rfl, rfl⟩) fun _ _ =>
      beside_bind (beside_postCallBudgetStatus script w budget) fun verdict hverdict =>
        beside_bind (beside_quitIf hverdict) fun _ _ => ?_
    cases content with
    | none => exact beside_quit _ (by decide)
    | some decision => exact beside_pure ⟨l.modelTurns, usage, hreply⟩
  | callError usage safeReason =>
    have hcharge : ∀ l : Locals K, SameMemory l (usage.elim l fun u => charge calls u l) := by
      intro l
      cases usage <;> exact ⟨rfl, rfl⟩
    refine beside_bind (beside_modify hcharge) fun _ _ =>
      beside_bind beside_safeClose fun _ _ =>
        beside_bind (beside_postCallBudgetStatus script w budget) fun verdict hverdict => ?_
    cases verdict with
    | none => exact beside_stop _ (by decide)
    | some verdict => exact beside_stop _ fun hs => hverdict (congrArg some hs)
  | failed => exact beside_quit _ (by decide)
  | cancelled => exact beside_bind h fun _ _ => beside_raise

theorem beside_executeAction (limits : Limits) (endpoint : Mode) (actionId : String)
    (r : ActionRequest) {onCancel : Flow K PUnit} (h : Beside Anything onCancel) :
    Beside Anything (executeAction script w limits endpoint actionId r onCancel : Flow K _) := by
  refine beside_bind beside_get fun l _ =>
    beside_bind (beside_modify fun _ => ⟨rfl, rfl⟩) fun _ _ => ?_
  split
  · exact beside_bind h fun _ _ => beside_raise
  · split
    · exact beside_quit _ (by decide)
    · exact beside_pure trivial

theorem beside_record (summary : K.Summary) :
    Beside Anything (record summary : Flow K PUnit) := beside_modify fun _ => ⟨rfl, rfl⟩

theorem beside_checkProgress [DecidableEq K.Fingerprint] (fingerprint : K.Fingerprint)
    (hidden : Bool) :
    Beside Anything (checkProgress w budget fingerprint hidden : Flow K PUnit) := by
  refine beside_bind (beside_modify fun _ => ⟨rfl, rfl⟩) fun _ _ =>
    beside_bind beside_get fun l _ => ?_
  split
  · exact beside_quit _ (by decide)
  · exact beside_pure trivial

theorem terminalActionStatus_other {τ : Type} (a : BrowserAction τ) (message : String) :
    (terminalActionStatus w a message).1 ≠ .repeatedActionLimit := by
  unfold terminalActionStatus
  split <;> simp

end Statements

/-! ## Guarded turns -/

/-- A decision with the observation that it was made on. -/
structure Choice (K : Kind) (δ : Type) where
  observation : K.Observation
  decision : δ

section Guarded

variable [DecidableEq K.Signature] (w : Wording) (budget : AgentBudget) (choose : Flow K δ)
  (signature : δ → K.Signature) (rest : δ → Flow K PUnit)

/-- From the decision on. -/
def guarded (d : δ) : Flow K PUnit := checkRepeated w budget (signature d) >>= fun _ => rest d

/-- The states at the head of the loop with the choices so far, the latest first. -/
inductive Heads (start : Locals K) : List (Choice K δ) → Locals K → Prop
  | start : Heads start [] start
  | next {choices : List (Choice K δ)} {l m t : Locals K} {d : δ} : Heads start choices l →
      choices.length < budget.maxSteps → choose l = .ok d m →
      guarded w budget signature rest d m = .ok ⟨⟩ t →
      Heads start (⟨m.observation, d⟩ :: choices) t

/-- The choices up to one that reaches the guard, the latest first. -/
def Chosen (start : Locals K) (choices : List (Choice K δ)) : Prop :=
  ∃ earlier l m d, Heads w budget choose signature rest start earlier l ∧
    earlier.length < budget.maxSteps ∧ choose l = .ok d m ∧
    choices = ⟨m.observation, d⟩ :: earlier

/-- The guard remembers the latest signature and how often it has come. -/
def Remembers (choices : List (Choice K δ)) (l : Locals K) : Prop :=
  l.previousSignature = (choices.map fun c => signature c.decision).head? ∧
    l.repeated = streak (choices.map fun c => signature c.decision)

variable {w budget choose signature rest}

/-- What the guard counts, and when it ends the run. -/
theorem checkRepeated_ensures {choices : List (Choice K δ)} {l : Locals K}
    (h : Remembers signature choices l) (c : Choice K δ) :
    Ensures (checkRepeated w budget (signature c.decision)) l
      (fun _ t => Remembers signature (c :: choices) t ∧
        ¬budget.maxRepeatedActions <
          streak ((c :: choices).map fun c => signature c.decision))
      fun e _ => e = .stopped .repeatedActionLimit w.repeated ∧ budget.maxRepeatedActions <
        streak ((c :: choices).map fun c => signature c.decision) := by
  have hcounted : Remembers signature (c :: choices)
      (if l.previousSignature = some (signature c.decision) then
        { l with repeated := l.repeated + 1 }
      else { l with repeated := 1, previousSignature := some (signature c.decision) }) := by
    cases choices with
    | nil =>
      rw [if_neg]
      · exact ⟨rfl, rfl⟩
      · rw [h.1]
        exact nofun
    | cons b older =>
      have hhead : l.previousSignature = some (signature b.decision) := h.1
      by_cases hsame : signature b.decision = signature c.decision
      · rw [if_pos (hhead.trans (congrArg some hsame))]
        refine ⟨hhead.trans (congrArg some hsame), ?_⟩
        show l.repeated + 1 = _
        rw [h.2, List.map_cons, List.map_cons, List.map_cons, streak_cons, if_pos hsame]
      · rw [if_neg]
        · refine ⟨rfl, ?_⟩
          show 1 = _
          rw [List.map_cons, List.map_cons, streak_cons, if_neg hsame]
        · rw [hhead]
          exact fun hsome => hsame (Option.some.inj hsome)
  refine Ensures.bind (Ensures.of_modify ?_)
  refine Ensures.bind (Ensures.of_get ?_)
  rw [hcounted.2]
  split
  · rename_i hlimit
    exact Ensures.bind (Ensures.of_modify ⟨rfl, hlimit⟩)
  · rename_i hbelow
    exact ⟨hcounted, hbelow⟩

theorem Heads.remembers (hchoose : Beside Anything choose)
    (hrest : ∀ d, Beside Anything (rest d)) {start l : Locals K} {choices : List (Choice K δ)}
    (hstart : Remembers signature ([] : List (Choice K δ)) start)
    (h : Heads w budget choose signature rest start choices l) :
    Remembers signature choices l := by
  induction h with
  | start => exact hstart
  | @next choices l m t d _ _ hchosen hdone ih =>
    have hm := (hchoose l).ok hchosen
    have hbefore : Remembers signature choices m := by
      unfold Remembers
      rw [hm.1.1, hm.1.2]
      exact ih
    have hguard : Ensures (guarded w budget signature rest d) m (fun _ t =>
        Remembers signature (⟨m.observation, d⟩ :: choices) t) fun _ _ => True := by
      refine Ensures.bind ((checkRepeated_ensures hbefore ⟨m.observation, d⟩).mono ?_
        fun _ _ _ => trivial)
      intro _ u hu
      refine (hrest d u).mono (fun _ t ht => ?_) fun _ _ _ => trivial
      unfold Remembers
      rw [ht.1.1, ht.1.2]
      exact hu.1
    exact hguard.ok hdone

theorem Heads.decisions {P : δ → Prop} (hchoose : Beside P choose) {start l : Locals K}
    {choices : List (Choice K δ)} (h : Heads w budget choose signature rest start choices l) :
    ∀ c ∈ choices, P c.decision := by
  induction h with
  | start => exact fun c hc => absurd hc List.not_mem_nil
  | @next choices l m t d _ _ hchosen _ ih =>
    exact List.forall_mem_cons.mpr ⟨((hchoose l).ok hchosen).2, ih⟩

/-- Every decision is one that `choose` can return. -/
theorem Chosen.decisions {P : δ → Prop} (hchoose : Beside P choose) {start : Locals K}
    {choices : List (Choice K δ)} (h : Chosen w budget choose signature rest start choices) :
    ∀ c ∈ choices, P c.decision := by
  obtain ⟨earlier, l, m, d, hheads, _, hchosen, rfl⟩ := h
  exact List.forall_mem_cons.mpr ⟨((hchoose l).ok hchosen).2, hheads.decisions hchoose⟩

omit [DecidableEq K.Signature] in
theorem rounds_succ (turn : Flow K PUnit) (k : Nat) :
    rounds w turn (k + 1) = turn >>= fun _ => rounds w turn k := rfl

/-- A head of the loop lies on the run. -/
theorem rounds_of_heads {start l : Locals K} {choices : List (Choice K δ)}
    (h : Heads w budget choose signature rest start choices l) :
    rounds w (choose >>= guarded w budget signature rest) budget.maxSteps start =
      rounds w (choose >>= guarded w budget signature rest)
        (budget.maxSteps - choices.length) l := by
  induction h with
  | start => rfl
  | @next choices l m t d _ hsteps hchosen hdone ih =>
    rw [ih]
    have hsplit : budget.maxSteps - choices.length =
        (budget.maxSteps - (choices.length + 1)) + 1 := by omega
    have hturn : (choose >>= guarded w budget signature rest) l = .ok ⟨⟩ t := by
      rw [bind_apply, hchosen]
      exact hdone
    rw [hsplit, rounds_succ, bind_apply, hturn]
    rfl

/-- A run that the guard ends has just chosen too many equal signatures. -/
theorem chosen_of_limited (hchoose : Beside Anything choose)
    (hrest : ∀ d, Beside Anything (rest d)) {start : Locals K}
    (hstart : Remembers signature ([] : List (Choice K δ)) start) (k : Nat) {l t : Locals K}
    {choices : List (Choice K δ)} (h : Heads w budget choose signature rest start choices l)
    (hk : choices.length + k = budget.maxSteps) {e : Exit} (he : e.limited)
    (hrun : rounds w (choose >>= guarded w budget signature rest) k l = .error e t) :
    ∃ cs, Chosen w budget choose signature rest start cs ∧
      budget.maxRepeatedActions < streak (cs.map fun c => signature c.decision) := by
  induction k generalizing choices l with
  | zero =>
    cases hrun
    cases he
  | succ k ih =>
    rw [rounds_succ, bind_apply, bind_apply] at hrun
    cases hchosen : choose l with
    | error e' m =>
      rw [hchosen] at hrun
      cases hrun
      exact absurd he ((hchoose l).error hchosen)
    | ok d m =>
      rw [hchosen] at hrun
      dsimp only at hrun
      cases hdone : guarded w budget signature rest d m with
      | ok _ u =>
        rw [hdone] at hrun
        have hnext := Heads.next h (by omega) hchosen hdone
        refine ih hnext ?_ hrun
        rw [List.length_cons]
        omega
      | error e' u =>
        rw [hdone] at hrun
        cases hrun
        have hm := (hchoose l).ok hchosen
        have hbefore : Remembers signature choices m := by
          have hl := h.remembers hchoose hrest hstart
          unfold Remembers
          rw [hm.1.1, hm.1.2]
          exact hl
        have hguard : Ensures (guarded w budget signature rest d) m (fun _ _ => True)
            fun e _ => e.limited → budget.maxRepeatedActions <
              streak ((⟨m.observation, d⟩ :: choices).map fun c => signature c.decision) := by
          refine Ensures.bind ((checkRepeated_ensures hbefore ⟨m.observation, d⟩).mono ?_
            fun _ _ hlimit _ => hlimit.2)
          intro _ v _
          exact (hrest d v).mono (fun _ _ _ => trivial) fun _ _ hnot hlimited =>
            absurd hlimited hnot
        exact ⟨_, ⟨choices, l, m, d, h, by omega, hchosen, rfl⟩, hguard.error hdone he⟩

/-- **The guard is exact for its signatures**: the run ends for a repeated action if and only if
more than the limit of equal signatures have just been chosen. -/
theorem limited_iff (hchoose : Beside Anything choose) (hrest : ∀ d, Beside Anything (rest d))
    {start : Locals K} (hstart : Remembers signature ([] : List (Choice K δ)) start) :
    (∃ reason t, rounds w (choose >>= guarded w budget signature rest) budget.maxSteps start =
      .error (.stopped .repeatedActionLimit reason) t) ↔
    ∃ cs, Chosen w budget choose signature rest start cs ∧
      budget.maxRepeatedActions < streak (cs.map fun c => signature c.decision) := by
  constructor
  · rintro ⟨reason, t, hrun⟩
    have hlimited : Exit.limited (.stopped .repeatedActionLimit reason) := rfl
    exact chosen_of_limited hchoose hrest hstart budget.maxSteps .start (Nat.zero_add _) hlimited
      hrun
  · rintro ⟨_, ⟨earlier, l, m, d, hhead, hsteps, hchosen, rfl⟩, hlimit⟩
    have hm := (hchoose l).ok hchosen
    have hbefore : Remembers signature earlier m := by
      have hl := hhead.remembers hchoose hrest hstart
      unfold Remembers
      rw [hm.1.1, hm.1.2]
      exact hl
    have hguard : Ensures (checkRepeated w budget (signature d)) m _ _ :=
      checkRepeated_ensures hbefore ⟨m.observation, d⟩
    have hsplit : budget.maxSteps - earlier.length =
        (budget.maxSteps - (earlier.length + 1)) + 1 := by omega
    refine ⟨w.repeated, ?_⟩
    cases hcheck : checkRepeated w budget (signature d) m with
    | ok _ u => exact absurd hlimit (hguard.ok hcheck).2
    | error e u =>
      refine ⟨u, ?_⟩
      rw [rounds_of_heads hhead, hsplit, rounds_succ, bind_apply, bind_apply, hchosen]
      dsimp only
      unfold guarded
      rw [bind_apply, hcheck, (hguard.error hcheck).1]

end Guarded

/-! ## Logical actions -/

/-- Two actions are shown as the same if they are the same but for their targets, and their targets
are shown as the same. -/
theorem signature_eq_iff {τ τ' υ : Type} {f : τ → υ} {g : τ' → υ} {a : BrowserAction τ}
    {b : BrowserAction τ'} : a.signature f = b.signature g ↔
      a.signature (fun _ => ()) = b.signature (fun _ => ()) ∧ a.target.map f = b.target.map g := by
  cases a <;> cases b <;> simp [BrowserAction.signature, BrowserAction.target, and_comm]

/-- Where two decisions are the same but for their targets, the signature tells the targets apart
if and only if they are different elements. -/
def Told {τ υ ε : Type} (shown : τ → υ) (element : K.Observation → τ → ε)
    (c d : Choice K (BrowserAction τ)) : Prop :=
  c.decision.signature (fun _ => ()) = d.decision.signature (fun _ => ()) →
    (c.decision.target.map shown = d.decision.target.map shown ↔
      c.decision.target.map (element c.observation) = d.decision.target.map (element d.observation))

theorem Told.signatures {τ υ ε : Type} {shown : τ → υ} {element : K.Observation → τ → ε}
    {c d : Choice K (BrowserAction τ)} (h : Told shown element c d) :
    c.decision.signature shown = d.decision.signature shown ↔
      c.decision.signature (element c.observation) =
        d.decision.signature (element d.observation) := by
  rw [signature_eq_iff, signature_eq_iff (f := element c.observation)]
  exact and_congr_right h

/-- The results of a run and of its loop have the same status. -/
theorem limited_of_ending {ρ : Type} {result : RunStatus → String → Locals K → ρ}
    {status : ρ → RunStatus} (hstatus : ∀ s reason l, status (result s reason l) = s)
    {loop : Flow K Empty} {l : Locals K} :
    (∃ r, (ending result loop l).1 = some r ∧ status r = .repeatedActionLimit) ↔
      ∃ reason t, loop l = .error (.stopped .repeatedActionLimit reason) t := by
  unfold ending
  cases loop l with
  | ok never _ => exact never.elim
  | error e t =>
    cases e with
    | raised => exact iff_of_false (fun ⟨_, h, _⟩ => by cases h) fun ⟨_, _, h⟩ => by cases h
    | stopped s reason =>
      constructor
      · rintro ⟨r, hr, hlimit⟩
        cases hr
        rw [hstatus] at hlimit
        exact ⟨reason, t, by rw [hlimit]⟩
      · rintro ⟨_, _, h⟩
        cases h
        exact ⟨_, rfl, hstatus _ _ _⟩

/-- A first observation that ends the run does not end it for a repeated action. -/
theorem limited_of_first {first : Flow K PUnit} {loop : Flow K Empty} {l : Locals K}
    (h : Beside Anything first) :
    (∃ reason t, (first >>= fun _ => loop) l = .error (.stopped .repeatedActionLimit reason) t) ↔
      ∃ start, first l = .ok ⟨⟩ start ∧
        ∃ reason t, loop start = .error (.stopped .repeatedActionLimit reason) t := by
  rw [bind_apply]
  cases hfirst : first l with
  | ok _ start =>
    constructor
    · exact fun hloop => ⟨start, rfl, hloop⟩
    · rintro ⟨_, hstart, hloop⟩
      cases hstart
      exact hloop
  | error e t =>
    refine iff_of_false ?_ ?_
    · rintro ⟨reason, _, hstopped⟩
      cases hstopped
      exact (h l).error hfirst rfl
    · rintro ⟨_, hstart, _⟩
      cases hstart

end FlowPilot.Agents

namespace FlowPilot.Agents.Dom

section

variable (limits : Limits) (script : Script) (budget : AgentBudget)

/-- A turn up to the decision. -/
def choose : Flow kind (BrowserAction ElementTarget) := do
  let spent ← preCallBudgetStatus script wording budget
  quitIf spent
  complete script wording budget 1 (pure ⟨⟩)

/-- A turn from the guard on. -/
def act (action : BrowserAction ElementTarget) : Flow kind PUnit := do
  let answer ← executeAction script wording limits .dom action.actionId
    { action := elementAction action } (pure ⟨⟩)
  record ⟨answer.actionId, answer.actionType, answer.success, answer.errorCategory,
    clip 160 answer.message⟩
  if answer.terminal then
    let (status, reason) := terminalActionStatus wording action answer.message
    stop status reason
  else
    match answer.observation with
    | none => quit .browserError wording.omitted
    | some observation => do
      modify fun l => { l with observation := observation }
      checkProgress wording budget (fingerprint observation)
        (hiddenFormProgress answer.success action.type)

theorem turn_guarded : turn limits script budget = choose script budget >>=
    guarded wording budget (fun a => a.signature id) (act limits script budget) := by
  unfold turn choose guarded act
  simp only [bind_assoc]
  try rfl

theorem beside_choose : Beside (Proposed script) (choose script budget) :=
  beside_bind (beside_preCallBudgetStatus _ _ _) fun _ hspent =>
    beside_bind (beside_quitIf hspent) fun _ _ =>
      beside_complete _ _ _ _ (beside_pure trivial)

theorem beside_act (action : BrowserAction ElementTarget) :
    Beside Anything (act limits script budget action) := by
  refine beside_bind (beside_executeAction _ _ _ _ _ _ (beside_pure trivial)) fun answer _ =>
    beside_bind (beside_record _) fun _ _ => ?_
  split
  · exact beside_stop _ (terminalActionStatus_other _ _ _)
  · split
    · exact beside_quit _ (by decide)
    · exact beside_bind (beside_modify fun _ => ⟨rfl, rfl⟩) fun _ _ =>
        beside_checkProgress _ _ _ _

/-- The choices of a run up to one of them, the latest first. -/
def RunChoices (choices : List (Choice kind (BrowserAction ElementTarget))) : Prop :=
  ∃ observation, script.created = some observation ∧
    Chosen wording budget (choose script budget) (fun a => a.signature id)
      (act limits script budget) (initial script observation) choices

/-- What is chosen is what the model has answered. -/
theorem RunChoices.proposed {limits : Limits} {script : Script} {budget : AgentBudget}
    {cs : List (Choice kind (BrowserAction ElementTarget))}
    (h : RunChoices limits script budget cs) : ∀ c ∈ cs, Proposed script c.decision := by
  obtain ⟨_, _, hchosen⟩ := h
  exact hchosen.decisions (beside_choose script budget)

/-- The status is that of the guard. -/
theorem run_limited_iff (taskId : String) :
    (∃ r, (run limits script budget taskId).1 = some r ∧ r.status = .repeatedActionLimit) ↔
      ∃ cs, RunChoices limits script budget cs ∧
        budget.maxRepeatedActions < streak (cs.map fun c => c.decision.signature id) := by
  unfold run RunChoices
  cases hcreated : script.created with
  | none =>
    refine iff_of_false ?_ ?_
    · rintro ⟨r, hr, hstatus⟩
      cases hr
      cases hstatus
    · rintro ⟨cs, ⟨observation, hsome, _⟩, _⟩
      cases hsome
  | some observation =>
    dsimp only
    refine (limited_of_ending fun _ _ _ => rfl).trans ?_
    rw [turn_guarded]
    refine (limited_iff (beside_choose script budget).any (beside_act limits script budget)
      ⟨rfl, rfl⟩).trans ?_
    constructor
    · rintro ⟨cs, hcs, hlimit⟩
      exact ⟨cs, ⟨observation, rfl, hcs⟩, hlimit⟩
    · rintro ⟨cs, ⟨_, hsome, hcs⟩, hlimit⟩
      cases hsome
      exact ⟨cs, hcs, hlimit⟩

end

end FlowPilot.Agents.Dom

namespace FlowPilot.Agents.Vision

variable [Sha256]

section

variable (limits : Limits) (script : Script) (budget : VisionAgentBudget)

/-- A turn up to the decision. -/
def choose : Flow kind (BrowserAction GroundingTarget) := do
  let spent ← preCallBudgetStatus script wording budget.toAgentBudget
  quitIf spent
  complete script wording budget.toAgentBudget 1 (pure ⟨⟩)

/-- A turn from the guard on. -/
def act (action : BrowserAction GroundingTarget) : Flow kind PUnit := do
  let answer ← executeAction script wording limits .vision action.actionId
    { action := groundingAction action } (pure ⟨⟩)
  record ⟨answer.actionId, answer.actionType, answer.success, answer.errorCategory,
    clip 160 answer.message⟩
  if answer.terminal then
    let (status, reason) := terminalActionStatus wording action answer.message
    stop status reason
  else
    match answer.observation with
    | none => quit .browserError wording.omitted
    | some observation => do
      observeImage budget observation
      checkProgress wording budget.toAgentBudget (fingerprint observation)
        (hiddenFormProgress answer.success action.type)

theorem turn_guarded : turn limits script budget = choose script budget >>=
    guarded wording budget.toAgentBudget (fun a => a.signature fun _ => ())
      (act limits script budget) := by
  unfold turn choose guarded act
  simp only [bind_assoc]
  try rfl

omit [Sha256] in
theorem beside_observeImage (observation : VisionObservation) :
    Beside Anything (observeImage budget observation) := by
  refine beside_bind (beside_modify fun _ => ⟨rfl, rfl⟩) fun _ _ =>
    beside_bind beside_get fun l _ => beside_quitIf ?_
  unfold Other imageBudgetStatus
  split_ifs <;> simp

omit [Sha256] in
theorem beside_choose : Beside Anything (choose script budget) :=
  beside_bind (beside_preCallBudgetStatus _ _ _) fun _ hspent =>
    beside_bind (beside_quitIf hspent) fun _ _ =>
      (beside_complete _ _ _ _ (beside_pure trivial)).any

theorem beside_act (action : BrowserAction GroundingTarget) :
    Beside Anything (act limits script budget action) := by
  refine beside_bind (beside_executeAction _ _ _ _ _ _ (beside_pure trivial)) fun answer _ =>
    beside_bind (beside_record _) fun _ _ => ?_
  split
  · exact beside_stop _ (terminalActionStatus_other _ _ _)
  · split
    · exact beside_quit _ (by decide)
    · exact beside_bind (beside_observeImage _ _) fun _ _ => beside_checkProgress _ _ _ _

/-- The choices of a run up to one of them, the latest first. -/
def RunChoices (choices : List (Choice kind (BrowserAction GroundingTarget))) : Prop :=
  ∃ observation start, script.created = some observation ∧
    observeImage budget observation (initial script observation) = .ok ⟨⟩ start ∧
    Chosen wording budget.toAgentBudget (choose script budget)
      (fun a => a.signature fun _ => ()) (act limits script budget) start choices

/-- The status is that of the guard. -/
theorem run_limited_iff (taskId : String) :
    (∃ r, (run limits script budget taskId).1 = some r ∧ r.status = .repeatedActionLimit) ↔
      ∃ cs, RunChoices limits script budget cs ∧ budget.maxRepeatedActions <
        streak (cs.map fun c => c.decision.signature fun _ => ()) := by
  unfold run RunChoices
  cases hcreated : script.created with
  | none =>
    refine iff_of_false ?_ ?_
    · rintro ⟨r, hr, hstatus⟩
      cases hr
      cases hstatus
    · rintro ⟨cs, ⟨observation, start, hsome, _⟩, _⟩
      cases hsome
  | some observation =>
    dsimp only
    refine (limited_of_ending fun _ _ _ => rfl).trans ?_
    unfold loop
    refine (limited_of_first (beside_observeImage budget observation)).trans ?_
    rw [turn_guarded]
    constructor
    · rintro ⟨start, hstart, hlimited⟩
      have hmemory := ((beside_observeImage budget observation _).ok hstart).1
      obtain ⟨cs, hcs, hlimit⟩ := (limited_iff (beside_choose script budget)
        (beside_act limits script budget) hmemory).mp hlimited
      exact ⟨cs, ⟨observation, start, rfl, hstart, hcs⟩, hlimit⟩
    · rintro ⟨cs, ⟨_, start, hsome, hstart, hcs⟩, hlimit⟩
      cases hsome
      have hmemory := ((beside_observeImage budget observation _).ok hstart).1
      exact ⟨start, hstart, (limited_iff (beside_choose script budget)
        (beside_act limits script budget) hmemory).mpr ⟨cs, hcs, hlimit⟩⟩

end

end FlowPilot.Agents.Vision

namespace FlowPilot.Agents.Hybrid

variable [Sha256]

section

variable (limits : Limits) (script : Script) (category : RouteCategory)
  (budget : HybridAgentBudget)

/-- A turn up to the decision for the modality that is observed. -/
def choose : Flow kind HybridActionEnvelope := do
  let spent ← preCallBudgetStatus script wording budget.toAgentBudget
  quitIf spent
  switch script category budget
  modelObservation budget
  modify fun l => { l with modelCalls := l.modelCalls + 1 }
  let envelope ← complete script wording budget.toAgentBudget 0 safeClose
  let l ← get
  if envelope.modality ≠ l.observation.modality then
    quit .invalidModelOutput "Hybrid model action did not match the current selected modality"
  else return envelope

/-- A turn from the guard on. -/
def act (envelope : HybridActionEnvelope) : Flow kind PUnit := do
  let answer ← executeAction script wording limits .hybrid envelope.actionId envelope.request
    safeClose
  recordAction ⟨envelope.modality, answer.actionType, answer.success, answer.errorCategory⟩
  if answer.terminal then
    let (status, reason) := terminalStatus envelope answer.message
    quit status reason
  else
    match answer.observation with
    | none => quit .browserError wording.omitted
    | some observation => do
      observe budget observation
      checkProgress wording budget.toAgentBudget (fingerprint observation)
        (Dom.hiddenFormProgress answer.success answer.actionType)

theorem turn_guarded : turn limits script category budget = choose script category budget >>=
    guarded wording budget.toAgentBudget HybridActionEnvelope.signature
      (act limits script budget) := by
  unfold turn choose
  simp only [bind_assoc]
  refine bind_congr fun _ => bind_congr fun _ => bind_congr fun _ => bind_congr fun _ =>
    bind_congr fun _ => bind_congr fun envelope => bind_congr fun l => ?_
  by_cases hmodality : envelope.modality ≠ l.observation.modality
  · rw [if_pos hmodality, if_pos hmodality]
    rfl
  · rw [if_neg hmodality, if_neg hmodality]
    rfl

omit [Sha256] in
theorem beside_observe (observation : HybridObservation) :
    Beside Anything (observe budget observation) := by
  refine beside_bind (beside_modify fun _ => ⟨rfl, rfl⟩) fun _ _ =>
    beside_bind beside_get fun l _ => beside_quitIf ?_
  unfold Other observationStatus
  split <;> split_ifs <;> simp

omit [Sha256] in
theorem beside_routerBudget : Beside Anything (routerBudget script budget) :=
  beside_bind (beside_elapsed _) fun _ _ => beside_bind beside_get fun _ _ => beside_pure trivial

omit [Sha256] in
theorem beside_requestObservation : Beside Anything (requestObservation script) := by
  refine beside_bind beside_get fun l _ =>
    beside_bind (beside_modify fun _ => ⟨rfl, rfl⟩) fun _ _ => ?_
  split
  · exact beside_bind beside_safeClose fun _ _ => beside_raise
  · exact beside_pure trivial
  · exact beside_quit _ (by decide)

omit [Sha256] in
theorem beside_switch : Beside Anything (switch script category budget) := by
  refine beside_bind (beside_routerBudget _ _) fun remaining _ =>
    beside_bind beside_get fun l _ => ?_
  dsimp only
  refine beside_bind (beside_modify fun _ => ⟨rfl, rfl⟩) fun _ _ => ?_
  split
  · exact beside_quit _ (by decide)
  · split
    · exact beside_bind (beside_requestObservation _) fun _ _ => beside_observe _ _
    · exact beside_pure trivial

omit [Sha256] in
theorem beside_modelObservation : Beside Anything (modelObservation budget) := by
  refine beside_bind beside_get fun l _ => ?_
  split
  · exact beside_pure trivial
  · split
    · exact beside_quit _ (by decide)
    · refine beside_bind (beside_modify fun _ => ⟨rfl, rfl⟩) fun _ _ => ?_
      split
      · exact beside_quit _ (by decide)
      · exact beside_pure trivial

omit [Sha256] in
theorem beside_choose : Beside Anything (choose script category budget) := by
  refine beside_bind (beside_preCallBudgetStatus _ _ _) fun _ hspent =>
    beside_bind (beside_quitIf hspent) fun _ _ =>
      beside_bind (beside_switch _ _ _) fun _ _ =>
        beside_bind (beside_modelObservation _) fun _ _ =>
          beside_bind (beside_modify fun _ => ⟨rfl, rfl⟩) fun _ _ =>
            beside_bind (beside_complete _ _ _ _ beside_safeClose) fun _ _ =>
              beside_bind beside_get fun _ _ => ?_
  split
  · exact beside_quit _ (by decide)
  · exact beside_pure trivial

omit [Sha256] in
theorem beside_recordAction (summary : ActionSummary) :
    Beside Anything (recordAction summary) :=
  beside_bind (beside_record _) fun _ _ => beside_modify fun _ => ⟨rfl, rfl⟩

theorem beside_act (envelope : HybridActionEnvelope) :
    Beside Anything (act limits script budget envelope) := by
  have hother : ∀ message, (terminalStatus envelope message).1 ≠ .repeatedActionLimit := by
    intro message
    unfold terminalStatus
    split <;> exact terminalActionStatus_other _ _ _
  refine beside_bind (beside_executeAction _ _ _ _ _ _ beside_safeClose) fun answer _ =>
    beside_bind (beside_recordAction _) fun _ _ => ?_
  split
  · exact beside_quit _ (hother _)
  · split
    · exact beside_quit _ (by decide)
    · exact beside_bind (beside_observe _ _) fun _ _ => beside_checkProgress _ _ _ _

/-- The choices of a run up to one of them, the latest first. -/
def RunChoices (choices : List (Choice kind HybridActionEnvelope)) : Prop :=
  ∃ observation start, script.created = some observation ∧
    observe budget observation (initial script observation) = .ok ⟨⟩ start ∧
    Chosen wording budget.toAgentBudget (choose script category budget)
      HybridActionEnvelope.signature (act limits script budget) start choices

/-- The status is that of the guard. -/
theorem run_limited_iff (taskId : String) :
    (∃ r, (run limits script category budget taskId).1 = some r ∧
      r.status = .repeatedActionLimit) ↔
      ∃ cs, RunChoices limits script category budget cs ∧
        budget.maxRepeatedActions < streak (cs.map fun c => c.decision.signature) := by
  unfold run RunChoices
  cases hcreated : script.created with
  | none =>
    refine iff_of_false ?_ ?_
    · rintro ⟨r, hr, hstatus⟩
      cases hr
      cases hstatus
    · rintro ⟨cs, ⟨observation, start, hsome, _⟩, _⟩
      cases hsome
  | some observation =>
    dsimp only
    refine (limited_of_ending fun _ _ _ => rfl).trans ?_
    unfold loop
    refine (limited_of_first (beside_observe budget observation)).trans ?_
    rw [turn_guarded]
    constructor
    · rintro ⟨start, hstart, hlimited⟩
      have hmemory := ((beside_observe budget observation _).ok hstart).1
      obtain ⟨cs, hcs, hlimit⟩ := (limited_iff (beside_choose script category budget)
        (beside_act limits script budget) hmemory).mp hlimited
      exact ⟨cs, ⟨observation, start, rfl, hstart, hcs⟩, hlimit⟩
    · rintro ⟨cs, ⟨_, start, hsome, hstart, hcs⟩, hlimit⟩
      cases hsome
      have hmemory := ((beside_observe budget observation _).ok hstart).1
      exact ⟨start, hstart, (limited_iff (beside_choose script category budget)
        (beside_act limits script budget) hmemory).mpr ⟨cs, hcs, hlimit⟩⟩

end

end FlowPilot.Agents.Hybrid

namespace FlowPilot.Agents

namespace Hybrid

/-- The action without its modality. -/
def HybridActionEnvelope.logical {ε : Type} (element : ElementTarget ⊕ GroundingTarget → ε)
    (e : HybridActionEnvelope) : BrowserAction ε :=
  match e.action with
  | .dom a => a.signature fun t => element (.inl t)
  | .vision a => a.signature fun t => element (.inr t)

def HybridActionEnvelope.target (e : HybridActionEnvelope) :
    Option (ElementTarget ⊕ GroundingTarget) :=
  match e.action with
  | .dom a => a.target.map .inl
  | .vision a => a.target.map .inr

/-- Where two decisions are the same but for their targets, they are of one modality if and only if
they are for one element, if any. -/
def ToldApart {ε : Type} (element : HybridObservation → ElementTarget ⊕ GroundingTarget → ε)
    (c d : Choice kind HybridActionEnvelope) : Prop :=
  c.decision.logical (fun _ => ()) = d.decision.logical (fun _ => ()) →
    (c.decision.modality = d.decision.modality ↔
      c.decision.target.map (element c.observation) = d.decision.target.map (element d.observation))

theorem logical_eq_iff {ε : Type} {f g : ElementTarget ⊕ GroundingTarget → ε}
    {a b : HybridActionEnvelope} : a.logical f = b.logical g ↔
      a.logical (fun _ => ()) = b.logical (fun _ => ()) ∧ a.target.map f = b.target.map g := by
  unfold HybridActionEnvelope.logical HybridActionEnvelope.target
  cases a.action <;> cases b.action <;> dsimp only <;>
    rw [signature_eq_iff, Option.map_map, Option.map_map] <;> rfl

theorem signature_iff_logical {a b : HybridActionEnvelope} : a.signature = b.signature ↔
    a.modality = b.modality ∧ a.logical (fun _ => ()) = b.logical (fun _ => ()) := by
  unfold HybridActionEnvelope.signature HybridActionEnvelope.logical HybridActionEnvelope.modality
  cases a.action <;> cases b.action <;> exact Prod.mk_inj

theorem ToldApart.signatures {ε : Type}
    {element : HybridObservation → ElementTarget ⊕ GroundingTarget → ε}
    {c d : Choice kind HybridActionEnvelope} (h : ToldApart element c d) :
    c.decision.signature = d.decision.signature ↔
      c.decision.logical (element c.observation) = d.decision.logical (element d.observation) := by
  rw [signature_iff_logical, logical_eq_iff (f := element c.observation), and_comm]
  exact and_congr_right h

end Hybrid

/-- **The guard against repeated actions**: in a run in which neighbouring decisions that are the
same but for their targets are told apart as their elements are, the run ends for a repeated action
if and only if the same logical action has just been chosen more often than the limit. -/
theorem repeated_exact (limits : Limits) :
    (∀ (script : Dom.Script) (budget : AgentBudget) (taskId : String)
      (ε : Type) (_ : DecidableEq ε) (element : Dom.Observation → ElementTarget → ε),
      (∀ cs, Dom.RunChoices limits script budget cs → cs.IsChain (Told id element)) →
      ((∃ r, (Dom.run limits script budget taskId).1 = some r ∧
          r.status = .repeatedActionLimit) ↔
        ∃ cs, Dom.RunChoices limits script budget cs ∧ budget.maxRepeatedActions <
          streak (cs.map fun c => c.decision.signature (element c.observation)))) ∧
    (∀ (_ : Sha256) (script : Vision.Script)
      (budget : Vision.VisionAgentBudget) (taskId : String) (ε : Type) (_ : DecidableEq ε)
      (element : Vision.VisionObservation → GroundingTarget → ε),
      (∀ cs, Vision.RunChoices limits script budget cs →
        cs.IsChain (Told (fun _ => ()) element)) →
      ((∃ r, (Vision.run limits script budget taskId).1 = some r ∧
          r.status = .repeatedActionLimit) ↔
        ∃ cs, Vision.RunChoices limits script budget cs ∧ budget.maxRepeatedActions <
          streak (cs.map fun c => c.decision.signature (element c.observation)))) ∧
    (∀ (_ : Sha256) (script : Hybrid.Script) (category : Hybrid.RouteCategory)
      (budget : Hybrid.HybridAgentBudget) (taskId : String) (ε : Type) (_ : DecidableEq ε)
      (element : Hybrid.HybridObservation → ElementTarget ⊕ GroundingTarget → ε),
      (∀ cs, Hybrid.RunChoices limits script category budget cs →
        cs.IsChain (Hybrid.ToldApart element)) →
      ((∃ r, (Hybrid.run limits script category budget taskId).1 = some r ∧
          r.status = .repeatedActionLimit) ↔
        ∃ cs, Hybrid.RunChoices limits script category budget cs ∧ budget.maxRepeatedActions <
          streak (cs.map fun c => c.decision.logical (element c.observation)))) := by
  refine ⟨?_, ?_, ?_⟩
  · intro script budget taskId ε _ element htold
    rw [Dom.run_limited_iff]
    refine exists_congr fun cs => and_congr_right fun hcs => ?_
    rw [streak_congr ((htold cs hcs).imp fun _ _ h => h.signatures)]
  · intro _ script budget taskId ε _ element htold
    rw [Vision.run_limited_iff]
    refine exists_congr fun cs => and_congr_right fun hcs => ?_
    rw [streak_congr ((htold cs hcs).imp fun _ _ h => h.signatures)]
  · intro _ script category budget taskId ε _ element htold
    rw [Hybrid.run_limited_iff]
    refine exists_congr fun cs => and_congr_right fun hcs => ?_
    rw [streak_congr ((htold cs hcs).imp fun _ _ h => h.signatures)]

/-! ## Waiting three times, and a button that is clicked three times -/

namespace Sample

/-- The model only waits. -/
def waiting : Dom.Script :=
  { script with reply := fun _ => .answer (some (.wait "act_wait" 1)) ⟨1, 1, 0⟩ }

/-- The third wait in a row ends the run, and nothing else does. -/
theorem repeated_exact_waiting :
    (∃ r, (Dom.run {} waiting {} "w3-joiner-001").1 = some r ∧
      r.status = .repeatedActionLimit) ∧
    ∃ cs, Dom.RunChoices {} waiting {} cs ∧ ({} : AgentBudget).maxRepeatedActions <
      streak (cs.map fun c => c.decision.signature fun _ => ()) := by
  have htold : ∀ cs, Dom.RunChoices {} waiting {} cs →
      cs.IsChain (Told id fun _ _ => ()) := by
    intro cs hcs
    have hwait : ∀ c ∈ cs, c.decision = .wait "act_wait" 1 := by
      intro c hc
      obtain ⟨n, usage, hreply⟩ := hcs.proposed c hc
      have hanswer : ModelReply.answer (some (.wait "act_wait" 1)) ⟨1, 1, 0⟩ =
          .answer (some c.decision) usage := hreply
      injection hanswer with hdecision
      exact (Option.some.inj hdecision).symm
    refine (List.pairwise_of_forall_mem_list fun c hc d hd => ?_).isChain
    intro _
    rw [hwait c hc, hwait d hd]
    exact iff_of_true rfl rfl
  have hlimited : ∃ r, (Dom.run {} waiting {} "w3-joiner-001").1 = some r ∧
      r.status = .repeatedActionLimit := by
    have hstatus : (Dom.run {} waiting {} "w3-joiner-001").1.map (·.status) =
        some .repeatedActionLimit := by decide +kernel
    exact Option.map_eq_some_iff.mp hstatus
  exact ⟨hlimited, ((repeated_exact {}).1 waiting {} "w3-joiner-001" Unit inferInstance
    (fun _ _ => ()) htold).mp hlimited⟩

def obs : Nat → String
  | 0 => "obs_0"
  | 1 => "obs_1"
  | 2 => "obs_2"
  | _ => "obs_3"

/-- The button under the reference that it has in an observation. -/
def buttonSeen (observationId : String) : Browser.Observation :=
  { observationId := observationId, references := [⟨"element_1", [.click]⟩] }

def buttonPage : Dom.Observation :=
  { page with interactiveElements := [⟨"element_1", "button", "More", {}, [.click], []⟩] }

/-- Every observation has an id of its own, which the decisions name. -/
def clicking : Dom.Script where
  created := some buttonPage
  session := (session .dom).observed (buttonSeen "obs_0")
  visit := fun n =>
    { now := 1, observations := [.built (buttonSeen (obs (n + 1)))], view := buttonPage }
  reply := fun
    | 0 => .answer (some (.click "act_0" ⟨"obs_0", "element_1"⟩)) ⟨1, 1, 0⟩
    | 1 => .answer (some (.click "act_1" ⟨"obs_1", "element_1"⟩)) ⟨1, 1, 0⟩
    | 2 => .answer (some (.click "act_2" ⟨"obs_2", "element_1"⟩)) ⟨1, 1, 0⟩
    | _ => .answer (some (.finish "act_finish" "")) ⟨1, 1, 0⟩
  clock := fun _ => 0

/-- The page has one button.  It is clicked three times in a row where two are allowed, and the run
goes on to its finish. -/
theorem third_click_unnoticed :
    ((Dom.run {} clicking {} "w3-joiner-001").1.map (·.status)) = some .finishedUngraded ∧
    ∃ cs, Dom.RunChoices {} clicking {} cs ∧ ({} : AgentBudget).maxRepeatedActions <
      streak (cs.map fun c => c.decision.signature fun _ => ()) := by
  refine ⟨by decide +kernel, _, ⟨buttonPage, rfl, _, _, _, _,
    .next (.next .start (by decide) rfl rfl) (by decide) rfl rfl, by decide, rfl, rfl⟩, by decide⟩

end Sample

end FlowPilot.Agents
