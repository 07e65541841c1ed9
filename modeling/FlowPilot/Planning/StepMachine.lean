import FlowPilot.Lib.Escape
import FlowPilot.Planning.DagExact

/-!
# The step state machine

`StepStateMachine` of `dag.py`.  A call either moves one step forward or raises and changes
nothing; along the order of a valid plan no call raises.
-/

open FlowPilot.Lib

namespace FlowPilot.Planning

inductive StepState where
  | pending | ready | executing | verified | blocked | failed | escalated
  deriving DecidableEq, Repr

inductive MachineError where
  | dependencyBlocked (message : String)
  | valueError (message : String)
  | keyError
  deriving DecidableEq

structure StepStateMachine where
  steps : StepId → Option PlanStep
  states : StepId → Option StepState

/-- Computations with the machine; what was written before a raise stays. -/
abbrev MachineM := EStateM MachineError StepStateMachine

namespace StepStateMachine

/-- `__init__`. -/
def init (dag : PlanningDag) : StepStateMachine where
  steps := dag.byId
  states id := if id ∈ dag.ids then some .pending else none

/-- `self._states[step_id]`. -/
def lookup (id : StepId) : MachineM StepState := do
  match (← get).states id with
  | none => throw .keyError
  | some state => pure state

/-- `self._states[step_id] = state`. -/
def assign (id : StepId) (state : StepState) : MachineM Unit :=
  modify fun m => { m with states := Function.update m.states id (some state) }

/-- `any(self._states[dependency] != "verified" for dependency in step.dependencies)`. -/
def anyUnverified : List StepId → MachineM Bool
  | [] => pure false
  | d :: rest => do
    if (← lookup d) ≠ .verified then pure true else anyUnverified rest

def start (id : StepId) : MachineM Unit := do
  match (← get).steps id with
  | none => throw (.dependencyBlocked "unknown step")
  | some step =>
    if (← lookup id) ≠ .pending then throw (.dependencyBlocked "step is not pending")
    else if ← anyUnverified step.dependencies then
      throw (.dependencyBlocked "dependencies are not verified")
    else
      assign id .ready
      assign id .executing

def verify (id : StepId) : MachineM Unit := do
  if (← get).states id ≠ some .executing then
    throw (.dependencyBlocked "only executing steps can be verified")
  else assign id .verified

def terminate (id : StepId) (target : StepState) : MachineM Unit := do
  if target ∉ [StepState.blocked, .failed, .escalated] then
    throw (.valueError "invalid terminal step state")
  else if (← get).states id ∉ [some StepState.pending, some .ready, some .executing] then
    throw (.dependencyBlocked "step cannot enter the requested terminal state")
  else assign id target

def state (id : StepId) : MachineM StepState := do
  match (← get).states id with
  | none => throw (.dependencyBlocked "unknown step")
  | some state => pure state

end StepStateMachine

open StepStateMachine

/-- A call of the machine. -/
inductive MachineCall where
  | start (id : StepId)
  | verify (id : StepId)
  | terminate (id : StepId) (target : StepState)
  | state (id : StepId)

def MachineCall.run : MachineCall → MachineM Unit
  | .start id => StepStateMachine.start id
  | .verify id => StepStateMachine.verify id
  | .terminate id target => StepStateMachine.terminate id target
  | .state id => do
    let _ ← StepStateMachine.state id
    pure ()

/-- The machine after a call, also one that raises. -/
def MachineCall.after (call : MachineCall) (m : StepStateMachine) : StepStateMachine :=
  match call.run m with
  | .ok _ m => m
  | .error _ m => m

def runCalls (m : StepStateMachine) (calls : List MachineCall) : StepStateMachine :=
  calls.foldl (fun m call => call.after m) m

/-! ## What a call does -/

/-- The machine with one state written. -/
def StepStateMachine.write (m : StepStateMachine) (id : StepId) (value : StepState) :
    StepStateMachine :=
  { m with states := Function.update m.states id (some value) }

variable {m m' : StepStateMachine} {id d : StepId} {dag : PlanningDag}

theorem lookup_some {value : StepState} (h : m.states id = some value) :
    lookup id m = .ok value m := by
  simp [lookup, h, bind_apply, get_apply, pure_apply]

theorem lookup_none (h : m.states id = none) : lookup id m = .error .keyError m := by
  simp [lookup, h, bind_apply, get_apply, throw_apply]

theorem anyUnverified_eq (l : List StepId) :
    (anyUnverified l m = .ok false m ∧ ∀ d ∈ l, m.states d = some .verified) ∨
    (anyUnverified l m = .ok true m ∨ anyUnverified l m = .error .keyError m) ∧
      ∃ d ∈ l, m.states d ≠ some .verified := by
  induction l with
  | nil => exact .inl ⟨rfl, fun d hd => absurd hd List.not_mem_nil⟩
  | cons d rest ih =>
      cases hstate : m.states d with
      | none =>
          refine .inr ⟨.inr ?_, d, List.mem_cons_self, ?_⟩
          · simp [anyUnverified, bind_apply, lookup_none hstate]
          · rw [hstate]
            exact fun h => Option.some_ne_none _ h.symm
      | some value =>
          by_cases hverified : value = .verified
          · rw [hverified] at hstate
            have hrest : anyUnverified (d :: rest) m = anyUnverified rest m := by
              simp [anyUnverified, bind_apply, lookup_some hstate]
            rw [hrest]
            rcases ih with ⟨hnone, hall⟩ | ⟨hsome, e, he, hunverified⟩
            · refine .inl ⟨hnone, ?_⟩
              intro e he
              rw [List.mem_cons] at he
              rcases he with hsame | hlater
              · rw [hsame]
                exact hstate
              · exact hall e hlater
            · exact .inr ⟨hsome, e, List.mem_cons_of_mem _ he, hunverified⟩
          · refine .inr ⟨.inl ?_, d, List.mem_cons_self, ?_⟩
            · simp [anyUnverified, bind_apply, lookup_some hstate, hverified, pure_apply]
            · rw [hstate]
              exact fun h => hverified (Option.some.inj h)

/-- A step is started when it is pending and its dependencies are verified. -/
theorem start_cases (id : StepId) (m : StepStateMachine) :
    (∃ step, m.steps id = some step ∧ m.states id = some .pending ∧
      (∀ d ∈ step.dependencies, m.states d = some .verified) ∧
      start id m = .ok () (m.write id .executing)) ∨
    (∃ e, start id m = .error e m) ∧
      ∀ step, m.steps id = some step → m.states id = some .pending →
        ∃ d ∈ step.dependencies, m.states d ≠ some .verified := by
  cases hstep : m.steps id with
  | none =>
      refine .inr ⟨⟨.dependencyBlocked "unknown step", ?_⟩,
        fun step h => absurd h.symm (Option.some_ne_none _)⟩
      simp [start, hstep, bind_apply, get_apply, throw_apply]
  | some step =>
      cases hstate : m.states id with
      | none =>
          refine .inr ⟨⟨.keyError, ?_⟩,
            fun step _ h => absurd h.symm (Option.some_ne_none _)⟩
          simp [start, hstep, bind_apply, get_apply, lookup_none hstate]
      | some value =>
          by_cases hpending : value = .pending
          · rw [hpending] at hstate ⊢
            rcases anyUnverified_eq (m := m) step.dependencies with
              ⟨hnone, hall⟩ | ⟨hsome, d, hd, hunverified⟩
            · refine .inl ⟨step, rfl, rfl, hall, ?_⟩
              simp [start, hstep, bind_apply, get_apply, lookup_some hstate, hnone, assign,
                modify_apply, StepStateMachine.write]
            · refine .inr ⟨?_, fun step' h _ => ?_⟩
              · rcases hsome with htrue | hraise
                · refine ⟨.dependencyBlocked "dependencies are not verified", ?_⟩
                  simp [start, hstep, bind_apply, get_apply, lookup_some hstate, htrue, throw_apply]
                · refine ⟨.keyError, ?_⟩
                  simp [start, hstep, bind_apply, get_apply, lookup_some hstate, hraise]
              · cases h
                exact ⟨d, hd, hunverified⟩
          · refine .inr ⟨⟨.dependencyBlocked "step is not pending", ?_⟩, fun _ _ h => ?_⟩
            · simp [start, hstep, bind_apply, get_apply, lookup_some hstate, hpending, throw_apply]
            · exact absurd (Option.some.inj h) hpending

/-- An executing step is verified. -/
theorem verify_cases (id : StepId) (m : StepStateMachine) :
    (m.states id = some .executing ∧
      StepStateMachine.verify id m = .ok () (m.write id .verified)) ∨
    m.states id ≠ some .executing ∧ ∃ e, StepStateMachine.verify id m = .error e m := by
  by_cases hstate : m.states id = some .executing
  · refine .inl ⟨hstate, ?_⟩
    simp [StepStateMachine.verify, hstate, bind_apply, get_apply, assign, modify_apply,
      StepStateMachine.write]
  · refine .inr ⟨hstate, .dependencyBlocked "only executing steps can be verified", ?_⟩
    simp [StepStateMachine.verify, hstate, bind_apply, get_apply, throw_apply]

/-- A step that has not ended ends blocked, failed or escalated. -/
theorem terminate_cases (id : StepId) (target : StepState) (m : StepStateMachine) :
    (target ∈ [StepState.blocked, .failed, .escalated] ∧
      m.states id ∈ [some StepState.pending, some .ready, some .executing] ∧
      terminate id target m = .ok () (m.write id target)) ∨
    ∃ e, terminate id target m = .error e m := by
  by_cases htarget : target ∈ [StepState.blocked, .failed, .escalated]
  · by_cases hstate : m.states id ∈ [some StepState.pending, some .ready, some .executing]
    · refine .inl ⟨htarget, hstate, ?_⟩
      unfold terminate
      simp only [htarget, not_true_eq_false, if_false]
      simp only [bind_apply, get_apply, hstate, not_true_eq_false, if_false]
      rfl
    · refine .inr ⟨.dependencyBlocked "step cannot enter the requested terminal state", ?_⟩
      unfold terminate
      simp only [htarget, not_true_eq_false, if_false]
      simp only [bind_apply, get_apply, hstate, not_false_eq_true, if_true]
      rfl
  · refine .inr ⟨.valueError "invalid terminal step state", ?_⟩
    unfold terminate
    simp only [htarget, not_false_eq_true, if_true]
    rfl

/-- The change of one step by a call that returns. -/
inductive Moves (m : StepStateMachine) : StepStateMachine → Prop where
  | start {id : StepId} {step : PlanStep} : m.steps id = some step →
      m.states id = some .pending → (∀ d ∈ step.dependencies, m.states d = some .verified) →
      Moves m (m.write id .executing)
  | verify {id : StepId} : m.states id = some .executing → Moves m (m.write id .verified)
  | terminate {id : StepId} {target : StepState} :
      target ∈ [StepState.blocked, .failed, .escalated] →
      m.states id ∈ [some StepState.pending, some .ready, some .executing] →
      Moves m (m.write id target)
  | state : Moves m m

/-- A call moves a step or raises and changes nothing. -/
theorem call_cases (call : MachineCall) (m : StepStateMachine) :
    (∃ m', call.run m = .ok () m' ∧ Moves m m') ∨ ∃ e, call.run m = .error e m := by
  cases call with
  | start id =>
      rcases start_cases id m with ⟨step, hstep, hpending, hdeps, hrun⟩ | ⟨hraise, _⟩
      · exact .inl ⟨_, hrun, .start hstep hpending hdeps⟩
      · exact .inr hraise
  | verify id =>
      rcases verify_cases id m with ⟨hexecuting, hrun⟩ | ⟨_, hraise⟩
      · exact .inl ⟨_, hrun, .verify hexecuting⟩
      · exact .inr hraise
  | terminate id target =>
      rcases terminate_cases id target m with ⟨htarget, hstate, hrun⟩ | hraise
      · exact .inl ⟨_, hrun, .terminate htarget hstate⟩
      · exact .inr hraise
  | state id =>
      cases hstate : m.states id with
      | none =>
          refine .inr ⟨.dependencyBlocked "unknown step", ?_⟩
          simp [MachineCall.run, StepStateMachine.state, hstate, bind_apply, get_apply, throw_apply]
      | some value =>
          refine .inl ⟨m, ?_, .state⟩
          simp [MachineCall.run, StepStateMachine.state, hstate, bind_apply, get_apply, pure_apply]

theorem after_cases (call : MachineCall) (m : StepStateMachine) :
    Moves m (call.after m) := by
  unfold MachineCall.after
  rcases call_cases call m with ⟨m', hrun, hmoves⟩ | ⟨e, hrun⟩
  · rw [hrun]
    exact hmoves
  · rw [hrun]
    exact .state

/-! ## Invariants -/

/-- A state as far as it has come. -/
def StepState.stage : StepState → Nat
  | .pending => 0
  | .ready => 1
  | .executing => 2
  | .verified | .blocked | .failed | .escalated => 3

/-- Nothing happened, or a step went to a later stage. -/
def Forward (before after : Option StepState) : Prop :=
  before = after ∨ ∃ x y, before = some x ∧ after = some y ∧ x.stage < y.stage

theorem Forward.trans {a b c : Option StepState} (hab : Forward a b) (hbc : Forward b c) :
    Forward a c := by
  rcases hab with hsame | ⟨x, y, hx, hy, hxy⟩
  · rw [hsame]
    exact hbc
  · rcases hbc with hsame | ⟨y', z, hy', hz, hyz⟩
    · rw [← hsame]
      exact .inr ⟨x, y, hx, hy, hxy⟩
    · rw [hy] at hy'
      have hyy := Option.some.inj hy'
      rw [← hyy] at hyz
      exact .inr ⟨x, z, hx, hz, Nat.lt_trans hxy hyz⟩

/-- A step that has ended stays as it is. -/
theorem Forward.ended {a b : Option StepState} (h : Forward a b) {value : StepState}
    (hended : value ∈ [StepState.verified, .blocked, .failed, .escalated])
    (ha : a = some value) : b = some value := by
  rcases h with hsame | ⟨x, y, hx, _, hlt⟩
  · rw [← hsame]
    exact ha
  · rw [ha] at hx
    rw [← Option.some.inj hx] at hlt
    have hlast : value.stage = 3 := by
      simp only [List.mem_cons, List.not_mem_nil, or_false] at hended
      rcases hended with h | h | h | h <;> rw [h] <;> rfl
    have hmost : y.stage ≤ 3 := by cases y <;> decide
    omega

theorem Moves.forward (h : Moves m m') (id : StepId) : Forward (m.states id) (m'.states id) := by
  have hwrite : ∀ id' value x, m.states id' = some x → x.stage < value.stage →
      Forward (m.states id) ((m.write id' value).states id) := by
    intro id' value x hx hlt
    by_cases hid : id = id'
    · rw [hid]
      exact .inr ⟨x, value, hx, Function.update_self _ _ _, hlt⟩
    · exact .inl (Function.update_of_ne hid _ _).symm
  cases h with
  | start _ hpending _ => exact hwrite _ _ _ hpending (by decide)
  | verify hexecuting => exact hwrite _ _ _ hexecuting (by decide)
  | @terminate _ target htarget hstate =>
      have hlast : target.stage = 3 := by
        simp only [List.mem_cons, List.not_mem_nil, or_false] at htarget
        rcases htarget with h | h | h <;> rw [h] <;> rfl
      simp only [List.mem_cons, List.not_mem_nil, or_false] at hstate
      rcases hstate with h | h | h
      · exact hwrite _ _ _ h (by rw [hlast]; decide)
      · exact hwrite _ _ _ h (by rw [hlast]; decide)
      · exact hwrite _ _ _ h (by rw [hlast]; decide)
  | state => exact .inl rfl

/-- A step that executes or is verified has its dependencies verified. -/
structure Ordered (dag : PlanningDag) (m : StepStateMachine) : Prop where
  steps : m.steps = dag.byId
  ordered : ∀ step ∈ dag.steps,
    m.states step.stepId = some .executing ∨ m.states step.stepId = some .verified →
      ∀ d ∈ step.dependencies, m.states d = some .verified

theorem ordered_init (dag : PlanningDag) : Ordered dag (init dag) := by
  refine ⟨rfl, ?_⟩
  intro step _ hstate
  have hpending : (init dag).states step.stepId = some .pending ∨
      (init dag).states step.stepId = none := by
    show (if _ then _ else _) = _ ∨ (if _ then _ else _) = _
    split
    · exact .inl rfl
    · exact .inr rfl
  rcases hpending with h | h <;> rw [h] at hstate <;> rcases hstate with h' | h' <;> cases h'

/-- What is written to a step that is not verified keeps the order, if it respects it. -/
theorem Ordered.write (h : Ordered dag m) {value : StepState}
    (hopen : m.states id ≠ some .verified)
    (hdeps : value = .executing ∨ value = .verified → ∀ step ∈ dag.steps, step.stepId = id →
      ∀ d ∈ step.dependencies, m.states d = some .verified) :
    Ordered dag (m.write id value) := by
  have hkept : ∀ d, m.states d = some .verified →
      (m.write id value).states d = some .verified := by
    intro d hd
    have hne : d ≠ id := by
      intro hsame
      rw [hsame] at hd
      exact hopen hd
    exact (Function.update_of_ne hne _ _).trans hd
  refine ⟨h.steps, ?_⟩
  intro step hstep hstate d hd
  by_cases hid : step.stepId = id
  · have hvalue : (m.write id value).states step.stepId = some value := by
      rw [hid]
      exact Function.update_self _ _ _
    rw [hvalue] at hstate
    exact hkept d (hdeps (hstate.imp Option.some.inj Option.some.inj) step hstep hid d hd)
  · have hother : (m.write id value).states step.stepId = m.states step.stepId :=
      Function.update_of_ne hid _ _
    rw [hother] at hstate
    exact hkept d (h.ordered step hstep hstate d hd)

theorem Ordered.moves (h : Ordered dag m) (hnodup : dag.ids.Nodup) (hmoves : Moves m m') :
    Ordered dag m' := by
  cases hmoves with
  | @start id step hstep hpending hdeps =>
      refine h.write ?_ ?_
      · rw [hpending]
        decide
      · intro _ other hother hid
        have hsame := PlanningDag.byId_eq hnodup hother
        rw [hid, ← h.steps, hstep] at hsame
        rw [← Option.some.inj hsame]
        exact hdeps
  | verify hexecuting =>
      refine h.write ?_ ?_
      · rw [hexecuting]
        decide
      · intro _ step hstep hid d hd
        rw [← hid] at hexecuting
        exact h.ordered step hstep (.inl hexecuting) d hd
  | @terminate id target htarget hstate =>
      refine h.write ?_ ?_
      · intro hverified
        rw [hverified] at hstate
        exact absurd hstate (by decide)
      · intro hvalue
        rcases hvalue with hv | hv <;> rw [hv] at htarget <;> exact absurd htarget (by decide)
  | state => exact h

theorem runCalls_spec (hnodup : dag.ids.Nodup) (calls : List MachineCall) :
    ∀ m, Ordered dag m → Ordered dag (runCalls m calls) ∧
      ∀ id, Forward (m.states id) ((runCalls m calls).states id) := by
  induction calls with
  | nil => exact fun m h => ⟨h, fun id => .inl rfl⟩
  | cons call calls ih =>
      intro m h
      have hmoves := after_cases call m
      have ⟨hordered, hforward⟩ := ih (call.after m) (h.moves hnodup hmoves)
      exact ⟨hordered, fun id => (hmoves.forward id).trans (hforward id)⟩

/-! ## Along the topology -/

/-- Every step is started and verified in turn. -/
def drive : List StepId → MachineM Unit
  | [] => pure ()
  | id :: rest => do
    start id
    StepStateMachine.verify id
    drive rest

theorem drive_placed (h : dag.WellNamed) (later : List StepId) : ∀ earlier m,
    (dag.graph h).Placed (earlier ++ later) → m.steps = dag.byId →
    (∀ x ∈ earlier, m.states x = some .verified) → (∀ x ∈ later, m.states x = some .pending) →
      ∃ m', drive later m = .ok () m' ∧ ∀ x ∈ earlier ++ later, m'.states x = some .verified := by
  induction later with
  | nil =>
      intro earlier m _ _ hearlier _
      refine ⟨m, rfl, ?_⟩
      rw [List.append_nil]
      exact hearlier
  | cons id later ih =>
      intro earlier m hplaced hsteps hearlier hlater
      have hnodup := hplaced.nodup
      rw [List.nodup_append] at hnodup
      have hnode := hplaced.subset id (List.mem_append_right _ List.mem_cons_self)
      have ⟨step, hstep, hid⟩ := List.mem_map.mp hnode
      have hfound : m.steps id = some step := by
        rw [hsteps, ← hid]
        exact PlanningDag.byId_eq h.nodup hstep
      have hdeps : ∀ d ∈ step.dependencies, m.states d = some .verified := by
        intro d hd
        refine hearlier d (hplaced.split rfl d ?_)
        show d ∈ dag.deps id
        rw [← hid, PlanningDag.deps_eq h.nodup hstep]
        exact hd
      have hpending := hlater id List.mem_cons_self
      -- both calls return
      have hstart : start id m = .ok () (m.write id .executing) := by
        rcases start_cases id m with ⟨_, _, _, _, hrun⟩ | ⟨_, hblocked⟩
        · exact hrun
        · have ⟨d, hd, hunverified⟩ := hblocked step hfound hpending
          exact absurd (hdeps d hd) hunverified
      have hverify : StepStateMachine.verify id (m.write id .executing) =
          .ok () ((m.write id .executing).write id .verified) := by
        have hexecuting : (m.write id .executing).states id = some .executing :=
          Function.update_self _ _ _
        rcases verify_cases id (m.write id .executing) with ⟨_, hrun⟩ | ⟨hnot, _⟩
        · exact hrun
        · exact absurd hexecuting hnot
      let next := (m.write id .executing).write id .verified
      have hself : next.states id = some .verified := Function.update_self _ _ _
      have hother : ∀ x, x ≠ id → next.states x = m.states x := fun x hx =>
        (Function.update_of_ne hx _ _).trans (Function.update_of_ne hx _ _)
      have hdrive : drive (id :: later) m = drive later next := by
        simp only [drive, bind_apply, hstart, hverify]
        rfl
      have hsplit : earlier ++ [id] ++ later = earlier ++ id :: later := by
        rw [List.append_assoc, List.singleton_append]
      rw [hdrive, ← hsplit]
      refine ih (earlier ++ [id]) next (by rw [hsplit]; exact hplaced) hsteps ?_ ?_
      · intro x hx
        by_cases hxid : x = id
        · rw [hxid]
          exact hself
        · rw [hother x hxid]
          rw [List.mem_append, List.mem_singleton] at hx
          exact hearlier x (hx.resolve_right hxid)
      · intro x hx
        have hxid : x ≠ id := by
          intro hsame
          rw [hsame] at hx
          exact (List.nodup_cons.mp hnodup.2.1).1 hx
        rw [hother x hxid]
        exact hlater x (List.mem_cons_of_mem _ hx)

/-- From the start and whatever is called, an executing or verified step has its dependencies
verified, states only move forward and a raising call changes nothing; along the order of the
validation all steps are verified. -/
theorem step_machine_sound [Sha256] (dag : PlanningDag) (result : PlanValidationResult)
    (hresult : validateDag dag = some result) (hvalid : result.valid = true) :
    (∀ calls, ∀ step ∈ dag.steps,
      let m := runCalls (init dag) calls
      m.states step.stepId = some .executing ∨ m.states step.stepId = some .verified →
        ∀ d ∈ step.dependencies, m.states d = some .verified) ∧
    (∀ calls more id, Forward ((runCalls (init dag) calls).states id)
      ((runCalls (init dag) (calls ++ more)).states id)) ∧
    (∀ calls more id value, value ∈ [StepState.verified, .blocked, .failed, .escalated] →
      (runCalls (init dag) calls).states id = some value →
        (runCalls (init dag) (calls ++ more)).states id = some value) ∧
    (∀ calls call e m', MachineCall.run call (runCalls (init dag) calls) = .error e m' →
      m' = runCalls (init dag) calls) ∧
    ∃ m', drive result.topology (init dag) = .ok () m' ∧
      ∀ step ∈ dag.steps, m'.states step.stepId = some .verified := by
  have hformed := validateDag_valid.mp ⟨result, hresult, hvalid⟩
  have ⟨htopology, _, _⟩ := validateDag_reports hformed hresult
  have hnodup := hformed.named.nodup
  have hreached := fun calls => runCalls_spec hnodup calls (init dag) (ordered_init dag)
  have hforward : ∀ calls more id, Forward ((runCalls (init dag) calls).states id)
      ((runCalls (init dag) (calls ++ more)).states id) := by
    intro calls more id
    have hmore := (runCalls_spec hnodup more _ (hreached calls).1).2 id
    have happend : runCalls (init dag) (calls ++ more) =
        runCalls (runCalls (init dag) calls) more := List.foldl_append
    rw [happend]
    exact hmore
  refine ⟨fun calls => (hreached calls).1.ordered, hforward, ?_, ?_, ?_⟩
  · intro calls more id value hended hvalue
    exact (hforward calls more id).ended hended hvalue
  · intro calls call e m' hraise
    rcases call_cases call (runCalls (init dag) calls) with ⟨_, hrun, _⟩ | ⟨_, hrun⟩
    · rw [hrun] at hraise
      cases hraise
    · rw [hrun] at hraise
      cases hraise
      rfl
  · have hperm := PlanningDag.topology_perm hformed.named hformed.acyclic
    have hpending : ∀ x ∈ dag.topology, (init dag).states x = some .pending := fun x hx =>
      if_pos (hperm.mem_iff.mp hx)
    have ⟨m', hdrive, hall⟩ := drive_placed hformed.named dag.topology [] (init dag)
      (PlanningDag.topology_placed hformed.named) rfl (fun x hx => absurd hx List.not_mem_nil)
      hpending
    refine ⟨m', ?_, ?_⟩
    · rw [htopology]
      exact hdrive
    · intro step hstep
      exact hall step.stepId (hperm.mem_iff.mpr (List.mem_map_of_mem hstep))

section

attribute [local instance] polynomialSha256

/-- Driven along its two steps, a plan ends with both verified. -/
theorem step_machine_shortPlan :
    ∃ m', drive [inspectStep.stepId, finalizeStep.stepId] (init shortPlan) = .ok () m' ∧
      ∀ step ∈ shortPlan.steps, m'.states step.stepId = some .verified := by
  have ⟨result, hresult, hvalid⟩ := validateDag_valid.mpr shortPlan_wellFormed
  have ⟨htopology, _, _⟩ := validateDag_reports shortPlan_wellFormed hresult
  have hdriven := (step_machine_sound shortPlan result hresult hvalid).2.2.2.2
  have horder : shortPlan.topology = [inspectStep.stepId, finalizeStep.stepId] := by
    decide +kernel
  rw [htopology, horder] at hdriven
  exact hdriven

end

end FlowPilot.Planning
