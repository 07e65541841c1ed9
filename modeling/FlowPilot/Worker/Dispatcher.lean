import FlowPilot.Lib.System
import FlowPilot.Worker.Complete

/-!
# The dispatcher

`run_slot`, `process` and `_heartbeat` of the worker's process, between one awaited call and the
next.  Any number of `run_slot` tasks share the semaphore and the counters.  The sections under
`_active_lock` await nothing, so a task always finds that lock free and passes it in the same
turn of the event loop.
-/

open FlowPilot.Lib Relation

namespace FlowPilot.Worker

/-- What the tasks wait for. -/
inductive Call where
  /-- the first turn of the task -/
  | start
  | claimNext
  /-- `stop.wait()` for at most the poll interval -/
  | stopWait
  | slotGate
  | bindingValid (item : WorkItem)
  | fail (item : WorkItem) (reason : String)
  | markStarted (item : WorkItem)
  | startAndWait (item : WorkItem)
  | recordDeduplicated (item : WorkItem)
  | complete (item : WorkItem) (outcome : TemporalOutcome)
  | release (item : WorkItem)
  /-- the heartbeat task, after its cancellation -/
  | heartbeatTask

/-- How a wait ends. -/
inductive Reply where
  | item (found : Option WorkItem)
  | flag (value : Bool)
  | outcome (value : TemporalOutcome)
  | done
  | raised (error : String)
  | cancelled

inductive Exit where
  | returned
  | raised (error : String)
  | cancelled
  deriving DecidableEq

/-- The heartbeat task of a process, while it beats and once it has ended by itself. -/
inductive Heartbeat where
  | beating
  | returned
  | raised (error : String)
  deriving DecidableEq

/-- Where a `run_slot` task is suspended. -/
inductive Point where
  | start
  | claimNext
  | stopWait
  | slotGate (item : WorkItem)
  | bindingValid (item : WorkItem)
  | deny (item : WorkItem)
  | markStarted (item : WorkItem)
  | startAndWait (item : WorkItem)
  | recordDeduplicated (item : WorkItem) (outcome : TemporalOutcome)
  | complete (item : WorkItem) (outcome : TemporalOutcome)
  /-- `except asyncio.CancelledError` -/
  | release (item : WorkItem)
  /-- `except Exception` -/
  | reject (item : WorkItem)
  /-- `finally`, with what the block interrupted -/
  | join (pending : Exit)
  | ended (exit : Exit)

def Point.call : Point → Option Call
  | start => some .start
  | claimNext => some .claimNext
  | stopWait => some .stopWait
  | slotGate _ => some .slotGate
  | bindingValid item => some (.bindingValid item)
  | deny item => some (.fail item "authorization_invalid")
  | markStarted item => some (.markStarted item)
  | startAndWait item => some (.startAndWait item)
  | recordDeduplicated item _ => some (.recordDeduplicated item)
  | complete item outcome => some (.complete item outcome)
  | release item => some (.release item)
  | reject item => some (.fail item "workflow_rejected")
  | join _ => some .heartbeatTask
  | ended _ => none

/-- A `run_slot` task with the local variables of its `process`. -/
structure Slot where
  point : Point := .start
  counted : Bool := false
  heartbeat : Option Heartbeat := none

/-- `_slot_gate`, `_active` and `max_active`.  A permit handed to a waiter counts as free until
the waiter takes its turn. -/
structure Gate where
  slots : Nat
  permits : Nat
  active : Int := 0
  maxActive : Int := 0

structure Dispatcher where
  gate : Gate
  stop : Bool := false
  tasks : List Slot

/-! ## One turn of a task -/

/-- The loop head of `run_slot`. -/
def loopHead (stop : Bool) : Point := if stop then .ended .returned else .claimNext

/-- `run_slot` after `process`. -/
def afterProcess (stop : Bool) : Exit → Point
  | .returned => loopHead stop
  | exit => .ended exit

/-- The end of the `finally` block. -/
def giveBack (stop : Bool) (gate : Gate) (task : Slot) (exit : Exit) : Gate × Slot :=
  ({ gate with
      active := if task.counted then gate.active - 1 else gate.active
      permits := gate.permits + 1 },
    { point := afterProcess stop exit })

/-- The `finally` block of `process`.  A heartbeat task that has ended is awaited without
suspension, and `suppress` lets the exception it ended with through. -/
def finallyBlock (stop : Bool) (gate : Gate) (task : Slot) (exit : Exit) : Gate × Slot :=
  match task.heartbeat with
  | some .beating => (gate, { task with point := .join exit })
  | some (.raised error) => (gate, { task with point := .ended (.raised error) })
  | _ => giveBack stop gate task exit

/-- The turn of a task whose call has ended. -/
def resume (stop : Bool) (gate : Gate) (task : Slot) (reply : Reply) : Option (Gate × Slot) :=
  match task.point, reply with
  | .start, .done => some (gate, { task with point := loopHead stop })
  | .start, .cancelled => some (gate, { task with point := .ended .cancelled })
  | .claimNext, .item (some item) => some (gate, { task with point := .slotGate item })
  | .claimNext, .item none => some (gate, { task with point := .stopWait })
  | .claimNext, .raised error => some (gate, { task with point := .ended (.raised error) })
  | .claimNext, .cancelled => some (gate, { task with point := .ended .cancelled })
  | .stopWait, .done => some (gate, { task with point := loopHead stop })
  | .stopWait, .cancelled => some (gate, { task with point := .ended .cancelled })
  | .slotGate item, .done =>
    if gate.permits = 0 then none
    else
      let active := gate.active + 1
      some ({ gate with
          permits := gate.permits - 1
          active := active
          maxActive := max gate.maxActive active },
        { task with
          counted := true
          -- more than the slots: the `RuntimeError` is caught like any other exception
          point := if active > gate.slots then .reject item else .bindingValid item })
  | .slotGate _, .cancelled => some (gate, { task with point := .ended .cancelled })
  | .bindingValid item, .flag valid =>
    some (gate, { task with point := if valid then .markStarted item else .deny item })
  | .deny _, .flag _ => some (finallyBlock stop gate task .returned)
  | .markStarted item, .flag started =>
    if started then
      some (gate, { task with point := .startAndWait item, heartbeat := some .beating })
    else some (finallyBlock stop gate task .returned)
  | .startAndWait item, .outcome outcome =>
    some (gate, { task with
      point := if outcome.deduplicatedStart then .recordDeduplicated item outcome
        else .complete item outcome })
  | .recordDeduplicated item outcome, .flag _ =>
    some (gate, { task with point := .complete item outcome })
  | .complete _ _, .flag _ => some (finallyBlock stop gate task .returned)
  | .bindingValid item, .raised _ | .deny item, .raised _ | .markStarted item, .raised _
  | .startAndWait item, .raised _ | .recordDeduplicated item _, .raised _
  | .complete item _, .raised _ => some (gate, { task with point := .reject item })
  | .bindingValid item, .cancelled | .deny item, .cancelled | .markStarted item, .cancelled
  | .startAndWait item, .cancelled | .recordDeduplicated item _, .cancelled
  | .complete item _, .cancelled => some (gate, { task with point := .release item })
  | .release _, .flag _ => some (finallyBlock stop gate task .cancelled)
  | .release _, .raised error => some (finallyBlock stop gate task (.raised error))
  | .release _, .cancelled => some (finallyBlock stop gate task .cancelled)
  | .reject _, .flag _ => some (finallyBlock stop gate task .returned)
  | .reject _, .raised error => some (finallyBlock stop gate task (.raised error))
  | .reject _, .cancelled => some (finallyBlock stop gate task .cancelled)
  -- the heartbeat task ends by the cancellation or finds `done` set, and `suppress` takes either
  -- `CancelledError`
  | .join pending, .done => some (giveBack stop gate task pending)
  | .join pending, .cancelled => some (giveBack stop gate task pending)
  | _, _ => none

/-- What a call of `repository.heartbeat` makes of the heartbeat task. -/
def beat : Reply → Option Heartbeat
  | .flag true => some .beating
  | .flag false => some .returned
  | .raised error => some (.raised error)
  | _ => none

/-! ## Steps of the process -/

inductive Event where
  | answer (i : Nat) (call : Call) (reply : Reply)
  | beat (i : Nat) (reply : Reply)
  | stop

def Dispatcher.start (slots tasks : Nat) : Dispatcher :=
  { gate := { slots := slots, permits := slots }, tasks := List.replicate tasks {} }

inductive Happens : Dispatcher → Event → Dispatcher → Prop where
  | answer {d : Dispatcher} {i : Nat} {task after : Slot} {call : Call} {reply : Reply}
      {gate : Gate} (htask : d.tasks[i]? = some task) (hcall : task.point.call = some call)
      (hturn : resume d.stop d.gate task reply = some (gate, after)) :
      Happens d (.answer i call reply) { d with gate := gate, tasks := d.tasks.set i after }
  | beat {d : Dispatcher} {i : Nat} {task : Slot} {reply : Reply} {heartbeat : Heartbeat}
      (htask : d.tasks[i]? = some task) (hbeating : task.heartbeat = some .beating)
      (hrunning : ∀ pending, task.point ≠ .join pending) (hbeat : beat reply = some heartbeat) :
      Happens d (.beat i reply)
        { d with tasks := d.tasks.set i { task with heartbeat := some heartbeat } }
  | stop {d : Dispatcher} : Happens d .stop { d with stop := true }

def Step (d after : Dispatcher) : Prop := ∃ event, Happens d event after

/-! ## Permits -/

/-- Past the semaphore, with `process` not yet at its end. -/
def Point.inside : Point → Bool
  | .bindingValid _ | .deny _ | .markStarted _ | .startAndWait _ | .recordDeduplicated _ _
  | .complete _ _ | .release _ | .reject _ | .join _ => true
  | _ => false

/-- The task has ended with the exception of its heartbeat, before the end of the `finally`
block. -/
def Slot.lost (task : Slot) : Bool :=
  match task.point, task.heartbeat with
  | .ended _, some (.raised _) => true
  | _, _ => false

def Slot.holds (task : Slot) : Bool := task.point.inside || task.lost

/-- The processes that run. -/
def Dispatcher.running (d : Dispatcher) : Nat := d.tasks.countP (·.point.inside)

/-- The tasks that kept their permit. -/
def Dispatcher.lost (d : Dispatcher) : Nat := d.tasks.countP Slot.lost

/-- The local variables of a task agree with what it holds. -/
structure Slot.Sound (task : Slot) : Prop where
  counted : task.counted = task.holds
  heartbeat : task.holds = false → task.heartbeat = none

theorem inside_not_lost {task : Slot} (h : task.point.inside = true) : task.lost = false := by
  unfold Slot.lost
  split
  · next hpoint _ =>
      rw [hpoint] at h
      cases h
  · rfl

/-- The turns of a task, by what they do to the permit it holds. -/
inductive Turn (stop : Bool) (gate : Gate) (task : Slot) (reply : Reply) : Gate × Slot → Prop where
  /-- outside `process`, or into its end without a permit -/
  | outside {point : Point} (hfrom : task.point.inside = false)
      (hended : ∀ exit, task.point ≠ .ended exit) (hto : point.inside = false)
      (hraised : ∀ error, point = .ended (.raised error) →
        task.point = .claimNext ∧ reply = .raised error) :
      Turn stop gate task reply (gate, { task with point := point })
  | enter {point : Point} {maxActive : Int} (item : WorkItem) (hfrom : task.point = .slotGate item)
      (hpermit : gate.permits ≠ 0) (hto : point.inside = true)
      (hjoin : ∀ pending, point ≠ .join pending) :
      Turn stop gate task reply
        ({ gate with
            permits := gate.permits - 1
            active := gate.active + 1
            maxActive := maxActive },
          { task with counted := true, point := point })
  | within {point : Point} {heartbeat : Option Heartbeat} (hfrom : task.point.inside = true)
      (hto : point.inside = true) (hjoin : ∀ pending, point ≠ .join pending)
      (hbeat : heartbeat = task.heartbeat ∨ heartbeat = some .beating) :
      Turn stop gate task reply (gate, { task with point := point, heartbeat := heartbeat })
  | leave (exit : Exit) (hfrom : task.point.inside = true)
      (hraised : ∀ error, exit = .raised error → reply = .raised error ∧
        ((∃ item, task.point = .release item) ∨ ∃ item, task.point = .reject item)) :
      Turn stop gate task reply (finallyBlock stop gate task exit)
  | joined (pending : Exit) (hfrom : task.point = .join pending) :
      Turn stop gate task reply (giveBack stop gate task pending)


variable {stop : Bool} {gate : Gate} {task : Slot} {reply : Reply} {r : Gate × Slot}

theorem loopHead_inside (stop : Bool) : (loopHead stop).inside = false := by
  cases stop <;> rfl

theorem loopHead_ne_raised (stop : Bool) (error : String) :
    loopHead stop ≠ .ended (.raised error) := by
  cases stop <;> exact fun h => by cases h

/-- The turns before the semaphore. -/
theorem resume_outside (hfrom : task.point = .start ∨ task.point = .claimNext ∨
      task.point = .stopWait) (h : resume stop gate task reply = some r) :
    Turn stop gate task reply r := by
  have hinside : task.point.inside = false := by
    rcases hfrom with hp | hp | hp <;> rw [hp] <;> rfl
  have hended : ∀ exit, task.point ≠ .ended exit := by
    intro exit he
    rcases hfrom with hp | hp | hp <;> rw [hp] at he <;> cases he
  rcases hfrom with hp | hp | hp
  · cases reply <;> simp only [resume, hp] at h <;> cases h
    · exact .outside hinside hended (loopHead_inside stop)
        fun error he => absurd he (loopHead_ne_raised stop error)
    · exact .outside hinside hended rfl fun error he => by cases he
  · cases reply with
    | item found =>
      cases found <;> simp only [resume, hp] at h <;> cases h
      · exact .outside hinside hended rfl fun error he => by cases he
      · exact .outside hinside hended rfl fun error he => by cases he
    | raised error =>
      simp only [resume, hp] at h
      cases h
      refine .outside hinside hended rfl fun other he => ⟨hp, ?_⟩
      rw [Exit.raised.inj (Point.ended.inj he)]
    | cancelled =>
      simp only [resume, hp] at h
      cases h
      exact .outside hinside hended rfl fun error he => by cases he
    | flag _ | outcome _ | done => simp only [resume, hp] at h; cases h
  · cases reply <;> simp only [resume, hp] at h <;> cases h
    · exact .outside hinside hended (loopHead_inside stop)
        fun error he => absurd he (loopHead_ne_raised stop error)
    · exact .outside hinside hended rfl fun error he => by cases he

theorem resume_slotGate {item : WorkItem} (hfrom : task.point = .slotGate item)
    (h : resume stop gate task reply = some r) : Turn stop gate task reply r := by
  cases reply <;> simp only [resume, hfrom] at h
  case done =>
    split at h
    · cases h
    · next hpermit =>
        cases h
        refine .enter item hfrom hpermit ?_ ?_
        · split <;> rfl
        · intro pending
          split <;> exact fun he => by cases he
  case cancelled =>
    cases h
    refine .outside (by rw [hfrom]; rfl) ?_ rfl fun error he => by cases he
    intro exit he
    rw [hfrom] at he
    cases he
  all_goals cases h

/-- The turns of the `try` block and of its handlers. -/
theorem resume_inside (hfrom : task.point.inside = true) (hjoin : ∀ pending, task.point ≠ .join pending)
    (h : resume stop gate task reply = some r) : Turn stop gate task reply r := by
  have hin : ∀ point, point.inside = true → (∀ pending, point ≠ .join pending) →
      Turn stop gate task reply (gate, { task with point := point }) :=
    fun point hto hnot => .within hfrom hto hnot (.inl rfl)
  have hback : Turn stop gate task reply (finallyBlock stop gate task .returned) :=
    .leave .returned hfrom fun error he => by cases he
  cases hp : task.point with
  | start | claimNext | stopWait | slotGate _ | ended _ =>
    rw [hp] at hfrom
    cases hfrom
  | join pending => exact absurd hp (hjoin pending)
  | bindingValid item =>
    cases reply with
    | flag valid =>
      simp only [resume, hp] at h
      cases h
      cases valid <;> exact hin _ rfl fun _ he => by cases he
    | raised _ | cancelled =>
      simp only [resume, hp] at h
      cases h
      exact hin _ rfl fun _ he => by cases he
    | item _ | outcome _ | done => simp only [resume, hp] at h; cases h
  | deny item =>
    cases reply with
    | flag _ =>
      simp only [resume, hp] at h
      cases h
      exact hback
    | raised _ | cancelled =>
      simp only [resume, hp] at h
      cases h
      exact hin _ rfl fun _ he => by cases he
    | item _ | outcome _ | done => simp only [resume, hp] at h; cases h
  | markStarted item =>
    cases reply with
    | flag started =>
      simp only [resume, hp] at h
      cases started with
      | true =>
        cases h
        exact .within hfrom rfl (fun _ he => by cases he) (.inr rfl)
      | false =>
        cases h
        exact hback
    | raised _ | cancelled =>
      simp only [resume, hp] at h
      cases h
      exact hin _ rfl fun _ he => by cases he
    | item _ | outcome _ | done => simp only [resume, hp] at h; cases h
  | startAndWait item =>
    cases reply with
    | outcome outcome =>
      simp only [resume, hp] at h
      cases h
      refine hin _ ?_ ?_
      · split <;> rfl
      · intro pending
        split <;> exact fun he => by cases he
    | raised _ | cancelled =>
      simp only [resume, hp] at h
      cases h
      exact hin _ rfl fun _ he => by cases he
    | item _ | flag _ | done => simp only [resume, hp] at h; cases h
  | recordDeduplicated item outcome =>
    cases reply with
    | flag _ | raised _ | cancelled =>
      simp only [resume, hp] at h
      cases h
      exact hin _ rfl fun _ he => by cases he
    | item _ | outcome _ | done => simp only [resume, hp] at h; cases h
  | complete item outcome =>
    cases reply with
    | flag _ =>
      simp only [resume, hp] at h
      cases h
      exact hback
    | raised _ | cancelled =>
      simp only [resume, hp] at h
      cases h
      exact hin _ rfl fun _ he => by cases he
    | item _ | outcome _ | done => simp only [resume, hp] at h; cases h
  | release item =>
    cases reply with
    | flag _ | cancelled =>
      simp only [resume, hp] at h
      cases h
      exact .leave .cancelled hfrom fun error he => by cases he
    | raised error =>
      simp only [resume, hp] at h
      cases h
      refine .leave (.raised error) hfrom fun other he => ?_
      rw [Exit.raised.inj he]
      exact ⟨rfl, .inl ⟨item, hp⟩⟩
    | item _ | outcome _ | done => simp only [resume, hp] at h; cases h
  | reject item =>
    cases reply with
    | flag _ =>
      simp only [resume, hp] at h
      cases h
      exact hback
    | cancelled =>
      simp only [resume, hp] at h
      cases h
      exact .leave .cancelled hfrom fun error he => by cases he
    | raised error =>
      simp only [resume, hp] at h
      cases h
      refine .leave (.raised error) hfrom fun other he => ?_
      rw [Exit.raised.inj he]
      exact ⟨rfl, .inr ⟨item, hp⟩⟩
    | item _ | outcome _ | done => simp only [resume, hp] at h; cases h

theorem resume_join {pending : Exit} (hfrom : task.point = .join pending)
    (h : resume stop gate task reply = some r) : Turn stop gate task reply r := by
  cases reply <;> simp only [resume, hfrom] at h <;> cases h
  · exact .joined pending hfrom
  · exact .joined pending hfrom

theorem resume_turn (h : resume stop gate task reply = some r) : Turn stop gate task reply r := by
  by_cases hinside : task.point.inside = true
  · by_cases hjoin : ∀ pending, task.point ≠ .join pending
    · exact resume_inside hinside hjoin h
    · obtain ⟨pending, hfrom⟩ := not_forall_not.mp hjoin
      exact resume_join hfrom h
  · cases hp : task.point with
    | start => exact resume_outside (.inl hp) h
    | claimNext => exact resume_outside (.inr (.inl hp)) h
    | stopWait => exact resume_outside (.inr (.inr hp)) h
    | slotGate item => exact resume_slotGate hp h
    | ended exit => simp only [resume, hp] at h; cases h
    | _ => rw [hp] at hinside; exact absurd rfl hinside

/-! ## Conservation -/

/-- What a task holds, as a number of permits. -/
def Slot.held (task : Slot) : Nat := task.holds.toNat

/-- A turn of a task moves permits and counts between it and the gate. -/
structure Balanced (gate : Gate) (task : Slot) (r : Gate × Slot) : Prop where
  slots : r.1.slots = gate.slots
  permits : r.1.permits + r.2.held = gate.permits + task.held
  active : r.1.active - r.2.held = gate.active - task.held
  sound : r.2.Sound

theorem giveBack_balanced {exit : Exit} (hsound : task.Sound) (hfrom : task.point.inside = true) :
    Balanced gate task (giveBack stop gate task exit) := by
  have hholds : task.holds = true := by
    unfold Slot.holds
    rw [hfrom, Bool.true_or]
  have hcounted : task.counted = true := hsound.counted.trans hholds
  have hafter : (giveBack stop gate task exit).2.holds = false := by
    unfold giveBack Slot.holds Slot.lost
    cases exit with
    | returned => simp [afterProcess, loopHead_inside]
    | raised _ | cancelled => rfl
  refine ⟨rfl, ?_, ?_, ⟨hafter.symm, fun _ => rfl⟩⟩
  · show gate.permits + 1 + (giveBack stop gate task exit).2.holds.toNat =
      gate.permits + task.holds.toNat
    rw [hafter, hholds]
    rfl
  · show (if task.counted then gate.active - 1 else gate.active) -
      ((giveBack stop gate task exit).2.holds.toNat : Int) = gate.active - (task.holds.toNat : Int)
    rw [hafter, hholds, if_pos hcounted]
    simp

theorem finallyBlock_balanced {exit : Exit} (hsound : task.Sound)
    (hfrom : task.point.inside = true) :
    Balanced gate task (finallyBlock stop gate task exit) := by
  have hholds : task.holds = true := by
    unfold Slot.holds
    rw [hfrom, Bool.true_or]
  -- a task that goes on holding its permit keeps its local variables
  have hkeep : ∀ point : Point, Slot.holds { task with point := point } = true →
      Balanced gate task (gate, { task with point := point }) := by
    intro point hafter
    have hheld : Slot.held { task with point := point } = task.held := by
      unfold Slot.held
      rw [hafter, hholds]
    refine ⟨rfl, by rw [hheld], by rw [hheld], ⟨?_, fun hnot => ?_⟩⟩
    · exact (hsound.counted.trans hholds).trans hafter.symm
    · rw [hafter] at hnot
      cases hnot
  unfold finallyBlock
  split
  · exact hkeep (.join exit) rfl
  · next error hbroken =>
      refine hkeep (.ended (.raised error)) ?_
      unfold Slot.holds Slot.lost
      rw [hbroken]
      rfl
  · exact giveBack_balanced hsound hfrom

theorem Turn.balanced (h : Turn stop gate task reply r) (hsound : task.Sound) :
    Balanced gate task r := by
  cases h with
  | outside hfrom hended hto =>
    rename_i point _
    have hnot : task.holds = false := by
      unfold Slot.holds Slot.lost
      rw [hfrom, Bool.false_or]
      split
      · next hpoint _ => exact absurd hpoint (hended _)
      · rfl
    have hnone := hsound.heartbeat hnot
    have hafter : Slot.holds { task with point := point } = false := by
      unfold Slot.holds Slot.lost
      rw [hnone, hto]
      simp
    refine ⟨rfl, ?_, ?_, ⟨?_, fun _ => hnone⟩⟩
    · simp only [Slot.held, hafter, hnot]
    · simp only [Slot.held, hafter, hnot]
    · rw [hafter, ← hnot]
      exact hsound.counted
  | enter item hfrom hpermit hto =>
    rename_i point maxActive _
    have hnot : task.holds = false := by
      unfold Slot.holds Slot.lost
      rw [hfrom]
      rfl
    have hafter : Slot.holds { task with counted := true, point := point } = true := by
      unfold Slot.holds
      rw [hto, Bool.true_or]
    refine ⟨rfl, ?_, ?_, ⟨hafter.symm, fun h => ?_⟩⟩
    · simp only [Slot.held, hafter, hnot]
      simp
      omega
    · simp only [Slot.held, hafter, hnot]
      simp
    · rw [hafter] at h
      cases h
  | within hfrom hto =>
    rename_i point heartbeat _ _
    have hholds : task.holds = true := by
      unfold Slot.holds
      rw [hfrom, Bool.true_or]
    have hafter : Slot.holds { task with point := point, heartbeat := heartbeat } = true := by
      unfold Slot.holds
      rw [hto, Bool.true_or]
    refine ⟨rfl, ?_, ?_, ⟨?_, fun h => ?_⟩⟩
    · simp only [Slot.held, hafter, hholds]
    · simp only [Slot.held, hafter, hholds]
    · exact (hsound.counted.trans hholds).trans hafter.symm
    · rw [hafter] at h
      cases h
  | leave exit hfrom => exact finallyBlock_balanced hsound hfrom
  | joined pending hfrom => exact giveBack_balanced hsound (by rw [hfrom]; rfl)

/-- A change of one task changes a count by what it changes of that task. -/
theorem countP_set_held (p : Slot → Bool) (after : Slot) {tasks : List Slot} {i : Nat}
    {task : Slot} (htask : tasks[i]? = some task) :
    (tasks.set i after).countP p + (p task).toNat = tasks.countP p + (p after).toNat := by
  obtain ⟨hi, rfl⟩ := List.getElem?_eq_some_iff.mp htask
  rw [List.countP_set hi]
  have hle : (p tasks[i]).toNat ≤ tasks.countP p := by
    cases hp : p tasks[i] with
    | false => exact Nat.zero_le _
    | true => exact List.countP_pos_iff.mpr ⟨_, List.getElem_mem hi, hp⟩
  have hif : ∀ b : Bool, (if b = true then 1 else 0) = b.toNat := by
    intro b
    cases b <;> rfl
  rw [hif, hif]
  omega

/-- Permits and counts are where they belong: with the gate, or with a task that holds them. -/
structure Conserved (slots : Nat) (d : Dispatcher) : Prop where
  gate : d.gate.slots = slots
  permits : d.gate.permits + d.tasks.countP Slot.holds = slots
  active : d.gate.active = d.tasks.countP Slot.holds
  sound : ∀ task ∈ d.tasks, task.Sound

theorem conserved_start (slots tasks : Nat) : Conserved slots (Dispatcher.start slots tasks) := by
  have hnone : (List.replicate tasks ({} : Slot)).countP Slot.holds = 0 := by
    rw [List.countP_eq_zero]
    intro task htask
    rw [List.eq_of_mem_replicate htask]
    exact Bool.false_ne_true
  refine ⟨rfl, ?_, ?_, ?_⟩
  · show slots + (List.replicate tasks ({} : Slot)).countP Slot.holds = slots
    rw [hnone]
    rfl
  · show (0 : Int) = ((List.replicate tasks ({} : Slot)).countP Slot.holds : Nat)
    rw [hnone]
    rfl
  · intro task htask
    rw [List.eq_of_mem_replicate htask]
    exact ⟨rfl, fun _ => rfl⟩

theorem mem_tasks {tasks : List Slot} {i : Nat} {after other : Slot}
    (h : other ∈ tasks.set i after) : other ∈ tasks ∨ other = after :=
  List.mem_or_eq_of_mem_set h

theorem Conserved.step {slots : Nat} {d after : Dispatcher} (h : Conserved slots d)
    (hstep : Step d after) : Conserved slots after := by
  obtain ⟨event, hhappens⟩ := hstep
  cases hhappens with
  | stop => exact ⟨h.gate, h.permits, h.active, h.sound⟩
  | answer htask _ hturn =>
    rename_i i task after _ _ gate _
    have hbalanced := (resume_turn hturn).balanced (h.sound task (List.mem_of_getElem? htask))
    have hcount := countP_set_held Slot.holds after htask
    have hpermits := hbalanced.permits
    have hactive := hbalanced.active
    have hbefore := h.permits
    have hbeforeActive := h.active
    simp only [Slot.held] at hpermits hactive
    refine ⟨hbalanced.slots.trans h.gate, ?_, ?_, ?_⟩
    · show gate.permits + (d.tasks.set i after).countP Slot.holds = slots
      omega
    · show gate.active = ((d.tasks.set i after).countP Slot.holds : Nat)
      omega
    · intro other hother
      rcases mem_tasks hother with hold | hnew
      · exact h.sound other hold
      · rw [hnew]
        exact hbalanced.sound
  | beat htask hbeating hrunning _ =>
    rename_i i task _ heartbeat _
    have hsound := h.sound task (List.mem_of_getElem? htask)
    -- a heartbeat task belongs to a process that runs
    have hholds : task.holds = true := by
      by_contra hnot
      have hnone := hsound.heartbeat (Bool.eq_false_of_not_eq_true hnot)
      rw [hbeating] at hnone
      cases hnone
    have hinside : task.point.inside = true := by
      unfold Slot.holds Slot.lost at hholds
      rw [hbeating] at hholds
      simpa using hholds
    have hafter : Slot.holds { task with heartbeat := some heartbeat } = true := by
      unfold Slot.holds
      rw [hinside, Bool.true_or]
    have hcount := countP_set_held Slot.holds { task with heartbeat := some heartbeat } htask
    rw [hholds, hafter] at hcount
    have hbefore := h.permits
    have hbeforeActive := h.active
    refine ⟨h.gate, ?_, ?_, ?_⟩
    · show d.gate.permits + (d.tasks.set i _).countP Slot.holds = slots
      omega
    · show d.gate.active = ((d.tasks.set i _).countP Slot.holds : Nat)
      omega
    · intro other hother
      rcases mem_tasks hother with hold | hnew
      · exact h.sound other hold
      · rw [hnew]
        refine ⟨(hsound.counted.trans hholds).trans hafter.symm, fun hnot => ?_⟩
        rw [hafter] at hnot
        cases hnot

theorem holds_eq (tasks : List Slot) : tasks.countP Slot.holds =
    tasks.countP (·.point.inside) + tasks.countP Slot.lost := by
  induction tasks with
  | nil => rfl
  | cons task rest ih =>
    rw [List.countP_cons, List.countP_cons, List.countP_cons, ih]
    have hone : (if task.holds then 1 else 0) =
        (if task.point.inside then 1 else 0) + (if task.lost then 1 else 0) := by
      unfold Slot.holds
      cases hinside : task.point.inside with
      | true =>
        rw [inside_not_lost hinside]
        rfl
      | false => simp
    omega

/-! ## Runs without a lost slot -/

/-- An answer that takes no exception out of `run_slot` before `stop` is set.  An exception raised
by `release`, or by the `fail` of a rejected item, waits for the heartbeat task if that beats. -/
def HarmlessTurn (stop : Bool) (task : Slot) (reply : Reply) : Prop :=
  stop = true ∨
    match task.point, reply with
    | .claimNext, .raised _ => False
    | .release _, .raised _ | .reject _, .raised _ => task.heartbeat = some .beating
    | .join (.raised _), _ => False
    | _, _ => True

/-- No call of `repository.heartbeat` raises, and no answer takes an exception out of `run_slot`
early. -/
def Harmless (d : Dispatcher) : Event → Prop
  | .answer i _ reply => ∀ task, d.tasks[i]? = some task → HarmlessTurn d.stop task reply
  | .beat _ reply => ∀ error, reply ≠ .raised error
  | .stop => True

def HarmlessStep (d after : Dispatcher) : Prop := ∃ event, Harmless d event ∧ Happens d event after

/-- No heartbeat has raised, and no exception has ended the task before `stop`. -/
structure Slot.Intact (stop : Bool) (task : Slot) : Prop where
  heartbeat : ∀ error, task.heartbeat ≠ some (.raised error)
  alive : stop = false → ∀ error, task.point ≠ .ended (.raised error)

theorem Slot.Intact.not_lost (h : task.Intact stop) : task.lost = false := by
  unfold Slot.lost
  split
  · next hbroken => exact absurd hbroken (h.heartbeat _)
  · rfl

theorem giveBack_intact {exit : Exit}
    (hraised : ∀ error, exit = .raised error → stop = true) :
    (giveBack stop gate task exit).2.Intact stop := by
  refine ⟨fun error h => (by cases h), fun hstop error h => ?_⟩
  have hpoint : afterProcess stop exit = .ended (.raised error) := h
  cases exit with
  | returned => exact loopHead_ne_raised stop error hpoint
  | cancelled => cases hpoint
  | raised other =>
    rw [hraised other rfl] at hstop
    cases hstop

theorem Turn.intact (h : Turn stop gate task reply r) (hintact : task.Intact stop)
    (hharmless : HarmlessTurn stop task reply) : r.2.Intact stop := by
  cases h with
  | outside _ _ _ hraised =>
    refine ⟨hintact.heartbeat, fun hstop error h => ?_⟩
    have hclaim := hraised error h
    unfold HarmlessTurn at hharmless
    rw [hclaim.1, hclaim.2, hstop] at hharmless
    rcases hharmless with hset | hnever
    · cases hset
    · exact hnever
  | enter item _ _ hto =>
    refine ⟨hintact.heartbeat, fun _ error h => ?_⟩
    dsimp only at h
    rw [h] at hto
    cases hto
  | within _ hto _ hbeat =>
    refine ⟨fun error h => ?_, fun _ error h => ?_⟩
    · dsimp only at h
      rw [h] at hbeat
      rcases hbeat with hkept | hbeating
      · exact hintact.heartbeat error hkept.symm
      · cases hbeating
    · dsimp only at h
      rw [h] at hto
      cases hto
  | leave exit _ hraised =>
    unfold finallyBlock
    split
    · exact ⟨hintact.heartbeat, fun _ error h => by cases h⟩
    · next error hbroken => exact absurd hbroken (hintact.heartbeat error)
    · next hbeating _ =>
        apply giveBack_intact
        intro error he
        have hfrom := hraised error he
        unfold HarmlessTurn at hharmless
        rw [hfrom.1] at hharmless
        rcases hharmless with hset | hwaits
        · exact hset
        · rcases hfrom.2 with ⟨item, hp⟩ | ⟨item, hp⟩
          · rw [hp] at hwaits
            exact absurd hwaits hbeating
          · rw [hp] at hwaits
            exact absurd hwaits hbeating
  | joined pending hfrom =>
    apply giveBack_intact
    intro error he
    unfold HarmlessTurn at hharmless
    rw [hfrom, he] at hharmless
    rcases hharmless with hset | hnever
    · exact hset
    · exact hnever.elim

/-- Every task is intact. -/
def Dispatcher.Intact (d : Dispatcher) : Prop := ∀ task ∈ d.tasks, task.Intact d.stop

theorem Dispatcher.Intact.step {d after : Dispatcher} (h : d.Intact)
    (hstep : HarmlessStep d after) : after.Intact := by
  obtain ⟨event, hharmless, hhappens⟩ := hstep
  cases hhappens with
  | stop =>
    intro task htask
    exact ⟨(h task htask).heartbeat, fun hstop => by cases hstop⟩
  | answer htask _ hturn =>
    intro other hother
    rcases mem_tasks hother with hold | hnew
    · exact h other hold
    · rw [hnew]
      exact (resume_turn hturn).intact (h _ (List.mem_of_getElem? htask)) (hharmless _ htask)
  | beat htask _ _ hbeat =>
    rename_i i task reply heartbeat _ _
    intro other hother
    rcases mem_tasks hother with hold | hnew
    · exact h other hold
    · rw [hnew]
      have hbefore := h task (List.mem_of_getElem? htask)
      refine ⟨fun error he => ?_, hbefore.alive⟩
      have hraised : beat reply = some (.raised error) := by
        rw [hbeat]
        exact he
      unfold beat at hraised
      split at hraised
      · cases hraised
      · cases hraised
      · exact hharmless _ rfl
      · cases hraised

theorem Dispatcher.Intact.lost {d : Dispatcher} (h : d.Intact) : d.lost = 0 := by
  unfold Dispatcher.lost
  rw [List.countP_eq_zero]
  intro task htask
  rw [(h task htask).not_lost]
  exact Bool.false_ne_true

theorem Conserved.accounts {slots : Nat} {d : Dispatcher} (h : Conserved slots d) :
    d.gate.permits + d.running + d.lost = slots ∧ d.gate.active = d.running + d.lost := by
  have hpermits := h.permits
  have hactive := h.active
  rw [holds_eq] at hpermits hactive
  unfold Dispatcher.running Dispatcher.lost
  constructor
  · omega
  · omega

/-- Every permit is with the semaphore, with a process that runs, or with a task that the
exception of its heartbeat took out of the `finally` block; and `_active` counts the last two.
While every step is harmless there are no such tasks and `run_slot` goes on until `stop`. -/
theorem slots_conserved (slots tasks : Nat) :
    (∀ d, ReflTransGen Step (Dispatcher.start slots tasks) d →
      d.gate.permits + d.running + d.lost = slots ∧ d.gate.active = d.running + d.lost) ∧
    ∀ d, ReflTransGen HarmlessStep (Dispatcher.start slots tasks) d →
      d.gate.permits + d.running = slots ∧ d.gate.active = d.running ∧
        (d.stop = false → ∀ task ∈ d.tasks, ∀ error, task.point ≠ .ended (.raised error)) := by
  have hconserved : ∀ d, ReflTransGen Step (Dispatcher.start slots tasks) d → Conserved slots d :=
    fun d => invariant_of_run (fun _ _ h hstep => h.step hstep) (conserved_start slots tasks)
  constructor
  · intro d hrun
    exact (hconserved d hrun).accounts
  · intro d hrun
    have hsteps : ReflTransGen Step (Dispatcher.start slots tasks) d :=
      ReflTransGen.mono (fun _ _ ⟨event, _, hhappens⟩ => ⟨event, hhappens⟩) _ _ hrun
    have hstart : (Dispatcher.start slots tasks).Intact := by
      intro task htask
      rw [List.eq_of_mem_replicate htask]
      exact ⟨fun _ h => (by cases h), fun _ _ h => by cases h⟩
    have hintact : d.Intact := invariant_of_run (fun _ _ h hstep => h.step hstep) hstart hrun
    have haccounts := (hconserved d hsteps).accounts
    rw [hintact.lost] at haccounts
    exact ⟨haccounts.1, by simpa using haccounts.2, fun hstop task htask =>
      (hintact task htask).alive hstop⟩

/-- A work item and an outcome to run the dispatcher on. -/
def sampleItem : WorkItem where
  organizationId := ⟨1⟩
  outboxId := ⟨2⟩
  runId := ⟨3⟩
  executorUserId := ⟨4⟩
  taskId := .joiner001v1
  process := .joiner
  category := .joiner
  actionType := "task.execute"
  parameterHash := ⟨0⟩
  authorizationHash := ⟨0⟩
  approvalRequestId := none
  grantId := none
  executionId := none
  approvalSetHash := none
  payloadReference := ""
  payloadHash := ⟨0⟩
  workflowId := ""
  workflowHash := ⟨0⟩
  workerOwnerHash := ⟨0⟩
  fencingToken := 1
  leaseVersion := 1
  attemptCount := 1
  leasedAt := 0
  leaseExpiresAt := 30

def sampleOutcome : TemporalOutcome where
  result :=
    { workflowId := "", runId := ⟨3⟩, taskId := .joiner001v1, status := .finishedUngraded
      terminalReason := "completed", planHash := none, revision := 1, sessionEpoch := 1
      completedStepIds := [], checkpointCount := 1, latestCheckpointHash := none, usage := [] }
  deduplicatedStart := false

/-- One slot takes one item.  The database fails once under its heartbeat, then Temporal answers
and `complete` commits: the permit is gone, nothing runs and `stop` is not set. -/
theorem heartbeat_error_loses_slot : ∃ d, ReflTransGen Step (Dispatcher.start 1 1) d ∧
    d.gate.permits + d.running = 0 ∧ d.gate.active = 1 ∧ d.stop = false ∧
    d.tasks.map Slot.point = [.ended (.raised "database is locked")] := by
  have hclaim : ReflTransGen Step (Dispatcher.start 1 1) _ :=
    ReflTransGen.tail (.single ⟨.answer 0 .start .done, .answer rfl rfl rfl⟩)
      ⟨.answer 0 .claimNext (.item (some sampleItem)), .answer rfl rfl rfl⟩
  have henter := (hclaim.tail ⟨.answer 0 .slotGate .done, .answer rfl rfl rfl⟩).tail
    ⟨.answer 0 (.bindingValid sampleItem) (.flag true), .answer rfl rfl rfl⟩
  have hstarted := henter.tail
    ⟨.answer 0 (.markStarted sampleItem) (.flag true), .answer rfl rfl rfl⟩
  have hbroken := hstarted.tail
    ⟨.beat 0 (.raised "database is locked"), .beat rfl rfl (fun _ h => by cases h) rfl⟩
  have hcompleted := (hbroken.tail
    ⟨.answer 0 (.startAndWait sampleItem) (.outcome sampleOutcome), .answer rfl rfl rfl⟩).tail
    ⟨.answer 0 (.complete sampleItem sampleOutcome) (.flag true), .answer rfl rfl rfl⟩
  exact ⟨_, hcompleted, rfl, rfl, rfl, rfl⟩

theorem harmless_answer {d : Dispatcher} {i : Nat} {call : Call} {reply : Reply} {task : Slot}
    (htask : d.tasks[i]? = some task) (h : HarmlessTurn d.stop task reply) :
    Harmless d (.answer i call reply) := by
  intro other hother
  rw [← Option.some.inj (htask.symm.trans hother)]
  exact h

/-- The same run without the failure. -/
theorem slots_conserved_completed : ∃ d, ReflTransGen HarmlessStep (Dispatcher.start 1 1) d ∧
    d.tasks.map Slot.point = [.claimNext] ∧ d.gate.permits + d.running = 1 ∧
    d.gate.active = d.running := by
  have hclaim : ReflTransGen HarmlessStep (Dispatcher.start 1 1) _ :=
    ReflTransGen.tail
      (.single ⟨.answer 0 .start .done, harmless_answer rfl (.inr trivial), .answer rfl rfl rfl⟩)
      ⟨.answer 0 .claimNext (.item (some sampleItem)), harmless_answer rfl (.inr trivial),
        .answer rfl rfl rfl⟩
  have henter := (hclaim.tail ⟨.answer 0 .slotGate .done, harmless_answer rfl (.inr trivial),
    .answer rfl rfl rfl⟩).tail ⟨.answer 0 (.bindingValid sampleItem) (.flag true),
      harmless_answer rfl (.inr trivial), .answer rfl rfl rfl⟩
  have hbeating := (henter.tail ⟨.answer 0 (.markStarted sampleItem) (.flag true),
    harmless_answer rfl (.inr trivial), .answer rfl rfl rfl⟩).tail ⟨.beat 0 (.flag true),
      fun _ h => (by cases h), .beat rfl rfl (fun _ h => by cases h) rfl⟩
  have hcompleted := (hbeating.tail
    ⟨.answer 0 (.startAndWait sampleItem) (.outcome sampleOutcome),
      harmless_answer rfl (.inr trivial), .answer rfl rfl rfl⟩).tail
    ⟨.answer 0 (.complete sampleItem sampleOutcome) (.flag true),
      harmless_answer rfl (.inr trivial), .answer rfl rfl rfl⟩
  have hjoined := hcompleted.tail ⟨.answer 0 .heartbeatTask .cancelled,
    harmless_answer rfl (.inr trivial), .answer rfl rfl rfl⟩
  have hconserved := (slots_conserved 1 1).2 _ hjoined
  exact ⟨_, hjoined, rfl, hconserved.1, hconserved.2.1⟩

end FlowPilot.Worker
