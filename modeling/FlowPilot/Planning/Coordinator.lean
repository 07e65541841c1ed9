import FlowPilot.Lib.FairLock
import FlowPilot.Lib.Table
import Mathlib.Data.List.AList

/-!
# The recovery coordinator

`RecoveryCoordinator` of the planning agent: run states behind gates that are created, counted and
discarded under a registry lock.  Tasks switch only where they suspend.  No section under the
registry lock suspends, so that lock is free whenever a task runs, and a section is one step; the
steps of a command between two suspensions are one step of the model or more.
-/

open FlowPilot.Lib

namespace FlowPilot.Planning

inductive Command where
  | start | step | refresh | recover | replan | cleanup
  deriving DecidableEq, Repr

/-- The part of a `PlanningRecoveryActivity` that the registry reads. -/
structure ActivityRequest where
  command : Command
  workflowId : String
  runId : String
  taskId : String
  deriving DecidableEq, Repr

def ActivityRequest.identity (r : ActivityRequest) : String × String × String :=
  (r.workflowId, r.runId, r.taskId)

structure RecoveryRunState where
  requestIdentity : String × String × String
  deriving DecidableEq, Repr

abbrev GateId := Nat

/-- A task that waits for a gate: a call of `invoke` or of `close_all`. -/
inductive TaskId where
  | invocation (id : Nat)
  | closer (id : Nat)
  deriving DecidableEq, Repr

/-- `_RunGate`. -/
structure RunGate where
  lock : FairLock TaskId := {}
  users : Nat := 0

/-- Where a call of `invoke` is: it waits for its gate, executes its command, has given the gate
back but is still counted among its users, or has returned. -/
inductive Phase where
  | waiting | begun | creating | cleaning | working | leaving | gone
  deriving DecidableEq, Repr

def Phase.executing : Phase → Bool
  | .begun | .creating | .cleaning | .working => true
  | .waiting | .leaving | .gone => false

def Phase.active : Phase → Bool
  | .waiting => true
  | p => p.executing

def Phase.registered : Phase → Bool
  | .gone => false
  | _ => true

structure Invocation where
  id : Nat
  request : ActivityRequest
  gate : GateId
  phase : Phase

namespace Invocation

def runId (i : Invocation) : String := i.request.runId
def executing (i : Invocation) : Bool := i.phase.executing
def active (i : Invocation) : Bool := i.phase.active
def registered (i : Invocation) : Bool := i.phase.registered

end Invocation

inductive CloseStage where
  | acquiring | cleared | returned
  deriving DecidableEq, Repr

/-- A call of `close_all`: the gates it holds, those it has yet to acquire, and whether it waits
for the first of them. -/
structure Closer where
  id : Nat
  held : List GateId
  todo : List GateId
  asked : Bool
  stage : CloseStage

instance : Keyed Invocation Nat := ⟨Invocation.id⟩
instance : Keyed Closer Nat := ⟨Closer.id⟩

/-- `RecoveryCoordinator`, with the calls that are under way. -/
structure Coordinator where
  runs : AList fun _ : String => RecoveryRunState
  runGates : AList fun _ : String => GateId
  gates : GateId → RunGate
  /-- The number of gates made so far. -/
  allocated : GateId
  closing : Bool
  invocations : Table Invocation
  closers : Table Closer

namespace Coordinator

def initial : Coordinator where
  runs := ∅
  runGates := ∅
  gates := fun _ => {}
  allocated := 0
  closing := false
  invocations := .empty
  closers := .empty

def setGate (c : Coordinator) (g : GateId) (gate : RunGate) : Coordinator :=
  { c with gates := Function.update c.gates g gate }

/-- `_acquire_run_gate`; `none` is the `ValueError` of a closing coordinator. -/
def acquireRunGate (c : Coordinator) (runId : String) : Option (GateId × Coordinator) :=
  if c.closing then none
  else
    match c.runGates.lookup runId with
    | some g => some (g, c.setGate g { c.gates g with users := (c.gates g).users + 1 })
    | none =>
      let g := c.allocated
      some (g,
        { c.setGate g { c.gates g with users := (c.gates g).users + 1 } with
          runGates := c.runGates.insert runId g
          allocated := c.allocated + 1 })

/-- `_release_run_gate`. -/
def releaseRunGate (c : Coordinator) (runId : String) (g : GateId) : Coordinator :=
  let users := (c.gates g).users - 1
  let d := c.setGate g { c.gates g with users := users }
  if users = 0 ∧ runId ∉ c.runs ∧ c.runGates.lookup runId = some g then
    { d with runGates := c.runGates.erase runId }
  else d

/-- `_require_state`. -/
def requireState (c : Coordinator) (request : ActivityRequest) : Option RecoveryRunState :=
  (c.runs.lookup request.runId).filter fun state => state.requestIdentity = request.identity

def setPhase (c : Coordinator) (id : Nat) (phase : Phase) : Coordinator :=
  { c with invocations := c.invocations.update (fun i => i.id = id) fun i => { i with phase := phase } }

def setCloser (c : Coordinator) (k : Closer) : Coordinator :=
  { c with closers := c.closers.update (fun l => l.id = k.id) fun l => { k with id := l.id } }

/-- A new call of `invoke` asks for the gate's lock without suspending in between. -/
def enter (c : Coordinator) (id : Nat) (request : ActivityRequest) (g : GateId)
    (hfresh : c.invocations.get? id = none) : Coordinator :=
  let lock := (c.gates g).lock.request (.invocation id)
  let phase : Phase := if lock.holder = some (.invocation id) then .begun else .waiting
  { c.setGate g { c.gates g with lock := lock } with
    invocations := c.invocations.insert ⟨id, request, g, phase⟩ hfresh }

/-- The command returns or raises, and `async with gate.lock` ends. -/
def finish (c : Coordinator) (i : Invocation) : Coordinator :=
  (c.setGate i.gate { c.gates i.gate with lock := (c.gates i.gate).lock.release }).setPhase i.id
    .leaving

/-- The command up to its first suspension: `none` when it returns or raises before one. -/
def beginCommand (c : Coordinator) (request : ActivityRequest) : Option Phase :=
  match request.command with
  | .start => if request.runId ∈ c.runs then none else some .creating
  | .cleanup => (c.requireState request).map fun _ => .cleaning
  | .step | .refresh | .recover | .replan => (c.requireState request).map fun _ => .working

/-- `_start` after the browser session exists. -/
def storeRun (c : Coordinator) (request : ActivityRequest) : Coordinator :=
  { c with runs := c.runs.insert request.runId ⟨request.identity⟩ }

/-- `_cleanup` after the browser session is closed. -/
def deleteRun (c : Coordinator) (request : ActivityRequest) : Coordinator :=
  { c with runs := c.runs.erase request.runId }

/-- `close_all` up to its first gate. -/
def startClosing (c : Coordinator) (id : Nat) (hfresh : c.closers.get? id = none) : Coordinator :=
  { c with
    closing := true
    closers := c.closers.insert
      ⟨id, [], c.runGates.entries.reverse.map Sigma.snd, false, .acquiring⟩ hfresh }

/-- `close_all` asks for its next gate, and goes on at once when it gets it. -/
def askGate (c : Coordinator) (k : Closer) (g : GateId) (rest : List GateId) : Coordinator :=
  let lock := (c.gates g).lock.request (.closer k.id)
  let d := c.setGate g { c.gates g with lock := lock }
  if lock.holder = some (.closer k.id) then
    d.setCloser { k with held := k.held ++ [g], todo := rest }
  else d.setCloser { k with asked := true }

/-- `close_all` clears the runs and releases the gates it holds. -/
def clearRuns (c : Coordinator) (k : Closer) : Coordinator :=
  { c.setCloser { k with stage := .cleared } with
    runs := ∅
    gates := fun g =>
      if g ∈ k.held then { c.gates g with lock := (c.gates g).lock.release } else c.gates g }

def clearGates (c : Coordinator) (k : Closer) : Coordinator :=
  { c.setCloser { k with stage := .returned } with runGates := ∅ }

/-- The waiting task that is next at gate `g` takes its lock. -/
def wakeGate (c : Coordinator) (g : GateId) : Coordinator :=
  c.setGate g { c.gates g with lock := (c.gates g).lock.wake }

/-- One step of one task. -/
inductive Step : Coordinator → Coordinator → Prop where
  | rejected {c : Coordinator} {request : ActivityRequest}
      (h : c.acquireRunGate request.runId = none) : Step c c
  | enter {c d : Coordinator} {id : Nat} {request : ActivityRequest} {g : GateId}
      (h : c.acquireRunGate request.runId = some (g, d))
      (hfresh : d.invocations.get? id = none) : Step c (d.enter id request g hfresh)
  | wake {c : Coordinator} {i : Invocation} (hi : i ∈ c.invocations.rows)
      (hphase : i.phase = .waiting) (hnext : (c.gates i.gate).lock.Next (.invocation i.id)) :
      Step c ((c.wakeGate i.gate).setPhase i.id .begun)
  | cancelled {c : Coordinator} {i : Invocation} (hi : i ∈ c.invocations.rows)
      (hphase : i.phase = .waiting) :
      Step c ((c.setGate i.gate { c.gates i.gate with
        lock := (c.gates i.gate).lock.abandon (.invocation i.id) }).setPhase i.id .leaving)
  | advance {c : Coordinator} {i : Invocation} {phase : Phase} (hi : i ∈ c.invocations.rows)
      (hphase : i.phase = .begun) (h : c.beginCommand i.request = some phase) :
      Step c (c.setPhase i.id phase)
  | answer {c : Coordinator} {i : Invocation} (hi : i ∈ c.invocations.rows)
      (hphase : i.phase = .begun) (h : c.beginCommand i.request = none) : Step c (c.finish i)
  | stored {c : Coordinator} {i : Invocation} (hi : i ∈ c.invocations.rows)
      (hphase : i.phase = .creating) : Step c ((c.storeRun i.request).finish i)
  | deleted {c : Coordinator} {i : Invocation} (hi : i ∈ c.invocations.rows)
      (hphase : i.phase = .cleaning) : Step c ((c.deleteRun i.request).finish i)
  /-- Also the failure of any command that has suspended. -/
  | worked {c : Coordinator} {i : Invocation} (hi : i ∈ c.invocations.rows)
      (hphase : i.executing = true) : Step c (c.finish i)
  | leave {c : Coordinator} {i : Invocation} (hi : i ∈ c.invocations.rows)
      (hphase : i.phase = .leaving) :
      Step c ((c.releaseRunGate i.runId i.gate).setPhase i.id .gone)
  | closeAll {c : Coordinator} {id : Nat} (hfresh : c.closers.get? id = none) :
      Step c (c.startClosing id hfresh)
  | ask {c : Coordinator} {k : Closer} {g : GateId} {rest : List GateId}
      (hk : k ∈ c.closers.rows) (hstage : k.stage = .acquiring) (htodo : k.todo = g :: rest)
      (hasked : k.asked = false) : Step c (c.askGate k g rest)
  | granted {c : Coordinator} {k : Closer} {g : GateId} {rest : List GateId}
      (hk : k ∈ c.closers.rows) (hstage : k.stage = .acquiring) (htodo : k.todo = g :: rest)
      (hasked : k.asked = true) (hnext : (c.gates g).lock.Next (.closer k.id)) :
      Step c ((c.wakeGate g).setCloser
        { k with held := k.held ++ [g], todo := rest, asked := false })
  | clear {c : Coordinator} {k : Closer} (hk : k ∈ c.closers.rows)
      (hstage : k.stage = .acquiring) (htodo : k.todo = []) : Step c (c.clearRuns k)
  | clearGates {c : Coordinator} {k : Closer} (hk : k ∈ c.closers.rows)
      (hstage : k.stage = .cleared) : Step c (c.clearGates k)

end Coordinator

end FlowPilot.Planning
