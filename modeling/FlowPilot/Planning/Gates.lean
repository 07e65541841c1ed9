import FlowPilot.Planning.Coordinator

/-!
# The calls of a gate

What holds between the calls, the gates and the runs of the coordinator, and that every step of
a call of `invoke` keeps it.
-/

open FlowPilot.Lib

namespace FlowPilot.Planning

def TaskId.late : TaskId → Prop
  | .closer _ => True
  | .invocation _ => False

namespace Coordinator

def lock (c : Coordinator) (g : GateId) : FairLock TaskId := (c.gates g).lock

/-- Some `close_all` has forgotten the gates. -/
def Over (c : Coordinator) : Prop := ∃ k ∈ c.closers.rows, k.stage = .returned

def registeredAt (g : GateId) (i : Invocation) : Bool := i.registered && decide (i.gate = g)

/-- What holds between the calls, the gates and the runs. -/
structure Serial (c : Coordinator) : Prop where
  users : ∀ g, (c.gates g).users = c.invocations.count (registeredAt g)
  executing : ∀ i ∈ c.invocations.rows, i.executing = true →
    (c.lock i.gate).holder = some (.invocation i.id)
  waiting : ∀ i ∈ c.invocations.rows, i.phase = .waiting →
    .invocation i.id ∈ (c.lock i.gate).queue
  registered : ∀ i ∈ c.invocations.rows, i.registered = true →
    c.runGates.lookup i.runId = some i.gate ∨ c.Over
  sameGate : ∀ i ∈ c.invocations.rows, ∀ j ∈ c.invocations.rows, i.registered = true →
    j.registered = true → i.runId = j.runId → i.gate = j.gate
  live : ∀ r ∈ c.runs, r ∈ c.runGates
  order : ∀ g, FairLock.Last TaskId.late (c.lock g)
  closing : c.closing = false → ∀ k, k ∉ c.closers.rows
  early : c.closing = false → ∀ g t, (c.lock g).Involves t → ¬ t.late
  held : ∀ k ∈ c.closers.rows, k.stage = .acquiring → ∀ g ∈ k.held,
    (c.lock g).holder = some (.closer k.id)
  covers : ∀ k ∈ c.closers.rows, k.stage = .acquiring → ∀ i ∈ c.invocations.rows,
    i.active = true → i.gate ∈ k.held ∨ i.gate ∈ k.todo
  cleared : ∀ k ∈ c.closers.rows, k.stage ≠ .acquiring →
    c.runs = ∅ ∧ ∀ i ∈ c.invocations.rows, i.active = false

theorem serial_initial : initial.Serial where
  users := fun _ => rfl
  executing := fun _ h => by cases h
  waiting := fun _ h => by cases h
  registered := fun _ h => by cases h
  sameGate := fun _ h => by cases h
  live := fun _ h => by cases h
  order := fun _ => FairLock.last_free
  closing := fun _ _ h => by cases h
  early := fun _ _ _ h => by
    rcases h with h | h
    · cases h
    · cases h
  held := fun _ h => by cases h
  covers := fun _ h => by cases h
  cleared := fun _ h => by cases h

/-! ## Steps of one call of `invoke` -/

theorem active_of_executing {i : Invocation} (h : i.executing = true) : i.active = true := by
  unfold Invocation.executing at h
  unfold Invocation.active
  cases hp : i.phase with
  | waiting => rfl
  | begun | creating | cleaning | working => rfl
  | leaving => rw [hp] at h; cases h
  | gone => rw [hp] at h; cases h

theorem registered_of_active {i : Invocation} (h : i.active = true) : i.registered = true := by
  unfold Invocation.active at h
  unfold Invocation.registered
  cases hp : i.phase with
  | waiting => rfl
  | begun | creating | cleaning | working | leaving => rfl
  | gone => rw [hp] at h; cases h

/-- Call `i` goes on to `phase`; nothing else changes than the lock it holds or waits for and,
while it executes, the state of its own run. -/
structure Move (c d : Coordinator) (i : Invocation) (phase : Phase) : Prop where
  mem : i ∈ c.invocations.rows
  rows : d.invocations = (c.setPhase i.id phase).invocations
  users : ∀ g, (d.gates g).users = (c.gates g).users
  runGates : d.runGates = c.runGates
  closing : d.closing = c.closing
  closers : d.closers = c.closers
  counted : i.registered = true ∧ phase.registered = true
  active : phase.active = true → i.active = true
  executing : phase.executing = true → (d.lock i.gate).holder = some (.invocation i.id)
  entered : phase ≠ .waiting
  holder : ∀ g t, t ≠ .invocation i.id → (c.lock g).holder = some t →
    (d.lock g).holder = some t
  queue : ∀ g t, t ≠ .invocation i.id → t ∈ (c.lock g).queue → t ∈ (d.lock g).queue
  involves : ∀ g t, (d.lock g).Involves t → (c.lock g).Involves t
  order : ∀ g, FairLock.Last TaskId.late (d.lock g)
  runs : d.runs = c.runs ∨ i.executing = true ∧ ∀ r ∈ d.runs, r ∈ c.runs ∨ r = i.runId

section

variable {c d : Coordinator} {i : Invocation} {phase : Phase}

theorem mem_setPhase {id : Nat} {j : Invocation}
    (h : j ∈ (c.setPhase id phase).invocations.rows) :
    ∃ j' ∈ c.invocations.rows, j = if j'.id = id then { j' with phase := phase } else j' := by
  obtain ⟨j', hj', rfl⟩ := List.mem_map.mp h
  refine ⟨j', hj', ?_⟩
  simp only [decide_eq_true_eq]

theorem Move.over (h : Move c d i phase) : d.Over ↔ c.Over := by
  unfold Over
  rw [h.closers]

/-- A call after the step is the one that moved, or was there before it. -/
theorem Move.mem_rows (h : Move c d i phase) {j : Invocation} (hj : j ∈ d.invocations.rows) :
    j = { i with phase := phase } ∨ j ∈ c.invocations.rows ∧ j.id ≠ i.id := by
  rw [h.rows] at hj
  obtain ⟨j', hj', hrow⟩ := mem_setPhase hj
  by_cases hid : j'.id = i.id
  · have hsame : j' = i := Table.eq_of_key hj' h.mem hid
    rw [hsame] at hrow
    rw [if_pos rfl] at hrow
    exact .inl hrow
  · rw [if_neg hid] at hrow
    exact .inr ⟨hrow ▸ hj', hrow ▸ hid⟩

/-- Whoever is registered or active after the step has a call before it that is, at the same gate
and for the same run. -/
theorem Move.before (h : Move c d i phase) {j : Invocation} (hj : j ∈ d.invocations.rows) :
    ∃ j' ∈ c.invocations.rows, j'.gate = j.gate ∧ j'.runId = j.runId ∧
      (j.registered = true → j'.registered = true) ∧ (j.active = true → j'.active = true) := by
  rcases h.mem_rows hj with rfl | ⟨hold, -⟩
  · exact ⟨i, h.mem, rfl, rfl, fun _ => h.counted.1, h.active⟩
  · exact ⟨j, hold, rfl, rfl, id, id⟩

theorem Move.count (h : Move c d i phase) (g : GateId) :
    d.invocations.count (registeredAt g) = c.invocations.count (registeredAt g) := by
  have hcount := Table.count_update_at (f := fun j : Invocation => { j with phase := phase })
    (p := fun j => j.id = i.id) (fun _ => rfl) h.mem
    (fun j hj hid => Table.eq_of_key hj h.mem (of_decide_eq_true hid)) (registeredAt g)
  have hsame : registeredAt g { i with phase := phase } = registeredAt g i := by
    unfold registeredAt
    have hnew : Invocation.registered { i with phase := phase } = true := h.counted.2
    rw [hnew, h.counted.1]
  rw [h.rows]
  simp only [decide_true, if_true, hsame] at hcount
  have heq := Nat.add_right_cancel hcount
  exact heq

theorem Serial.move (hc : c.Serial) (h : Move c d i phase) : d.Serial where
  users g := by rw [h.users, h.count, hc.users]
  executing j hj hexec := by
    rcases h.mem_rows hj with rfl | ⟨hold, hne⟩
    · exact h.executing hexec
    · refine h.holder _ _ ?_ (hc.executing j hold hexec)
      intro heq
      exact hne (TaskId.invocation.inj heq)
  waiting j hj hwait := by
    rcases h.mem_rows hj with rfl | ⟨hold, hne⟩
    · exact absurd hwait h.entered
    · refine h.queue _ _ ?_ (hc.waiting j hold hwait)
      intro heq
      exact hne (TaskId.invocation.inj heq)
  registered j hj hreg := by
    obtain ⟨j', hj', hgate, hrun, hkeep, -⟩ := h.before hj
    rw [h.runGates, h.over, ← hgate, ← hrun]
    exact hc.registered j' hj' (hkeep hreg)
  sameGate j hj k hk hjreg hkreg hrun := by
    obtain ⟨j', hj', hjgate, hjrun, hjkeep, -⟩ := h.before hj
    obtain ⟨k', hk', hkgate, hkrun, hkkeep, -⟩ := h.before hk
    rw [← hjgate, ← hkgate]
    exact hc.sameGate j' hj' k' hk' (hjkeep hjreg) (hkkeep hkreg)
      (hjrun.trans (hrun.trans hkrun.symm))
  live r hr := by
    rw [h.runGates]
    rcases h.runs with hsame | ⟨hexec, hnew⟩
    · rw [hsame] at hr
      exact hc.live r hr
    · rcases hnew r hr with hold | rfl
      · exact hc.live r hold
      · -- the run of an executing call: its gate is registered, since no `close_all` is past it
        have hactive := active_of_executing hexec
        rcases hc.registered i h.mem (registered_of_active hactive) with hgate | ⟨k, hk, hstage⟩
        · exact AList.lookup_isSome.mp (by rw [hgate]; rfl)
        · have hidle := (hc.cleared k hk (by rw [hstage]; decide)).2 i h.mem
          rw [hactive] at hidle
          cases hidle
  order := h.order
  closing hclosing k := by
    rw [h.closing] at hclosing
    rw [h.closers]
    exact hc.closing hclosing k
  early hclosing g t ht := by
    rw [h.closing] at hclosing
    exact hc.early hclosing g t (h.involves g t ht)
  held k hk hstage g hg := by
    rw [h.closers] at hk
    exact h.holder g _ (fun heq => by cases heq) (hc.held k hk hstage g hg)
  covers k hk hstage j hj hactive := by
    rw [h.closers] at hk
    obtain ⟨j', hj', hgate, -, -, hkeep⟩ := h.before hj
    rw [← hgate]
    exact hc.covers k hk hstage j' hj' (hkeep hactive)
  cleared k hk hstage := by
    rw [h.closers] at hk
    obtain ⟨hruns, hidle⟩ := hc.cleared k hk hstage
    constructor
    · rcases h.runs with hsame | ⟨hexec, -⟩
      · rw [hsame]
        exact hruns
      · have hnot := hidle i h.mem
        rw [active_of_executing hexec] at hnot
        cases hnot
    · intro j hj
      obtain ⟨j', hj', -, -, -, hkeep⟩ := h.before hj
      cases hactive : j.active with
      | false => rfl
      | true =>
          have hnot := hidle j' hj'
          rw [hkeep hactive] at hnot
          cases hnot

end

@[simp] theorem setPhase_lock (c : Coordinator) (id : Nat) (phase : Phase) (g : GateId) :
    (c.setPhase id phase).lock g = c.lock g := rfl

theorem lock_setGate (c : Coordinator) (g h : GateId) (gate : RunGate) :
    (c.setGate g gate).lock h = if h = g then gate.lock else c.lock h := by
  unfold lock setGate
  dsimp only
  by_cases hg : h = g
  · subst hg
    rw [if_pos rfl, Function.update_self]
  · rw [if_neg hg, Function.update_of_ne hg]

theorem users_setGate (c : Coordinator) (g h : GateId) (gate : RunGate) :
    ((c.setGate g gate).gates h).users = if h = g then gate.users else (c.gates h).users := by
  unfold setGate
  dsimp only
  by_cases hg : h = g
  · subst hg
    rw [if_pos rfl, Function.update_self]
  · rw [if_neg hg, Function.update_of_ne hg]

/-- A move that replaces the lock of the call's gate by `l` and leaves the runs alone, or not. -/
theorem Serial.move_lock {c : Coordinator} {i : Invocation} (c' : Coordinator)
    (l : FairLock TaskId) (phase : Phase) (hc : c.Serial) (hi : i ∈ c.invocations.rows)
    (hsame : c' = { c with runs := c'.runs })
    (hcounted : i.registered = true ∧ phase.registered = true)
    (hactive : phase.active = true → i.active = true)
    (hexecuting : phase.executing = true → l.holder = some (.invocation i.id))
    (hentered : phase ≠ .waiting)
    (hholder : ∀ t, t ≠ .invocation i.id → (c.lock i.gate).holder = some t → l.holder = some t)
    (hqueue : ∀ t, t ≠ .invocation i.id → t ∈ (c.lock i.gate).queue → t ∈ l.queue)
    (hinvolves : ∀ t, l.Involves t → (c.lock i.gate).Involves t)
    (horder : FairLock.Last TaskId.late l)
    (hruns : c'.runs = c.runs ∨
      i.executing = true ∧ ∀ r ∈ c'.runs, r ∈ c.runs ∨ r = i.runId) :
    ((c'.setGate i.gate { c'.gates i.gate with lock := l }).setPhase i.id phase).Serial := by
  have hlock : ∀ g, ((c'.setGate i.gate { c'.gates i.gate with lock := l }).setPhase i.id
      phase).lock g = if g = i.gate then l else c.lock g := by
    intro g
    rw [setPhase_lock, lock_setGate, hsame]
    rfl
  refine hc.move (?_ : Move c _ i phase)
  exact
    { mem := hi
      rows := by rw [hsame]; rfl
      users := by
        intro g
        show ((c'.setGate i.gate _).gates g).users = _
        rw [users_setGate, hsame]
        by_cases hg : g = i.gate
        · rw [if_pos hg, hg]
        · rw [if_neg hg]
      runGates := by rw [hsame]; rfl
      closing := by rw [hsame]; rfl
      closers := by rw [hsame]; rfl
      counted := hcounted
      active := hactive
      executing := by
        intro hexec
        rw [hlock, if_pos rfl]
        exact hexecuting hexec
      entered := hentered
      holder := by
        intro g t ht hheld
        rw [hlock]
        by_cases hg : g = i.gate
        · rw [if_pos hg]
          exact hholder t ht (hg ▸ hheld)
        · rw [if_neg hg]
          exact hheld
      queue := by
        intro g t ht hwait
        rw [hlock]
        by_cases hg : g = i.gate
        · rw [if_pos hg]
          exact hqueue t ht (hg ▸ hwait)
        · rw [if_neg hg]
          exact hwait
      involves := by
        intro g t ht
        rw [hlock] at ht
        by_cases hg : g = i.gate
        · rw [if_pos hg] at ht
          rw [hg]
          exact hinvolves t ht
        · rw [if_neg hg] at ht
          exact ht
      order := by
        intro g
        rw [hlock]
        by_cases hg : g = i.gate
        · rw [if_pos hg]
          exact horder
        · rw [if_neg hg]
          exact hc.order g
      runs := hruns }

section

variable {c : Coordinator} {i : Invocation}

theorem Serial.wake (hc : c.Serial) (hi : i ∈ c.invocations.rows) (hphase : i.phase = .waiting)
    (hnext : (c.lock i.gate).Next (.invocation i.id)) :
    ((c.wakeGate i.gate).setPhase i.id .begun).Serial := by
  obtain ⟨rest, hqueue, hwake⟩ := FairLock.wake_of_next hnext
  refine hc.move_lock c (c.lock i.gate).wake .begun hi rfl ?_ ?_ ?_ ?_ ?_ ?_ ?_ ?_ (.inl rfl)
  · unfold Invocation.registered
    rw [hphase]
    exact ⟨rfl, rfl⟩
  · intro _
    unfold Invocation.active
    rw [hphase]
    rfl
  · intro _
    rw [hwake]
  · decide
  · intro t _ hheld
    rw [hnext.1] at hheld
    cases hheld
  · intro t ht hwait
    rw [hqueue] at hwait
    rw [hwake]
    rcases List.mem_cons.mp hwait with hhead | hrest
    · exact absurd hhead ht
    · exact hrest
  · intro t ht
    rw [hwake] at ht
    refine .inr ?_
    rw [hqueue]
    rcases ht with hholder | hrest
    · exact List.mem_cons.mpr (.inl (Option.some.inj hholder).symm)
    · exact List.mem_cons_of_mem _ hrest
  · exact (hc.order i.gate).wake hnext

theorem Serial.cancelled (hc : c.Serial) (hi : i ∈ c.invocations.rows)
    (hphase : i.phase = .waiting) :
    ((c.setGate i.gate { c.gates i.gate with
      lock := (c.gates i.gate).lock.abandon (.invocation i.id) }).setPhase i.id .leaving).Serial := by
  refine hc.move_lock c ((c.lock i.gate).abandon (.invocation i.id)) .leaving hi rfl
    ?_ ?_ ?_ ?_ ?_ ?_ ?_ ?_ (.inl rfl)
  · unfold Invocation.registered
    rw [hphase]
    exact ⟨rfl, rfl⟩
  · intro h
    cases h
  · intro h
    cases h
  · decide
  · intro t _ hheld
    exact hheld
  · intro t ht hwait
    exact (List.mem_erase_of_ne ht).mpr hwait
  · intro t ht
    exact ht.imp id List.mem_of_mem_erase
  · exact (hc.order i.gate).abandon _

/-- A command that executes returns; on its way it may have changed the state of its own run. -/
theorem Serial.finish (c' : Coordinator) (hc : c.Serial) (hi : i ∈ c.invocations.rows)
    (hexec : i.executing = true) (hsame : c' = { c with runs := c'.runs })
    (hruns : ∀ r ∈ c'.runs, r ∈ c.runs ∨ r = i.runId) : (c'.finish i).Serial := by
  have hheld := hc.executing i hi hexec
  have hlock : (c'.gates i.gate).lock = c.lock i.gate := by
    rw [hsame]
    rfl
  unfold Coordinator.finish
  rw [hlock]
  refine hc.move_lock c' (c.lock i.gate).release .leaving hi hsame ?_ ?_ ?_ ?_ ?_ ?_ ?_ ?_
    (.inr ⟨hexec, hruns⟩)
  · exact ⟨registered_of_active (active_of_executing hexec), rfl⟩
  · intro h
    cases h
  · intro h
    cases h
  · decide
  · intro t ht hother
    rw [hheld] at hother
    exact absurd (Option.some.inj hother).symm ht
  · intro t _ hwait
    exact hwait
  · intro t ht
    rcases ht with hnone | hwait
    · cases hnone
    · exact .inr hwait
  · exact (hc.order i.gate).release

theorem setGate_self (c : Coordinator) (g : GateId) : c.setGate g (c.gates g) = c := by
  unfold setGate
  rw [Function.update_eq_self]

theorem executing_of_begun (h : i.phase = .begun) : i.executing = true := by
  unfold Invocation.executing
  rw [h]
  rfl

/-- The phase after a command's first suspension. -/
theorem executing_of_beginCommand {request : ActivityRequest} {phase : Phase}
    (h : c.beginCommand request = some phase) : phase.executing = true := by
  unfold beginCommand at h
  cases hcommand : request.command with
  | start =>
      rw [hcommand] at h
      dsimp only at h
      split at h
      · cases h
      · cases h
        rfl
  | cleanup =>
      rw [hcommand] at h
      obtain ⟨_, _, rfl⟩ := Option.map_eq_some_iff.mp h
      rfl
  | step | refresh | recover | replan =>
      rw [hcommand] at h
      obtain ⟨_, _, rfl⟩ := Option.map_eq_some_iff.mp h
      rfl

theorem Serial.advance {phase : Phase} (hc : c.Serial) (hi : i ∈ c.invocations.rows)
    (hphase : i.phase = .begun) (h : c.beginCommand i.request = some phase) :
    (c.setPhase i.id phase).Serial := by
  have hexec := executing_of_begun hphase
  have hafter := executing_of_beginCommand h
  have hmove := hc.move_lock c (c.lock i.gate) phase hi rfl
    ⟨registered_of_active (active_of_executing hexec), by cases phase <;> first | rfl | cases hafter⟩
    (fun _ => active_of_executing hexec) (fun _ => hc.executing i hi hexec)
    (by cases phase <;> first | decide | cases hafter) (fun _ _ hheld => hheld)
    (fun _ _ hwait => hwait) (fun _ ht => ht) (hc.order i.gate) (.inl rfl)
  have hself : c.setGate i.gate { c.gates i.gate with lock := c.lock i.gate } = c :=
    setGate_self c i.gate
  rw [hself] at hmove
  exact hmove

/-! ## Entering and leaving a gate -/

theorem lock_releaseRunGate (c : Coordinator) (r : String) (g h : GateId) :
    (c.releaseRunGate r g).lock h = c.lock h := by
  have hset : (c.setGate g { c.gates g with users := (c.gates g).users - 1 }).lock h =
      c.lock h := by
    rw [lock_setGate]
    by_cases hg : h = g
    · rw [if_pos hg, hg]
      rfl
    · rw [if_neg hg]
  unfold releaseRunGate
  dsimp only
  split
  · exact hset
  · exact hset

theorem users_releaseRunGate (c : Coordinator) (r : String) (g h : GateId) :
    ((c.releaseRunGate r g).gates h).users =
      if h = g then (c.gates g).users - 1 else (c.gates h).users := by
  unfold releaseRunGate
  dsimp only
  split
  · exact users_setGate c g h _
  · exact users_setGate c g h _

/-- The gate of a run is dropped only when it has no user and the run is not live. -/
theorem releaseRunGate_runGates (c : Coordinator) (r : String) (g : GateId) :
    (c.releaseRunGate r g).runGates = c.runGates ∨
      (c.releaseRunGate r g).runGates = c.runGates.erase r ∧ (c.gates g).users - 1 = 0 ∧
        r ∉ c.runs := by
  unfold releaseRunGate
  dsimp only
  split
  · next h => exact .inr ⟨rfl, h.1, h.2.1⟩
  · exact .inl rfl

@[simp] theorem releaseRunGate_runs (c : Coordinator) (r : String) (g : GateId) :
    (c.releaseRunGate r g).runs = c.runs := by
  unfold releaseRunGate
  dsimp only
  split <;> rfl

@[simp] theorem releaseRunGate_calls (c : Coordinator) (r : String) (g : GateId) :
    (c.releaseRunGate r g).invocations = c.invocations ∧
      (c.releaseRunGate r g).closers = c.closers ∧
        (c.releaseRunGate r g).closing = c.closing := by
  unfold releaseRunGate
  dsimp only
  split <;> exact ⟨rfl, rfl, rfl⟩

theorem Serial.leave (hc : c.Serial) (hi : i ∈ c.invocations.rows) (hphase : i.phase = .leaving) :
    ((c.releaseRunGate i.runId i.gate).setPhase i.id .gone).Serial := by
  obtain ⟨hinv, hclosers, hclosing⟩ := releaseRunGate_calls c i.runId i.gate
  have hreg : i.registered = true := by
    unfold Invocation.registered
    rw [hphase]
    rfl
  have hrows : ((c.releaseRunGate i.runId i.gate).setPhase i.id .gone).invocations =
      (c.setPhase i.id .gone).invocations := by
    unfold setPhase
    rw [hinv]
  have hlocks : ∀ g, ((c.releaseRunGate i.runId i.gate).setPhase i.id .gone).lock g = c.lock g :=
    fun g => lock_releaseRunGate c i.runId i.gate g
  -- every call after the step that is registered was there before it and is another one
  have hold : ∀ j ∈ (c.setPhase i.id .gone).invocations.rows, j.registered = true →
      j ∈ c.invocations.rows ∧ j.id ≠ i.id := by
    intro j hj hjreg
    obtain ⟨j', hj', hrow⟩ := mem_setPhase hj
    by_cases hid : j'.id = i.id
    · rw [if_pos hid] at hrow
      rw [hrow] at hjreg
      cases hjreg
    · rw [if_neg hid] at hrow
      exact ⟨hrow ▸ hj', hrow ▸ hid⟩
  have hidle : ∀ j ∈ (c.setPhase i.id .gone).invocations.rows, j.active = true →
      j ∈ c.invocations.rows := fun j hj hactive => (hold j hj (registered_of_active hactive)).1
  have hcount : ∀ g, (c.setPhase i.id .gone).invocations.count (registeredAt g) =
      if g = i.gate then (c.gates g).users - 1 else (c.gates g).users := by
    intro g
    have hupdate := Table.count_update_at (f := fun j : Invocation => { j with phase := .gone })
      (p := fun j => j.id = i.id) (fun _ => rfl) hi
      (fun j hj hid => Table.eq_of_key hj hi (of_decide_eq_true hid)) (registeredAt g)
    have hgone : registeredAt g { i with phase := .gone } = false := rfl
    simp only [decide_true, if_true, hgone, Bool.false_eq_true, if_false, Nat.add_zero] at hupdate
    rw [← hc.users g] at hupdate
    unfold registeredAt at hupdate
    rw [hreg, Bool.true_and] at hupdate
    by_cases hg : g = i.gate
    · rw [if_pos hg]
      rw [decide_eq_true hg.symm, if_pos rfl] at hupdate
      exact Nat.eq_sub_of_add_eq hupdate
    · rw [if_neg hg]
      rw [decide_eq_false (fun h => hg h.symm), if_neg Bool.false_ne_true] at hupdate
      exact hupdate
  exact
    { users := by
        intro g
        rw [hrows, hcount]
        show ((c.releaseRunGate i.runId i.gate).gates g).users = _
        rw [users_releaseRunGate]
        by_cases hg : g = i.gate
        · rw [if_pos hg, if_pos hg, hg]
        · rw [if_neg hg, if_neg hg]
      executing := by
        intro j hj hexec
        rw [hrows] at hj
        rw [hlocks]
        exact hc.executing j (hidle j hj (active_of_executing hexec)) hexec
      waiting := by
        intro j hj hwait
        rw [hrows] at hj
        rw [hlocks]
        have hactive : j.active = true := by
          unfold Invocation.active
          rw [hwait]
          rfl
        exact hc.waiting j (hidle j hj hactive) hwait
      registered := by
        intro j hj hjreg
        rw [hrows] at hj
        obtain ⟨hjold, hne⟩ := hold j hj hjreg
        have hover : ((c.releaseRunGate i.runId i.gate).setPhase i.id .gone).Over ↔ c.Over := by
          show (∃ k ∈ (c.releaseRunGate i.runId i.gate).closers.rows, _) ↔ _
          rw [hclosers]
          rfl
        rw [hover]
        refine (hc.registered j hjold hjreg).imp ?_ id
        intro hgate
        show (c.releaseRunGate i.runId i.gate).runGates.lookup j.runId = some j.gate
        rcases releaseRunGate_runGates c i.runId i.gate with hsame | ⟨herase, hzero, -⟩
        · rw [hsame]
          exact hgate
        · rw [herase]
          by_cases hrun : j.runId = i.runId
          · -- the other call of the run is still a user of the gate
            have hsamegate := hc.sameGate j hjold i hi hjreg hreg hrun
            have hnone := hcount i.gate
            rw [if_pos rfl, hzero] at hnone
            have hcounted : registeredAt i.gate j = true := by
              unfold registeredAt
              rw [hjreg, hsamegate, decide_eq_true rfl]
              rfl
            have hpos : 0 < (c.setPhase i.id .gone).invocations.count (registeredAt i.gate) :=
              List.countP_pos_iff.mpr ⟨j, hj, hcounted⟩
            omega
          · rw [AList.lookup_erase_ne hrun]
            exact hgate
      sameGate := by
        intro j hj k hk hjreg hkreg hrun
        rw [hrows] at hj hk
        exact hc.sameGate j (hold j hj hjreg).1 k (hold k hk hkreg).1 hjreg hkreg hrun
      live := by
        intro r hr
        have hlive : r ∈ c.runs := by
          have hsame := releaseRunGate_runs c i.runId i.gate
          show r ∈ c.runs
          rw [← hsame]
          exact hr
        show r ∈ (c.releaseRunGate i.runId i.gate).runGates
        rcases releaseRunGate_runGates c i.runId i.gate with hsame | ⟨herase, -, hdead⟩
        · rw [hsame]
          exact hc.live r hlive
        · rw [herase]
          refine AList.mem_erase.mpr ⟨?_, hc.live r hlive⟩
          intro heq
          exact hdead (heq ▸ hlive)
      order := by
        intro g
        rw [hlocks]
        exact hc.order g
      closing := by
        intro hopen k
        show k ∉ (c.releaseRunGate i.runId i.gate).closers.rows
        rw [hclosers]
        exact hc.closing (hclosing ▸ hopen) k
      early := by
        intro hopen g t ht
        rw [hlocks] at ht
        exact hc.early (hclosing ▸ hopen) g t ht
      held := by
        intro k hk hstage g hg
        rw [hlocks]
        exact hc.held k (hclosers ▸ hk) hstage g hg
      covers := by
        intro k hk hstage j hj hactive
        rw [hrows] at hj
        exact hc.covers k (hclosers ▸ hk) hstage j (hidle j hj hactive) hactive
      cleared := by
        intro k hk hstage
        obtain ⟨hruns, hnone⟩ := hc.cleared k (hclosers ▸ hk) hstage
        constructor
        · show (c.releaseRunGate i.runId i.gate).runs = ∅
          rw [releaseRunGate_runs]
          exact hruns
        · intro j hj
          rw [hrows] at hj
          cases hactive : j.active with
          | false => rfl
          | true =>
              have hnot := hnone j (hidle j hj hactive)
              rw [hactive] at hnot
              cases hnot }

/-- What `setdefault` leaves registered for the run, and that it keeps every other entry. -/
theorem acquireRunGate_some {d : Coordinator} {r : String} {g : GateId}
    (h : c.acquireRunGate r = some (g, d)) :
    c.closing = false ∧ d.closing = false ∧ d.runs = c.runs ∧ d.invocations = c.invocations ∧
      d.closers = c.closers ∧ (∀ x, d.lock x = c.lock x) ∧
      (∀ x, (d.gates x).users = (c.gates x).users + if x = g then 1 else 0) ∧
      d.runGates.lookup r = some g ∧
      (c.runGates.lookup r = some g ∨ c.runGates.lookup r = none) ∧
      ∀ x y, c.runGates.lookup x = some y → d.runGates.lookup x = some y := by
  unfold acquireRunGate at h
  split at h
  · cases h
  · next hopen =>
      have hopen := Bool.eq_false_iff.mpr hopen
      have hlock : ∀ g x, (c.setGate g { c.gates g with users := (c.gates g).users + 1 }).lock x =
          c.lock x := by
        intro g x
        rw [lock_setGate]
        by_cases hx : x = g
        · rw [if_pos hx, hx]
          rfl
        · rw [if_neg hx]
      have husers : ∀ g x,
          ((c.setGate g { c.gates g with users := (c.gates g).users + 1 }).gates x).users =
            (c.gates x).users + if x = g then 1 else 0 := by
        intro g x
        rw [users_setGate]
        by_cases hx : x = g
        · rw [if_pos hx, if_pos hx, hx]
        · rw [if_neg hx, if_neg hx]
          rfl
      cases hlookup : c.runGates.lookup r with
      | some g' =>
          rw [hlookup] at h
          cases h
          exact ⟨hopen, hopen, rfl, rfl, rfl, hlock g, husers g, hlookup, .inl rfl,
            fun _ _ hx => hx⟩
      | none =>
          rw [hlookup] at h
          cases h
          refine ⟨hopen, hopen, rfl, rfl, rfl, hlock _, husers _, AList.lookup_insert _,
            .inr rfl, ?_⟩
          intro x y hx
          have hne : x ≠ r := by
            intro heq
            rw [heq, hlookup] at hx
            cases hx
          show (c.runGates.insert r c.allocated).lookup x = some y
          rw [AList.lookup_insert_ne hne]
          exact hx

theorem Serial.enter {d : Coordinator} {id : Nat} {request : ActivityRequest} {g : GateId}
    (hc : c.Serial) (h : c.acquireRunGate request.runId = some (g, d))
    (hfresh : d.invocations.get? id = none) : (d.enter id request g hfresh).Serial := by
  obtain ⟨hopen, hopen', hruns, hinv, hclosers, hlock, husers, hgate, hbefore, hkeep⟩ :=
    acquireRunGate_some h
  have hnone : ∀ k, k ∉ d.closers.rows := by
    rw [hclosers]
    exact hc.closing hopen
  have hover : ¬ c.Over := by
    rintro ⟨k, hk, -⟩
    exact hc.closing hopen k hk
  let l := (c.lock g).request (.invocation id)
  let new : Invocation :=
    ⟨id, request, g, if l.holder = some (.invocation id) then .begun else .waiting⟩
  have hl : (d.gates g).lock = c.lock g := hlock g
  have hlocks : ∀ x, (d.enter id request g hfresh).lock x = if x = g then l else c.lock x := by
    intro x
    show (d.setGate g { d.gates g with lock := (d.gates g).lock.request (.invocation id) }).lock x
      = _
    rw [lock_setGate, hl, hlock]
  have hrows : ∀ j ∈ (d.enter id request g hfresh).invocations.rows,
      j ∈ c.invocations.rows ∨ j = new := by
    intro j hj
    have hj : j ∈ (d.invocations.insert ⟨id, request, g,
        if ((d.gates g).lock.request (.invocation id)).holder = some (.invocation id) then
          Phase.begun else Phase.waiting⟩ hfresh).rows := hj
    rw [hl] at hj
    rcases (Table.mem_insert _).mp hj with hold | hnew
    · exact .inl (hinv ▸ hold)
    · exact .inr hnew
  have hnewreg : new.registered = true := by
    show Phase.registered (if l.holder = some (.invocation id) then .begun else .waiting) = true
    split <;> rfl
  -- a call of the same run that is already registered is at the gate that is handed out
  have hsame : ∀ j ∈ c.invocations.rows, j.registered = true → j.runId = request.runId →
      j.gate = g := by
    intro j hj hreg hrun
    rcases hc.registered j hj hreg with hj' | hdone
    · have hfound := hkeep _ _ hj'
      rw [hrun, hgate] at hfound
      exact (Option.some.inj hfound).symm
    · exact absurd hdone hover
  exact
    { users := by
        intro x
        have hcount : (d.enter id request g hfresh).invocations.count (registeredAt x) =
            d.invocations.count (registeredAt x) + if registeredAt x new then 1 else 0 := by
          have hadd := Table.count_insert (v := new) hfresh (registeredAt x)
          show (d.invocations.insert ⟨id, request, g,
            if ((d.gates g).lock.request (.invocation id)).holder = some (.invocation id) then
              Phase.begun else Phase.waiting⟩ hfresh).count (registeredAt x) = _
          simp only [hl]
          exact hadd
        have hx : ((d.enter id request g hfresh).gates x).users = (d.gates x).users := by
          show ((d.setGate g _).gates x).users = _
          rw [users_setGate]
          by_cases hx : x = g
          · rw [if_pos hx, hx]
          · rw [if_neg hx]
        rw [hx, hcount, husers, hc.users, hinv]
        unfold registeredAt
        rw [hnewreg, Bool.true_and]
        by_cases hx : x = g
        · rw [if_pos hx, decide_eq_true hx.symm, if_pos rfl]
        · rw [if_neg hx, decide_eq_false (fun h => hx h.symm), if_neg Bool.false_ne_true]
      executing := by
        intro j hj hexec
        rw [hlocks]
        rcases hrows j hj with hold | rfl
        · have hheld := hc.executing j hold hexec
          by_cases hx : j.gate = g
          · rw [if_pos hx]
            exact FairLock.request_held _ (hx ▸ hheld)
          · rw [if_neg hx]
            exact hheld
        · rw [if_pos rfl]
          have hexec : Phase.executing
              (if l.holder = some (.invocation id) then .begun else .waiting) = true := hexec
          split at hexec
          · next hheld => exact hheld
          · cases hexec
      waiting := by
        intro j hj hwait
        rw [hlocks]
        rcases hrows j hj with hold | rfl
        · have hqueue := hc.waiting j hold hwait
          by_cases hx : j.gate = g
          · rw [if_pos hx]
            exact FairLock.mem_request _ (hx ▸ hqueue)
          · rw [if_neg hx]
            exact hqueue
        · rw [if_pos rfl]
          have hwait : (if l.holder = some (.invocation id) then Phase.begun else .waiting) =
              .waiting := hwait
          split at hwait
          · cases hwait
          · next hnot =>
              exact (FairLock.request_self (c.lock g) (.invocation id)).resolve_left hnot
      registered := by
        intro j hj hreg
        refine .inl ?_
        show d.runGates.lookup j.runId = some j.gate
        rcases hrows j hj with hold | rfl
        · exact hkeep _ _ ((hc.registered j hold hreg).resolve_right hover)
        · exact hgate
      sameGate := by
        intro j hj k hk hjreg hkreg hrun
        rcases hrows j hj with hjold | rfl
        · rcases hrows k hk with hkold | rfl
          · exact hc.sameGate j hjold k hkold hjreg hkreg hrun
          · exact hsame j hjold hjreg hrun
        · rcases hrows k hk with hkold | rfl
          · exact (hsame k hkold hkreg hrun.symm).symm
          · rfl
      live := by
        intro r hr
        have hr : r ∈ d.runs := hr
        rw [hruns] at hr
        show r ∈ d.runGates
        obtain ⟨y, hy⟩ := Option.isSome_iff_exists.mp (AList.lookup_isSome.mpr (hc.live r hr))
        exact AList.lookup_isSome.mp (by rw [hkeep _ _ hy]; rfl)
      order := by
        intro x
        rw [hlocks]
        by_cases hx : x = g
        · rw [if_pos hx]
          exact (hc.order g).request (.inr (hc.early hopen g))
        · rw [if_neg hx]
          exact hc.order x
      closing := fun _ k hk => hnone k hk
      early := by
        intro _ x t ht
        rw [hlocks] at ht
        by_cases hx : x = g
        · rw [if_pos hx] at ht
          rcases FairLock.involves_request ht with hold | rfl
          · exact hc.early hopen g t hold
          · exact fun hlate => hlate
        · rw [if_neg hx] at ht
          exact hc.early hopen x t ht
      held := fun k hk => absurd hk (hnone k)
      covers := fun k hk => absurd hk (hnone k)
      cleared := fun k hk => absurd hk (hnone k) }

end

end Coordinator

end FlowPilot.Planning
