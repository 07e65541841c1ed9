import FlowPilot.Lib.System
import FlowPilot.Planning.Gates

/-!
# Commands of one run are serialized

The gate of a run stays registered while the run is live or the gate has users, and a lock goes
to its waiters in order, so that `close_all` comes after every command that entered before it.
-/

open FlowPilot.Lib Relation

namespace FlowPilot.Planning.Coordinator

/-! ## Steps of `close_all` -/

section

variable {c : Coordinator} {k k' : Closer}

/-- An active call is at a registered gate as long as no `close_all` has cleared the runs. -/
theorem Serial.gate_of_active (hc : c.Serial) {i : Invocation} (hi : i ∈ c.invocations.rows)
    (h : i.active = true) : c.runGates.lookup i.runId = some i.gate := by
  rcases hc.registered i hi (registered_of_active h) with hgate | ⟨k, hk, hstage⟩
  · exact hgate
  · have hidle := (hc.cleared k hk (by rw [hstage]; decide)).2 i hi
    rw [h] at hidle
    cases hidle

theorem closing_of_closer (hc : c.Serial) (hk : k ∈ c.closers.rows) : c.closing = true := by
  cases h : c.closing with
  | true => rfl
  | false => exact absurd hk (hc.closing h k)

theorem Serial.startClosing {id : Nat} (hc : c.Serial) (hfresh : c.closers.get? id = none) :
    (c.startClosing id hfresh).Serial := by
  have hrows : ∀ l, l ∈ (c.startClosing id hfresh).closers.rows →
      l ∈ c.closers.rows ∨
        l = ⟨id, [], c.runGates.entries.reverse.map Sigma.snd, false, .acquiring⟩ :=
    fun l hl => (Table.mem_insert hfresh).mp hl
  exact
    { users := hc.users
      executing := hc.executing
      waiting := hc.waiting
      registered := by
        intro i hi hreg
        refine (hc.registered i hi hreg).imp (fun h => h) ?_
        rintro ⟨l, hl, hstage⟩
        exact ⟨l, (Table.mem_insert hfresh).mpr (.inl hl), hstage⟩
      sameGate := hc.sameGate
      live := hc.live
      order := hc.order
      closing := fun h => by cases h
      early := fun h => by cases h
      held := by
        intro l hl hstage g hg
        rcases hrows l hl with hold | rfl
        · exact hc.held l hold hstage g hg
        · cases hg
      covers := by
        intro l hl hstage i hi hactive
        rcases hrows l hl with hold | rfl
        · exact hc.covers l hold hstage i hi hactive
        · have hgate := hc.gate_of_active hi hactive
          have hentry : (⟨i.runId, i.gate⟩ : Sigma fun _ : String => GateId) ∈
              c.runGates.entries := AList.mem_lookup_iff.mp hgate
          exact .inr (List.mem_map.mpr ⟨_, List.mem_reverse.mpr hentry, rfl⟩)
      cleared := by
        intro l hl hstage
        rcases hrows l hl with hold | rfl
        · exact hc.cleared l hold hstage
        · exact absurd rfl hstage }

theorem mem_setCloser (hid : k'.id = k.id) {l : Closer}
    (h : l ∈ (c.setCloser k').closers.rows) :
    l = k' ∨ l ∈ c.closers.rows ∧ l.id ≠ k.id := by
  obtain ⟨l', hl', rfl⟩ := List.mem_map.mp h
  by_cases hl : l'.id = k'.id
  · rw [if_pos (decide_eq_true hl)]
    refine .inl ?_
    dsimp only
    rw [hl]
  · rw [if_neg (by simpa using hl)]
    exact .inr ⟨hl', hid ▸ hl⟩

theorem setCloser_mem (hk : k ∈ c.closers.rows) (hid : k'.id = k.id) :
    k' ∈ (c.setCloser k').closers.rows := by
  refine List.mem_map.mpr ⟨k, hk, ?_⟩
  rw [if_pos (decide_eq_true hid.symm)]
  dsimp only
  rw [← hid]

theorem other_mem_setCloser {l : Closer} (hl : l ∈ c.closers.rows) (hid : l.id ≠ k'.id) :
    l ∈ (c.setCloser k').closers.rows := by
  refine List.mem_map.mpr ⟨l, hl, ?_⟩
  rw [if_neg (by simpa using hid)]

/-- `close_all` changes the lock of one gate to `l` without taking it from anybody. -/
theorem Serial.acquire {g : GateId} {l : FairLock TaskId} (hc : c.Serial)
    (hk : k ∈ c.closers.rows) (hstage : k.stage = .acquiring) (hid : k'.id = k.id)
    (hstage' : k'.stage = .acquiring)
    (hholder : ∀ t, (c.lock g).holder = some t → l.holder = some t)
    (hqueue : ∀ n, .invocation n ∈ (c.lock g).queue → .invocation n ∈ l.queue)
    (horder : FairLock.Last TaskId.late l)
    (hheld : ∀ x ∈ k'.held, x ∈ k.held ∨ x = g ∧ l.holder = some (.closer k.id))
    (hcovers : ∀ x, x ∈ k.held ∨ x ∈ k.todo → x ∈ k'.held ∨ x ∈ k'.todo) :
    ((c.setGate g { c.gates g with lock := l }).setCloser k').Serial := by
  let d := (c.setGate g { c.gates g with lock := l }).setCloser k'
  have hlocks : ∀ x, d.lock x = if x = g then l else c.lock x := fun x => lock_setGate c g x _
  have hkeep : ∀ x t, (c.lock x).holder = some t → (d.lock x).holder = some t := by
    intro x t ht
    rw [hlocks]
    by_cases hx : x = g
    · rw [if_pos hx]
      exact hholder t (hx ▸ ht)
    · rw [if_neg hx]
      exact ht
  have hrows : ∀ m ∈ d.closers.rows, m = k' ∨ m ∈ c.closers.rows ∧ m.id ≠ k.id :=
    fun m hm => mem_setCloser (c := c.setGate g { c.gates g with lock := l }) hid hm
  have hclosing : c.closing = true := closing_of_closer hc hk
  exact
    { users := by
        intro x
        have hx : (d.gates x).users = (c.gates x).users := by
          show ((c.setGate g _).gates x).users = _
          rw [users_setGate]
          by_cases hx : x = g
          · rw [if_pos hx, hx]
          · rw [if_neg hx]
        exact hx.trans (hc.users x)
      executing := fun i hi hexec => hkeep _ _ (hc.executing i hi hexec)
      waiting := by
        intro i hi hwait
        have hwait := hc.waiting i hi hwait
        show _ ∈ (d.lock i.gate).queue
        rw [hlocks]
        by_cases hx : i.gate = g
        · rw [if_pos hx]
          exact hqueue _ (hx ▸ hwait)
        · rw [if_neg hx]
          exact hwait
      registered := by
        intro i hi hreg
        refine (hc.registered i hi hreg).imp (fun h => h) ?_
        rintro ⟨m, hm, hreturned⟩
        have hne : m.id ≠ k'.id := by
          intro heq
          have hsame : m = k := Table.eq_of_key hm hk (heq.trans hid)
          rw [hsame, hstage] at hreturned
          cases hreturned
        exact ⟨m, other_mem_setCloser (c := c.setGate g { c.gates g with lock := l }) hm hne,
          hreturned⟩
      sameGate := hc.sameGate
      live := hc.live
      order := by
        intro x
        show FairLock.Last TaskId.late (d.lock x)
        rw [hlocks]
        by_cases hx : x = g
        · rw [if_pos hx]
          exact horder
        · rw [if_neg hx]
          exact hc.order x
      closing := by
        intro hopen
        have hopen : c.closing = false := hopen
        rw [hclosing] at hopen
        cases hopen
      early := by
        intro hopen
        have hopen : c.closing = false := hopen
        rw [hclosing] at hopen
        cases hopen
      held := by
        intro m hm hmstage x hx
        rcases hrows m hm with rfl | ⟨hold, -⟩
        · rw [hid]
          rcases hheld x hx with hbefore | ⟨rfl, hnow⟩
          · exact hkeep x _ (hc.held k hk hstage x hbefore)
          · show (d.lock x).holder = _
            rw [hlocks, if_pos rfl]
            exact hnow
        · exact hkeep x _ (hc.held m hold hmstage x hx)
      covers := by
        intro m hm hmstage i hi hactive
        rcases hrows m hm with rfl | ⟨hold, -⟩
        · exact hcovers _ (hc.covers k hk hstage i hi hactive)
        · exact hc.covers m hold hmstage i hi hactive
      cleared := by
        intro m hm hmstage
        rcases hrows m hm with rfl | ⟨hold, -⟩
        · exact absurd hstage' hmstage
        · exact hc.cleared m hold hmstage }

theorem Serial.ask {g : GateId} {rest : List GateId} (hc : c.Serial) (hk : k ∈ c.closers.rows)
    (hstage : k.stage = .acquiring) (htodo : k.todo = g :: rest) :
    (c.askGate k g rest).Serial := by
  unfold askGate
  dsimp only
  have hlast := (hc.order g).request (t := .closer k.id) (.inl trivial)
  split
  · next hnow =>
      refine hc.acquire (k := k) hk hstage rfl hstage (fun t => FairLock.request_held _)
        (fun n => FairLock.mem_request _) hlast ?_ ?_
      · intro x hx
        rcases List.mem_append.mp hx with hold | hnew
        · exact .inl hold
        · exact .inr ⟨List.mem_singleton.mp hnew, hnow⟩
      · intro x hx
        rw [htodo] at hx
        rcases hx with hold | hx
        · exact .inl (List.mem_append_left _ hold)
        · rcases List.mem_cons.mp hx with hnew | hrest
          · exact .inl (List.mem_append_right _ (List.mem_singleton.mpr hnew))
          · exact .inr hrest
  · exact hc.acquire (k := k) hk hstage rfl hstage (fun t => FairLock.request_held _)
      (fun n => FairLock.mem_request _) hlast (fun x hx => .inl hx) (fun x hx => hx)

theorem Serial.granted {g : GateId} {rest : List GateId} (hc : c.Serial)
    (hk : k ∈ c.closers.rows) (hstage : k.stage = .acquiring) (htodo : k.todo = g :: rest)
    (hnext : (c.gates g).lock.Next (.closer k.id)) :
    ((c.wakeGate g).setCloser
      { k with held := k.held ++ [g], todo := rest, asked := false }).Serial := by
  obtain ⟨waiters, hqueue, hwake⟩ := FairLock.wake_of_next hnext
  refine hc.acquire (k := k) hk hstage rfl hstage ?_ ?_ ((hc.order g).wake hnext) ?_ ?_
  · intro t ht
    have hfree : (c.lock g).holder = none := hnext.1
    rw [hfree] at ht
    cases ht
  · intro n hn
    have hn : TaskId.invocation n ∈ (c.gates g).lock.queue := hn
    rw [hqueue] at hn
    rw [hwake]
    rcases List.mem_cons.mp hn with hhead | hrest
    · cases hhead
    · exact hrest
  · intro x hx
    rcases List.mem_append.mp hx with hold | hnew
    · exact .inl hold
    · refine .inr ⟨List.mem_singleton.mp hnew, ?_⟩
      rw [hwake]
  · intro x hx
    rw [htodo] at hx
    rcases hx with hold | hx
    · exact .inl (List.mem_append_left _ hold)
    · rcases List.mem_cons.mp hx with hnew | hrest
      · exact .inl (List.mem_append_right _ (List.mem_singleton.mpr hnew))
      · exact .inr hrest

/-- A `close_all` that holds every gate of its list is alone: a command that executes would hold
one of them, and one that waits would have been served before. -/
theorem Serial.idle (hc : c.Serial) (hk : k ∈ c.closers.rows) (hstage : k.stage = .acquiring)
    (htodo : k.todo = []) : ∀ i ∈ c.invocations.rows, i.active = false := by
  intro i hi
  cases hactive : i.active with
  | false => rfl
  | true =>
      have hgate : i.gate ∈ k.held := by
        rcases hc.covers k hk hstage i hi hactive with hheld | htodo'
        · exact hheld
        · rw [htodo] at htodo'
          cases htodo'
      have hheld := hc.held k hk hstage i.gate hgate
      by_cases hwait : i.phase = .waiting
      · have hqueue := hc.waiting i hi hwait
        exact absurd ((hc.order i.gate).holder _ hheld trivial _ hqueue) (fun hlate => hlate)
      · have hexec : i.executing = true := by
          unfold Invocation.active at hactive
          unfold Invocation.executing
          cases hp : i.phase <;> first | exact absurd hp hwait | (rw [hp] at hactive; exact hactive)
        rw [hc.executing i hi hexec] at hheld
        cases hheld

theorem Serial.clear (hc : c.Serial) (hk : k ∈ c.closers.rows) (hstage : k.stage = .acquiring)
    (htodo : k.todo = []) : (c.clearRuns k).Serial := by
  have hidle := hc.idle hk hstage htodo
  have hclosing := closing_of_closer hc hk
  have hrows : ∀ m ∈ (c.clearRuns k).closers.rows,
      m = { k with stage := .cleared } ∨ m ∈ c.closers.rows ∧ m.id ≠ k.id :=
    fun m hm => mem_setCloser (c := c) rfl hm
  have hlocks : ∀ g, (c.clearRuns k).lock g =
      if g ∈ k.held then (c.lock g).release else c.lock g := by
    intro g
    show RunGate.lock (if g ∈ k.held then _ else _) = _
    split <;> rfl
  have hactive : ∀ {p : Prop}, ∀ i ∈ c.invocations.rows, i.active = true → p := by
    intro p i hi h
    rw [hidle i hi] at h
    cases h
  exact
    { users := by
        intro g
        have hg : ((c.clearRuns k).gates g).users = (c.gates g).users := by
          show RunGate.users (if g ∈ k.held then _ else _) = _
          split <;> rfl
        exact hg.trans (hc.users g)
      executing := fun i hi hexec => hactive i hi (active_of_executing hexec)
      waiting := by
        intro i hi hwait
        refine hactive i hi ?_
        unfold Invocation.active
        rw [hwait]
        rfl
      registered := by
        intro i hi hreg
        refine (hc.registered i hi hreg).imp (fun h => h) ?_
        rintro ⟨m, hm, hreturned⟩
        have hne : m.id ≠ k.id := by
          intro heq
          have hsame : m = k := Table.eq_of_key hm hk heq
          rw [hsame, hstage] at hreturned
          cases hreturned
        exact ⟨m, other_mem_setCloser hm hne, hreturned⟩
      sameGate := hc.sameGate
      live := fun r hr => absurd hr (AList.notMem_empty r)
      order := by
        intro g
        rw [hlocks]
        split
        · exact (hc.order g).release
        · exact hc.order g
      closing := by
        intro hopen
        have hopen : c.closing = false := hopen
        rw [hclosing] at hopen
        cases hopen
      early := by
        intro hopen
        have hopen : c.closing = false := hopen
        rw [hclosing] at hopen
        cases hopen
      held := by
        intro m hm hmstage g hg
        rcases hrows m hm with rfl | ⟨hold, hne⟩
        · cases hmstage
        · have hheld := hc.held m hold hmstage g hg
          rw [hlocks]
          by_cases hmine : g ∈ k.held
          · rw [hc.held k hk hstage g hmine] at hheld
            exact absurd (TaskId.closer.inj (Option.some.inj hheld)).symm hne
          · rw [if_neg hmine]
            exact hheld
      covers := fun m _ _ i hi h => hactive i hi h
      cleared := fun m _ _ => ⟨rfl, hidle⟩ }

theorem Serial.clearGates (hc : c.Serial) (hk : k ∈ c.closers.rows) (hstage : k.stage = .cleared) :
    (c.clearGates k).Serial := by
  obtain ⟨hruns, hidle⟩ := hc.cleared k hk (by rw [hstage]; decide)
  have hclosing := closing_of_closer hc hk
  have hrows : ∀ m ∈ (c.clearGates k).closers.rows,
      m = { k with stage := .returned } ∨ m ∈ c.closers.rows ∧ m.id ≠ k.id :=
    fun m hm => mem_setCloser (c := c) rfl hm
  exact
    { users := hc.users
      executing := hc.executing
      waiting := hc.waiting
      registered := fun i _ _ =>
        .inr ⟨{ k with stage := .returned }, setCloser_mem hk rfl, rfl⟩
      sameGate := hc.sameGate
      live := by
        intro r hr
        have hr : r ∈ c.runs := hr
        rw [hruns] at hr
        exact absurd hr (AList.notMem_empty r)
      order := hc.order
      closing := by
        intro hopen
        have hopen : c.closing = false := hopen
        rw [hclosing] at hopen
        cases hopen
      early := by
        intro hopen
        have hopen : c.closing = false := hopen
        rw [hclosing] at hopen
        cases hopen
      held := by
        intro m hm hmstage g hg
        rcases hrows m hm with rfl | ⟨hold, -⟩
        · cases hmstage
        · exact hc.held m hold hmstage g hg
      covers := by
        intro m hm hmstage
        rcases hrows m hm with rfl | ⟨hold, -⟩
        · cases hmstage
        · exact hc.covers m hold hmstage
      cleared := fun _ _ _ => ⟨hruns, hidle⟩ }

end

/-! ## Runs of the coordinator -/

theorem Serial.step {c d : Coordinator} (hc : c.Serial) (h : Step c d) : d.Serial := by
  cases h with
  | rejected _ => exact hc
  | enter h hfresh => exact hc.enter h hfresh
  | wake hi hphase hnext => exact hc.wake hi hphase hnext
  | cancelled hi hphase => exact hc.cancelled hi hphase
  | advance hi hphase h => exact hc.advance hi hphase h
  | answer hi hphase _ =>
      exact hc.finish c hi (executing_of_begun hphase) rfl fun r hr => .inl hr
  | @stored i hi hphase =>
      refine hc.finish (c.storeRun i.request) hi ?_ rfl ?_
      · unfold Invocation.executing
        rw [hphase]
        rfl
      · intro r hr
        rcases (AList.mem_insert _).mp hr with heq | hold
        · exact .inr heq
        · exact .inl hold
  | @deleted i hi hphase =>
      refine hc.finish (c.deleteRun i.request) hi ?_ rfl ?_
      · unfold Invocation.executing
        rw [hphase]
        rfl
      · intro r hr
        exact .inl (AList.mem_erase.mp hr).2
  | worked hi hexec => exact hc.finish c hi hexec rfl fun r hr => .inl hr
  | leave hi hphase => exact hc.leave hi hphase
  | closeAll hfresh => exact hc.startClosing hfresh
  | ask hk hstage htodo _ => exact hc.ask hk hstage htodo
  | granted hk hstage htodo _ hnext => exact hc.granted hk hstage htodo hnext
  | clear hk hstage htodo => exact hc.clear hk hstage htodo
  | clearGates hk hstage => exact hc.clearGates hk hstage

theorem Serial.run {c d : Coordinator} (hc : c.Serial) (h : ReflTransGen Step c d) : d.Serial :=
  invariant_of_run (I := Serial) (fun _ _ hs hstep => hs.step hstep) hc h

/-- A `close_all` that has returned stays so. -/
theorem Over.step {c d : Coordinator} (hc : c.Over) (h : Step c d) : d.Over := by
  obtain ⟨m, hm, hreturned⟩ := hc
  have hset : ∀ {k k' : Closer} {e : Coordinator}, k ∈ c.closers.rows → k.stage ≠ .returned →
      k'.id = k.id → e.closers = c.closers → (e.setCloser k').Over := by
    intro k k' e hk hstage hid he
    refine ⟨m, other_mem_setCloser (he ▸ hm) ?_, hreturned⟩
    intro heq
    have hsame : m = k := Table.eq_of_key hm hk (heq.trans hid)
    exact hstage (hsame ▸ hreturned)
  cases h with
  | rejected _ => exact ⟨m, hm, hreturned⟩
  | enter h hfresh =>
      obtain ⟨-, -, -, -, hclosers, -⟩ := acquireRunGate_some h
      exact ⟨m, hclosers ▸ hm, hreturned⟩
  | wake _ _ _ => exact ⟨m, hm, hreturned⟩
  | cancelled _ _ => exact ⟨m, hm, hreturned⟩
  | advance _ _ _ => exact ⟨m, hm, hreturned⟩
  | answer _ _ _ => exact ⟨m, hm, hreturned⟩
  | stored _ _ => exact ⟨m, hm, hreturned⟩
  | deleted _ _ => exact ⟨m, hm, hreturned⟩
  | worked _ _ => exact ⟨m, hm, hreturned⟩
  | @leave i hi hphase =>
      have hclosers := (releaseRunGate_calls c i.runId i.gate).2.1
      exact ⟨m, hclosers ▸ hm, hreturned⟩
  | closeAll hfresh => exact ⟨m, (Table.mem_insert hfresh).mpr (.inl hm), hreturned⟩
  | @ask k g rest hk hstage htodo _ =>
      unfold askGate
      dsimp only
      split
      · exact hset hk (by rw [hstage]; decide) rfl rfl
      · exact hset hk (by rw [hstage]; decide) rfl rfl
  | granted hk hstage htodo _ hnext => exact hset hk (by rw [hstage]; decide) rfl rfl
  | @clear k hk hstage htodo =>
      obtain ⟨m', hm', hreturned'⟩ : (c.setCloser { k with stage := .cleared }).Over :=
        hset hk (by rw [hstage]; decide) rfl rfl
      exact ⟨m', hm', hreturned'⟩
  | @clearGates k hk hstage =>
      exact ⟨{ k with stage := .returned }, setCloser_mem hk rfl, rfl⟩

theorem Over.runs (hs : Serial c) (h : c.Over) : c.runs = ∅ := by
  obtain ⟨k, hk, hstage⟩ := h
  exact (hs.cleared k hk (by rw [hstage]; decide)).1

/-- In every interleaving of calls of `invoke` and `close_all`, one command of a run executes at
a time, a live run has its gate registered, all commands of a run have the same gate, and after a
`close_all` has returned no run is live. -/
theorem commands_serialized {c : Coordinator} (h : ReflTransGen Step initial c) :
    (∀ i ∈ c.invocations.rows, ∀ j ∈ c.invocations.rows, i.executing = true →
      j.executing = true → i.runId = j.runId → i = j) ∧
    (∀ r ∈ c.runs, ∃ g, c.runGates.lookup r = some g ∧
      ∀ i ∈ c.invocations.rows, i.registered = true → i.runId = r → i.gate = g) ∧
    (∀ i ∈ c.invocations.rows, ∀ j ∈ c.invocations.rows, i.registered = true →
      j.registered = true → i.runId = j.runId → i.gate = j.gate) ∧
    ∀ k ∈ c.closers.rows, k.stage = .returned → ∀ d, ReflTransGen Step c d → d.runs = ∅ := by
  have hc : c.Serial := serial_initial.run h
  refine ⟨?_, ?_, hc.sameGate, ?_⟩
  · intro i hi j hj hexec hexec' hrun
    have hgate := hc.sameGate i hi j hj (registered_of_active (active_of_executing hexec))
      (registered_of_active (active_of_executing hexec')) hrun
    have hheld := hc.executing i hi hexec
    rw [hgate, hc.executing j hj hexec'] at hheld
    exact Table.eq_of_key hi hj (TaskId.invocation.inj (Option.some.inj hheld)).symm
  · intro r hr
    obtain ⟨g, hg⟩ := Option.isSome_iff_exists.mp (AList.lookup_isSome.mpr (hc.live r hr))
    refine ⟨g, hg, ?_⟩
    intro i hi hreg hrun
    rcases hc.registered i hi hreg with hgate | hover
    · rw [hrun, hg] at hgate
      exact (Option.some.inj hgate).symm
    · rw [hover.runs hc] at hr
      exact absurd hr (AList.notMem_empty r)
  · intro k hk hstage d hd
    have hover : d.Over :=
      invariant_of_run (I := Over) (fun _ _ hs hstep => hs.step hstep) ⟨k, hk, hstage⟩ hd
    exact hover.runs (hc.run hd)

/-! ## A run with two calls and a `close_all` -/

/-- A call of `invoke` up to the gate's lock. -/
def call (c : Coordinator) (id : Nat) (request : ActivityRequest) : Option Coordinator :=
  match c.acquireRunGate request.runId with
  | none => none
  | some (g, d) =>
    if hfresh : d.invocations.get? id = none then some (d.enter id request g hfresh) else none

/-- A call of `close_all` up to its first gate. -/
def callCloseAll (c : Coordinator) (id : Nat) : Option Coordinator :=
  if hfresh : c.closers.get? id = none then some (c.startClosing id hfresh) else none

instance (l : FairLock TaskId) (t : TaskId) : Decidable (l.Next t) := by
  unfold FairLock.Next
  infer_instance

/-- The call goes on to its next suspension, and nothing in it fails. -/
def goOn (c : Coordinator) (i : Invocation) : Option Coordinator :=
  match i.phase with
  | .waiting =>
    if (c.gates i.gate).lock.Next (.invocation i.id) then
      some ((c.wakeGate i.gate).setPhase i.id .begun)
    else none
  | .begun =>
    match c.beginCommand i.request with
    | some phase => some (c.setPhase i.id phase)
    | none => some (c.finish i)
  | .creating => some ((c.storeRun i.request).finish i)
  | .cleaning => some ((c.deleteRun i.request).finish i)
  | .working => some (c.finish i)
  | .leaving => some ((c.releaseRunGate i.runId i.gate).setPhase i.id .gone)
  | .gone => none

/-- `close_all` goes on to its next suspension. -/
def goOnClosing (c : Coordinator) (k : Closer) : Option Coordinator :=
  match k.stage, k.todo with
  | .acquiring, [] => some (c.clearRuns k)
  | .acquiring, g :: rest =>
    if k.asked then
      if (c.gates g).lock.Next (.closer k.id) then
        some ((c.wakeGate g).setCloser
          { k with held := k.held ++ [g], todo := rest, asked := false })
      else none
    else some (c.askGate k g rest)
  | .cleared, _ => some (c.clearGates k)
  | .returned, _ => none

/-- The event loop runs one task. -/
def resume (c : Coordinator) : TaskId → Option Coordinator
  | .invocation id => (c.invocations.get? id).bind c.goOn
  | .closer id => (c.closers.get? id).bind c.goOnClosing

def resumeAll (c : Coordinator) : List TaskId → Option Coordinator
  | [] => some c
  | t :: rest => (c.resume t).bind fun d => d.resumeAll rest

section

variable {c d : Coordinator}

theorem step_of_call {id : Nat} {request : ActivityRequest} (h : c.call id request = some d) :
    Step c d := by
  unfold call at h
  split at h
  · cases h
  · next g e hgate =>
      split at h
      · next hfresh =>
          cases h
          exact .enter hgate hfresh
      · cases h

theorem step_of_callCloseAll {id : Nat} (h : c.callCloseAll id = some d) : Step c d := by
  unfold callCloseAll at h
  split at h
  · next hfresh =>
      cases h
      exact .closeAll hfresh
  · cases h

theorem step_of_goOn {i : Invocation} (hi : i ∈ c.invocations.rows) (h : c.goOn i = some d) :
    Step c d := by
  unfold goOn at h
  cases hphase : i.phase with
  | waiting =>
      rw [hphase] at h
      dsimp only at h
      split at h
      · next hnext =>
          cases h
          exact .wake hi hphase hnext
      · cases h
  | begun =>
      rw [hphase] at h
      dsimp only at h
      split at h
      · next hbegin =>
          cases h
          exact .advance hi hphase hbegin
      · next hbegin =>
          cases h
          exact .answer hi hphase hbegin
  | creating =>
      rw [hphase] at h
      cases h
      exact .stored hi hphase
  | cleaning =>
      rw [hphase] at h
      cases h
      exact .deleted hi hphase
  | working =>
      rw [hphase] at h
      cases h
      refine .worked hi ?_
      unfold Invocation.executing
      rw [hphase]
      rfl
  | leaving =>
      rw [hphase] at h
      cases h
      exact .leave hi hphase
  | gone =>
      rw [hphase] at h
      cases h

theorem step_of_goOnClosing {k : Closer} (hk : k ∈ c.closers.rows)
    (h : c.goOnClosing k = some d) : Step c d := by
  unfold goOnClosing at h
  split at h
  · next hstage htodo =>
      cases h
      exact .clear hk hstage htodo
  · next hstage htodo =>
      split at h
      · next hasked =>
          split at h
          · next hnext =>
              cases h
              exact .granted hk hstage htodo hasked hnext
          · cases h
      · next hasked =>
          cases h
          exact .ask hk hstage htodo (Bool.not_eq_true _ ▸ hasked)
  · next hstage =>
      cases h
      exact .clearGates hk hstage
  · cases h

theorem step_of_resume {t : TaskId} (h : c.resume t = some d) : Step c d := by
  cases t with
  | invocation id =>
      obtain ⟨i, hi, hgoOn⟩ := Option.bind_eq_some_iff.mp h
      exact step_of_goOn (Table.mem_of_get? hi) hgoOn
  | closer id =>
      obtain ⟨k, hk, hgoOn⟩ := Option.bind_eq_some_iff.mp h
      exact step_of_goOnClosing (Table.mem_of_get? hk) hgoOn

theorem run_of_resumeAll {tasks : List TaskId} (h : c.resumeAll tasks = some d) :
    ReflTransGen Step c d := by
  induction tasks generalizing c with
  | nil =>
      cases h
      exact .refl
  | cons t rest ih =>
      obtain ⟨e, hresume, hrest⟩ := Option.bind_eq_some_iff.mp h
      exact .head (step_of_resume hresume) (ih hrest)

end

/-- Two calls for one run: the first has the gate, the second waits for it. -/
def twoCalls : Option Coordinator :=
  (initial.call 0 ⟨.start, "workflow_1", "run_1", "task_1"⟩).bind fun c =>
    c.call 1 ⟨.step, "workflow_1", "run_1", "task_1"⟩

theorem run_twoCalls {c : Coordinator} (h : twoCalls = some c) : ReflTransGen Step initial c := by
  obtain ⟨b, hfirst, hsecond⟩ := Option.bind_eq_some_iff.mp h
  exact .tail (.tail .refl (step_of_call hfirst)) (step_of_call hsecond)

/-- The first call makes the run and the second works on it, before `close_all` gets their gate. -/
def untilClosed (c : Coordinator) : Option Coordinator :=
  (c.callCloseAll 2).bind fun d =>
    d.resumeAll [.closer 2, .invocation 0, .invocation 0, .invocation 0, .invocation 1,
      .invocation 1, .invocation 1, .invocation 1, .closer 2, .closer 2, .closer 2]

theorem run_untilClosed {c d : Coordinator} (h : c.untilClosed = some d) :
    ReflTransGen Step c d := by
  obtain ⟨b, hclose, hrest⟩ := Option.bind_eq_some_iff.mp h
  exact .head (step_of_callCloseAll hclose) (run_of_resumeAll hrest)

/-- One of two calls executes; when `close_all` has returned after both, no run appears again. -/
theorem commands_serialized_twoCalls :
    ∃ c d, ReflTransGen Step initial c ∧ ReflTransGen Step c d ∧
      c.invocations.rows.map (fun i => (i.runId, i.phase)) =
        [("run_1", .begun), ("run_1", .waiting)] ∧
      (∀ i ∈ c.invocations.rows, ∀ j ∈ c.invocations.rows, i.executing = true →
        j.executing = true → i.runId = j.runId → i = j) ∧
      d.invocations.rows.map (fun i => (i.runId, i.phase)) =
        [("run_1", .gone), ("run_1", .gone)] ∧
      d.closers.rows.map (·.stage) = [.returned] ∧
      ∀ e, ReflTransGen Step d e → e.runs = ∅ := by
  have hphases : twoCalls.map (fun c => c.invocations.rows.map fun i => (i.runId, i.phase)) =
      some [("run_1", .begun), ("run_1", .waiting)] := by decide
  have hclosed : (twoCalls.bind untilClosed).map (fun d =>
      (d.invocations.rows.map (fun i => (i.runId, i.phase)), d.closers.rows.map (·.stage))) =
      some ([("run_1", .gone), ("run_1", .gone)], [.returned]) := by decide
  obtain ⟨c, hc, hphasesc⟩ := Option.map_eq_some_iff.mp hphases
  rw [hc, Option.bind_some] at hclosed
  obtain ⟨d, hd, hclosedd⟩ := Option.map_eq_some_iff.mp hclosed
  obtain ⟨hphasesd, hstages⟩ := Prod.mk.inj hclosedd
  have hrun := run_twoCalls hc
  have hrest := run_untilClosed hd
  obtain ⟨k, hk, hstage⟩ : ∃ k ∈ d.closers.rows, k.stage = .returned := by
    have hmem : CloseStage.returned ∈ d.closers.rows.map (·.stage) := by
      rw [hstages]
      exact List.mem_cons_self
    exact List.mem_map.mp hmem
  exact ⟨c, d, hrun, hrest, hphasesc, (commands_serialized hrun).1, hphasesd, hstages,
    (commands_serialized (hrun.trans hrest)).2.2.2 k hk hstage⟩

end FlowPilot.Planning.Coordinator
