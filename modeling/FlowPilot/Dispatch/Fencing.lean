import FlowPilot.Dispatch.Service

/-!
# Fencing

Tokens only go up, an operation under a token that is not current writes nothing but logs, and a
run ends exactly once.
-/

open Relation FlowPilot.Lib FlowPilot.Lib.FencedQueue

namespace FlowPilot

open Worker (WorkItem Repository Locked Current Refused)

section

variable [Sha256] {db after : Db}

/-! ## Operations under a stale token -/

/-- The branch that every method ends in when it does not find its rows. -/
theorem stale_refused {item : WorkItem} {now : Time} {reply : Bool} (hc : db.Consistent)
    (h : (do
      let db ← Worker.recordStaleFence db item now
      .ok (false, db) : Except Failure (Bool × Db)) = .ok (reply, after)) :
    reply = false ∧ Refused item db after := by
  rcases ok_of_bind h with ⟨db₁, hstale, h⟩
  cases h
  exact ⟨rfl, Worker.recordStaleFence_refused hc hstale⟩

theorem markStarted_stale {w : Repository} {item : WorkItem} {now : Time} {reply : Bool}
    (hc : db.Consistent) (hstale : ¬ Current db item)
    (h : Worker.markStarted w item now db = .ok (reply, after)) :
    reply = false ∧ Refused item db after := by
  unfold Worker.markStarted at h
  dsimp only at h
  split at h
  next outbox run houtbox hrun =>
    have ho := Table.one?_mem houtbox
    rcases of_decide_eq_true ho.2 with ⟨horg, hid, _, howner, hfence, _⟩
    exact absurd ⟨outbox, ho.1, horg, hid, howner, hfence⟩ hstale
  next => exact stale_refused hc h

theorem heartbeat_stale {item : WorkItem} {now : Time} {reply : Bool} (hc : db.Consistent)
    (hstale : ¬ Current db item) (h : Worker.heartbeat item now db = .ok (reply, after)) :
    reply = false ∧ Refused item db after := by
  unfold Worker.heartbeat at h
  dsimp only at h
  split at h
  · exact stale_refused hc h
  next hcount =>
    rcases Table.exists_of_count (by rw [not_not.mp hcount]; decide) with ⟨outbox, ho, hp⟩
    rcases of_decide_eq_true hp with ⟨horg, hid, _, howner, hfence, _⟩
    exact absurd ⟨outbox, ho, horg, hid, howner, hfence⟩ hstale

theorem recordDeduplicated_stale {item : WorkItem} {now : Time} {reply : Bool}
    (hc : db.Consistent) (hstale : ¬ Current db item)
    (h : Worker.recordDeduplicated item now db = .ok (reply, after)) :
    reply = false ∧ Refused item db after := by
  unfold Worker.recordDeduplicated at h
  dsimp only at h
  split at h
  · exact stale_refused hc h
  next hcount =>
    rcases Table.exists_of_count (by rw [not_not.mp hcount]; decide) with ⟨outbox, ho, hp⟩
    rcases of_decide_eq_true hp with ⟨horg, hid, howner, hfence⟩
    exact absurd ⟨outbox, ho, horg, hid, howner, hfence⟩ hstale

theorem complete_stale {w : Repository} {item : WorkItem} {outcome : Worker.TemporalOutcome}
    {now : Time} {reply : Bool} (hc : db.Consistent) (hstale : ¬ Current db item)
    (h : Worker.complete w item outcome now db = .ok (reply, after)) :
    reply = false ∧ Refused item db after := by
  unfold Worker.complete at h
  dsimp only at h
  split at h
  next outbox run houtbox hrun =>
    have ho := Table.one?_mem houtbox
    rcases of_decide_eq_true ho.2 with ⟨horg, hid, _, howner, hfence, _⟩
    exact absurd ⟨outbox, ho.1, horg, hid, howner, hfence⟩ hstale
  next => exact stale_refused hc h

theorem fail_stale {w : Repository} {item : WorkItem} {reason : TerminalReason} {now : Time}
    {reply : Bool} (hc : db.Consistent) (hstale : ¬ Current db item)
    (h : Worker.fail w item reason now db = .ok (reply, after)) :
    reply = false ∧ Refused item db after := by
  unfold Worker.fail at h
  dsimp only at h
  split at h
  next outbox run houtbox hrun =>
    have ho := Table.one?_mem houtbox
    rcases of_decide_eq_true ho.2 with ⟨horg, hid, _, howner, hfence, _⟩
    exact absurd ⟨outbox, ho.1, horg, hid, howner, hfence⟩ hstale
  next => exact stale_refused hc h

theorem release_stale {item : WorkItem} {now : Time} {reply : Bool} (hc : db.Consistent)
    (hstale : ¬ Current db item) (h : Worker.release item now db = .ok (reply, after)) :
    reply = false ∧ Refused item db after := by
  unfold Worker.release at h
  split at h
  · exact stale_refused hc h
  next outbox houtbox =>
    have ho := Table.one?_mem houtbox
    rcases of_decide_eq_true ho.2 with ⟨horg, hid, _, howner, hfence⟩
    exact absurd ⟨outbox, ho.1, horg, hid, howner, hfence⟩ hstale

/-- Whatever operation a work item is used for, it is refused once its token or its owner is not
the current one, and nothing but the two records of that is written. -/
theorem Call.commit_stale {c : Call} {item : WorkItem} {plane after : Control.Plane}
    {reply : Option WorkItem} (hc : plane.db.Consistent) (hitem : c.item? = some item)
    (hstale : ¬ Current plane.db item) (h : c.commit plane = .ok (reply, after)) :
    c.answer? plane.db = some false ∧ Refused item plane.db after.db ∧
      after.vault = plane.vault := by
  have hanswer : ∀ {body : Except Failure (Bool × Db)} {a : Bool} {db : Db},
      body = .ok (a, db) → a = false ∧ Refused item plane.db db →
      body.toOption.map (·.1) = some false ∧ Refused item plane.db db ∧
        plane.vault = plane.vault := by
    rintro _ _ _ rfl ⟨rfl, hrefused⟩
    exact ⟨rfl, hrefused, rfl⟩
  cases c <;> cases hitem <;> rcases onDb_ok h with ⟨a, db, hbody, rfl, rfl⟩
  case markStarted w now => exact hanswer hbody (markStarted_stale hc hstale hbody)
  case heartbeat w now => exact hanswer hbody (heartbeat_stale hc hstale hbody)
  case recordDeduplicated w now => exact hanswer hbody (recordDeduplicated_stale hc hstale hbody)
  case complete w outcome now => exact hanswer hbody (complete_stale hc hstale hbody)
  case fail w reason now => exact hanswer hbody (fail_stale hc hstale hbody)
  case release w now => exact hanswer hbody (release_stale hc hstale hbody)

/-! ## Claims -/

/-- A claim hands out a token above every earlier one of its row, and run and row agree on token
and owner. -/
theorem World.Valid.claim {world : World} (hv : world.Valid) {w : Repository} {locked : Locked}
    {now : Time} {item : WorkItem} {plane : Control.Plane}
    (h : (Call.claimNext w locked now).commit world.plane = .ok (some item, plane)) :
    (∀ old ∈ world.items, old.outboxId = item.outboxId →
      old.fencingToken < item.fencingToken) ∧
    ∃ o ∈ plane.db.outbox.rows, ∃ r ∈ plane.db.runs.rows,
      o.outboxId = item.outboxId ∧ r.runId = item.runId ∧ o.runId = r.runId ∧
      o.fencingToken = item.fencingToken ∧ r.fencingToken = item.fencingToken ∧
      o.leaseOwnerHash = some w.ownerHash ∧ r.leaseOwnerHash = some w.ownerHash := by
  rcases onDb_ok h with ⟨reply, db, hbody, hreply, rfl⟩
  cases hreply
  cases Worker.claimNext_ok hv.consistent hbody with
  | @leased _ o o' r r' hmove hleased =>
      have houtboxId : item.outboxId = o'.outboxId := by
        rw [hleased.issued.terms]
        rfl
      have hrunId : item.runId = r'.runId := by
        rw [hleased.issued.terms]
        rfl
      refine ⟨?_, o', hmove.outbox.new_mem, r', hmove.runs.new_mem, houtboxId.symm, hrunId.symm,
        hleased.issued.run, hleased.current, ?_, hleased.owner, ?_⟩
      · intro old hold hsame
        rcases hv.issued old hold with ⟨x, hx, s, hs, hissued⟩
        have hxid : old.outboxId = x.outboxId := by
          rw [hissued.terms]
          rfl
        have hkey : x.outboxId = o.outboxId := by
          rw [← hxid, hsame, houtboxId]
          exact hmove.outbox.same_key
        have hxo : x = o := Table.eq_of_key hx hmove.outbox.mem hkey
        have hle := hissued.fence
        rw [hxo] at hle
        have htoken := hleased.token
        omega
      · rw [← hmove.coupled.fence, hleased.current]
      · have hheld := hmove.coupled.held (.inl hleased.status)
        rw [hheld.same_owner, hleased.owner]

/-! ## Terminal runs -/

/-- The rows of a run that is over are the same in every later state. -/
theorem World.over_of_run {world later : World} (hv : world.Valid)
    (hrun : ReflTransGen World.Step world later) {r : ProductionRun}
    (hr : r ∈ world.plane.db.runs.rows) (hover : r.status.terminal) :
    r ∈ later.plane.db.runs.rows ∧
      ∀ o ∈ world.plane.db.outbox.rows, o.runId = r.runId → o ∈ later.plane.db.outbox.rows := by
  have hkept : later.Valid ∧ r ∈ later.plane.db.runs.rows ∧
      ∀ o ∈ world.plane.db.outbox.rows, o.runId = r.runId →
        o ∈ later.plane.db.outbox.rows := by
    induction hrun with
    | refl => exact ⟨hv, hr, fun o ho _ => ho⟩
    | tail _ hlast ih =>
        rcases ih with ⟨hmid, hrmid, homid⟩
        have htables := hlast.tables hmid
        refine ⟨hlast.valid hmid, htables.run_frozen hrmid hover, ?_⟩
        intro o ho hrunId
        have hmem := homid o ho hrunId
        have hor := hmid.consistent.coupled_run hmem hrmid hrunId
        apply htables.outbox_frozen hmem
        intro hactive
        exact (OutboxStatus.agrees_active hor.status).mp hactive hover
  exact hkept.2

theorem fencing_safety (directory : Directory) (authorities : Table ApprovalAuthority)
    (heads : Table AuditChainHead) (world : World)
    (hrun : ReflTransGen World.Step (World.start directory authorities heads) world) :
    (∀ w locked now item plane,
      (Call.claimNext w locked now).commit world.plane = .ok (some item, plane) →
      (∀ old ∈ world.items, old.outboxId = item.outboxId →
        old.fencingToken < item.fencingToken) ∧
      ∃ o ∈ plane.db.outbox.rows, ∃ r ∈ plane.db.runs.rows,
        o.outboxId = item.outboxId ∧ r.runId = item.runId ∧ o.runId = r.runId ∧
        o.fencingToken = item.fencingToken ∧ r.fencingToken = item.fencingToken ∧
        o.leaseOwnerHash = some w.ownerHash ∧ r.leaseOwnerHash = some w.ownerHash) ∧
    (∀ (c : Call) item reply plane, c.item? = some item → ¬ Current world.plane.db item →
      c.commit world.plane = .ok (reply, plane) →
      c.answer? world.plane.db = some false ∧ Refused item world.plane.db plane.db ∧
        plane.vault = world.plane.vault) ∧
    (∀ r ∈ world.plane.db.runs.rows,
      entriesAt world.effects r.runId = if r.status.terminal then [r.status] else []) ∧
    (∀ later, ReflTransGen World.Step world later →
      ∀ r ∈ world.plane.db.runs.rows, r.status.terminal →
        r ∈ later.plane.db.runs.rows ∧
        ∀ o ∈ world.plane.db.outbox.rows, o.runId = r.runId →
          o ∈ later.plane.db.outbox.rows) := by
  have hv := World.valid_of_run (World.valid_start directory authorities heads) hrun
  refine ⟨?_, ?_, ?_, ?_⟩
  · intro w locked now item plane hcommit
    exact hv.claim hcommit
  · intro c item reply plane hitem hstale hcommit
    exact Call.commit_stale hv.consistent hitem hstale hcommit
  · intro r hr
    rw [hv.ledger r.runId]
    unfold Db.queue
    rw [show world.plane.db.runs.get? r.runId = some r from Table.get?_of_mem hr]
    exact outcomeOf_run r
  · intro later hlater r hr hover
    exact World.over_of_run hv hlater hr hover

end

section

attribute [local instance] polynomialSha256

namespace Sample

/-- What the sample below is about, evaluated together. -/
theorem releasedAndLeased_evaluated :
    releasedAndLeased.items.map (·.fencingToken) = [1, 2] ∧
      ((Call.release worker item (4 * second)).commit releasedAndLeased.plane).isOk = true ∧
      ∀ o ∈ releasedAndLeased.plane.db.outbox.rows, o.fencingToken ≠ item.fencingToken := by
  decide +kernel

end Sample

/-- A lease, its release and a second lease: the tokens are one and two, and a release under the
first token is refused. -/
theorem fencing_safety_sample :
    Sample.releasedAndLeased.items.map (·.fencingToken) = [1, 2] ∧
    ∃ reply plane, (Call.release Sample.worker Sample.item (4 * second)).commit
        Sample.releasedAndLeased.plane = .ok (reply, plane) ∧
      (Call.release Sample.worker Sample.item (4 * second)).answer?
        Sample.releasedAndLeased.plane.db = some false ∧
      Refused Sample.item Sample.releasedAndLeased.plane.db plane.db := by
  have ⟨htokens, hok, hrows⟩ := Sample.releasedAndLeased_evaluated
  refine ⟨htokens, ?_⟩
  have ⟨⟨reply, plane⟩, hcommit⟩ := ok_of_isOk hok
  have hstale : ¬ Current Sample.releasedAndLeased.plane.db Sample.item := by
    intro ⟨o, ho, _, _, _, hfence⟩
    exact hrows o ho hfence
  have hrun := World.run_of_serial Sample.releasedAndLeased_run
  obtain ⟨hanswer, hrefused, _⟩ := (fencing_safety Sample.directory .empty Sample.heads
    Sample.releasedAndLeased hrun).2.1 _ _ _ _ rfl hstale hcommit
  exact ⟨reply, plane, hcommit, hanswer, hrefused⟩

end

end FlowPilot
