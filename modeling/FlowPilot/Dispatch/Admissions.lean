import FlowPilot.Dispatch.Records
import FlowPilot.Dispatch.Sessions

/-!
# Idempotent admission

An admission checks its key before it takes a lock, and the flush that inserts the record of the
key stands outside the handler of the commit.  Between the check and the flush another admission
of the key can be committed.
-/

open FlowPilot.Lib FlowPilot.Lib.Sessions Relation

namespace FlowPilot

open Control (ActorContext AdmitReads Plane RunCreate)

section

variable [Sha256] {db after : Db}

/-! ## What an admission has read -/

theorem Control.evaluateProductionRisk_error {organizationId : OrganizationId}
    {actionType : String} {parameters : List (String × Json)} {failure : Failure}
    (h : Control.evaluateProductionRisk db organizationId actionType parameters =
      .error failure) : failure = .riskSchemaRejected := by
  have hrisk : ∀ {parameters facts failure},
      Control.evaluateRisk actionType parameters facts = .error failure →
      failure = .riskSchemaRejected := by
    intro parameters facts failure h
    unfold Control.evaluateRisk at h
    split at h
    · cases h
    · split at h
      · cases h
        rfl
      · cases h
  unfold Control.evaluateProductionRisk at h
  rcases error_of_bind h with h | ⟨validated, _, h⟩
  · exact hrisk h
  · split at h
    · cases h
    · exact hrisk h

/-- The record of a key of an actor. -/
structure IdempotencyRecord.Under (record : IdempotencyRecord) (actor : ActorContext)
    (key : String) : Prop where
  organization : record.organizationId = actor.organizationId
  actor : record.actorUserId = actor.userId
  key : record.keyHash = stableHashText key

theorem under_iff {record : IdempotencyRecord} {actor : ActorContext} {key : String} :
    record.Under actor key ↔ Keyed.key record =
      (actor.organizationId, actor.userId, stableHashText key) := by
  show _ ↔ (record.organizationId, record.actorUserId, record.keyHash) = _
  rw [Prod.mk.injEq, Prod.mk.injEq]
  exact ⟨fun h => ⟨h.organization, h.actor, h.key⟩, fun ⟨horg, hactor, hkey⟩ => ⟨horg, hactor, hkey⟩⟩

theorem IdempotencyRecord.Under.unique {x y : IdempotencyRecord} {actor : ActorContext}
    {key : String} (hx : x ∈ db.idempotency.rows) (hxu : x.Under actor key)
    (hy : y ∈ db.idempotency.rows) (hyu : y.Under actor key) : x = y :=
  Table.eq_of_key hx hy ((under_iff.mp hxu).trans (under_iff.mp hyu).symm)

/-- What the key check has found is still there. -/
structure Control.AdmitReads.Current (reads : AdmitReads) (db : Db) (actor : ActorContext)
    (organizationId : OrganizationId) (key : String) (payload : RunCreate) : Prop where
  found : ∀ run, reads.existing = .ok (some run) → ∃ record ∈ db.idempotency.rows,
    record.Under actor key ∧ record.bodyHash = stableHash payload.json ∧ record.Of run
  refused : ∀ failure, reads.existing = .error failure →
    failure = .idempotencyConflict "idempotency_mismatch" ∧
    ∃ record ∈ db.idempotency.rows, record.Under actor key ∧
      record.bodyHash ≠ stableHash payload.json
  schema : ∀ failure, reads.evaluated = .error failure → failure = .riskSchemaRejected
  arguments : ∀ a, reads.evaluated = .ok a → a.actor = actor ∧ a.organizationId = organizationId ∧
    a.keyHash = stableHashText key ∧ a.bodyHash = stableHash payload.json

/-- The reads of an open session, where it is an admission. -/
def Session.Current (db : Db) : Session → Prop
  | .admitRun actor organizationId key payload _ reads =>
    reads.Current db actor organizationId key payload
  | _ => True

theorem Control.admission_evaluated {actor : ActorContext} {organizationId : OrganizationId}
    {key : String} {payload : RunCreate} {now : Time} :
    (∀ failure, Control.admission db actor organizationId key payload now = .error failure →
      failure = .riskSchemaRejected) ∧
    ∀ a, Control.admission db actor organizationId key payload now = .ok a →
      a.actor = actor ∧ a.organizationId = organizationId ∧ a.keyHash = stableHashText key ∧
        a.bodyHash = stableHash payload.json := by
  unfold Control.admission
  constructor
  · intro failure h
    rcases error_of_bind h with h | ⟨evaluation, _, h⟩
    · exact Control.evaluateProductionRisk_error h
    · cases h
  · intro a h
    obtain ⟨evaluation, _, h⟩ := ok_of_bind h
    cases h
    exact ⟨rfl, rfl, rfl, rfl⟩

/-- The key check on a store whose records have their runs. -/
theorem Control.admitReads_current {plane : Plane} (hdb : plane.db.Recorded)
    {actor : ActorContext} {organizationId : OrganizationId} {key : String}
    {payload : RunCreate} {now : Time} :
    (Control.admitReads actor organizationId key payload now plane).Current plane.db actor
      organizationId key payload := by
  have hcheck : ∀ result, Control.existingIdempotentRun plane.db actor (stableHashText key)
      (stableHash payload.json) = result → result = .ok none ∨
      ∃ record ∈ plane.db.idempotency.rows, record.Under actor key ∧
        ((record.bodyHash ≠ stableHash payload.json ∧
          result = .error (.idempotencyConflict "idempotency_mismatch")) ∨
        record.bodyHash = stableHash payload.json ∧
          ∃ run, result = .ok (some run) ∧ record.Of run) := by
    intro result h
    unfold Control.existingIdempotentRun at h
    split at h
    · exact .inl h.symm
    next record hrecord =>
      obtain ⟨hmem, hcondition⟩ := Table.one?_mem hrecord
      obtain ⟨horganization, hactor, hkey⟩ := of_decide_eq_true hcondition
      refine .inr ⟨record, hmem, ⟨horganization, hactor, hkey⟩, ?_⟩
      split at h
      next hbody => exact .inl ⟨hbody, h.symm⟩
      next hbody =>
        obtain ⟨run, hrun, hof⟩ := hdb.run record hmem
        have hfound : plane.db.runs.one? (fun r => r.organizationId = actor.organizationId ∧
            r.runId = record.runId) = some run := by
          rw [Table.one?_of_key (k := run.runId)
            (fun r hr => (of_decide_eq_true hr).2.trans hof.run), ← key_run,
            Table.get?_of_mem hrun, Option.filter_some, if_pos]
          exact decide_eq_true ⟨hof.organization.symm.trans horganization, hof.run.symm⟩
        rw [hfound] at h
        exact .inr ⟨not_not.mp hbody, run, h.symm, hof⟩
  refine ⟨?_, ?_, Control.admission_evaluated.1, Control.admission_evaluated.2⟩
  · intro run h
    rcases hcheck _ h with hnone | ⟨record, hmem, hunder, ⟨_, herror⟩ | ⟨hbody, run', hrun, hof⟩⟩
    · cases hnone
    · cases herror
    · cases hrun
      exact ⟨record, hmem, hunder, hbody, hof⟩
  · intro failure h
    rcases hcheck _ h with hnone | ⟨record, hmem, hunder, ⟨hbody, herror⟩ | ⟨_, run', hrun, _⟩⟩
    · cases hnone
    · cases herror
      exact ⟨rfl, record, hmem, hunder, hbody⟩
    · cases hrun

theorem Session.Current.kept {s : Session} (h : s.Current db) (hstep : db.Admits after) :
    s.Current after := by
  cases s with
  | admitRun actor organizationId key payload now reads =>
    refine ⟨?_, ?_, h.schema, h.arguments⟩
    · intro run hrun
      obtain ⟨record, hmem, hrest⟩ := h.found run hrun
      exact ⟨record, hstep.records hmem, hrest⟩
    · intro failure hfailure
      obtain ⟨hcode, record, hmem, hrest⟩ := h.refused failure hfailure
      exact ⟨hcode, record, hstep.records hmem, hrest⟩
  | claimRun => trivial
  | cancel => trivial

/-! ## Interleaved sessions -/

theorem Session.commit_admits {s : Session} {plane next : Plane}
    {reply : Except Failure ProductionRun} (hc : plane.db.Consistent)
    (h : s.commit plane = .ok (reply, next)) : plane.db.Admits next.db := by
  cases s with
  | admitRun actor organizationId key payload now reads =>
    rcases admitProductionRun_ok h with ⟨run, _, _, rfl⟩ | ⟨a, _, _, hbody⟩
    · exact .same (.of_idle (.refl _))
    · exact (Control.admitLocked_ok hc hbody).admits
  | claimRun => exact .same (Control.claimProductionRun_ok hc h).sameAdmissions
  | cancel => exact .same (Control.cancelProductionRun_ok hc h).sameAdmissions

/-- What holds of the store between two steps. -/
structure World.Admitting (world : World) : Prop where
  valid : world.Valid
  counted : world.plane.db.Counted
  recorded : world.plane.db.Recorded

omit [Sha256] in
theorem World.Admitting.store {world : World} (h : world.Admitting) : world.plane.db.Admitting :=
  ⟨h.valid.consistent, h.recorded, h.counted.range⟩

omit [Sha256] in
theorem World.admitting_start (directory : Directory) (authorities : Table ApprovalAuthority)
    (heads : Table AuditChainHead) : (World.start directory authorities heads).Admitting where
  valid := World.valid_start directory authorities heads
  counted := Db.Counted.initial directory authorities heads
  recorded := Db.Recorded.initial directory authorities heads

/-- The step lemma: the records and the runs stay together, and what the key check of an open
admission has found stays true, whatever commits. -/
theorem admissions_invariant :
    Invariant services Anything World.Admitting fun world s => s.Current world.plane.db where
  opens := by
    intro world s hs h
    rw [← show s.read world.plane = s from h]
    cases s with
    | admitRun => exact Control.admitReads_current hs.recorded
    | claimRun => trivial
    | cancel => trivial
  rereads := by
    intro world s t _ hcurrent h
    cases h with
    | evaluated =>
      exact ⟨hcurrent.found, hcurrent.refused, Control.admission_evaluated.1,
        Control.admission_evaluated.2⟩
    | visible => exact ⟨hcurrent.found, hcurrent.refused, hcurrent.schema, hcurrent.arguments⟩
    | claimVisible => trivial
    | claimRows => trivial
    | claimChecks => trivial
  commits := by
    rintro world s _ hs _ _ ⟨reply, plane, hcommit, rfl⟩
    have hadmits := Session.commit_admits hs.valid.consistent hcommit
    exact ⟨⟨hs.valid.session hcommit,
      (Session.commit_step hs.valid.consistent hcommit).counted hs.counted,
      hadmits.recorded hs.recorded⟩, fun t ht => ht.kept hadmits⟩
  other := by
    rintro world next hs h
    have hadmits := h.step.admits hs.valid
    exact ⟨⟨h.step.valid hs.valid, (h.step.tables hs.valid).counted hs.counted,
      hadmits.recorded hs.recorded⟩, fun t ht => ht.kept hadmits⟩

/-! ## The answers of admissions -/

/-- What a session answers, with the plane after it: what it raises rolls back. -/
def Session.outcome (plane : Plane) (s : Session) : Control.Outcome ProductionRun :=
  transact plane (s.commit plane)

/-- The rate limit or the capacity has refused the call. -/
inductive Limited : Except Failure ProductionRun → Prop where
  | rate {retryAfter : Nat} : Limited (.error (.rateLimitExceeded retryAfter))
  | capacity {retryAfter : Nat} : Limited (.error (.backpressureExceeded retryAfter))

/-- The answer to an admission under a key, where the records are those of `db`.  Bodies are
compared by their hashes. -/
structure Answered (db : Db) (actor : ActorContext) (key : String) (payload : RunCreate)
    (reply : Except Failure ProductionRun) : Prop where
  same : ∀ record ∈ db.idempotency.rows, record.Under actor key →
    record.bodyHash = stableHash payload.json →
    (∃ run, reply = .ok run ∧ record.Of run) ∨ Limited reply
  other : ∀ record ∈ db.idempotency.rows, record.Under actor key →
    record.bodyHash ≠ stableHash payload.json →
    reply = .error (.idempotencyConflict "idempotency_mismatch")
  surfaced : reply ≠ .error .integrityError

/-- No admission under the key was committed since the key check of this one. -/
def KeyUnmoved (db : Db) (actor : ActorContext) (key : String) (reads : AdmitReads) : Prop :=
  reads.existing = .ok none → ∀ record ∈ db.idempotency.rows, ¬ record.Under actor key

section

variable {world : World} {actor : ActorContext} {organizationId : OrganizationId} {key : String}
  {payload : RunCreate} {reads : AdmitReads}

/-- The answer of an admission with the reads that it has made. -/
abbrev Control.admitOutcome (actor : ActorContext) (organizationId : OrganizationId)
    (reads : AdmitReads) (plane : Plane) : Control.Outcome ProductionRun :=
  transact plane (Control.admitProductionRun actor organizationId reads plane)

/-- A key check that has found the record of the same body returns its run. -/
theorem answered_found
    (hcurrent : reads.Current world.plane.db actor organizationId key payload)
    (horganization : actor.organizationId = organizationId) {run : ProductionRun}
    (hfound : reads.existing = .ok (some run)) :
    let outcome := Control.admitOutcome actor organizationId reads world.plane
    Answered outcome.2.db actor key payload outcome.1 := by
  have houtcome : Control.admitOutcome actor organizationId reads world.plane =
      (.ok run, world.plane) := by
    unfold Control.admitOutcome Control.admitProductionRun
    rw [if_neg (not_not.mpr horganization), hfound]
    rfl
  obtain ⟨record, hmem, hunder, hbody, hof⟩ := hcurrent.found run hfound
  dsimp only
  rw [houtcome]
  refine ⟨?_, ?_, fun h => by cases h⟩
  · intro x hx hxu _
    rw [hxu.unique hx hmem hunder]
    exact .inl ⟨run, rfl, hof⟩
  · intro x hx hxu hother
    rw [hxu.unique hx hmem hunder] at hother
    exact absurd hbody hother

/-- A key check that has found the record of another body is answered with the conflict. -/
theorem answered_refused
    (hcurrent : reads.Current world.plane.db actor organizationId key payload)
    (horganization : actor.organizationId = organizationId) {failure : Failure}
    (hrefused : reads.existing = .error failure) :
    let outcome := Control.admitOutcome actor organizationId reads world.plane
    Answered outcome.2.db actor key payload outcome.1 := by
  obtain ⟨rfl, record, hmem, hunder, hbody⟩ := hcurrent.refused failure hrefused
  have houtcome : Control.admitOutcome actor organizationId reads world.plane =
      (.error (.idempotencyConflict "idempotency_mismatch"), world.plane) := by
    unfold Control.admitOutcome Control.admitProductionRun
    rw [if_neg (not_not.mpr horganization), hrefused]
    rfl
  dsimp only
  rw [houtcome]
  refine ⟨?_, fun _ _ _ _ => rfl, fun h => by cases h⟩
  intro x hx hxu hsame
  rw [hxu.unique hx hmem hunder] at hsame
  exact absurd hsame hbody

/-- Without a record the answer is only not the integrity error. -/
theorem answered_without {reply : Except Failure ProductionRun}
    (hfree : ∀ record ∈ db.idempotency.rows, ¬ record.Under actor key)
    (hne : reply ≠ .error .integrityError) : Answered db actor key payload reply where
  same := fun record hrecord hunder => absurd hunder (hfree record hrecord)
  other := fun record hrecord hunder => absurd hunder (hfree record hrecord)
  surfaced := hne

/-- A key that was free at its check leaves the rest to the locked part. -/
theorem admitOutcome_free (horganization : actor.organizationId = organizationId)
    (hnone : reads.existing = .ok none) (plane : Plane) :
    Control.admitOutcome actor organizationId reads plane =
      transact plane (do
        let a ← reads.evaluated
        Control.admitLocked a reads.visible plane) := by
  unfold Control.admitOutcome Control.admitProductionRun
  rw [if_neg (not_not.mpr horganization), hnone]
  rfl

/-- A key that is still free is given to the new run. -/
theorem answered_free (hs : world.Admitting)
    (hcurrent : reads.Current world.plane.db actor organizationId key payload)
    (horganization : actor.organizationId = organizationId) (hnone : reads.existing = .ok none)
    (hfree : ∀ record ∈ world.plane.db.idempotency.rows, ¬ record.Under actor key) :
    let outcome := Control.admitOutcome actor organizationId reads world.plane
    Answered outcome.2.db actor key payload outcome.1 := by
  dsimp only
  rw [admitOutcome_free horganization hnone]
  cases hevaluated : reads.evaluated with
  | error failure =>
    refine answered_without hfree ?_
    rw [hcurrent.schema failure hevaluated]
    exact fun h => by cases h
  | ok a =>
    obtain ⟨hactor, horg, hkey, hbody⟩ := hcurrent.arguments a hevaluated
    have hunique : world.plane.db.idempotency.get?
        (a.organizationId, a.actor.userId, a.keyHash) = none := by
      refine Table.get?_eq_none.mpr fun record hrecord hkeys => ?_
      rw [hactor, horg, hkey, ← horganization] at hkeys
      exact hfree record hrecord (under_iff.mpr hkeys)
    have hlockedAvoids :
        Avoids .integrityError (Control.admitLocked a reads.visible world.plane) :=
      Control.admitLocked_avoids hs.store hunique
    show Answered (transact world.plane (Control.admitLocked a reads.visible world.plane)).2.db _ _
      _ (transact world.plane (Control.admitLocked a reads.visible world.plane)).1
    cases hlocked : Control.admitLocked a reads.visible world.plane with
    | error failure =>
      refine answered_without hfree fun h => ?_
      cases h
      exact hlockedAvoids hlocked
    | ok result =>
      obtain ⟨reply, after⟩ := result
      show Answered after.db actor key payload reply
      cases Control.admitLocked_ok hs.valid.consistent hlocked with
      | rejected hidle hne =>
        refine answered_without ?_ fun h => ?_
        · rw [hidle.idempotency]
          exact hfree
        · cases h
          exact hne rfl
      | @admitted run hadmitted =>
        obtain ⟨record, hfresh, hrecords, hof, hbodyHash⟩ := Db.admitted_record hadmitted
        have hnew : ∀ x ∈ after.db.idempotency.rows, x.Under actor key → x = record := by
          intro x hx hxu
          rw [hrecords] at hx
          rcases (Table.mem_insert hfresh).mp hx with hold | rfl
          · exact absurd hxu (hfree x hold)
          · rfl
        refine ⟨?_, ?_, fun h => by cases h⟩
        · intro x hx hxu _
          rw [hnew x hx hxu]
          exact .inl ⟨run, rfl, hof⟩
        · intro x hx hxu hother
          rw [hnew x hx hxu, hbodyHash, hbody] at hother
          exact absurd rfl hother

/-- A key that was taken since its check gets no run. -/
theorem refused_of_moved (hs : world.Admitting)
    (hcurrent : reads.Current world.plane.db actor organizationId key payload)
    (horganization : actor.organizationId = organizationId)
    (hmoved : ¬ KeyUnmoved world.plane.db actor key reads) (run : ProductionRun) :
    (Control.admitOutcome actor organizationId reads world.plane).1 ≠ .ok run := by
  unfold KeyUnmoved at hmoved
  push Not at hmoved
  obtain ⟨hnone, record, hrecord, hunder⟩ := hmoved
  rw [admitOutcome_free horganization hnone]
  intro h
  rcases transact_cases (Prod.ext h rfl) with hbody | ⟨failure, _, herror, _⟩
  · obtain ⟨a, hevaluated, hlocked⟩ := ok_of_bind hbody
    obtain ⟨hactor, horg, hkey, _⟩ := hcurrent.arguments a hevaluated
    cases Control.admitLocked_ok hs.valid.consistent hlocked with
    | admitted hadmitted =>
      obtain ⟨added, hfresh, _, horgR, hactorR, hkeyR, _⟩ := hadmitted.idempotency
      refine Table.get?_eq_none.mp hfresh record hrecord ?_
      rw [under_iff.mp hunder]
      show _ = (added.organizationId, added.actorUserId, added.keyHash)
      rw [horgR, hactorR, hkeyR, hactor, horg, hkey, horganization]
  · cases herror

end

/-- In every interleaving a key has one run and one record.  A call whose key was not taken
between its check and its commit is answered as an idempotent admission; a call whose key was
taken gets no run. -/
theorem admission_idempotent (directory : Directory) (authorities : Table ApprovalAuthority)
    (heads : Table AuditChainHead) (c : Config World Session)
    (hrun : ReflTransGen (Step services Anything)
      (Config.start (World.start directory authorities heads)) c) :
    (∀ r ∈ c.store.plane.db.runs.rows, ∀ s ∈ c.store.plane.db.runs.rows,
      r.organizationId = s.organizationId → r.requesterUserId = s.requesterUserId →
      r.idempotencyHash = s.idempotencyHash → r = s) ∧
    (∀ x ∈ c.store.plane.db.idempotency.rows, ∀ y ∈ c.store.plane.db.idempotency.rows,
      ∀ actor key, x.Under actor key → y.Under actor key → x = y) ∧
    (∀ r ∈ c.store.plane.db.runs.rows, ∃ x ∈ c.store.plane.db.idempotency.rows, x.Of r) ∧
    (∀ x ∈ c.store.plane.db.idempotency.rows, ∃ r ∈ c.store.plane.db.runs.rows, x.Of r) ∧
    ∀ i actor organizationId key payload now reads,
      c.opened i = some (.admitRun actor organizationId key payload now reads) →
      actor.organizationId = organizationId →
      let outcome := (Session.admitRun actor organizationId key payload now reads).outcome
        c.store.plane
      (KeyUnmoved c.store.plane.db actor key reads →
        Answered outcome.2.db actor key payload outcome.1) ∧
      (¬ KeyUnmoved c.store.plane.db actor key reads → ∀ run, outcome.1 ≠ .ok run) := by
  obtain ⟨hs, hcurrent⟩ := admissions_invariant.run
    (holds_start (World.admitting_start directory authorities heads)) hrun
  refine ⟨fun r hr s hs' => hs.recorded.single hr hs', fun x hx y hy _ _ hxu hyu =>
    hxu.unique hx hy hyu, hs.recorded.record, hs.recorded.run, ?_⟩
  intro i actor organizationId key payload now reads hopen horganization
  have hreads := hcurrent i _ hopen
  refine ⟨fun hkey => ?_, fun hmoved => refused_of_moved hs hreads horganization hmoved⟩
  cases hexisting : reads.existing with
  | error failure => exact answered_refused hreads horganization hexisting
  | ok existing =>
    cases existing with
    | some run => exact answered_found hreads horganization hexisting
    | none => exact answered_free hs hreads horganization hexisting (hkey hexisting)

end

/-! ## The same request twice -/

section

attribute [local instance] polynomialSha256

namespace Sample

/-- The first admission has been committed, and the same request is made again. -/
def repeated : Session := admitting "idempotency-key-1" second firstQueued.store.plane

theorem repeated_returns : (repeated.outcome firstQueued.store.plane).1.isOk = true := by
  decide +kernel

theorem repeated_recorded : (repeated.outcome firstQueued.store.plane).2.db.idempotency.rows.any
    (fun r => decide (r.organizationId = actor.organizationId ∧ r.actorUserId = actor.userId ∧
      r.keyHash = stableHashText "idempotency-key-1" ∧ r.bodyHash = stableHash draft.json)) =
    true := by
  decide +kernel

/-- Both requests check the key before either commits. -/
def duplicated : Config World Session :=
  firstAdmission.finish (firstAdmission.openIn (firstAdmission.openIn quietConfig 0) 1) 0

theorem duplicated_run : ReflTransGen (Step services Anything) quietConfig duplicated := by
  refine Session.finish_run ?_ ?_ trivial
  · refine Session.openIn_run (Session.openIn_run .refl rfl rfl) ?_ rfl
    exact Session.openIn_of_ne Nat.one_ne_zero
  · exact (Session.openIn_of_ne Nat.zero_ne_one).trans (Session.openIn_self _ _ _)

theorem duplicated_opened : duplicated.opened 1 = some firstAdmission := by
  unfold duplicated
  rw [Session.finish_of_ne Nat.one_ne_zero]
  exact Session.openIn_self _ _ _

theorem duplicated_raises :
    raises .integrityError (firstAdmission.outcome duplicated.store.plane).1 = true := by
  decide +kernel

end Sample

/-- The second request returns the run of the first. -/
theorem admission_idempotent_repeated :
    ∃ record ∈ (Sample.repeated.outcome Sample.firstQueued.store.plane).2.db.idempotency.rows,
      ∃ run, (Sample.repeated.outcome Sample.firstQueued.store.plane).1 = .ok run ∧
        record.Of run := by
  obtain ⟨record, hrecord, hcondition⟩ := List.any_eq_true.mp Sample.repeated_recorded
  obtain ⟨horganization, hactor, hkey, hbody⟩ := of_decide_eq_true hcondition
  obtain ⟨run, hok⟩ := ok_of_isOk Sample.repeated_returns
  have hopened : ReflTransGen (Step services Anything) Sample.quietConfig
      (Sample.repeated.openIn Sample.firstQueued 0) :=
    Session.openIn_run (Sample.firstQueued_run trivial) Sample.firstQueued_free rfl
  have hstore := Session.openIn_store Sample.repeated Sample.firstQueued 0
  have hsession : Sample.repeated = .admitRun Sample.actor ⟨1⟩ "idempotency-key-1" Sample.draft
      second (Control.admitReads Sample.actor ⟨1⟩ "idempotency-key-1" Sample.draft second
        Sample.firstQueued.store.plane) := rfl
  have hopen := Session.openIn_self Sample.repeated Sample.firstQueued 0
  have hboth := (admission_idempotent Sample.directory .empty Sample.heads _ hopened).2.2.2.2 0
  generalize Sample.repeated.openIn Sample.firstQueued 0 = c at hopen hboth hstore
  rw [hsession] at hopen
  have hboth := hboth _ _ _ _ _ _ hopen rfl
  dsimp only at hboth
  rw [← hsession, hstore] at hboth
  have hunmoved := not_imp_comm.mp hboth.2 fun hnone => hnone run hok
  rcases (hboth.1 hunmoved).same record hrecord ⟨horganization, hactor, hkey⟩ hbody with
    ⟨run', hrun', hof⟩ | hlimited
  · exact ⟨record, hrecord, run', hrun', hof⟩
  · rw [hok] at hlimited
    cases hlimited

/-- The second of two requests that both checked the key first surfaces the integrity error. -/
theorem admission_not_idempotent_duplicated :
    ReflTransGen (Step services Anything) Sample.quietConfig Sample.duplicated ∧
      Sample.duplicated.opened 1 = some Sample.firstAdmission ∧
      (Sample.firstAdmission.outcome Sample.duplicated.store.plane).1 =
        .error .integrityError :=
  ⟨Sample.duplicated_run, Sample.duplicated_opened, error_of_raises Sample.duplicated_raises⟩

end

end FlowPilot
