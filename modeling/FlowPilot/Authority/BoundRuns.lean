import FlowPilot.Authority.Recheck

/-!
# Runs bound to the facts of their claim

A run is queued by an admission or by the claim of its grant, with the hash of the actor that was
resolved for the request and the hash of the approvals that the claim read.  Whatever happens in
between, the worker goes on with the run only while these facts are what they were.
-/

open Relation FlowPilot.Lib

namespace FlowPilot

open Control (ActorContext Plane VerifiedIdentity)
open Worker (WorkItem Repository TemporalOutcome Issued)

section

variable [Sha256]

/-- The calls that queue a run for `actor`.  A claim acts on its unlocked reads of `seen`. -/
inductive Queueing (seen : Plane) (actor : ActorContext) : Call → Prop where
  | admission {a : Control.Admission} {visible : List OrganizationId} (hactor : a.actor = actor) :
      Queueing seen actor (.admitRun a visible)
  | claim {organizationId : OrganizationId} {runId : RunId} {expectedVersion : Nat} {now : Time}
      {payload : Control.RunClaim} :
      Queueing seen actor (.claimRun actor organizationId runId expectedVersion now
        (Control.runClaimReads organizationId runId payload now seen))

theorem Queueing.no_item {seen : Plane} {actor : ActorContext} {c : Call}
    (h : Queueing seen actor c) : c.item? = none := by
  cases h <;> rfl

/-- The run is queued in `after`, and in `db` it was not there or waited for its approval. -/
structure NewlyQueued (db after : Db) (run : ProductionRun) : Prop where
  mem : run ∈ after.runs.rows
  status : run.status = .queued
  before : ∀ s ∈ db.runs.rows, s.runId = run.runId → s.status = .waitingApproval

omit [Sha256] in
theorem NewlyQueued.not_old {db after : Db} {run : ProductionRun}
    (h : NewlyQueued db after run) : run ∉ db.runs.rows := by
  intro hold
  have hwaiting := h.before run hold rfl
  rw [h.status] at hwaiting
  cases hwaiting

omit [Sha256] in
theorem NewlyQueued.not_same {db after : Db} {run : ProductionRun}
    (h : NewlyQueued db after run) : after.runs ≠ db.runs := by
  intro hsame
  have hmem := h.mem
  rw [hsame] at hmem
  exact h.not_old hmem

/-- The hashes of the run are those of the actor and of the approvals at `seen`. -/
structure BoundTo (seen : Db) (actor : ActorContext) (approvals : List ApprovalFact)
    (run : ProductionRun) : Prop where
  authorization : run.authorizationHash = actor.authorizationHash
  approvals : ∀ requestId, run.approvalRequestId = some requestId →
    Worker.approvalFacts seen run.organizationId requestId = some approvals ∧
      run.approvalSetHash = some (stableHash (approvalSetJson approvals))

/-! ## Claims -/

theorem claimChecks_ok {organizationId : OrganizationId} {payload : Control.GrantClaim}
    {request : ApprovalRequest} {grant : ApprovalGrant} {now : Time} {plane : Plane}
    (h : Control.claimChecks organizationId payload request grant now plane = .ok ()) :
    ∃ decisions, Control.activeApprovalSet plane.db request =
      .ok (decisions, grant.approvalSetHash) := by
  unfold Control.claimChecks at h
  split at h
  · cases h
  · obtain ⟨evaluation, _, h⟩ := ok_of_bind h
    obtain ⟨⟨decisions, setHash⟩, hset, h⟩ := ok_of_bind h
    dsimp only at h
    split at h
    next hclaimable =>
      unfold Control.claimable at hclaimable
      obtain ⟨_, _, _, _, _, _, _, _, _, _, _, _, _, hhash, _⟩ := hclaimable
      rw [hhash]
      exact ⟨decisions, hset⟩
    · cases h

/-- What the checks of a claim have established about the rows that it read. -/
theorem runClaimReads_checked {organizationId : OrganizationId} {runId : RunId}
    {payload : Control.RunClaim} {now : Time} {seen : Plane} {run : ProductionRun}
    {requestId : RequestId} {request : ApprovalRequest} {grant : ApprovalGrant}
    (hrun : (Control.runClaimReads organizationId runId payload now seen).run = some run)
    (hrequestId : run.approvalRequestId = some requestId)
    (hrequest :
      (Control.runClaimReads organizationId runId payload now seen).rows.request = some request)
    (hgrant :
      (Control.runClaimReads organizationId runId payload now seen).rows.grant = some grant)
    (hchecks : (Control.runClaimReads organizationId runId payload now seen).checks = .ok ()) :
    request.organizationId = organizationId ∧ grant ∈ seen.db.grants.rows ∧
      ∃ decisions, Control.activeApprovalSet seen.db request =
        .ok (decisions, grant.approvalSetHash) := by
  have hload : Control.loadWaitingRun seen.db organizationId runId = some run := hrun
  have hrows : Control.runClaimRows seen.db organizationId (some run) =
      Control.claimRows seen.db organizationId requestId := by
    unfold Control.runClaimRows
    rw [Option.bind_some, hrequestId]
  simp only [Control.runClaimReads, hload, hrows] at hrequest hgrant hchecks
  have hrequest' := (Table.one?_mem (show Table.one? _ _ = some request from hrequest)).2
  have hgrant' := (Table.one?_mem (show Table.one? _ _ = some grant from hgrant)).1
  refine ⟨(of_decide_eq_true hrequest').1, hgrant', ?_⟩
  unfold Control.runClaimChecks at hchecks
  dsimp only at hchecks
  unfold Control.rowChecks at hchecks
  rw [hrequest, hgrant] at hchecks
  exact claimChecks_ok hchecks

/-- The step lemma: a call that queues a run binds it to the actor and to the approvals. -/
theorem Queueing.bound {seen plane after : Plane} {actor : ActorContext} {c : Call}
    {reply : Option WorkItem} {run : ProductionRun} (hq : Queueing seen actor c)
    (hc : plane.db.Consistent) (hkept : SetHashesKept seen.db.grants plane.db.grants)
    (h : c.commit plane = .ok (reply, after)) (hnew : NewlyQueued plane.db after.db run) :
    ∃ approvals, BoundTo seen.db actor approvals run := by
  cases hq with
  | @admission a visible hactor =>
      obtain ⟨result, hbody, _⟩ := onPlane_ok h
      cases Control.admitLocked_ok hc hbody with
      | rejected hidle _ => exact absurd hidle.runs hnew.not_same
      | @admitted added hadmitted =>
          have hadded : run = added := by
            rcases hadmitted.queue with ⟨hawait, _⟩ | ⟨⟨o, henqueue⟩, _⟩
            · obtain ⟨hfresh, hins⟩ := hawait.runs
              have hmem := hnew.mem
              rw [hins] at hmem
              exact ((Table.mem_insert hfresh).mp hmem).resolve_left hnew.not_old
            · have hmem := hnew.mem
              rcases henqueue.runs with ⟨hfresh, hins⟩ | ⟨x, _, _, hreplaces⟩
              · rw [hins] at hmem
                exact ((Table.mem_insert hfresh).mp hmem).resolve_left hnew.not_old
              · exact (hreplaces.mem_iff.mp hmem).resolve_right
                  fun hold => hnew.not_old hold.1
          have hnone : run.approvalRequestId = none := by
            rcases hadmitted.queue with ⟨hawait, _⟩ | ⟨_, hqueued⟩
            · have hstatus := hnew.status
              rw [hadded, hawait.status] at hstatus
              cases hstatus
            · rcases hadmitted.requests with ⟨_, hwaits⟩ | ⟨⟨_, hnone⟩, _⟩
              · rw [hqueued] at hwaits
                cases hwaits
              · rw [hadded]
                exact hnone
          refine ⟨[], ?_, ?_⟩
          · rw [hadded, hadmitted.authorization, hactor]
          · intro requestId hrequestId
            rw [hnone] at hrequestId
            cases hrequestId
  | @claim organizationId runId expectedVersion now payload =>
      obtain ⟨result, hbody, _⟩ := onPlane_ok h
      cases Control.claimProductionRun_ok hc hbody with
      | idle hidle => exact absurd hidle.runs hnew.not_same
      | @queued read r r' o requestId request claimed grant taken claim start mid hrun hrequestId
          hrequest hgrant _ hchecks hstart htaken _ hruns _ hterms _ _ _ =>
          have hqueued : run = r' :=
            (hruns.mem_iff.mp hnew.mem).resolve_right fun hold => hnew.not_old hold.1
          obtain ⟨horganization, hgrantMem, decisions, hset⟩ :=
            runClaimReads_checked hrun hrequestId hrequest hgrant hchecks
          -- The grant is found again under its id, with the hash it had when it was read.
          have htakenHash : taken.approvalSetHash = grant.approvalSetHash := by
            obtain ⟨current, hcurrent, _, hid, _, _, _, htakenTerms, _⟩ := htaken.current
            rw [hstart.grants] at hcurrent
            have hsame := hkept.hash_eq hgrantMem hcurrent hid
            rw [htakenTerms]
            exact hsame
          obtain ⟨approvals, hfacts, hhash⟩ := Control.activeApprovalSet_ok hset
          have hr'Terms := hterms.terms
          refine ⟨approvals, ?_, ?_⟩
          · rw [hqueued, hr'Terms]
            exact htaken.authorization
          · intro requestId' hrequestId'
            have hclaimed : claimed.requestId = request.requestId := by
              rw [htaken.claimed_terms]
            have happroval : run.approvalRequestId = some request.requestId := by
              rw [hqueued, hr'Terms, ← hclaimed]
              exact hterms.approval
            have horganizationRun : run.organizationId = request.organizationId := by
              rw [hqueued, hr'Terms, horganization]
              exact hterms.organization
            rw [happroval] at hrequestId'
            rw [← Option.some.inj hrequestId', horganizationRun]
            refine ⟨hfacts, ?_⟩
            rw [hqueued, hr'Terms, ← hhash, ← htakenHash]

/-! ## The worker's calls -/

/-- `mark_started` and `complete` with the work item. -/
def Call.Rechecks (item : WorkItem) : Call → Prop
  | .markStarted _ started _ => started = item
  | .complete _ completed _ _ => completed = item
  | _ => False

/-- The lease that the call asks for is current. -/
def Call.LeaseCurrent (db : Db) : Call → Prop
  | .markStarted _ item now => StartLease db item now
  | .complete _ item _ _ => CompleteLease db item
  | _ => False

/-- What the call answers where it fails the run: `complete` passes on the `True` of
`_fail_locked`. -/
def Call.failedAnswer : Call → Bool
  | .complete .. => true
  | _ => false

/-- How a call that rechecks the binding ends: it is refused, it fails the run, or it answers
`True` and `unchanged` holds. -/
inductive Call.Rechecked (c : Call) (item : WorkItem) (db after : Db) (unchanged : Prop) :
    Prop where
  | refused (hstale : ¬ c.LeaseCurrent db) (hanswer : c.answer? db = some false)
      (hrefused : Worker.Refused item db after)
  | invalidated (hlease : c.LeaseCurrent db) (hanswer : c.answer? db = some c.failedAnswer)
      (hinvalid : Invalidated item after)
  | unchanged (hlease : c.LeaseCurrent db) (hanswer : c.answer? db = some true)
      (hunchanged : unchanged)

omit [Sha256] in
theorem answer_of_ok {body : Except Failure (Bool × Db)} {done : Bool} {db : Db}
    (h : body = .ok (done, db)) : body.toOption.map (·.1) = some done := by
  rw [h]
  rfl

theorem Call.commit_rechecked {call : Call} {item : WorkItem} {plane next : Plane}
    {reply : Option WorkItem} (hcall : call.Rechecks item) (hc : plane.db.Consistent)
    (hi : Issued plane.db item) (h : call.commit plane = .ok (reply, next)) :
    call.Rechecked item plane.db next.db
      (∃ now, Worker.bindingValid plane.db item now false = true) := by
  cases call with
  | markStarted w started now =>
      rw [show started = item from hcall] at h ⊢
      obtain ⟨done, db, hbody, _, rfl⟩ := onDb_ok h
      have hanswer := answer_of_ok hbody
      rcases markStarted_rechecked hc hi hbody with
        ⟨hstale, rfl, hrefused⟩ | ⟨hlease, ⟨rfl, hinvalid⟩ | ⟨rfl, hvalid⟩⟩
      · exact .refused hstale hanswer hrefused
      · exact .invalidated hlease hanswer hinvalid
      · exact .unchanged hlease hanswer ⟨now, hvalid⟩
  | complete w completed outcome now =>
      rw [show completed = item from hcall] at h ⊢
      obtain ⟨done, db, hbody, _, rfl⟩ := onDb_ok h
      have hanswer := answer_of_ok hbody
      rcases complete_rechecked hc hi hbody with
        ⟨hstale, rfl, hrefused⟩ | ⟨hlease, rfl, hinvalid | hvalid⟩
      · exact .refused hstale hanswer hrefused
      · exact .invalidated hlease hanswer hinvalid
      · exact .unchanged hlease hanswer ⟨now, hvalid⟩
  | _ => cases hcall

theorem Call.Rechecked.imp {c : Call} {item : WorkItem} {db after : Db} {p q : Prop}
    (h : c.Rechecked item db after p) (hpq : p → q) : c.Rechecked item db after q := by
  cases h with
  | refused hstale hanswer hrefused => exact .refused hstale hanswer hrefused
  | invalidated hlease hanswer hinvalid => exact .invalidated hlease hanswer hinvalid
  | unchanged hlease hanswer hp => exact .unchanged hlease hanswer (hpq hp)

theorem authority_rechecked :
    (∀ (db : Db) (verified : VerifiedIdentity) (actor : ActorContext),
      Control.resolveActor db verified = .ok actor →
      (Worker.authorizationHash db actor.organizationId actor.userId =
          some actor.authorizationHash ↔
        (Worker.activeIdentities db actor.organizationId actor.userId).length = 1)) ∧
    (∀ (db : Db) (request : ApprovalRequest) (decisions : List ApprovalDecision)
        (setHash : Digest),
      Control.activeApprovalSet db request = .ok (decisions, setHash) →
      Worker.approvalSetHash db request.organizationId request.requestId = some setHash) ∧
    ∀ (directory : Directory) (authorities : Table ApprovalAuthority)
        (heads : Table AuditChainHead) (seen world later : World) (resolved : Db)
        (verified : VerifiedIdentity) (actor : ActorContext) (fact : AuthorizationFact)
        (c : Call) (reply : Option WorkItem) (plane : Plane) (run : ProductionRun)
        (item : WorkItem),
      ReflTransGen World.AuthorityStep (World.start directory authorities heads) seen →
      ReflTransGen World.AuthorityStep seen world →
      Control.resolveActor resolved verified = .ok actor →
      Control.actorFact resolved verified = some fact →
      Queueing seen.plane actor c →
      c.commit world.plane = .ok (reply, plane) →
      NewlyQueued world.plane.db plane.db run →
      ReflTransGen World.AuthorityStep (world.after reply plane) later →
      item ∈ later.items → item.runId = run.runId →
      ∃ approvals,
        (∀ requestId, run.approvalRequestId = some requestId →
          Worker.approvalFacts seen.plane.db run.organizationId requestId = some approvals) ∧
        ∀ (call : Call) (reply : Option WorkItem) (next : Plane), call.Rechecks item →
          call.commit later.plane = .ok (reply, next) →
          call.Rechecked item later.plane.db next.db
            (Unchanged later.plane.db item fact approvals) := by
  refine ⟨fun db verified actor h => Control.resolveActor_agrees h,
    fun db request decisions setHash h => Control.activeApprovalSet_agrees h, ?_⟩
  intro directory authorities heads seen world later resolved verified actor fact c reply plane
    run item hseen hworld hresolve hfact hqueueing hcommit hnew hlater hitem hrunId
  have hseenValid := World.valid_of_run (World.valid_start directory authorities heads)
    (World.run_of_authority hseen)
  have hworldValid := World.valid_of_run hseenValid (World.run_of_authority hworld)
  have hqueuedValid : (world.after reply plane).Valid := by
    refine World.Step.valid hworldValid (.call ?_ hcommit)
    intro old hold
    rw [hqueueing.no_item] at hold
    cases hold
  have hlaterRun := World.run_of_authority hlater
  have hlaterValid := World.valid_of_run hqueuedValid hlaterRun
  -- The run is bound when it is queued, and the work item copies what it is bound to.
  obtain ⟨approvals, hbound⟩ := hqueueing.bound hworldValid.consistent
    (World.kept_of_run hseenValid hworld) hcommit hnew
  have hopen : run.status ≠ .waitingApproval := by
    rw [hnew.status]
    decide
  obtain ⟨s, hs, hfixed, hid, _⟩ := World.run_fixed_of_run hqueuedValid hlaterRun hnew.mem hopen
  have hissued := hlaterValid.issued item hitem
  have hcopied := Issued.copied hissued hs (hid.trans hrunId.symm) hfixed
  refine ⟨approvals, fun requestId h => (hbound.approvals requestId h).1, ?_⟩
  intro call reply' next hcall hnext
  refine (call.commit_rechecked hcall hlaterValid.consistent hissued hnext).imp ?_
  rintro ⟨now, hvalid⟩
  refine unchanged_of_valid ?_ ?_ hvalid
  · obtain ⟨fact', hfact', _, _, hhash⟩ := Control.resolveActor_fact hresolve
    rw [hfact] at hfact'
    rw [hcopied.authorization, hbound.authorization, hhash, Option.some.inj hfact']
  · intro hsome
    rw [hcopied.approvalRequest] at hsome
    obtain ⟨requestId, hrequestId⟩ := Option.isSome_iff_exists.mp hsome
    rw [hcopied.approvalSet, (hbound.approvals requestId hrequestId).2]

end

namespace Sample

attribute [local instance] polynomialSha256

/-- The token of the operator. -/
def verified : VerifiedIdentity := ⟨"issuer", ⟨1⟩, ⟨1⟩, .operator⟩

/-- The operator has a second active identity, of another issuer. -/
def twoIdentities : Db :=
  Db.initial
    { directory with
      identities := Table.insert directory.identities
        ⟨⟨2⟩, ⟨1⟩, ⟨1⟩, "other", ⟨2⟩, ⟨1⟩, .active, 1⟩ rfl } .empty heads

/-- The Control API accepts the operator, for whom the worker finds no authorization. -/
theorem second_identity_disagrees :
    ¬ ∀ (db : Db) (verified : VerifiedIdentity) (actor : ActorContext),
      Control.resolveActor db verified = .ok actor →
      Worker.authorizationHash db actor.organizationId actor.userId =
        some actor.authorizationHash := by
  intro h
  have hresolved : ∃ actor, Control.resolveActor twoIdentities verified = .ok actor ∧
      actor.organizationId = ⟨1⟩ ∧ actor.userId = ⟨1⟩ := ⟨_, rfl, rfl, rfl⟩
  obtain ⟨actor, hactor, horganization, huser⟩ := hresolved
  have hsame := h twoIdentities verified actor hactor
  rw [horganization, huser] at hsame
  cases hsame

theorem actor_resolved : Control.resolveActor start.plane.db verified = .ok actor := by
  have hresolved : ∃ a, Control.resolveActor start.plane.db verified = .ok a ∧
      a.userId = ⟨1⟩ ∧ a.organizationId = ⟨1⟩ ∧ a.role = .operator := ⟨_, rfl, rfl, rfl, rfl⟩
  obtain ⟨a, ha, huser, horganization, hrole⟩ := hresolved
  have hhash := (Control.resolveActor_agrees ha).mpr (by rw [huser, horganization]; rfl)
  rw [huser, horganization] at hhash
  have hactor : a.authorizationHash = actor.authorizationHash := by
    show _ = (Worker.authorizationHash start.plane.db ⟨1⟩ ⟨1⟩).getD ⟨0⟩
    rw [hhash]
    rfl
  have heq : a = ⟨⟨1⟩, ⟨1⟩, .operator, actor.authorizationHash⟩ := by
    rw [← huser, ← horganization, ← hrole, ← hactor]
  rw [ha, heq]
  rfl

/-- The draft is admitted, and its run is the one that is leased. -/
theorem admitted_queued :
    ((Call.admitRun admission []).commit start.plane).isOk = true ∧
    (start.plane.db.runs.rows.isEmpty && admitted.plane.db.runs.rows.any fun r =>
      decide (r.status = .queued ∧ r.runId = item.runId)) = true := by
  decide +kernel

/-- Under the facts of its admission, the leased run is started or refused. -/
theorem authority_rechecked_sample :
    ∃ fact approvals, Control.actorFact start.plane.db verified = some fact ∧
      ∀ reply next, (Call.markStarted worker item (2 * second)).commit leased.plane =
          .ok (reply, next) →
        (Call.markStarted worker item (2 * second)).Rechecked item leased.plane.db next.db
          (Unchanged leased.plane.db item fact approvals) := by
  obtain ⟨hok, hqueued⟩ := admitted_queued
  obtain ⟨⟨reply, plane⟩, hcommit⟩ := ok_of_isOk hok
  have hadmitted : admitted = start.after reply plane := by
    unfold admitted World.perform
    rw [hcommit]
  rw [Bool.and_eq_true, List.any_eq_true, hadmitted] at hqueued
  obtain ⟨hempty, run, hmem, hrun⟩ := hqueued
  have hstatus := of_decide_eq_true hrun
  have hnew : NewlyQueued start.plane.db plane.db run := by
    refine ⟨hmem, hstatus.1, ?_⟩
    intro s hs
    rw [List.isEmpty_iff.mp hempty] at hs
    cases hs
  have hleased : ReflTransGen World.AuthorityStep (start.after reply plane) leased := by
    unfold leased
    rw [hadmitted]
    unfold World.perform
    split
    · exact .refl
    next hclaim =>
      refine .single (.call ?_ hclaim)
      intro old hold
      cases hold
  obtain ⟨fact, hfact, _⟩ := Control.resolveActor_fact actor_resolved
  obtain ⟨approvals, _, hrecheck⟩ := authority_rechecked.2.2 directory .empty heads start start
    leased start.plane.db verified actor fact _ reply plane run item .refl .refl actor_resolved
    hfact (.admission rfl) hcommit hnew hleased item_mem hstatus.2.symm
  refine ⟨fact, approvals, hfact, ?_⟩
  intro reply next h
  exact hrecheck (.markStarted worker item (2 * second)) reply next rfl h

end Sample

end FlowPilot
