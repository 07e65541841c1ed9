import FlowPilot.Approvals.Protocol

/-!
# Approvals over whole runs

Claims race with every other transaction of the two services.  Whatever the order, the approval
tables stay valid, each request with its grant is a permit that moves once and never back, and
every run has just what its own permit allows.
-/

open FlowPilot.Lib FlowPilot.Lib.Sessions Relation

namespace FlowPilot

open Approvals (RunsBound)

section

variable [Sha256] {c d : Config World Claiming}

/-! ## From steps to runs -/

/-- A run of the two services in which claims race with everything else. -/
abbrev Claiming.Run : Config World Claiming → Config World Claiming → Prop :=
  ReflTransGen (Step claims Anything)

/-- What holds in every state of such a run. -/
abbrev Claiming.Holds : Config World Claiming → Prop :=
  Sessions.Holds World.Sound fun world t => t.Read world.plane

theorem Claiming.transitions_of_step (hc : Claiming.Holds c) (h : Step claims Anything c d) :
    ReflTransGen Approvals.Next c.store.plane.approvals d.store.plane.approvals := by
  cases h with
  | start | reread | abort => exact .refl
  | commit hopen _ h =>
      obtain ⟨reply, plane, hcommit, rfl⟩ := h
      exact (hc.1.claiming (hc.2 _ _ hopen) hcommit).advanced.transitions
  | other h => exact (World.OtherTransaction.spared hc.1 h).1.advanced.transitions

theorem Claiming.holds_of_run {directory : Directory} {authorities : Table ApprovalAuthority}
    {heads : Table AuditChainHead}
    (hrun : Claiming.Run (.start (World.start directory authorities heads)) c) : Claiming.Holds c :=
  claims_invariant.run (holds_start (World.sound_start directory authorities heads)) hrun

theorem Claiming.transitions_of_run (hc : Claiming.Holds c)
    (hrun : Claiming.Run c d) :
    ReflTransGen Approvals.Next c.store.plane.approvals d.store.plane.approvals :=
  relation_of_run (I := Claiming.Holds)
    (R := fun c d : Config World Claiming =>
      ReflTransGen Approvals.Next c.store.plane.approvals d.store.plane.approvals)
    (fun _ => .refl) (fun _ _ _ => ReflTransGen.trans)
    (fun _ _ hc hstep => ⟨claims_invariant.step hc hstep, Claiming.transitions_of_step hc hstep⟩)
    hc hrun

/-! ## Ended runs -/

omit [Sha256] in
/-- Whose request or grant is still claimed, and whose is consumed. -/
theorem permitOf_claimed_iff {r : ApprovalRequest} {g : Option ApprovalGrant}
    {p : Permit ExecutionId} (h : permitOf r g = some p) :
    (r.status = .claimed ↔ ∃ e, p = .taken e) ∧ (r.status = .consumed ↔ ∃ e, p = .spent e) ∧
      ∀ grant, g = some grant →
        (grant.status = .claimed ↔ ∃ e, p = .taken e) ∧
        (grant.status = .consumed ↔ ∃ e, p = .spent e) := by
  cases g with
  | none =>
      rcases permitOf_none h with ⟨hr, rfl⟩ | ⟨hr | hr | hr | hr, rfl⟩ <;> rw [hr] <;> simp
  | some grant =>
      rcases permitOf_some h with ⟨hr, hg, _, rfl⟩ | ⟨hr | hr, hg, _, rfl⟩ |
        ⟨e, _, ⟨hr, hg, rfl⟩ | ⟨hr, hg, rfl⟩ | ⟨hr | hr, hg, rfl⟩⟩ <;> simp [hr, hg]

omit [Sha256] in
/-- A run that has ended still holds its permit when it expired in the queue, and has spent it when
it finished. -/
theorem RunStatus.agreesPermit_ended {status : RunStatus} (hended : status.terminal)
    {execution : Option ExecutionId} {p : Permit ExecutionId}
    (h : status.agreesPermit execution p) :
    ((∃ e, p = .taken e) ↔ status = .expired) ∧
      ((∃ e, p = .spent e) ↔ status = .finishedUngraded) := by
  rcases hended with rfl | rfl | rfl | rfl
  · obtain ⟨e, _, rfl⟩ := h
    simp
  · obtain ⟨e, _, rfl⟩ := h
    simp
  · rcases h with ⟨_, rfl | rfl⟩ | ⟨e, _, rfl⟩ <;> simp
  · obtain ⟨e, _, rfl⟩ := h
    simp

/-- The request and the grant of a run that has ended are consumed when it finished, and they are
claimed only when it expired. -/
structure EndedApproval (db : Db) (run : ProductionRun) (requestId : RequestId) : Prop where
  request : ∃ x ∈ db.requests.rows, x.requestId = requestId ∧
    (x.status = .claimed ↔ run.status = .expired) ∧
    (x.status = .consumed ↔ run.status = .finishedUngraded)
  grant : ∀ g ∈ db.grants.rows, g.requestId = requestId →
    (g.status = .claimed ↔ run.status = .expired) ∧
    (g.status = .consumed ↔ run.status = .finishedUngraded)

def Db.EndedRuns (db : Db) : Prop :=
  ∀ run ∈ db.runs.rows, run.status.terminal → ∀ k, run.approvalRequestId = some k →
    EndedApproval db run k

theorem Governed.endedRuns {plane : Control.Plane} (hg : Governed plane) : plane.db.EndedRuns := by
  intro run hrun hended k hk
  obtain ⟨p, hp, hagrees⟩ := (hg.runs.bound run hrun k hk).permit
  obtain ⟨htaken, hspent⟩ := RunStatus.agreesPermit_ended hended hagrees
  unfold Approvals.registry at hp
  obtain ⟨x, hfound, hx⟩ := Option.bind_eq_some_iff.mp hp
  have hmem := Table.mem_of_get? hfound
  have hid : x.requestId = k := Table.key_of_get? hfound
  obtain ⟨hclaimed, hconsumed, hgrant⟩ := permitOf_claimed_iff hx
  refine ⟨⟨x, hmem, hid, hclaimed.trans htaken, hconsumed.trans hspent⟩, ?_⟩
  intro g hmem hgid
  obtain ⟨hclaimed', hconsumed'⟩ :=
    hgrant g (Approvals.grantOf_of_mem hg.valid.single hmem hgid)
  exact ⟨hclaimed'.trans htaken, hconsumed'.trans hspent⟩

/-! ## Who takes a permit -/

/-- The claim takes the permit of the request for `e`, the execution that it answers with.  Its
checks have passed on the very rows that the request and the grant still are, and exactly the
required roles have approved. -/
structure Claiming.Takes (t : Claiming) (plane next : Control.Plane) (request : ApprovalRequest)
    (grant : ApprovalGrant) (e : ExecutionId) : Prop where
  requestRead : t.rows.request = some request
  grantRead : t.rows.grant = some grant
  checked : Control.Checked t.seen t.now request grant
  current : request ∈ plane.db.requests.rows ∧ grant ∈ plane.db.grants.rows
  terms : GrantedFor request grant
  quorum : ∀ role, role ∈ request.requiredRoles ↔
    plane.approvals.ApprovedBy request.requestId role
  granted : plane.approvals.registry request.requestId = some .granted
  taken : next.approvals.registry =
    Function.update plane.approvals.registry request.requestId (some (.taken e))
  execution : t.execution? plane = some e
  fresh : ∀ k, plane.approvals.registry.executionAt k ≠ some e

/-- The step is the commit of the claim `t`, which session `i` had open. -/
structure Claiming.CommitStep (c d : Config World Claiming) (i : Nat) (t : Claiming) : Prop where
  opened : c.opened i = some t
  commit : ∃ reply, t.commit c.store.plane = .ok (reply, d.store.plane)
  store : d.store = c.store.after none d.store.plane
  closed : d.opened = Function.update c.opened i none

theorem Claiming.Ends.takes {t : Claiming} {plane next : Control.Plane} {k : RequestId}
    {e : ExecutionId} (hg : Governed plane) (hnext : Governed next) (h : t.Ends plane next)
    (hbefore : plane.approvals.registry.executionAt k ≠ some e)
    (hafter : next.approvals.registry.executionAt k = some e) :
    ∃ request grant, request.requestId = k ∧ t.Takes plane next request grant e := by
  cases h with
  | spared h =>
      rw [h k] at hafter
      exact absurd hafter hbefore
  | @taken request request' grant grant' e' hrequest hgrant hchecked hexecution h =>
      obtain ⟨hgranted, hregistry⟩ := h.registry hg.valid hnext.valid
      have htaken := hafter
      rw [hregistry, Permit.Registry.executionAt_update] at htaken
      split at htaken
      next hk =>
        have he : e' = e := Option.some.inj htaken
        rw [he] at h hregistry hexecution
        have hrow : request ∈ plane.db.requests.rows := h.request.requests.mem
        have hgrantRow : grant ∈ plane.db.grants.rows := h.grant.mem
        -- The grant has the terms of the one request with its id.
        obtain ⟨x, hx, hfor⟩ := hg.valid.granted grant hgrantRow
        have hsame : x = request :=
          Table.eq_of_key hx hrow (hfor.request.symm.trans h.pair)
        rw [hsame] at hfor
        refine ⟨request, grant, hk.symm, hrequest, hgrant, hchecked, ⟨hrow, hgrantRow⟩, hfor,
          hg.valid.quorum grant hgrantRow request hrow hfor.request.symm, hgranted, hregistry,
          hexecution, ?_⟩
        -- The compare-and-set writes an execution id that no grant has.
        intro k' hk'
        obtain ⟨g, hmem, _, hexecution⟩ := hg.valid.executionAt_iff.mp hk'
        exact h.fresh e rfl rfl g hmem hexecution
      next => exact absurd htaken hbefore

/-! ## A concrete run -/

theorem World.perform_claims {world next : World} {call : Call}
    (hrun : Claiming.Run (.start world) (.start next)) (hclaim : call.claims = false)
    (hitem : ∀ item, call.item? = some item → item ∈ next.items) :
    Claiming.Run (.start world) (.start (next.perform call)) := by
  unfold World.perform
  split
  · exact hrun
  next hcommit => exact hrun.tail (.other (.call hclaim hitem hcommit))

theorem World.operate_claims {world next : World} {plane : Control.Plane}
    (hrun : Claiming.Run (.start world) (.start next)) (h : Operates next.plane plane) :
    Claiming.Run (.start world) (.start (next.after none plane)) :=
  hrun.tail (.other (.operation h))

/-- Commits the claim, or rolls it back when it raises. -/
def Claiming.finish (t : Claiming) (world : World) : World :=
  match t.commit world.plane with
  | .error _ => world
  | .ok (_, plane) => world.after none plane

/-- The configuration in which only the claim is open. -/
def Claiming.openAt (t : Claiming) (world : World) : Config World Claiming :=
  ⟨world, Function.update (fun _ => none) 0 (some t)⟩

omit [Sha256] in
@[simp] theorem Claiming.openAt_store (t : Claiming) (world : World) :
    (t.openAt world).store = world := rfl

theorem Claiming.openAt_step (world : World) (t : Claiming) :
    Step claims Anything (.start world) ((t.read world.plane).openAt world) := by
  refine .start rfl ?_
  obtain ⟨actor, organizationId, now, target, rows, seen⟩ := t
  cases target <;> rfl

theorem Claiming.finish_step (world : World) (t : Claiming) :
    Step claims Anything (t.openAt world) (.start (t.finish world)) := by
  have hopen : (t.openAt world).opened 0 = some t := by simp [Claiming.openAt]
  have hclosed : Function.update (t.openAt world).opened 0 none = fun _ => none := by
    unfold Claiming.openAt
    rw [Function.update_idem, Function.update_eq_self]
  unfold Claiming.finish Config.start
  rw [← hclosed]
  split
  · exact .abort hopen
  next reply plane hcommit => exact .commit hopen trivial ⟨reply, plane, hcommit, rfl⟩

end

section

attribute [local instance] polynomialSha256

namespace Sample

def manager : User := ⟨⟨2⟩, ⟨1⟩, .active, 1⟩

/-- The operator and a manager. -/
def team : Directory where
  organizations := directory.organizations
  users := directory.users.insert manager rfl
  identities := directory.identities.insert
    ⟨⟨2⟩, ⟨1⟩, ⟨2⟩, "issuer", ⟨2⟩, ⟨1⟩, .active, 1⟩ rfl
  memberships := directory.memberships.insert ⟨⟨2⟩, ⟨1⟩, ⟨2⟩, .operator, .active, 1⟩ rfl

def managers : Table ApprovalAuthority :=
  Table.insert .empty ⟨⟨1⟩, ⟨1⟩, ⟨2⟩, .manager, .active, 1, 0⟩ rfl

def staffed : World := World.start team managers heads

def managerActor : Control.ActorContext where
  userId := ⟨2⟩
  organizationId := ⟨1⟩
  role := .operator
  authorizationHash := (Worker.authorizationHash staffed.plane.db ⟨1⟩ ⟨2⟩).getD ⟨0⟩

def ticket : Control.RunCreate :=
  { draft with
    actionType := "close_ticket"
    parameters := [("employee_id", .num 1)]
    action_ok := by decide
    parameters_ok := by decide +kernel }

def ticketParameters : List (String × Json) :=
  [("schema_version", .str "w11-employee-mutation-parameters/1.0"), ("employee_id", .num 1)]

/-- An admission that has to wait for a manager. -/
def ticketAdmission : Control.Admission where
  actor := actor
  organizationId := ⟨1⟩
  payload := ticket
  keyHash := stableHashText "idempotency-key-2"
  bodyHash := stableHash ticket.json
  evaluation :=
    { actionType := "close_ticket"
      riskLevel := .L2
      parameterHash := stableHash (Control.actionBinding "close_ticket" ticketParameters)
      validatedParameters := ticketParameters
      requiredRoles := [.manager]
      knownAction := true }
  now := 0

def waiting : World :=
  staffed.perform (.admitRun ticketAdmission [])

/-- The manager's decision. -/
def decision (world : World) : Except Failure (Control.Outcome Control.DecisionResult) :=
  Control.decideRequest managerActor ⟨1⟩ ⟨1⟩ 1 ⟨.approved, .policySatisfied⟩ ⟨"token", "nonce"⟩
    second world.plane.db world.plane.db world.plane

def decided : World :=
  match decision waiting with
  | .error _ => waiting
  | .ok (_, plane) => waiting.after none plane

def ticketClaim : Control.RunClaim where
  actionType := "close_ticket"
  parameters := [("employee_id", .num 1)]
  action_ok := by decide
  parameters_ok := by decide +kernel

/-- The operator's claim of the waiting run. -/
def claiming : Claiming :=
  Claiming.read decided.plane
    { actor := actor
      organizationId := ⟨1⟩
      now := 2 * second
      target := .run ⟨1⟩ 1 ticketClaim none []
      rows := ⟨none, none, false⟩
      seen := decided.plane }

def claimed : World := claiming.finish decided

/-- The operator cancels the run that the claim has queued. -/
def cancelled : World :=
  claimed.perform
    (.cancel actor ⟨1⟩ ⟨1⟩ 2 (3 * second) (Control.loadRun claimed.plane.db ⟨1⟩ ⟨1⟩))

/-- No worker takes up the claimed run before its row expires. -/
def expired : World := claimed.perform (.claimNext worker .nothing (302 * second))

/-- Nobody has the permit before the claim, the claim's execution has it then, and the run keeps
its request when it is cancelled or expires. -/
theorem cancelled_evaluated :
    decided.plane.approvals.registry.executionAt ⟨1⟩ ≠ some ⟨1⟩ ∧
      claimed.plane.approvals.registry.executionAt ⟨1⟩ = some ⟨1⟩ ∧
      cancelled.plane.db.runs.rows.map (fun run => (run.status, run.approvalRequestId)) =
        [(.cancelled, some ⟨1⟩)] ∧
      expired.plane.db.runs.rows.map (fun run => (run.status, run.approvalRequestId)) =
        [(.expired, some ⟨1⟩)] := by
  decide +kernel

theorem decided_run : Claiming.Run (.start staffed) (.start decided) := by
  have hwaiting : Claiming.Run (.start staffed) (.start waiting) :=
    World.perform_claims .refl rfl fun _ hitem => by cases hitem
  unfold decided
  split
  · exact hwaiting
  next hdecision =>
    unfold decision at hdecision
    exact World.operate_claims hwaiting (.decideRequest hdecision)

theorem claiming_run : Claiming.Run (.start staffed) (claiming.openAt decided) :=
  decided_run.tail (Claiming.openAt_step _ _)

theorem claiming_step : Step claims Anything (claiming.openAt decided) (.start claimed) :=
  Claiming.finish_step _ _

theorem claimed_run : Claiming.Run (.start staffed) (.start claimed) :=
  claiming_run.tail claiming_step

theorem cancelled_run : Claiming.Run (.start staffed) (.start cancelled) := by
  unfold cancelled
  refine World.perform_claims claimed_run rfl ?_
  intro item hitem
  cases hitem

end Sample

/-! ## Every reachable state -/

variable {c d : Config World Claiming} {directory : Directory}
  {authorities : Table ApprovalAuthority} {heads : Table AuditChainHead}

/-- However claims race with all other transactions, every request with its grant is one permit,
the grant is the one that exactly the required roles have approved, and the vault holds no
credential but those of issued grants. -/
theorem approvals_valid_of_run [Sha256]
    (hrun : Claiming.Run (.start (World.start directory authorities heads)) c) :
    c.store.plane.approvals.Valid :=
  (Claiming.holds_of_run hrun).1.governed.valid

theorem approvals_valid_sample : Sample.claimed.plane.approvals.Valid := by
  have hvalid := approvals_valid_of_run Sample.claimed_run
  rwa [Config.start_store] at hvalid

/-- The services refine the registry of permits: what happens between two states are single moves
of single permits, none moves back, and no execution has two. -/
theorem permits_of_run [Sha256]
    (hrun : Claiming.Run (.start (World.start directory authorities heads)) c)
    (hlater : Claiming.Run c d) :
    ReflTransGen Permit.Registry.Step c.store.plane.approvals.registry
        d.store.plane.approvals.registry ∧
      c.store.plane.approvals.registry.Advances d.store.plane.approvals.registry ∧
      d.store.plane.approvals.registry.Exclusive := by
  have hstart : Claiming.Holds (.start (World.start directory authorities heads)) :=
    Claiming.holds_of_run .refl
  have hc := Claiming.holds_of_run hrun
  have hsteps := Approvals.registry_of_run hc.1.governed.valid
    (Claiming.transitions_of_run hc hlater)
  have hall := Approvals.registry_of_run hstart.1.governed.valid
    (Claiming.transitions_of_run hstart (hrun.trans hlater))
  exact ⟨hsteps, Permit.Registry.advances_of_run hsteps,
    Permit.Registry.exclusive_of_run Permit.Registry.exclusive_empty hall⟩

theorem permits_of_run_sample :
    ReflTransGen Permit.Registry.Step Sample.decided.plane.approvals.registry
        Sample.claimed.plane.approvals.registry ∧
      Sample.decided.plane.approvals.registry.Advances Sample.claimed.plane.approvals.registry ∧
      Sample.claimed.plane.approvals.registry.Exclusive := by
  have hpermits := permits_of_run Sample.claiming_run (.single Sample.claiming_step)
  rwa [Config.start_store, Claiming.openAt_store] at hpermits

/-- Every run with an approval is as far as its permit: it waits while nobody has taken it, has it
under its own execution while it is open, and ends with it. -/
theorem runs_bound_of_run [Sha256]
    (hrun : Claiming.Run (.start (World.start directory authorities heads)) c) :
    RunsBound c.store.plane.db.runs c.store.plane.approvals :=
  (Claiming.holds_of_run hrun).1.governed.runs

theorem runs_bound_sample :
    RunsBound Sample.claimed.plane.db.runs Sample.claimed.plane.approvals := by
  have hbound := runs_bound_of_run Sample.claimed_run
  rwa [Config.start_store] at hbound

/-- Requests and grants keep their terms and only go forward, and decisions stay. -/
theorem approvals_later_of_run [Sha256]
    (hrun : Claiming.Run (.start (World.start directory authorities heads)) c)
    (hlater : Claiming.Run c d) :
    Table.Evolves ApprovalRequest.Later c.store.plane.db.requests d.store.plane.db.requests ∧
      Table.Evolves ApprovalGrant.Later c.store.plane.db.grants d.store.plane.db.grants ∧
      ∀ decision ∈ c.store.plane.db.decisions.rows,
        decision ∈ d.store.plane.db.decisions.rows := by
  have htransitions := Claiming.transitions_of_run (Claiming.holds_of_run hrun) hlater
  exact ⟨Approvals.requests_of_run htransitions, Approvals.grants_of_run htransitions,
    fun _ hd => Approvals.decisions_of_run htransitions hd⟩

theorem approvals_later_sample :
    Table.Evolves ApprovalRequest.Later Sample.decided.plane.db.requests
        Sample.claimed.plane.db.requests ∧
      Table.Evolves ApprovalGrant.Later Sample.decided.plane.db.grants
        Sample.claimed.plane.db.grants ∧
      ∀ decision ∈ Sample.decided.plane.db.decisions.rows,
        decision ∈ Sample.claimed.plane.db.decisions.rows := by
  have hlater := approvals_later_of_run Sample.claiming_run (.single Sample.claiming_step)
  rwa [Config.start_store, Claiming.openAt_store] at hlater

/-- The approval of a run that has ended is still claimed only if the run expired. -/
theorem ended_runs_of_run [Sha256]
    (hrun : Claiming.Run (.start (World.start directory authorities heads)) c) :
    c.store.plane.db.EndedRuns :=
  (Claiming.holds_of_run hrun).1.governed.endedRuns

theorem ended_runs_sample :
    Sample.cancelled.plane.db.runs.rows.map (fun run => (run.status, run.approvalRequestId)) =
        [(.cancelled, some ⟨1⟩)] ∧ Sample.cancelled.plane.db.EndedRuns := by
  have hended := ended_runs_of_run Sample.cancelled_run
  rw [Config.start_store] at hended
  exact ⟨Sample.cancelled_evaluated.2.2.1, hended⟩

/-- A permit is taken in one kind of step only: the commit of an open claim whose checks passed. -/
theorem taken_by_checked_claim [Sha256]
    (hrun : Claiming.Run (.start (World.start directory authorities heads)) c)
    (hstep : Step claims Anything c d) {k : RequestId} {e : ExecutionId}
    (hbefore : c.store.plane.approvals.registry.executionAt k ≠ some e)
    (hafter : d.store.plane.approvals.registry.executionAt k = some e) :
    ∃ i t request grant, Claiming.CommitStep c d i t ∧ request.requestId = k ∧
      t.Takes c.store.plane d.store.plane request grant e := by
  have hc := Claiming.holds_of_run hrun
  cases hstep with
  -- Neither reads nor a rollback write anything.
  | start | reread | abort => exact absurd hafter hbefore
  | @commit i t s hopen _ h =>
      obtain ⟨reply, plane, hcommit, rfl⟩ := h
      have hread := hc.2 i t hopen
      have hnext := (hc.1.claiming hread hcommit).sound.governed
      obtain ⟨request, grant, hid, htakes⟩ :=
        (Claiming.ends hc.1.governed hread hcommit).takes hc.1.governed hnext hbefore hafter
      exact ⟨i, t, request, grant, ⟨hopen, ⟨reply, hcommit⟩, rfl, rfl⟩, hid, htakes⟩
  | other h =>
      -- A permit that another transaction moves stays with whoever has it.
      rw [(World.OtherTransaction.spared hc.1 h).2 k] at hafter
      exact absurd hafter hbefore

theorem taken_by_checked_claim_sample :
    ∃ i t request grant,
      Claiming.CommitStep (Sample.claiming.openAt Sample.decided) (.start Sample.claimed) i t ∧
      request.requestId = ⟨1⟩ ∧
      t.Takes Sample.decided.plane Sample.claimed.plane request grant ⟨1⟩ :=
  taken_by_checked_claim Sample.claiming_run Sample.claiming_step Sample.cancelled_evaluated.1
    Sample.cancelled_evaluated.2.1

end

end FlowPilot
