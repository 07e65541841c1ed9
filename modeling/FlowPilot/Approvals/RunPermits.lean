import FlowPilot.Approvals.Claims

/-!
# Runs and their permits

A run that needs an approval waits for its permit, holds it under its own execution while it is
open, and ends it when it ends.
-/

open FlowPilot.Lib Relation

namespace FlowPilot

open Approvals (registry requests_of_run grants_of_run)

/-- How far the permit of a run with the status is. -/
def RunStatus.agreesPermit (execution : Option ExecutionId) (p : Permit ExecutionId) :
    RunStatus → Prop
  | .waitingApproval => execution = none ∧ p.execution = none
  | .queued | .leased | .running | .recovering | .verifying | .expired =>
    ∃ e, execution = some e ∧ p = .taken e
  | .finishedUngraded => ∃ e, execution = some e ∧ p = .spent e
  | .failed => ∃ e, execution = some e ∧ p = .failed e
  | .cancelled =>
    execution = none ∧ (p = .refused ∨ p = .withdrawn) ∨ ∃ e, execution = some e ∧ p = .failed e

/-- The statuses of a run that is in the queue or at a worker. -/
def RunStatus.executing (status : RunStatus) : Prop := status ≠ .waitingApproval ∧ ¬ status.terminal

namespace Approvals

/-- What the request, the grant and the permit of a run say about it. -/
structure Bound (s : Approvals) (r : ProductionRun) (k : RequestId) : Prop where
  request : ∃ x ∈ s.requests.rows, x.requestId = k ∧ x.organizationId = r.organizationId
  grant : ∀ e, r.executionId = some e → ∃ g ∈ s.grants.rows, r.grantId = some g.grantId ∧
    g.requestId = k
  permit : ∃ p, s.registry k = some p ∧ r.status.agreesPermit r.executionId p

/-- A run without an approval has no part in any grant. -/
structure Unbound (r : ProductionRun) : Prop where
  status : r.status ≠ .waitingApproval
  grant : r.grantId = none
  execution : r.executionId = none

structure RunsBound (runs : Table ProductionRun) (s : Approvals) : Prop where
  bound : ∀ r ∈ runs.rows, ∀ k, r.approvalRequestId = some k → s.Bound r k
  unbound : ∀ r ∈ runs.rows, r.approvalRequestId = none → Unbound r
  single : ∀ r ∈ runs.rows, ∀ r' ∈ runs.rows, ∀ k, r.approvalRequestId = some k →
    r'.approvalRequestId = some k → r = r'

/-! ## Runs that are not written -/

variable {s t : Approvals} {runs runs' : Table ProductionRun} {r r' : ProductionRun}
  {k : RequestId}

theorem agreesPermit_open {status : RunStatus} (h : status.executing)
    (execution : Option ExecutionId) (p : Permit ExecutionId) :
    status.agreesPermit execution p ↔ ∃ e, execution = some e ∧ p = .taken e := by
  obtain ⟨hwaiting, hterminal⟩ := h
  cases status
  case waitingApproval => exact absurd rfl hwaiting
  case finishedUngraded | failed | cancelled | expired =>
    exact absurd (by simp [RunStatus.terminal]) hterminal
  all_goals rfl

theorem execution_of_agrees {status : RunStatus} {execution : Option ExecutionId}
    {p : Permit ExecutionId} (h : status.agreesPermit execution p) : p.execution = execution := by
  cases status with
  | waitingApproval => rw [h.1, h.2]
  | queued | leased | running | recovering | verifying | expired | finishedUngraded | failed =>
      obtain ⟨e, rfl, rfl⟩ := h
      rfl
  | cancelled => rcases h with ⟨rfl, rfl | rfl⟩ | ⟨e, rfl, rfl⟩ <;> rfl

/-- A permit that no execution takes or ends agrees with the same status. -/
theorem agreesPermit_spared {status : RunStatus} {execution : Option ExecutionId}
    {p : Permit ExecutionId} (h : s.registry.Spares t.registry) (hp : s.registry k = some p)
    (hagrees : status.agreesPermit execution p) :
    ∃ q, t.registry k = some q ∧ status.agreesPermit execution q := by
  obtain ⟨q, hq, hmoved⟩ := h.advances k p hp
  have hclosed : p.Closed → q = p := fun hclosed => Permit.closed_final hmoved hclosed
  have htaken : ∀ e, p = .taken e → q = p := by
    intro e he
    have hkept := h.taken k e (he ▸ hp)
    rw [hq] at hkept
    rw [he]
    exact Option.some.inj hkept
  refine ⟨q, hq, ?_⟩
  cases status with
  | waitingApproval => exact ⟨hagrees.1, (h.executions k p q hp hq).trans hagrees.2⟩
  | queued | leased | running | recovering | verifying | expired =>
      obtain ⟨e, he, hp'⟩ := hagrees
      exact ⟨e, he, (htaken e hp').trans hp'⟩
  | finishedUngraded | failed =>
      obtain ⟨e, he, hp'⟩ := hagrees
      exact ⟨e, he, (hclosed (by rw [hp']; trivial)).trans hp'⟩
  | cancelled =>
      rcases hagrees with ⟨he, hp' | hp'⟩ | ⟨e, he, hp'⟩
      · exact .inl ⟨he, .inl ((hclosed (by rw [hp']; trivial)).trans hp')⟩
      · exact .inl ⟨he, .inr ((hclosed (by rw [hp']; trivial)).trans hp')⟩
      · exact .inr ⟨e, he, (hclosed (by rw [hp']; trivial)).trans hp'⟩

/-- Requests and grants stay, so only the permit has to be looked at again. -/
theorem Bound.later (h : s.Bound r k)
    (hrequests : Table.Evolves ApprovalRequest.Later s.requests t.requests)
    (hgrants : Table.Evolves ApprovalGrant.Later s.grants t.grants)
    (hfixed : r'.fixed = r.fixed)
    (hpermit : ∃ p, t.registry k = some p ∧ r'.status.agreesPermit r.executionId p) :
    t.Bound r' k := by
  have horganization : r'.organizationId = r.organizationId := by
    have hsame := congrArg ProductionRun.organizationId hfixed
    exact hsame
  have hgrant : r'.grantId = r.grantId := by
    have hsame := congrArg ProductionRun.grantId hfixed
    exact hsame
  have hexecution : r'.executionId = r.executionId := by
    have hsame := congrArg ProductionRun.executionId hfixed
    exact hsame
  constructor
  · obtain ⟨x, hx, hid, horg⟩ := h.request
    obtain ⟨x', hx', hid', hlater⟩ := hrequests x hx
    have hkept := congrArg ApprovalRequest.organizationId hlater.1
    exact ⟨x', hx', hid'.trans hid, hkept.trans (horg.trans horganization.symm)⟩
  · intro e he
    rw [hexecution] at he
    obtain ⟨g, hg, hid, hrequest⟩ := h.grant e he
    obtain ⟨g', hg', hid', hlater⟩ := hgrants g hg
    have hkept := (ApprovalGrant.ids_of_fixed hlater.1).2
    refine ⟨g', hg', ?_, hkept.trans hrequest⟩
    rw [hgrant, hid]
    exact congrArg some hid'.symm
  · rw [hexecution]
    exact hpermit

theorem RunsBound.of_permits (h : RunsBound runs s)
    (hrequests : Table.Evolves ApprovalRequest.Later s.requests t.requests)
    (hgrants : Table.Evolves ApprovalGrant.Later s.grants t.grants)
    (hpermits : ∀ r ∈ runs.rows, ∀ k p, r.approvalRequestId = some k → s.registry k = some p →
      r.status.agreesPermit r.executionId p →
      ∃ q, t.registry k = some q ∧ r.status.agreesPermit r.executionId q) :
    RunsBound runs t where
  bound := by
    intro r hr k hk
    have hbound := h.bound r hr k hk
    obtain ⟨p, hp, hagrees⟩ := hbound.permit
    exact hbound.later hrequests hgrants rfl (hpermits r hr k p hk hp hagrees)
  unbound := h.unbound
  single := h.single

/-! ## One run is written -/

/-- The permit of the run, if it has one, ends up where `status` wants it. -/
inductive Settled [Sha256] (s t : Approvals) (r : ProductionRun) (status : RunStatus) : Prop where
  | unbound (hnone : r.approvalRequestId = none) (hrun : ReflTransGen Next s t)
      (hregistry : t.registry = s.registry)
  | bound {k : RequestId} {p : Permit ExecutionId} (hk : r.approvalRequestId = some k)
      (hrun : ReflTransGen Next s t)
      (hregistry : t.registry = Function.update s.registry k (some p))
      (hagrees : status.agreesPermit r.executionId p)

variable [Sha256]

theorem Settled.run {status : RunStatus} (h : Settled s t r status) : ReflTransGen Next s t := by
  cases h with
  | unbound _ hrun _ => exact hrun
  | bound _ hrun _ _ => exact hrun

/-- A run goes on, or expires, under the permit that it has taken. -/
theorem Settled.same {status : RunStatus} (h : ∀ k, r.approvalRequestId = some k → s.Bound r k)
    (hopen : r.status.executing) (hstatus : status.executing ∨ status = .expired) :
    Settled s s r status := by
  cases hk : r.approvalRequestId with
  | none => exact .unbound hk .refl rfl
  | some k =>
      obtain ⟨p, hp, hagrees⟩ := (h k hk).permit
      rw [agreesPermit_open hopen] at hagrees
      refine .bound (p := p) hk .refl ?_ ?_
      · rw [← hp, Function.update_eq_self]
      · rcases hstatus with hstatus | rfl
        · rwa [agreesPermit_open hstatus]
        · exact hagrees

/-- The permit of the run stays with the execution of the run. -/
theorem Settled.executions {status : RunStatus} (h : Settled s t r status)
    (hbound : ∀ k, r.approvalRequestId = some k → s.Bound r k) :
    s.registry.SameExecutions t.registry := by
  cases h with
  | unbound _ _ hregistry =>
      intro k
      rw [hregistry]
  | bound hk _ hregistry hagrees =>
      -- Before and after, the permit has the execution that the run has.
      obtain ⟨p, hp, hbefore⟩ := (hbound _ hk).permit
      rw [hregistry]
      apply Permit.Registry.sameExecutions_update
      unfold Permit.Registry.executionAt
      rw [hp, Option.bind_some, execution_of_agrees hbefore, execution_of_agrees hagrees]

omit [Sha256] in
/-- The run is written, its own permit moves and no other one does. -/
theorem RunsBound.replaced (h : RunsBound runs s) (hruns : Table.Replaces runs runs' r r')
    (happroval : r'.approvalRequestId = r.approvalRequestId)
    (hrequests : Table.Evolves ApprovalRequest.Later s.requests t.requests)
    (hgrants : Table.Evolves ApprovalGrant.Later s.grants t.grants)
    (hother : ∀ k, r.approvalRequestId ≠ some k → t.registry k = s.registry k)
    (hbound : ∀ k, r.approvalRequestId = some k → t.Bound r' k)
    (hunbound : r.approvalRequestId = none → Unbound r') : RunsBound runs' t where
  bound := by
    intro x hx k hk
    rcases hruns.mem_iff.mp hx with rfl | ⟨hold, hkey⟩
    · exact hbound k (happroval ▸ hk)
    · have hx := h.bound x hold k hk
      refine hx.later hrequests hgrants rfl ?_
      rw [hother k]
      · exact hx.permit
      · intro hsame
        rw [h.single x hold r hruns.mem k hk hsame] at hkey
        exact hkey rfl
  unbound := by
    intro x hx hnone
    rcases hruns.mem_iff.mp hx with rfl | ⟨hold, _⟩
    · exact hunbound (happroval ▸ hnone)
    · exact h.unbound x hold hnone
  single := by
    have hmine : ∀ x ∈ runs.rows, Keyed.key x ≠ Keyed.key r → ∀ k,
        x.approvalRequestId = some k → r'.approvalRequestId ≠ some k := by
      intro x hx hkey k hk hsame
      rw [happroval] at hsame
      exact hkey (by rw [h.single x hx r hruns.mem k hk hsame])
    intro x hx y hy k hxk hyk
    rcases hruns.mem_iff.mp hx with rfl | ⟨hx, hxkey⟩
    · rcases hruns.mem_iff.mp hy with rfl | ⟨hy, hykey⟩
      · rfl
      · exact absurd hxk (hmine y hy hykey k hyk)
    · rcases hruns.mem_iff.mp hy with rfl | ⟨hy, _⟩
      · exact absurd hyk (hmine x hx hxkey k hxk)
      · exact h.single x hx y hy k hxk hyk

/-- A run moves on within its terms, and its permit with it. -/
theorem RunsBound.settled (h : RunsBound runs s) (hruns : Table.Replaces runs runs' r r')
    (hfixed : r'.fixed = r.fixed) (hwaiting : r'.status ≠ .waitingApproval)
    (hsettled : Settled s t r r'.status) : RunsBound runs' t := by
  have happroval : r'.approvalRequestId = r.approvalRequestId := by
    have hsame := congrArg ProductionRun.approvalRequestId hfixed
    exact hsame
  have hrequests := requests_of_run hsettled.run
  have hgrants := grants_of_run hsettled.run
  refine h.replaced hruns happroval hrequests hgrants ?_ ?_ ?_
  · intro k hk
    cases hsettled with
    | unbound _ _ hregistry => rw [hregistry]
    | bound hk' _ hregistry _ =>
        rw [hregistry, Function.update_of_ne]
        exact fun hsame => hk (hsame ▸ hk')
  · intro k hk
    refine (h.bound r hruns.mem k hk).later hrequests hgrants hfixed ?_
    cases hsettled with
    | unbound hnone _ _ =>
        rw [hnone] at hk
        cases hk
    | bound hk' _ hregistry hagrees =>
        rw [hk] at hk'
        rw [Option.some.inj hk', hregistry, Function.update_self]
        exact ⟨_, rfl, hagrees⟩
  · intro hnone
    obtain ⟨_, hgrant, hexecution⟩ := h.unbound r hruns.mem hnone
    have hgrant' := congrArg ProductionRun.grantId hfixed
    have hexecution' := congrArg ProductionRun.executionId hfixed
    exact ⟨hwaiting, hgrant'.trans hgrant, hexecution'.trans hexecution⟩

omit [Sha256] in
/-- A run is inserted, with a request of its own or with none. -/
theorem RunsBound.inserted (h : RunsBound runs s) {hfresh}
    (hruns : runs' = runs.insert r hfresh)
    (hrequests : Table.Evolves ApprovalRequest.Later s.requests t.requests)
    (hgrants : Table.Evolves ApprovalGrant.Later s.grants t.grants)
    (hother : ∀ k, (s.registry k).isSome → t.registry k = s.registry k)
    (hbound : ∀ k, r.approvalRequestId = some k → t.Bound r k ∧ s.registry k = none)
    (hunbound : r.approvalRequestId = none → Unbound r) : RunsBound runs' t := by
  have hmem : ∀ x, x ∈ runs'.rows ↔ x ∈ runs.rows ∨ x = r := by
    intro x
    rw [hruns, Table.mem_insert]
  -- A run that was there has a permit that was there.
  have hmine : ∀ x ∈ runs.rows, ∀ k, x.approvalRequestId = some k →
      r.approvalRequestId ≠ some k := by
    intro x hx k hk hsame
    obtain ⟨p, hp, _⟩ := (h.bound x hx k hk).permit
    rw [(hbound k hsame).2] at hp
    cases hp
  refine ⟨?_, ?_, ?_⟩
  · intro x hx k hk
    rcases (hmem x).mp hx with hold | rfl
    · have hx := h.bound x hold k hk
      refine hx.later hrequests hgrants rfl ?_
      obtain ⟨p, hp, hagrees⟩ := hx.permit
      rw [hother k (by rw [hp]; rfl)]
      exact ⟨p, hp, hagrees⟩
    · exact (hbound k hk).1
  · intro x hx hnone
    rcases (hmem x).mp hx with hold | rfl
    · exact h.unbound x hold hnone
    · exact hunbound hnone
  · intro x hx y hy k hxk hyk
    rcases (hmem x).mp hx with hx | rfl
    · rcases (hmem y).mp hy with hy | rfl
      · exact h.single x hx y hy k hxk hyk
      · exact absurd hyk (hmine x hx k hxk)
    · rcases (hmem y).mp hy with hy | rfl
      · exact absurd hxk (hmine y hy k hyk)
      · rfl

end Approvals

end FlowPilot
