import FlowPilot.Dispatch.Rotation
import FlowPilot.Lib.LeastRecent

/-!
# Fairness between organizations

`claim_next` serves the least recently selected organization.  While an organization keeps work
that can be claimed, every other one is claimed for at most once before it.
-/

open FlowPilot.Lib Relation

namespace FlowPilot

open Control (Plane)
open Worker (WorkItem Repository Locked selectPartition selectOutbox claimNext)

/-! ## The turn that a claim takes -/

/-- The organization's partition is not empty, and one of its rows can be claimed: it is neither
expired nor exhausted nor locked. -/
structure Eligible (db : Db) (locked : Locked) (now : Time) (organizationId : OrganizationId) :
    Prop where
  partition : ∃ p ∈ db.partitions.rows,
    p.organizationId = organizationId ∧ p.status = .ready ∧ p.readyCount > 0
  unlocked : locked.partition organizationId = false
  work : ∃ o ∈ db.outbox.rows, Worker.claimable organizationId now o ∧
    locked.outbox o.outboxId = false ∧ now < o.expiresAt ∧
    o.attemptCount < Worker.maximumAttempts

theorem lastSelected_of_mem {db : Db} {p : SchedulerPartition} (hp : p ∈ db.partitions.rows) :
    db.lastSelected p.organizationId = p.rank := by
  have hget : db.partitions.get? p.organizationId = some p := Table.get?_of_mem hp
  unfold Db.lastSelected
  rw [hget]

theorem partitionBefore_le (p q : SchedulerPartition) (h : Worker.partitionBefore p q = true) :
    p.rank ≤ q.rank := by
  unfold Worker.partitionBefore at h
  unfold SchedulerPartition.rank
  cases hp : p.lastSelectedAt with
  | none => exact bot_le
  | some s =>
    cases hq : q.lastSelectedAt with
    | none => simp [hp, hq] at h
    | some t =>
      simp only [hp, hq, Bool.or_eq_true, Bool.and_eq_true, decide_eq_true_eq] at h
      have hle : s ≤ t := by
        rcases h with hless | hsame
        · exact Nat.le_of_lt hless
        · exact Nat.le_of_eq hsame.1
      exact WithBot.coe_le_coe.mpr hle

theorem partitionBefore_not_le (p q : SchedulerPartition)
    (h : Worker.partitionBefore p q = false) : q.rank ≤ p.rank := by
  unfold Worker.partitionBefore at h
  unfold SchedulerPartition.rank
  cases hq : q.lastSelectedAt with
  | none => exact bot_le
  | some t =>
    cases hp : p.lastSelectedAt with
    | none => simp [hp, hq] at h
    | some s =>
      simp only [hp, hq, Bool.or_eq_false_iff, decide_eq_false_iff_not] at h
      have hle : t ≤ s := Nat.le_of_not_lt h.1
      exact WithBot.coe_le_coe.mpr hle

variable {db after : Db} {locked : Locked} {now : Time} {organizationId : OrganizationId}

theorem selectPartition_least {p : SchedulerPartition} (h : selectPartition db locked = some p)
    (he : Eligible db locked now organizationId) :
    db.lastSelected p.organizationId ≤ db.lastSelected organizationId := by
  obtain ⟨q, hq, hqorg, hready, hcount⟩ := he.partition
  have hle : p.rank ≤ q.rank := by
    apply Table.firstBy?_le partitionBefore_le partitionBefore_not_le h hq
    rw [hqorg, he.unlocked]
    simp [hready, hcount]
  rw [lastSelected_of_mem (Table.firstBy?_mem h).1, ← hqorg, lastSelected_of_mem hq]
  exact hle

theorem selectOutbox_eligible (he : Eligible db locked now organizationId) :
    selectOutbox db locked organizationId now ≠ none := by
  obtain ⟨o, ho, hclaim, hunlocked, -⟩ := he.work
  apply Table.firstBy?_isSome ho
  rw [hunlocked]
  simp [hclaim]

theorem touchPartition_turn {p : SchedulerPartition} (hp : p ∈ db.partitions.rows)
    (h : Worker.touchPartition db p.organizationId now = .ok after) :
    after.lastSelected =
      Function.update db.lastSelected p.organizationId (WithBot.some now) := by
  unfold Worker.touchPartition Db.updatePartition at h
  dsimp only at h
  split at h
  · cases h
    funext org
    unfold Db.lastSelected
    dsimp only
    rw [Table.get?_update]
    by_cases horg : org = p.organizationId
    · have hget : db.partitions.get? p.organizationId = some p := Table.get?_of_mem hp
      rw [horg, Function.update_self, hget]
      dsimp only [Option.map_some]
      rw [if_pos (decide_eq_true rfl)]
      rfl
    · rw [Function.update_of_ne horg]
      cases hget : db.partitions.get? org with
      | none => rfl
      | some q =>
        have hq : q.organizationId = org := Table.key_of_get? hget
        dsimp only [Option.map_some]
        rw [if_neg (by simp [hq, horg])]
  · cases h

variable [Sha256]

/-- What `claim_next` does to the order: nothing, or it moves the partition it has selected to
the end, either for a work item of that organization or because there is none to take. -/
inductive Selected (db after : Db) (locked : Locked) (now : Time) : Option WorkItem → Prop where
  | kept (h : after.lastSelected = db.lastSelected) : Selected db after locked now none
  | claimed {p : SchedulerPartition} {item : WorkItem} (hselect : selectPartition db locked = some p)
      (hitem : item.organizationId = p.organizationId)
      (h : after.lastSelected =
        Function.update db.lastSelected p.organizationId (WithBot.some now)) :
      Selected db after locked now (some item)
  | idle {p : SchedulerPartition} (hselect : selectPartition db locked = some p)
      (hnone : selectOutbox db locked p.organizationId now = none)
      (h : after.lastSelected =
        Function.update db.lastSelected p.organizationId (WithBot.some now)) :
      Selected db after locked now none

theorem takeLease_selected {w : Repository} {run : ProductionRun} {outbox : DispatchOutbox}
    {p : SchedulerPartition} {reply : Option WorkItem} (hp : selectPartition db locked = some p)
    (hrun : run.organizationId = p.organizationId)
    (h : Worker.takeLease w db run outbox p.organizationId now = .ok (reply, after)) :
    Selected db after locked now reply := by
  unfold Worker.takeLease at h
  obtain ⟨db₁, hclose, h⟩ := ok_of_bind h
  rcases Worker.closeLapsed_ok hclose with ⟨leases, rfl, -⟩
  dsimp only at h
  split at h
  · cases h
    exact .kept rfl
  · obtain ⟨db₂, hupdate, h⟩ := ok_of_bind h
    rcases Db.updateOutbox_ok hupdate with ⟨rfl, -⟩
    split at h
    · cases h
    · obtain ⟨db₃, htouch, h⟩ := ok_of_bind h
      have hmem := (Table.firstBy?_mem hp).1
      have h₃ := touchPartition_turn (by exact hmem) htouch
      obtain ⟨⟨sequence, db₄⟩, haudit, h⟩ := ok_of_bind h
      have h₄ := Worker.appendAudit_steady h₃ _ haudit
      dsimp only at h
      obtain ⟨db₅, htrace, h⟩ := ok_of_bind h
      have h₅ := Worker.appendTraceEvent_steady (by exact h₄) _ htrace
      cases h
      exact .claimed hp hrun h₅

theorem expireQueued_reply {w : Repository} {run : ProductionRun} {outbox : DispatchOutbox}
    {reply : Option WorkItem}
    (h : Worker.expireQueued w db run outbox organizationId now = .ok (reply, after)) :
    reply = none := by
  unfold Worker.expireQueued at h
  obtain ⟨_, _, h⟩ := ok_of_bind h
  obtain ⟨_, _, h⟩ := ok_of_bind h
  obtain ⟨_, _, h⟩ := ok_of_bind h
  obtain ⟨_, _, h⟩ := ok_of_bind h
  obtain ⟨_, _, h⟩ := ok_of_bind h
  cases h
  rfl

theorem claimNext_selected {w : Repository} {reply : Option WorkItem}
    (h : claimNext w locked now db = .ok (reply, after)) :
    Selected db after locked now reply := by
  unfold Worker.claimNext at h
  split at h
  · cases h
    exact .kept rfl
  next p hp =>
    dsimp only at h
    split at h
    next hnone =>
      obtain ⟨db₁, htouch, h⟩ := ok_of_bind h
      cases h
      exact .idle hp hnone (touchPartition_turn (Table.firstBy?_mem hp).1 htouch)
    next outbox _ =>
      split at h
      · cases h
        exact .kept rfl
      next run hrun =>
        have horg : run.organizationId = p.organizationId :=
          (of_decide_eq_true (Table.one?_mem hrun).2).1
        split at h
        · have hkept := Worker.expireQueued_steady rfl _ h
          rw [expireQueued_reply h]
          exact .kept hkept
        · split at h
          · obtain ⟨⟨done, db₁⟩, hfail, h⟩ := ok_of_bind h
            cases h
            exact .kept (Worker.failLocked_steady rfl _ hfail)
          · exact takeLease_selected hp horg h

/-! ## Runs -/

/-- The services, with the time of the last `claim_next` and the organizations that the work
items handed out so far belong to, in their order. -/
structure Rotation where
  world : World
  claimedAt : WithBot Time := ⊥
  served : List OrganizationId := []

/-- The operations of the services in any order.  Every `claim_next` is later than the ones
before, and the organizations `staying` have work for it. -/
inductive Rotation.Step (staying : OrganizationId → Prop) : Rotation → Rotation → Prop where
  | claim {s : Rotation} {w : Repository} {locked : Locked} {now : Time}
      {reply : Option WorkItem} {plane : Plane} (hnow : s.claimedAt < WithBot.some now)
      (hstaying : ∀ org, staying org → Eligible s.world.plane.db locked now org)
      (hcommit : (Call.claimNext w locked now).commit s.world.plane = .ok (reply, plane)) :
      Step staying s
        { world := s.world.after reply plane
          claimedAt := WithBot.some now
          served := s.served ++ (reply.map WorkItem.organizationId).toList }
  | call {s : Rotation} {c : Call} {reply : Option WorkItem} {plane : Plane}
      (hother : ∀ w locked now, c ≠ .claimNext w locked now)
      (hitem : ∀ item, c.item? = some item → item ∈ s.world.items)
      (hcommit : c.commit s.world.plane = .ok (reply, plane)) :
      Step staying s { s with world := s.world.after reply plane }
  | approvals {s : Rotation} {plane : Plane}
      (h : ApprovalsOnly s.world.plane.db plane.db) :
      Step staying s { s with world := s.world.after none plane }

/-- An operation other than `claim_next` keeps the order. -/
theorem Call.commit_steady {c : Call} {plane after : Plane} {reply : Option WorkItem}
    (hother : ∀ w locked now, c ≠ .claimNext w locked now)
    (h : c.commit plane = .ok (reply, after)) : after.db.lastSelected = plane.db.lastSelected := by
  cases c with
  | admitRun a visible =>
    rcases onPlane_ok h with ⟨result, hbody, -⟩
    exact Control.admitLocked_steady rfl _ hbody
  | claimRun actor organizationId runId expectedVersion now reads =>
    rcases onPlane_ok h with ⟨result, hbody, -⟩
    exact Control.claimProductionRun_steady rfl _ hbody
  | cancel actor organizationId runId expectedVersion now current =>
    rcases onPlane_ok h with ⟨result, hbody, -⟩
    exact Control.cancelProductionRun_steady rfl _ hbody
  | claimNext w locked now => exact absurd rfl (hother w locked now)
  | markStarted w item now =>
    rcases onDb_ok h with ⟨_, db, hbody, -, rfl⟩
    exact Worker.markStarted_steady rfl _ hbody
  | heartbeat w item now =>
    rcases onDb_ok h with ⟨_, db, hbody, -, rfl⟩
    exact Worker.heartbeat_steady rfl _ hbody
  | recordDeduplicated w item now =>
    rcases onDb_ok h with ⟨_, db, hbody, -, rfl⟩
    exact Worker.recordDeduplicated_steady rfl _ hbody
  | complete w item outcome now =>
    rcases onDb_ok h with ⟨_, db, hbody, -, rfl⟩
    exact Worker.complete_steady rfl _ hbody
  | fail w item reason now =>
    rcases onDb_ok h with ⟨_, db, hbody, -, rfl⟩
    exact Worker.fail_steady rfl _ hbody
  | release w item now =>
    rcases onDb_ok h with ⟨_, db, hbody, -, rfl⟩
    exact Worker.release_steady rfl _ hbody

omit [Sha256] in
theorem approvals_lastSelected (h : ApprovalsOnly db after) :
    after.lastSelected = db.lastSelected := by
  funext org
  unfold Db.lastSelected
  rw [h.partitions]

/-- No partition was selected after the last `claim_next`. -/
def Rotation.Timed (s : Rotation) : Prop :=
  ∀ org, s.world.plane.db.lastSelected org ≤ s.claimedAt

omit [Sha256] in
/-- A claim is a turn of the selected organization. -/
theorem turn_of_selected {p : SchedulerPartition} (hselect : selectPartition db locked = some p)
    (hlater : ∀ org, db.lastSelected org < WithBot.some now)
    (h : after.lastSelected =
      Function.update db.lastSelected p.organizationId (WithBot.some now)) :
    LeastRecent.Turn (Eligible db locked now) db.lastSelected after.lastSelected
      p.organizationId now where
  least := fun _ he => selectPartition_least hselect he
  later := hlater
  after := h

variable {staying : OrganizationId → Prop} {s next : Rotation}

theorem Rotation.Timed.step (h : s.Timed) (hstep : Rotation.Step staying s next) : next.Timed := by
  cases hstep with
  | claim hnow _ hcommit =>
    rename_i w locked now reply plane _
    rcases onDb_ok hcommit with ⟨_, db, hbody, -, rfl⟩
    have hlater : ∀ org, s.world.plane.db.lastSelected org < WithBot.some now :=
      fun org => lt_of_le_of_lt (h org) hnow
    intro org
    cases claimNext_selected hbody with
    | kept hkept =>
      show db.lastSelected org ≤ _
      rw [hkept]
      exact le_of_lt (hlater org)
    | claimed hselect _ hafter => exact (turn_of_selected hselect hlater hafter).le org
    | idle hselect _ hafter => exact (turn_of_selected hselect hlater hafter).le org
  | call hother _ hcommit =>
    intro org
    have hsteady := Call.commit_steady hother hcommit
    exact (congrFun hsteady org).trans_le (h org)
  | approvals hsame =>
    intro org
    exact (congrFun (approvals_lastSelected hsame) org).trans_le (h org)

/-- Since `before`, organization `a` has been served or all others at most once. -/
def Rotation.Behind (before : List OrganizationId) (a : OrganizationId) (s : Rotation) : Prop :=
  s.Timed ∧ ∃ window, s.served = before ++ window ∧
    (a ∈ window ∨ LeastRecent.Passed a s.world.plane.db.lastSelected window)

theorem Rotation.Behind.step {before : List OrganizationId} {a : OrganizationId}
    (ha : staying a) (h : s.Behind before a) (hstep : Rotation.Step staying s next) :
    next.Behind before a := by
  obtain ⟨htimed, window, hserved, hwindow⟩ := h
  refine ⟨htimed.step hstep, ?_⟩
  cases hstep with
  | claim hnow hstaying hcommit =>
    rename_i w locked now reply plane
    rcases onDb_ok hcommit with ⟨_, db, hbody, hreply, rfl⟩
    have hlater : ∀ org, s.world.plane.db.lastSelected org < WithBot.some now :=
      fun org => lt_of_le_of_lt (htimed org) hnow
    have heligible := hstaying a ha
    refine ⟨window ++ (reply.map WorkItem.organizationId).toList, ?_, ?_⟩
    · dsimp only
      rw [hserved, List.append_assoc]
    rcases hwindow with hdone | hpassed
    · exact .inl (List.mem_append_left _ hdone)
    rw [hreply]
    cases claimNext_selected hbody with
    | kept hkept =>
      right
      show LeastRecent.Passed a db.lastSelected (window ++ [])
      rw [hkept, List.append_nil]
      exact hpassed
    | claimed hselect hitem hafter =>
      rename_i p item
      have hturn := turn_of_selected hselect hlater hafter
      show a ∈ window ++ [item.organizationId] ∨
        LeastRecent.Passed a db.lastSelected (window ++ [item.organizationId])
      rw [hitem]
      by_cases hi : p.organizationId = a
      · rw [hi]
        exact .inl (by simp)
      · right
        exact (hpassed.turn hturn heligible hi).2
    | idle hselect hnone hafter =>
      rename_i p
      have hturn := turn_of_selected hselect hlater hafter
      -- the selected organization has nothing to claim, so it is not `a`
      have hi : p.organizationId ≠ a := by
        intro hi
        rw [hi] at hnone
        exact selectOutbox_eligible heligible hnone
      right
      show LeastRecent.Passed a db.lastSelected (window ++ [])
      rw [List.append_nil]
      exact hpassed.skip hturn heligible hi
  | call hother _ hcommit =>
    have hsteady := Call.commit_steady hother hcommit
    refine ⟨window, hserved, ?_⟩
    rcases hwindow with hdone | hpassed
    · exact .inl hdone
    · right
      exact hsteady ▸ hpassed
  | approvals hsame =>
    refine ⟨window, hserved, ?_⟩
    rcases hwindow with hdone | hpassed
    · exact .inl hdone
    · right
      exact (approvals_lastSelected hsame) ▸ hpassed

def Rotation.start (directory : Directory) (authorities : Table ApprovalAuthority)
    (heads : Table AuditChainHead) : Rotation where
  world := World.start directory authorities heads

/-- Of `n` consecutive successful claims for `n` organizations, each of them that stays eligible
gets one. -/
theorem every_staying_organization_served {directory : Directory}
    {authorities : Table ApprovalAuthority} {heads : Table AuditChainHead}
    {staying : OrganizationId → Prop} {clients : Finset OrganizationId} {before after : Rotation}
    {window : List OrganizationId}
    (hbefore : ReflTransGen (Rotation.Step fun _ => False)
      (Rotation.start directory authorities heads) before)
    (hrun : ReflTransGen (Rotation.Step staying) before after)
    (hwindow : after.served = before.served ++ window) (hclients : ∀ org ∈ window, org ∈ clients)
    (hlength : clients.card ≤ window.length) :
    ∀ org ∈ clients, staying org → org ∈ window := by
  intro a ha hstaying
  have hstart : (Rotation.start directory authorities heads).Timed := fun _ => bot_le
  have htimed : before.Timed := invariant_of_run (fun _ _ h hstep => h.step hstep) hstart hbefore
  have hnow : before.Behind before.served a :=
    ⟨htimed, [], (List.append_nil _).symm, .inr (LeastRecent.Passed.start a _)⟩
  have hafter : after.Behind before.served a :=
    invariant_of_run (fun _ _ h hstep => h.step hstaying hstep) hnow hrun
  obtain ⟨-, window', hserved, hdone⟩ := hafter
  have hsame : window' = window := List.append_cancel_left (hserved.symm.trans hwindow)
  rw [hsame] at hdone
  rcases hdone with hmem | hpassed
  · exact hmem
  · have hshort := hpassed.length_lt ha hclients
    omega

end FlowPilot

/-! ## Two organizations -/

namespace FlowPilot.Sample

open Worker (WorkItem Repository Locked)

attribute [local instance] polynomialSha256

/-- A second organization beside the first one. -/
def twoOrganizations : Directory where
  organizations := Table.insert directory.organizations ⟨⟨2⟩, .active, 1⟩ rfl
  users := Table.insert directory.users ⟨⟨2⟩, ⟨2⟩, .active, 1⟩ rfl
  identities := Table.insert directory.identities ⟨⟨2⟩, ⟨2⟩, ⟨2⟩, "issuer", ⟨2⟩, ⟨2⟩, .active, 1⟩ rfl
  memberships := Table.insert directory.memberships ⟨⟨2⟩, ⟨2⟩, ⟨2⟩, .operator, .active, 1⟩ rfl

def twoHeads : Table AuditChainHead := Table.insert heads ⟨⟨2⟩, 0, ⟨0⟩, 1, 0⟩ rfl

def secondActor : Control.ActorContext where
  userId := ⟨2⟩
  organizationId := ⟨2⟩
  role := .operator
  authorizationHash :=
    (Worker.authorizationHash (Db.initial twoOrganizations .empty twoHeads) ⟨2⟩ ⟨2⟩).getD ⟨0⟩

def betaAdmission : Control.Admission :=
  { admission with actor := secondActor, organizationId := ⟨2⟩ }

def performOn (s : Rotation) (c : Call) : Rotation := { s with world := s.world.perform c }

def claimAt (s : Rotation) (now : Time) : Rotation :=
  match (Call.claimNext worker .nothing now).commit s.world.plane with
  | .error _ => s
  | .ok (reply, plane) =>
    { world := s.world.after reply plane
      claimedAt := WithBot.some now
      served := s.served ++ (reply.map WorkItem.organizationId).toList }

def bothAdmitted : Rotation :=
  performOn
    (performOn (Rotation.start twoOrganizations .empty twoHeads)
      (.admitRun admission []))
    (.admitRun betaAdmission [⟨1⟩])

variable {staying : OrganizationId → Prop} {before s : Rotation}

theorem performOn_run {c : Call} (hrun : ReflTransGen (Rotation.Step staying) before s)
    (hother : ∀ w locked now, c ≠ .claimNext w locked now)
    (hitem : ∀ item, c.item? = some item → item ∈ s.world.items) :
    ReflTransGen (Rotation.Step staying) before (performOn s c) := by
  unfold performOn World.perform
  split
  · exact hrun
  next hcommit => exact hrun.tail (.call hother hitem hcommit)

theorem claimAt_run {now : Time} (hrun : ReflTransGen (Rotation.Step staying) before s)
    (hnow : s.claimedAt < WithBot.some now)
    (hstaying : ∀ org, staying org → Eligible s.world.plane.db .nothing now org) :
    ReflTransGen (Rotation.Step staying) before (claimAt s now) := by
  unfold claimAt
  split
  · exact hrun
  next hcommit => exact hrun.tail (.claim hnow hstaying hcommit)

theorem bothAdmitted_run : ReflTransGen (Rotation.Step fun _ => False)
    (Rotation.start twoOrganizations .empty twoHeads) bothAdmitted := by
  refine performOn_run (performOn_run .refl ?_ ?_) ?_ ?_
  · exact fun _ _ _ h => by cases h
  · exact fun _ h => by cases h
  · exact fun _ _ _ h => by cases h
  · exact fun _ h => by cases h

def firstClaimed : Rotation := claimAt bothAdmitted second

def bothClaimed : Rotation := claimAt firstClaimed (2 * second)

def eligible (db : Db) (locked : Locked) (now : Time) (organizationId : OrganizationId) : Bool :=
  (db.partitions.rows.any fun p =>
    decide (p.organizationId = organizationId ∧ p.status = .ready ∧ p.readyCount > 0)) &&
  !locked.partition organizationId &&
  db.outbox.rows.any fun o =>
    decide (Worker.claimable organizationId now o ∧ locked.outbox o.outboxId = false ∧
      now < o.expiresAt ∧ o.attemptCount < Worker.maximumAttempts)

theorem eligible_of_test {db : Db} {locked : Locked} {now : Time} {organizationId : OrganizationId}
    (h : eligible db locked now organizationId = true) : Eligible db locked now organizationId := by
  unfold eligible at h
  simp only [Bool.and_eq_true, List.any_eq_true, decide_eq_true_eq, Bool.not_eq_true'] at h
  exact ⟨h.1.1, h.1.2, h.2⟩

/-- The second organization has work before both claims, and is served after the first. -/
theorem both_claimed : eligible bothAdmitted.world.plane.db .nothing second ⟨2⟩ = true ∧
    eligible firstClaimed.world.plane.db .nothing (2 * second) ⟨2⟩ = true ∧
    firstClaimed.claimedAt = WithBot.some second ∧
    firstClaimed.served = [⟨1⟩] ∧ bothClaimed.served = [⟨1⟩, ⟨2⟩] := by
  decide +kernel

theorem bothAdmitted_served : bothAdmitted.served = [] := rfl

theorem firstClaimed_run : ReflTransGen (Rotation.Step fun org => org = ⟨2⟩)
    bothAdmitted firstClaimed := by
  refine claimAt_run .refl (WithBot.bot_lt_coe _) ?_
  intro org horg
  rw [horg]
  exact eligible_of_test both_claimed.1

/-- Two claims while the second organization stays eligible. -/
theorem every_staying_organization_served_twoClaims :
    (⟨2⟩ : OrganizationId) ∈ bothClaimed.served := by
  have hnow : firstClaimed.claimedAt < WithBot.some (2 * second) := by
    rw [both_claimed.2.2.1]
    exact WithBot.coe_lt_coe.mpr (by decide)
  have hrun : ReflTransGen (Rotation.Step fun org => org = ⟨2⟩) bothAdmitted bothClaimed := by
    refine claimAt_run firstClaimed_run hnow ?_
    intro org horg
    rw [horg]
    exact eligible_of_test both_claimed.2.1
  have hserved : bothClaimed.served = bothAdmitted.served ++ [⟨1⟩, ⟨2⟩] := both_claimed.2.2.2.2
  have hall : ∀ org ∈ ({⟨1⟩, ⟨2⟩} : Finset OrganizationId), org = ⟨2⟩ →
      org ∈ ([⟨1⟩, ⟨2⟩] : List OrganizationId) :=
    every_staying_organization_served bothAdmitted_run hrun hserved (by decide) (by decide)
  rw [hserved]
  exact hall ⟨2⟩ (by decide) rfl

/-- The second organization stays eligible, and the next successful claim goes to the first. -/
theorem other_organization_first : ∃ before after : Rotation, ∃ window : List OrganizationId,
    ReflTransGen (Rotation.Step fun _ => False)
      (Rotation.start twoOrganizations .empty twoHeads) before ∧
    ReflTransGen (Rotation.Step fun org => org = ⟨2⟩) before after ∧
    after.served = before.served ++ window ∧ window.length = 1 ∧ ⟨2⟩ ∉ window := by
  refine ⟨bothAdmitted, firstClaimed, [⟨1⟩], bothAdmitted_run, firstClaimed_run, ?_, rfl,
    by decide⟩
  rw [bothAdmitted_served, List.nil_append]
  exact both_claimed.2.2.2.1

end FlowPilot.Sample
