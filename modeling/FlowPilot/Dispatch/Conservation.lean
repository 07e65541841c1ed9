import FlowPilot.Dispatch.Sessions

/-!
# Conservation of the backlog counter

Every write of `ready_count` is made on a row that the transaction has locked, together with the
change of the outbox row that it counts.  So the counter of a partition is the number of its
active rows in every state, whatever the transactions had read before they locked.
-/

open Relation FlowPilot.Lib FlowPilot.Lib.Sessions

namespace FlowPilot

section

variable [Sha256]

/-- The step lemma: whatever a transaction has read, its commit keeps the counters. -/
theorem counting : Invariant services Anything
    (fun world => world.Valid ∧ world.plane.db.Counted) (fun _ _ => True) where
  opens := fun _ _ _ _ => trivial
  rereads := fun _ _ _ _ _ _ => trivial
  commits := by
    rintro world s _ ⟨hv, hcounted⟩ _ _ ⟨reply, plane, hcommit, rfl⟩
    have hstep := Session.commit_step hv.consistent hcommit
    exact ⟨⟨hv.session hcommit, hstep.counted hcounted⟩, fun _ _ => trivial⟩
  other := by
    rintro world next ⟨hv, hcounted⟩ h
    exact ⟨⟨h.step.valid hv, (h.step.tables hv).counted hcounted⟩, fun _ _ => trivial⟩

/-- The capacity check compares the numbers of active rows themselves. -/
theorem capacityLeft_counted {db : Db} (hc : db.Counted) (organizationId : OrganizationId)
    (visible : List OrganizationId) (now : Time) :
    let locked := Control.ensurePartition db organizationId now
    Control.capacityLeft locked organizationId visible = true ↔
      ((Control.lockPartitions locked organizationId visible).map
          fun p => (db.activeCount p.organizationId : Int)).sum < Control.queueTotalCapacity ∧
        db.activeCount organizationId < Control.queueOrganizationCapacity := by
  intro locked
  rcases Control.ensurePartition_idle db organizationId now with ⟨hidle, hpart⟩
  have hlocked : locked.Counted := hidle.toQuiet.counted hc
  have hactive : ∀ org, locked.readyCount org = db.activeCount org := by
    intro org
    rw [hidle.ready, hc.ready]
  have hrow : ∀ p ∈ Control.lockPartitions locked organizationId visible,
      p.readyCount = (db.activeCount p.organizationId : Int) := by
    intro p hp
    have hget : locked.partitions.get? p.organizationId = some p :=
      Table.get?_of_mem (List.mem_filter.mp hp).1
    rw [← hactive]
    unfold Db.readyCount Db.readyIn
    rw [hget]
  rw [Control.capacityLeft_iff hpart, List.map_congr_left hrow, hactive]

theorem ready_count_conserved (directory : Directory) (authorities : Table ApprovalAuthority)
    (heads : Table AuditChainHead) (c : Config World Session)
    (hrun : ReflTransGen (Step services Anything)
      (Config.start (World.start directory authorities heads)) c) :
    (∀ org, c.store.plane.db.readyCount org = c.store.plane.db.activeCount org) ∧
    (∀ org, c.store.plane.db.activeCount org ≤ 32) ∧
    (∀ o ∈ c.store.plane.db.outbox.rows, o.status.active →
      1 ≤ c.store.plane.db.readyCount o.organizationId) ∧
    ∀ organizationId visible now,
      let locked := Control.ensurePartition c.store.plane.db organizationId now
      Control.capacityLeft locked organizationId visible = true ↔
        ((Control.lockPartitions locked organizationId visible).map
            fun p => (c.store.plane.db.activeCount p.organizationId : Int)).sum <
            Control.queueTotalCapacity ∧
          c.store.plane.db.activeCount organizationId < Control.queueOrganizationCapacity := by
  have hstart : Holds (fun world : World => world.Valid ∧ world.plane.db.Counted)
      (fun _ (_ : Session) => True) (Config.start (World.start directory authorities heads)) :=
    holds_start ⟨World.valid_start directory authorities heads,
      Db.Counted.initial directory authorities heads⟩
  rcases (counting.run hstart hrun).1 with ⟨_, hcounted⟩
  exact ⟨hcounted.ready, hcounted.bounded, fun o ho hactive => hcounted.positive ho hactive,
    capacityLeft_counted hcounted⟩

end

section

attribute [local instance] polynomialSha256

namespace Sample

/-- A second admission that reads while the first run is in the queue. -/
def secondAdmission : Session := admitting "idempotency-key-2" second firstQueued.store.plane

def firstLeased : Config World Session :=
  (claim (2 * second)).work (secondAdmission.openIn firstQueued 0)

theorem firstLeased_items : firstLeased.store.items ≠ [] := by decide +kernel

def firstItem : Worker.WorkItem := firstLeased.store.items.head firstLeased_items

theorem firstItem_mem : firstItem ∈ firstLeased.store.items := by
  unfold firstItem
  exact List.head_mem firstLeased_items

/-- The worker fails the first run before the second admission locks the partition. -/
def firstFailed : Config World Session :=
  (Call.fail worker firstItem .dependencyUnavailable (3 * second)).work firstLeased

def secondQueued : Config World Session := secondAdmission.finish firstFailed 0

theorem secondQueued_run :
    ReflTransGen (Step services Anything) quietConfig secondQueued := by
  have hopened : ReflTransGen (Step services Anything) quietConfig
      (secondAdmission.openIn firstQueued 0) :=
    Session.openIn_run (firstQueued_run trivial) firstQueued_free rfl
  have hleased : ReflTransGen (Step services Anything) quietConfig firstLeased := by
    refine Call.work_run hopened ?_ (.inr ⟨_, _, _, rfl⟩)
    intro item hitem
    cases hitem
  have hfailed : ReflTransGen (Step services Anything) quietConfig firstFailed := by
    refine Call.work_run hleased ?_ (.inl rfl)
    intro item hitem
    rw [← Option.some.inj hitem]
    exact firstItem_mem
  refine Session.finish_run hfailed ?_ trivial
  rw [firstFailed, Call.work_opened, firstLeased, Call.work_opened]
  exact Session.openIn_self secondAdmission firstQueued 0

end Sample

/-- The decrement of the worker falls between the reads of the second admission and its lock,
and is not lost. -/
theorem ready_count_conserved_secondQueued :
    Sample.secondQueued.store.plane.db.readyCount ⟨1⟩ =
        Sample.secondQueued.store.plane.db.activeCount ⟨1⟩ ∧
      Sample.secondQueued.store.plane.db.activeCount ⟨1⟩ = 1 := by
  refine ⟨?_, by decide +kernel⟩
  exact (ready_count_conserved Sample.directory .empty Sample.heads _
    Sample.secondQueued_run).1 ⟨1⟩

end

end FlowPilot
