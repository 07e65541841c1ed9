import FlowPilot.Dispatch.Coupling

/-!
# The backlog counter

`ready_count` of a partition is the number of its active outbox rows.  Every transaction keeps
this, because each change of the counter is made on the locked row.
-/

open FlowPilot.Lib

namespace FlowPilot.Db

structure Counted (db : Db) : Prop where
  range : db.InRange
  ready : ∀ org, db.readyCount org = db.activeCount org

variable {db after : Db} {o o' : DispatchOutbox} {r r' : ProductionRun}

namespace Counted

theorem initial (directory : Directory) (authorities : Table ApprovalAuthority)
    (heads : Table AuditChainHead) : (Db.initial directory authorities heads).Counted where
  range := by
    intro p hp
    cases hp
  ready := fun _ => rfl

/-- An active row has been counted. -/
theorem positive (h : db.Counted) (ho : o ∈ db.outbox.rows) (hactive : o.status.active) :
    1 ≤ db.readyCount o.organizationId := by
  have hcount : 0 < db.activeCount o.organizationId :=
    List.countP_pos_iff.mpr ⟨o, ho, by simp [hactive]⟩
  rw [h.ready]
  omega

theorem partition_positive (h : db.Counted) (ho : o ∈ db.outbox.rows)
    (hactive : o.status.active) {p : SchedulerPartition} (hp : p ∈ db.partitions.rows)
    (horg : p.organizationId = o.organizationId) : 1 ≤ p.readyCount := by
  have hget : db.partitions.get? o.organizationId = some p := by
    rw [← horg]
    exact Table.get?_of_mem hp
  have hpositive := h.positive ho hactive
  unfold readyCount readyIn at hpositive
  rwa [hget] at hpositive

theorem bounded (h : db.Counted) (org : OrganizationId) : db.activeCount org ≤ 32 := by
  have hready := h.ready org
  unfold readyCount readyIn at hready
  cases hp : db.partitions.get? org with
  | none =>
      rw [hp] at hready
      have hzero : (0 : Int) = db.activeCount org := hready
      omega
  | some p =>
      rw [hp] at hready
      have hcount : p.readyCount = db.activeCount org := hready
      have hrange := (h.range p (Table.mem_of_get? hp)).2
      omega

end Counted

theorem Quiet.counted (h : Quiet db after) (hc : db.Counted) : after.Counted where
  range := h.range hc.range
  ready := by
    intro org
    rw [h.ready, hc.ready]
    unfold activeCount
    rw [h.outbox]

theorem Move.counted (h : Move db after o o' r r') (hc : db.Counted) : after.Counted where
  range := h.range hc.range
  ready := by
    intro org
    rw [h.ready (hc.positive h.outbox.mem h.active) org, hc.ready]
    have hcount := h.outbox.count fun x => x.organizationId = org ∧ x.status.active
    unfold activeCount
    by_cases horg : org = o.organizationId
    · subst horg
      simp only [h.same_organization, h.active, true_and, decide_true, if_true] at hcount ⊢
      by_cases hactive : o'.status.active
      · simp only [hactive, decide_true, if_true, not_true, if_false] at hcount ⊢
        omega
      · simp only [hactive, decide_false, not_false_iff, if_true, Bool.false_eq_true,
          if_false] at hcount ⊢
        omega
    · have hne : ¬ o.organizationId = org := fun heq => horg heq.symm
      simp only [h.same_organization, hne, horg, false_and, decide_false, Bool.false_eq_true,
        if_false] at hcount ⊢
      omega

theorem Enqueue.counted (h : Enqueue db after o r') (hc : db.Counted) : after.Counted where
  range := h.range hc.range
  ready := by
    intro org
    rcases h.outbox with ⟨hfresh, hins⟩
    have hactive : o.status.active := .inl h.status
    rw [h.ready org, hc.ready]
    unfold activeCount
    rw [hins, Table.count_insert hfresh]
    by_cases horg : org = o.organizationId
    · rw [if_pos horg, if_pos (by simp [horg, hactive])]
      rfl
    · have hne : ¬ o.organizationId = org := fun heq => horg heq.symm
      rw [if_neg horg, if_neg (by simp [hne])]
      exact Int.add_zero _

theorem Await.counted (h : Await db after r) (hc : db.Counted) : after.Counted where
  range := h.range hc.range
  ready := by
    intro org
    rw [h.ready, hc.ready]
    unfold activeCount
    rw [h.outbox]

theorem Withdraw.counted (h : Withdraw db after r r') (hc : db.Counted) : after.Counted where
  range := h.range hc.range
  ready := by
    intro org
    rw [h.ready, hc.ready]
    unfold activeCount
    rw [h.outbox]

/-- The step lemma of the counter. -/
theorem Step.counted (h : Step db after) (hc : db.Counted) : after.Counted := by
  cases h with
  | quiet h => exact h.counted hc
  | move h => exact h.counted hc
  | enqueue h => exact h.counted hc
  | await h => exact h.counted hc
  | withdraw h => exact h.counted hc

end FlowPilot.Db
