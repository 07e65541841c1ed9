import FlowPilot.Control.Identifiers
import FlowPilot.Dispatch.Admitted
import FlowPilot.Recovery.Starts

/-!
# Accepted runs that the worker can start

The admission classifies an open space of actions, and the worker starts a run only for the one
effect of its task.  Everything else that `build_workflow_start` checks of a work item follows
from the admission, and no operation changes it afterwards.
-/

open FlowPilot.Lib Relation

namespace FlowPilot

/-! ## The task of a run -/

/-- The task, the payload hash and the workflow of the run belong together. -/
structure ProductionRun.Trusted [Sha256] (run : ProductionRun) : Prop where
  binding : Control.taskBinding run.taskId = (run.process, run.category)
  payload : run.payloadHash = Control.trustedTaskHash run.taskId run.process run.category
  workflow : run.workflowId = (Control.workflowIdentity run.organizationId run.runId).1

/-- The operation of the run and its parameters are the effect of its task. -/
structure ProductionRun.AuthorizesEffect [Sha256] (run : ProductionRun) : Prop where
  action : run.actionType = (Recovery.effectBinding run.taskId).1
  parameters : run.parameterHash = stableHash (Control.actionBinding
    (Recovery.effectBinding run.taskId).1 (Recovery.effectBinding run.taskId).2)

def Db.RunsTrusted [Sha256] (db : Db) : Prop := ∀ run ∈ db.runs.rows, run.Trusted

section

variable [Sha256] {r r' : ProductionRun}

theorem ProductionRun.Trusted.of_accepted (h : r'.accepted = r.accepted) (hr : r.Trusted) :
    r'.Trusted := by
  have htrusted : r.accepted.Trusted := ⟨hr.binding, hr.payload, hr.workflow⟩
  rw [← h] at htrusted
  exact ⟨htrusted.binding, htrusted.payload, htrusted.workflow⟩

theorem Control.Admitted.trusted {a : Control.Admission} {db after : Db}
    (h : Control.Admitted a db after r) : r.Trusted := by
  obtain ⟨requestId, status, sequence, hterms⟩ := h.terms
  rw [hterms]
  exact ⟨a.payload.binding_ok, rfl, rfl⟩

/-- The step lemma. -/
theorem World.Step.trusted {world next : World} (hv : world.Valid) (h : World.Step world next)
    (hdb : world.plane.db.RunsTrusted) : next.plane.db.RunsTrusted :=
  (h.admits hv).forall_runs (fun _ _ => ProductionRun.Trusted.of_accepted)
    (fun _ _ hnew => hnew.trusted) hdb

/-- The run lemma: no run of the services loses the task it was admitted for. -/
theorem World.trusted_of_run {directory : Directory} {authorities : Table ApprovalAuthority}
    {heads : Table AuditChainHead} {world : World}
    (hrun : ReflTransGen World.Step (World.start directory authorities heads) world) :
    world.plane.db.RunsTrusted := by
  have hall : world.Valid ∧ world.plane.db.RunsTrusted :=
    invariant_of_run (I := fun w => w.Valid ∧ w.plane.db.RunsTrusted)
      (fun _ _ hs hstep => ⟨hstep.valid hs.1, hstep.trusted hs.1 hs.2⟩)
      ⟨World.valid_start directory authorities heads, fun _ hmem => (List.not_mem_nil hmem).elim⟩
      hrun
  exact hall.2

end

/-! ## Identifiers in the schema of the recovery worker -/

namespace Recovery

theorem matchesOpaqueId_text {kind : IdKind} {i : Id kind} (h : i.token < 2 ^ 128) :
    matchesOpaqueId i.text = true := by
  have hjoin : utf8 "_" = [95] := by decide
  have htext : utf8 i.text = utf8 kind.prefixText ++ 95 :: utf8 (hexToken i.token) := by
    unfold Id.text
    rw [utf8_append, utf8_append, hjoin, List.append_assoc, List.singleton_append]
  have hlength := Control.length_hexToken h
  have hlead : ∃ b bytes, utf8 kind.prefixText = b :: bytes ∧ isLower b = true ∧
      (∀ c ∈ bytes, idChar c = true) ∧ bytes.length ≤ 8 := by
    cases kind <;> exact ⟨_, _, rfl, by decide, by decide, by decide⟩
  obtain ⟨b, bytes, hprefix, hfirst, hrest, hshort⟩ := hlead
  unfold matchesOpaqueId matchesPattern
  rw [htext, hprefix]
  dsimp only [List.cons_append]
  rw [hfirst, Bool.true_or, Bool.true_and, Bool.and_eq_true, List.all_eq_true]
  constructor
  · intro c hc
    rcases List.mem_append.mp hc with hc | hc
    · exact hrest c hc
    · rcases List.mem_cons.mp hc with rfl | hc
      · decide
      · exact Control.idChar_hexToken hc
  · rw [List.length_append, List.length_cons, hlength]
    simp only [decide_eq_true_eq]
    omega

theorem idChar_of_hexByte {b : Nat} (h : hexByte b = true) : idChar b = true := by
  unfold hexByte at h
  unfold idChar isLower
  rcases Bool.or_eq_true_iff.mp h with hdigit | hletter
  · simp [hdigit]
  · rw [Bool.and_eq_true, Nat.ble_eq, Nat.ble_eq] at hletter
    have hlower : (Nat.ble 97 b && Nat.ble b 122) = true := by
      rw [Bool.and_eq_true, Nat.ble_eq, Nat.ble_eq]
      omega
    simp [hlower]

theorem matchesOpaqueId_workflow [Sha256] (organizationId : OrganizationId) (runId : RunId) :
    matchesOpaqueId (Control.workflowIdentity organizationId runId).1 = true := by
  unfold Control.workflowIdentity
  dsimp only
  generalize stableHash _ = digest
  obtain ⟨hdigits, hlength⟩ := Control.hexDigits_take digest (show 48 ≤ 64 by decide)
  have hlead : utf8 "w12-" = [119, 49, 50, 45] := by decide
  unfold matchesOpaqueId matchesPattern
  rw [utf8_append, hlead]
  dsimp only [List.cons_append]
  rw [show (isLower 119 || isUpper 119) = true from by decide, Bool.true_and, Bool.and_eq_true,
    List.all_eq_true]
  constructor
  · intro c hc
    simp only [List.nil_append, List.mem_cons] at hc
    rcases hc with rfl | rfl | rfl | hc
    · decide
    · decide
    · decide
    · exact idChar_of_hexByte (hdigits c hc)
  · simp [hlength]

/-! ## build_workflow_start -/

theorem trustedTask_of_binding {taskId : FlowPilot.TaskId} {process : Process}
    {category : Category} (h : Control.taskBinding taskId = (process, category)) :
    (trustedTask taskId).1 = process ∧ (trustedTask taskId).2.1 = category := by
  cases taskId <;> (cases h; exact ⟨rfl, rfl⟩)

variable [Sha256] [AesGcm] {key nonce : List UInt8} {item : Worker.WorkItem}

/-- Another effect than that of the task is refused before anything else is looked at. -/
theorem buildWorkflowStart_refused (hkey : key.length = 32)
    (hprocess : (trustedTask item.taskId).1 = item.process)
    (hcategory : (trustedTask item.taskId).2.1 = item.category)
    (h : item.actionType ≠ (effectBinding item.taskId).1 ∨ item.parameterHash ≠ stableHash
      (Control.actionBinding (effectBinding item.taskId).1 (effectBinding item.taskId).2)) :
    buildWorkflowStart item key nonce =
      .error (.valueError "production action does not authorize trusted task effect") := by
  unfold buildWorkflowStart
  dsimp only
  rw [if_neg (not_not.mpr hkey), if_neg (by simp [hprocess, hcategory]), if_pos h]

/-- The work item that the worker builds of a trusted run is started exactly when the run has the
effect of its task, and is refused for that effect otherwise. -/
theorem buildWorkflowStart_run (hkey : key.length = 32) (hnonce : nonce.length = 12)
    {run : ProductionRun} (hrun : run.Trusted) (htoken : run.runId.token < 2 ^ 128)
    {outbox : DispatchOutbox} {fence leaseVersion attempt : Nat} {leasedAt leaseExpiresAt : Time}
    {ownerHash : Digest}
    (hitem : item = Worker.workItem run outbox fence leaseVersion attempt leasedAt leaseExpiresAt
      ownerHash) :
    (run.AuthorizesEffect → ∃ start, buildWorkflowStart item key nonce = .ok start) ∧
    (¬ run.AuthorizesEffect → buildWorkflowStart item key nonce =
      .error (.valueError "production action does not authorize trusted task effect")) := by
  obtain ⟨hprocess, hcategory⟩ := trustedTask_of_binding hrun.binding
  constructor
  · intro heffect
    refine buildWorkflowStart_ok hkey hnonce ?_
    rw [hitem]
    refine
      { process := hprocess, category := hcategory, actionType := heffect.action,
        parameterHash := heffect.parameters, payloadHash := ?_, workflowId := ?_, runId := ?_ }
    · show Control.trustedTaskHash run.taskId _ _ = run.payloadHash
      rw [hrun.payload]
      exact congrArg₂ (Control.trustedTaskHash run.taskId) hprocess hcategory
    · show matchesOpaqueId run.workflowId = true
      rw [hrun.workflow]
      exact matchesOpaqueId_workflow run.organizationId run.runId
    · exact matchesOpaqueId_text htoken
  · intro heffect
    rw [hitem]
    refine buildWorkflowStart_refused hkey hprocess hcategory ?_
    by_contra hsame
    rw [not_or, not_not, not_not] at hsame
    exact heffect ⟨hsame.1, hsame.2⟩

end Recovery

namespace Sample

attribute [local instance] polynomialSha256

abbrev cipher : Recovery.AesGcm := Recovery.Sample.taggingAesGcm []

attribute [local instance] cipher

def envelopeKey : List UInt8 := List.replicate 32 0

def envelopeNonce : List UInt8 := List.replicate 12 0

theorem effect_action : Control.matchesAction "create_ticket" = true := by decide

theorem effect_task : Control.taskBinding .joiner001v1 = (.joiner, .joiner) := rfl

/-- The effect of the first joiner task. -/
def effect : Control.RunCreate where
  taskId := .joiner001v1
  process := .joiner
  category := .joiner
  actionType := "create_ticket"
  parameters := [("employee_id", .num 41011), ("ticket_code", .str "w7.joiner001v1")]
  action_ok := effect_action
  parameters_ok := by decide +kernel
  binding_ok := effect_task

def effectAdmission : Control.Admission where
  actor := actor
  organizationId := ⟨1⟩
  payload := effect
  keyHash := stableHashText "idempotency-key-3"
  bodyHash := stableHash effect.json
  evaluation :=
    { actionType := "create_ticket"
      riskLevel := .L2
      parameterHash := stableHash (Control.actionBinding (Recovery.effectBinding .joiner001v1).1
        (Recovery.effectBinding .joiner001v1).2)
      validatedParameters := (Recovery.effectBinding .joiner001v1).2
      requiredRoles := [.manager]
      knownAction := true }
  now := 0

example : Control.evaluateRisk effect.actionType effect.parameters {} =
    .ok effectAdmission.evaluation := rfl

def effectAdmitted : World := start.perform (.admitRun effectAdmission [])

theorem effectAdmitted_run : ReflTransGen World.Step start effectAdmitted := by
  refine World.run_of_serial (World.perform_serial .refl rfl ?_)
  intro item hitem
  cases hitem

theorem effectAdmitted_evaluated :
    effectAdmitted.plane.db.runs.rows.map (fun run => (run.taskId, run.actionType,
      run.parameterHash, run.runId)) = [(.joiner001v1, "create_ticket",
        effectAdmission.evaluation.parameterHash, ⟨1⟩)] := by
  decide +kernel

end Sample

end FlowPilot
