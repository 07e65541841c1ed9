import FlowPilot.Recovery.Sound
import FlowPilot.Recovery.Starts

/-!
# Runs of the recovery workflow

How every statement of `DurableRecoveryWorkflow.run` keeps what holds, and with it: the cleanup is
called exactly once, the run returns unless a reply leads it out of its schemas, and its checkpoints
form a chain.
-/

open FlowPilot.Lib
open FlowPilot.Planning (StepId)

namespace FlowPilot.Recovery.Workflow

/-! ## Statements -/

section

variable {script : Script} {start : WorkflowStart} {l : Locals} {E : Exit → Locals → Prop}

theorem ensures_readClock {Q : Time → Locals → Prop}
    (h : Q (script.now l.clockReads) { l with clockReads := l.clockReads + 1 }) :
    Ensures (readClock script) l Q E := h

theorem ensures_breakWith {α : Type} {reason : TerminalReason} {Q : α → Locals → Prop}
    (h : E .broke { l with terminalReason := reason }) :
    Ensures (breakWith reason : Flow α) l Q E := h

theorem ensures_breakIf {condition : Prop} [Decidable condition] {reason : TerminalReason}
    {Q : PUnit → Locals → Prop} (hgo : ¬condition → Q ⟨⟩ l)
    (hbreak : condition → E .broke { l with terminalReason := reason }) :
    Ensures (breakIf condition reason) l Q E := by
  unfold breakIf
  split
  · next h => exact hbreak h
  · next h => exact hgo h

theorem ensures_orValueError {α : Type} {o : Option α} {Q : α → Locals → Prop}
    (hsome : ∀ a, o = some a → Q a l) (hnone : o = none → E .valueError l) :
    Ensures (orValueError o) l Q E := by
  cases o with
  | none => exact hnone rfl
  | some a => exact hsome a rfl

theorem ensures_request {stepId : Option StepId} {checkpoint : Option Checkpoint}
    {Q : ActivityRequest → Locals → Prop} (hQ : ∀ request, Q request l)
    (hE : ¬((1 ≤ l.epoch ∧ l.epoch ≤ 3) ∧ 1 ≤ l.revision ∧ l.revision ≤ 2) → E .valueError l) :
    Ensures (request start stepId checkpoint) l Q E := by
  unfold request
  refine Ensures.bind (Ensures.of_get ?_)
  split
  · exact hQ _
  · next h => exact hE h

/-- The run after a call. -/
def Locals.called (l : Locals) (operation : Operation) (request : ActivityRequest) (reply : Reply) :
    Locals :=
  { l with calls := l.calls ++ [⟨operation, request, reply, l.toProgress⟩] }

theorem ensures_invoke {operation : Operation} {request : ActivityRequest}
    {Q : ActivityResult → Locals → Prop}
    (hresult : ∀ r, Q r (l.called operation request (.result r)))
    (herror : ∀ cause, E (.activityError cause) (l.called operation request (.activityError cause)))
    (hcancelled : E .cancelledError (l.called operation request .cancelledError)) :
    Ensures (invoke script operation request) l Q E := by
  unfold invoke
  refine Ensures.bind (Ensures.of_get ?_)
  refine Ensures.bind (Ensures.of_set ?_)
  dsimp only
  cases hreply : script.reply l.calls.length with
  | result r => exact hresult r
  | activityError cause => exact herror cause
  | cancelledError => exact hcancelled

theorem ensures_chargeResult {result : ActivityResult} {fault : Bool} {Q : PUnit → Locals → Prop}
    (hsome : ∀ usage, charge l.usage result fault = some usage → Q ⟨⟩ { l with usage := usage })
    (hnone : charge l.usage result fault = none → E .valueError l) :
    Ensures (chargeResult result fault) l Q E := by
  unfold chargeResult
  refine Ensures.bind (Ensures.of_get ?_)
  refine Ensures.bind (ensures_orValueError ?_ hnone)
  intro usage husage
  exact hsome usage husage

end

/-! ## The statements keep what holds -/

section

variable [Sha256] {script : Script} {start : WorkflowStart} {deadline : Time} {l : Locals}
  {a r : Nat}

/-- What every exit from the main block leaves. -/
def Stopped (start : WorkflowStart) (e : Exit) (l : Locals) : Prop :=
  Sound start 0 0 l.toProgress l.calls ∧ e ≠ .unfinished ∧
    (e = .stopIteration → ¬∀ call ∈ l.calls, call.Harmless)

theorem Stopped.of_sound (h : Sound start a r l.toProgress l.calls) {e : Exit}
    (hfinished : e ≠ .unfinished) (hstep : e ≠ .stopIteration) : Stopped start e l :=
  ⟨h.weaken (Nat.zero_le a) (Nat.zero_le r), hfinished, fun he => absurd he hstep⟩

/-- Between a step and the checkpoint for it. -/
structure Building (start : WorkflowStart) (l : Locals) : Prop where
  sound : Sound start 2 1 l.toProgress l.calls
  faults : l.usage.faults ≤ start.budget.maxFaults
  epoch : l.epoch ≤ l.usage.sessionRecoveries + 1
  inside : ∀ step ∈ l.completed, step ∈ l.topology
  plan : (∀ call ∈ l.calls, call.Harmless) → l.topology.Nodup
  frugal : (∀ call ∈ l.calls, call.Frugal start) →
    l.checkpoints.length < start.budget.maxCheckpoints
  harmless : (∀ call ∈ l.calls, call.Harmless) → l.checkpoints.length < 18

/-- A round that goes on has made progress. -/
def Advanced (start : WorkflowStart) (before after : Locals) : Prop :=
  Steady start after.toProgress after.calls ∧
    before.completed.length + before.usage.faults <
      after.completed.length + after.usage.faults

theorem ensures_buildProgress {reason : String} {Q : Checkpoint → Locals → Prop}
    {E : Exit → Locals → Prop}
    (hQ : ∀ planHash fields c, fields =
        { workflowId := start.workflowId
          runId := start.runId
          taskId := start.taskId
          planHash := planHash
          revision := l.revision
          topology := l.topology
          completedStepIds := l.topology.filter (l.completed.contains ·)
          remainingStepIds := l.topology.filter (!l.completed.contains ·)
          sessionEpoch := l.epoch
          absoluteDeadlineMs := deadline / 1000
          usage := l.usage
          receiptHashes := l.receipts
          closedReason := reason
          parentCheckpointHash := lastHash l.checkpoints } →
        buildCheckpoint fields = some c → Q c l)
    (hE : E .valueError l) : Ensures (buildProgress start deadline reason) l Q E := by
  unfold buildProgress build
  refine Ensures.bind (Ensures.of_get ?_)
  refine Ensures.bind (ensures_orValueError ?_ fun _ => hE)
  intro planHash _
  refine Ensures.bind (Ensures.of_get ?_)
  refine ensures_orValueError ?_ fun _ => hE
  intro c hc
  exact hQ planHash _ c rfl hc

omit [Sha256] in
theorem mem_filter_completed {topology completed : List StepId}
    (hinside : ∀ step ∈ completed, step ∈ topology) (step : StepId) :
    step ∈ topology.filter (completed.contains ·) ↔ step ∈ completed := by
  rw [List.mem_filter, List.contains_iff_mem]
  exact ⟨fun h => h.2, fun h => ⟨hinside step h, h⟩⟩

/-- The checkpoint is appended as it was built, or with another hash that is valid as well. -/
theorem Building.append (h : Building start l) {planHash : Digest} {reason : String}
    {fields : CheckpointFields} {built c : Checkpoint}
    (hfields : fields =
        { workflowId := start.workflowId
          runId := start.runId
          taskId := start.taskId
          planHash := planHash
          revision := l.revision
          topology := l.topology
          completedStepIds := l.topology.filter (l.completed.contains ·)
          remainingStepIds := l.topology.filter (!l.completed.contains ·)
          sessionEpoch := l.epoch
          absoluteDeadlineMs := deadline / 1000
          usage := l.usage
          receiptHashes := l.receipts
          closedReason := reason
          parentCheckpointHash := lastHash l.checkpoints })
    (hbuilt : buildCheckpoint fields = some built) (hc : c.fields = built.fields)
    (hvalid : validateCheckpoint c = true) :
    Steady start { l.toProgress with checkpoints := l.checkpoints ++ [c] } l.calls := by
  have hcfields : c.fields = fields := hc.trans (buildCheckpoint_some hbuilt).1
  refine ⟨?_, h.faults, h.epoch, h.inside, h.plan⟩
  exact h.sound.append (hcfields.trans hfields) hvalid h.faults
    (mem_filter_completed h.inside) h.frugal h.harmless

theorem ensures_checkCheckpoints {Q : PUnit → Locals → Prop}
    (h : Sound start a r l.toProgress l.calls) (hQ : Q ⟨⟩ l) :
    Ensures (checkCheckpoints start) l Q (Stopped start) := by
  unfold checkCheckpoints
  refine Ensures.bind (Ensures.of_get (ensures_breakIf (fun _ => hQ) ?_))
  intro _
  exact .of_sound (l := { l with terminalReason := .budgetExhausted }) h nofun nofun

/-- An activity of the main block is called and charged without a fault. -/
theorem ensures_callAndCharge {operation : Operation} {request : ActivityRequest}
    {f : ActivityResult → Flow PUnit} {Q : PUnit → Locals → Prop}
    (h : Sound start (a + 2) (r + 1) l.toProgress l.calls) (hoperation : operation ≠ .cleanup)
    (hnext : ∀ result usage,
      Sound start a r { l.toProgress with usage := usage }
        (l.called operation request (.result result)).calls →
      Charged l.usage result false usage →
      Ensures (f result) { l.called operation request (.result result) with usage := usage } Q
        (Stopped start)) :
    Ensures (invoke script operation request >>= fun result =>
      chargeResult result false >>= fun _ => f result) l Q (Stopped start) := by
  have hcalled : ∀ reply, Sound start (a + 2) (r + 1) l.toProgress
      (l.called operation request reply).calls := fun _ => h.call hoperation
  refine Ensures.bind (ensures_invoke ?_ ?_ ?_)
  · intro result
    refine Ensures.bind (ensures_chargeResult ?_ fun _ => ?_)
    · intro usage husage
      have hattempt := result.activityAttempt_range
      refine hnext result usage ?_ (charged_of_charge husage)
      refine h.charge husage hoperation nofun ?_ ?_
      · rw [Bool.toNat_false]
        omega
      · rw [Bool.toNat_false]
        omega
    · exact .of_sound (hcalled _) nofun nofun
  · exact fun cause => .of_sound (hcalled _) nofun nofun
  · exact .of_sound (hcalled _) nofun nofun

end

/-! ## The branches of a round -/

section

variable [Sha256] {script : Script} {start : WorkflowStart} {deadline : Time} {l : Locals}
  {stepId : StepId} {latest : Option Checkpoint} {result : ActivityResult}

/-- What a step leaves that has been charged for. -/
structure Stepped (start : WorkflowStart) (a r : Nat) (l : Locals) : Prop where
  sound : Sound start a r l.toProgress l.calls
  faults : l.usage.faults ≤ start.budget.maxFaults
  epoch : l.epoch ≤ l.usage.sessionRecoveries + 1
  inside : ∀ step ∈ l.completed, step ∈ l.topology
  plan : (∀ call ∈ l.calls, call.Harmless) → l.topology.Nodup

theorem ensures_verified (h : Stepped start 0 1 l) (hnew : stepId ∉ l.completed)
    (hstep : stepId ∈ l.topology)
    (hreceipts : (∀ call ∈ l.calls, call.Frugal start) → result.receipt.isSome = true →
      l.receipts.length < start.budget.maxReceipts)
    (hfrugal : (∀ call ∈ l.calls, call.Frugal start) →
      l.checkpoints.length < start.budget.maxCheckpoints)
    (hharmless : (∀ call ∈ l.calls, call.Harmless) → l.checkpoints.length < 18) :
    Ensures (verified start deadline stepId result) l (fun _ t => Advanced start l t)
      (Stopped start) := by
  have hpaid : (∀ call ∈ l.calls, call.Frugal start) →
      (l.receipts ++ (result.receipt.map (·.resultHash)).toList).length ≤
        start.budget.maxReceipts := by
    intro hall
    rw [List.length_append]
    cases hreceipt : result.receipt with
    | none => exact (h.sound.frugal hall).1
    | some receipt =>
        have hroom := hreceipts hall (by rw [hreceipt]; rfl)
        exact hroom
  have hcomplete := h.sound.complete hnew h.inside hstep hpaid
  have hbuilding : Building start { l with
      completed := l.completed ++ [stepId]
      receipts := l.receipts ++ (result.receipt.map (·.resultHash)).toList } := by
    refine ⟨hcomplete, h.faults, h.epoch, ?_, h.plan, hfrugal, hharmless⟩
    intro s hs
    rcases List.mem_append.mp hs with hs | hs
    · exact h.inside s hs
    · rw [List.mem_singleton.mp hs]
      exact hstep
  unfold verified
  refine Ensures.bind (Ensures.of_modify ?_)
  refine Ensures.bind (ensures_buildProgress ?_ (.of_sound hcomplete nofun nofun))
  intro planHash fields built hfields hbuilt
  refine Ensures.bind (Ensures.of_get ?_)
  dsimp only
  refine Ensures.bind (ensures_breakIf (fun _ => ?_) fun _ =>
    .of_sound hcomplete nofun nofun)
  refine Ensures.bind (ensures_breakIf (fun hvalid => ?_) fun _ =>
    .of_sound hcomplete nofun nofun)
  rw [Bool.not_eq_false] at hvalid
  have hsteady := hbuilding.append hfields hbuilt (by split <;> rfl) hvalid
  refine Ensures.bind (Ensures.of_modify ?_)
  refine ensures_checkCheckpoints hsteady.sound ⟨hsteady, ?_⟩
  dsimp only
  rw [List.length_append, List.length_singleton]
  omega

/-- Once a checkpoint is valid, it is appended. -/
theorem ensures_appendValid {c : Checkpoint} {Q : PUnit → Locals → Prop} {E : Exit → Locals → Prop}
    (hvalid : validateCheckpoint c = true)
    (hQ : Q ⟨⟩ { l with checkpoints := l.checkpoints ++ [c] }) :
    Ensures (appendValid c) l Q E := by
  unfold appendValid
  rw [if_pos hvalid]
  exact hQ

theorem ensures_sessionLost (h : Stepped start 6 3 l) :
    Ensures (sessionLost script start deadline stepId latest) l
      (fun _ t => Steady start t.toProgress t.calls ∧ t.completed = l.completed ∧
        t.usage.faults = l.usage.faults) (Stopped start) := by
  unfold sessionLost
  refine Ensures.bind (ensures_request (fun refresh => ?_) fun _ =>
    .of_sound h.sound nofun nofun)
  refine ensures_callAndCharge (a := 4) (r := 2) h.sound nofun ?_
  intro refreshed usage hrefreshed hcharged
  refine Ensures.bind (Ensures.of_get ?_)
  refine Ensures.bind (ensures_breakIf (fun hroom => ?_) fun _ =>
    .of_sound hrefreshed nofun nofun)
  have hrecoveries : usage.sessionRecoveries = l.usage.sessionRecoveries :=
    hcharged.sessionRecoveries
  have hepoch := h.epoch
  have hnext := hrefreshed.nextEpoch (by
    dsimp only at hroom ⊢
    omega)
  refine Ensures.bind (Ensures.of_modify ?_)
  refine Ensures.bind (ensures_request (fun recover => ?_) fun _ => .of_sound hnext nofun nofun)
  refine ensures_callAndCharge (a := 2) (r := 1) (l := { (l.called .refresh refresh
    (.result refreshed)) with usage := usage, epoch := l.epoch + 1 }) hnext nofun ?_
  intro recovered usage' hrecovered hcharged'
  have hrecoveries' : usage'.sessionRecoveries = usage.sessionRecoveries :=
    hcharged'.sessionRecoveries
  have hcounted := hrecovered.recovered (by
    dsimp only at hroom ⊢
    omega)
  refine Ensures.bind (Ensures.of_modify ?_)
  refine Ensures.bind (Ensures.of_get ?_)
  refine Ensures.bind (ensures_breakIf (fun _ => ?_) fun _ =>
    .of_sound hcounted nofun nofun)
  have hfaults : usage'.faults = l.usage.faults :=
    hcharged'.faults.trans hcharged.faults
  refine Ensures.bind (ensures_buildProgress ?_ (.of_sound hcounted nofun nofun))
  intro planHash fields c hfields hbuilt
  have hbuilding : Building start { (({ (l.called .refresh refresh (.result refreshed)) with
      usage := usage, epoch := l.epoch + 1 } : Locals).called .recover recover
        (.result recovered)) with
      usage := { usage' with sessionRecoveries := usage'.sessionRecoveries + 1 } } := by
    refine ⟨hcounted, hfaults.le.trans h.faults, ?_, h.inside, ?_, ?_, ?_⟩
    · show l.epoch + 1 ≤ usage'.sessionRecoveries + 1 + 1
      omega
    · exact fun hall => h.plan (Sound.fewer (Sound.fewer hall).1).1
    · exact fun hall => (Sound.fewer hall).2.checkpoints ⟨recovered, rfl, .inr (.inl rfl)⟩
    · exact fun hall => (Sound.fewer hall).2.checkpoints ⟨recovered, rfl, .inr (.inl rfl)⟩
  have hvalid : validateCheckpoint c = true := by
    refine validate_of_build l.completed hbuilt ?_ ?_ <;> rw [hfields] <;> rfl
  have hsteady := hbuilding.append hfields hbuilt rfl hvalid
  refine Ensures.bind (ensures_appendValid hvalid ?_)
  exact ensures_checkCheckpoints hsteady.sound ⟨hsteady, rfl, hfaults⟩

theorem ensures_replanEligible (h : Stepped start 6 3 l) :
    Ensures (replanEligible script start deadline stepId latest) l
      (fun _ t => Steady start t.toProgress t.calls ∧ t.completed = l.completed ∧
        t.usage.faults = l.usage.faults) (Stopped start) := by
  unfold replanEligible
  refine Ensures.bind (Ensures.of_get ?_)
  refine Ensures.bind (ensures_breakIf (fun hroom => ?_) fun _ =>
    .of_sound h.sound nofun nofun)
  rw [not_or, not_or] at hroom
  have hnext := h.sound.nextRevision (by omega)
  refine Ensures.bind (Ensures.of_modify ?_)
  refine Ensures.bind (ensures_request (fun replan => ?_) fun _ => .of_sound hnext nofun nofun)
  refine ensures_callAndCharge (a := 4) (r := 2) (l := { l with revision := l.revision + 1 })
    hnext nofun ?_
  intro replanned usage hreplanned hcharged
  have hreplans : usage.replans = l.usage.replans := hcharged.replans
  have hcounted := hreplanned.replanned replanned.replacedStepIds.length
    (by
      dsimp only
      omega) replanned.replacedStepIds_length
  refine Ensures.bind (Ensures.of_modify ?_)
  refine Ensures.bind (ensures_breakIf (fun _ => ?_) fun _ =>
    .of_sound hcounted nofun nofun)
  have hplanned := hcounted.setPlan replanned.planHash replanned.topology_length
  refine Ensures.bind (Ensures.of_modify ?_)
  refine Ensures.bind (Ensures.of_get ?_)
  refine Ensures.bind (ensures_breakIf (fun hkept => ?_) fun _ =>
    .of_sound hplanned nofun nofun)
  have hfaults : usage.faults = l.usage.faults := hcharged.faults
  have hinside : ∀ step ∈ l.completed, step ∈ replanned.topology := by
    intro step hstep
    by_contra hlost
    exact hkept ⟨step, hstep, hlost⟩
  refine Ensures.bind (ensures_buildProgress ?_ (.of_sound hplanned nofun nofun))
  intro planHash fields c hfields hbuilt
  have hbuilding : Building start { (({ l with revision := l.revision + 1 } : Locals).called
      .replan replan (.result replanned)) with
      usage := { usage with
        replans := usage.replans + 1
        replacedNodes := usage.replacedNodes + replanned.replacedStepIds.length }
      planHash := replanned.planHash
      topology := replanned.topology } := by
    refine ⟨hplanned.weaken (by omega) (by omega), hfaults.le.trans h.faults, ?_, hinside, ?_, ?_,
      ?_⟩
    · show l.epoch ≤ usage.sessionRecoveries + 1
      rw [hcharged.sessionRecoveries]
      exact h.epoch
    · exact fun hall => (Sound.fewer hall).2.plan replanned rfl (.inr rfl)
    · exact fun hall => (Sound.fewer hall).2.checkpoints ⟨replanned, rfl, .inr (.inr (.inl rfl))⟩
    · exact fun hall => (Sound.fewer hall).2.checkpoints ⟨replanned, rfl, .inr (.inr (.inl rfl))⟩
  have hvalid : validateCheckpoint c = true := by
    refine validate_of_build l.completed hbuilt ?_ ?_ <;> rw [hfields] <;> rfl
  exact ensures_appendValid hvalid ⟨hbuilding.append hfields hbuilt rfl hvalid, rfl, hfaults⟩

omit [Sha256] in
theorem attempt_le_fault (result : ActivityResult) :
    result.activityAttempt - 1 ≤ result.faultUsed.toNat := by
  have hrange := result.activityAttempt_range
  unfold ActivityResult.faultUsed
  rcases Nat.lt_or_ge 1 result.activityAttempt with hsecond | hfirst
  · rw [decide_eq_true hsecond, Bool.true_or, Bool.toNat_true]
    omega
  · omega

omit [Sha256] in
theorem faultUsed_of_outcome
    (h : result.outcome = .sessionLost ∨ result.outcome = .replanEligible) :
    result.faultUsed = true := by
  unfold ActivityResult.faultUsed
  rcases h with h | h <;> rw [h] <;> simp

/-- A step has been answered. -/
theorem ensures_afterStep (h : Steady start l.toProgress l.calls) {request : ActivityRequest}
    (hnew : stepId ∉ l.completed) (hstep : stepId ∈ l.topology) :
    Ensures (afterStep script start deadline stepId latest result)
      (l.called .executeStep request (.result result)) (fun _ t => Advanced start l t)
      (Stopped start) := by
  have hrange := result.activityAttempt_range
  have hretry := attempt_le_fault result
  have hcalled : Sound start 2 1 l.toProgress
      (l.called .executeStep request (.result result)).calls := h.sound.call nofun
  unfold afterStep
  refine Ensures.bind (ensures_chargeResult ?_ fun _ => .of_sound hcalled nofun nofun)
  intro usage husage
  have hcharged : Charged l.usage result result.faultUsed usage := charged_of_charge husage
  have hsound : ∀ {a r : Nat}, result.activityAttempt + a ≤ 2 + 6 * result.faultUsed.toNat →
      result.activityAttempt - 1 + r ≤ 1 + 3 * result.faultUsed.toNat →
      Sound start a r { l.toProgress with usage := usage }
        (l.called .executeStep request (.result result)).calls := by
    intro a r ha hr
    exact h.sound.charge husage nofun (fun hused => ⟨rfl, hused⟩) ha hr
  have hany := hsound (a := 0) (r := 0) (by omega) (by omega)
  refine Ensures.bind (Ensures.of_get ?_)
  refine Ensures.bind (ensures_breakIf (fun hfaults => ?_) fun _ =>
    .of_sound hany nofun nofun)
  dsimp only at hfaults
  have hstepped : ∀ {a r : Nat}, Sound start a r { l.toProgress with usage := usage }
        (l.called .executeStep request (.result result)).calls →
      Stepped start a r
        { l.called .executeStep request (.result result) with usage := usage } := by
    intro a r hs
    refine ⟨hs, Nat.le_of_not_lt hfaults, ?_, h.inside, ?_⟩
    · show l.epoch ≤ usage.sessionRecoveries + 1
      rw [hcharged.sessionRecoveries]
      exact h.epoch
    · exact fun hall => h.plan (Sound.fewer hall).1
  have hfaulted : result.faultUsed = true →
      Stepped start 6 3
        { l.called .executeStep request (.result result) with usage := usage } := by
    intro hused
    rw [hused, Bool.toNat_true] at hsound
    exact hstepped (hsound (by omega) (by omega))
  have hmore : result.faultUsed = true → usage.faults = l.usage.faults + 1 := by
    intro hused
    rw [hcharged.faults, hused]
    rfl
  split
  · next hverified =>
      refine (ensures_verified (hstepped (hsound (by omega) (by omega))) hnew hstep ?_ ?_ ?_).mono
        ?_ fun _ _ he => he
      · exact fun hall => (Sound.fewer hall).2.receipts result rfl rfl hverified
      · exact fun hall => (Sound.fewer hall).2.checkpoints
          ⟨result, rfl, .inr (.inr (.inr ⟨rfl, hverified⟩))⟩
      · exact fun hall => (Sound.fewer hall).2.checkpoints
          ⟨result, rfl, .inr (.inr (.inr ⟨rfl, hverified⟩))⟩
      · intro _ t ht
        refine ⟨ht.1, Nat.lt_of_le_of_lt ?_ ht.2⟩
        show l.completed.length + l.usage.faults ≤ l.completed.length + usage.faults
        rw [hcharged.faults]
        omega
  · next hlost =>
      have hused := faultUsed_of_outcome (.inl hlost)
      refine (ensures_sessionLost (hfaulted hused)).mono ?_ fun _ _ he => he
      intro _ t ht
      refine ⟨ht.1, ?_⟩
      rw [ht.2.1, ht.2.2]
      show l.completed.length + l.usage.faults < l.completed.length + usage.faults
      rw [hmore hused]
      omega
  · next hreplan =>
      have hused := faultUsed_of_outcome (.inr hreplan)
      refine (ensures_replanEligible (hfaulted hused)).mono ?_ fun _ _ he => he
      intro _ t ht
      refine ⟨ht.1, ?_⟩
      rw [ht.2.1, ht.2.2]
      show l.completed.length + l.usage.faults < l.completed.length + usage.faults
      rw [hmore hused]
      omega
  · exact .of_sound hany nofun nofun
  · exact .of_sound hany nofun nofun
  · exact .of_sound hany nofun nofun
  · exact .of_sound hany nofun nofun

/-! ## Rounds -/

theorem ensures_turn (h : Steady start l.toProgress l.calls)
    (hmore : l.completed.length < l.topology.length) :
    Ensures (turn script start deadline) l (fun _ t => Advanced start l t) (Stopped start) := by
  unfold turn
  refine Ensures.bind (ensures_readClock ?_)
  refine Ensures.bind (ensures_breakIf (fun _ => ?_) fun _ => .of_sound h.sound nofun nofun)
  refine Ensures.bind (Ensures.of_get ?_)
  dsimp only
  split
  · next hnone =>
      refine Ensures.of_throw ⟨h.sound.weaken (by omega) (by omega), nofun, fun _ hall => ?_⟩
      -- every step is completed although fewer are completed than the topology names
      have hsubset : l.topology ⊆ l.completed := by
        intro step hstep
        have hdone := List.find?_eq_none.mp hnone step hstep
        simpa using hdone
      have hlength := (List.subperm_of_subset (h.plan hall) hsubset).length_le
      omega
  · next stepId hfound =>
      have hstep : stepId ∈ l.topology := List.mem_of_find?_eq_some hfound
      have hnew : stepId ∉ l.completed := by simpa using List.find?_some hfound
      let s : Locals := { l with clockReads := l.clockReads + 1 }
      have hs : Steady start s.toProgress s.calls := h
      have hcalled : ∀ request reply, Sound start 2 1 l.toProgress
          (s.called .executeStep request reply).calls := fun _ _ => h.sound.call nofun
      refine Ensures.bind ?_
      unfold executeStep
      refine Ensures.of_tryCatch (Ensures.bind (ensures_request (fun request => ?_) fun _ => ?_))
      · refine Ensures.bind (ensures_invoke ?_ ?_ ?_)
        · exact fun result => ensures_afterStep hs hnew hstep
        · intro cause
          dsimp only
          split
          · next htimeout =>
              subst htimeout
              have hattempts := start.budget.activityAttempts_range
              have htimed := h.sound.timeout (b := 2) (s := 1) request
                start.budget.maxActivityAttempts (by omega) (by omega)
              refine Ensures.bind (Ensures.of_modify ?_)
              refine Ensures.bind (Ensures.of_get ?_)
              refine Ensures.bind (ensures_breakIf (fun hfaults => ?_) fun _ =>
                .of_sound htimed nofun nofun)
              refine ⟨⟨htimed, Nat.le_of_not_lt hfaults, h.epoch, h.inside, ?_⟩, ?_⟩
              · exact fun hall => h.plan (Sound.fewer hall).1
              · exact Nat.lt_succ_self _
          · exact ensures_breakWith (.of_sound (hcalled _ _) nofun nofun)
        · exact .of_sound (hcalled _ _) nofun nofun
      · exact .of_sound h.sound nofun nofun

theorem ensures_rounds (n : Nat) : ∀ l, Steady start l.toProgress l.calls →
    19 ≤ n + (l.completed.length + l.usage.faults) →
    Ensures (rounds script start deadline n) l
      (fun _ t => Sound start 0 0 t.toProgress t.calls) (Stopped start) := by
  induction n with
  | zero =>
      intro l h hbound
      have hcompleted := h.sound.completed.2
      have hfaults := h.faults.trans start.budget.faults_range
      omega
  | succ n ih =>
      intro l h hbound
      unfold rounds
      refine Ensures.bind (Ensures.of_get ?_)
      split
      · next hmore =>
          refine Ensures.bind ((ensures_turn h hmore).mono ?_ fun _ _ he => he)
          intro _ t ht
          refine ih t ht.1 ?_
          have hless := ht.2
          omega
      · exact Ensures.of_modify (h.sound.weaken (by omega) (by omega))

end

/-! ## The whole run -/

/-- The variables that a run leaves. -/
def left {α : Type} : EStateM.Result Exit Locals α → Locals
  | .ok _ l => l
  | .error _ l => l

section

variable [Sha256] {script : Script} {start : WorkflowStart} {deadline : Time} {l : Locals}
  {a r : Nat}

theorem ensures_begin (n : Nat) :
    Ensures (begin script start deadline) { clockReads := n }
      (fun _ t => Steady start t.toProgress t.calls) (Stopped start) := by
  have hbegun : Sound start 4 2 ({ clockReads := n } : Locals).toProgress
      ({ clockReads := n } : Locals).calls := sound_start
  unfold begin
  refine Ensures.bind (ensures_request (fun request => ?_) fun _ => .of_sound hbegun nofun nofun)
  refine ensures_callAndCharge (a := 2) (r := 1) hbegun nofun ?_
  intro started usage hcharge hcharged
  refine Ensures.bind (ensures_orValueError ?_ fun _ => .of_sound hcharge nofun nofun)
  intro planHash _
  have hplanned := hcharge.setPlan (some planHash) started.topology_length
  refine Ensures.bind (Ensures.of_modify ?_)
  unfold build
  refine Ensures.bind (Ensures.bind (Ensures.of_get (ensures_orValueError ?_ fun _ =>
    .of_sound hplanned nofun nofun)))
  intro initial hinitial
  obtain ⟨hfields, _⟩ := buildCheckpoint_some hinitial
  have hvalid : validateCheckpoint initial = true := by
    refine validate_of_build [] hinitial ?_ ?_
    · exact (List.filter_eq_nil_iff.mpr fun _ _ h => Bool.noConfusion h).symm
    · exact (List.filter_eq_self.mpr fun _ _ => rfl).symm
  have hfaults : usage.faults = 0 := hcharged.faults
  have hrecoveries : usage.sessionRecoveries = 0 := hcharged.sessionRecoveries
  refine Ensures.of_modify ⟨?_, ?_, ?_, nofun, ?_⟩
  · refine hplanned.append hfields hvalid ?_ (fun _ => Iff.rfl) ?_ ?_
    · show usage.faults ≤ start.budget.maxFaults
      omega
    · exact fun _ => start.budget.checkpoints_range.1
    · exact fun _ => Nat.zero_lt_succ 17
  · show usage.faults ≤ start.budget.maxFaults
    omega
  · show 1 ≤ usage.sessionRecoveries + 1
    omega
  · exact fun hall => (Sound.fewer hall).2.plan started rfl (.inl rfl)

/-- What the main block leaves. -/
theorem ensures_guarded (script : Script) (start : WorkflowStart) (deadline : Time) (n : Nat) :
    Ensures (guarded script start deadline) { clockReads := n }
      (fun _ t => Sound start 0 0 t.toProgress t.calls)
      (fun e t => Sound start 0 0 t.toProgress t.calls ∧ e ≠ .unfinished ∧
        ¬∀ call ∈ t.calls, call.Harmless) := by
  unfold guarded
  refine Ensures.of_tryCatch ((Ensures.bind ((ensures_begin n).mono ?_ fun _ _ he => he)).mono
    (fun _ _ ht => ht) ?_)
  · intro _ t ht
    exact ensures_rounds maxRounds t ht (Nat.le_add_right_of_le (by decide))
  · intro e t ht
    cases e with
    | broke => exact ht.1
    | activityError cause => exact ht.1
    | cancelledError => exact ht.1
    | valueError => exact ht.1
    | stopIteration => exact ⟨ht.1, ht.2.1, ht.2.2 rfl⟩
    | unfinished => exact absurd rfl ht.2.1

/-- The cleanup has been called after everything else. -/
structure Closes (l t : Locals) : Prop where
  checkpoints : t.checkpoints = l.checkpoints
  call : ∃ call : Call, t.calls = l.calls ++ [call] ∧ call.operation = .cleanup

/-- A usage that adds one more activity to a harmless run. -/
theorem inBounds_of_sound (h : Sound start 0 0 l.toProgress l.calls) {u : DurableUsage}
    (hcalls : ∀ call ∈ l.calls, call.Harmless)
    (hattempts : u.activityAttempts ≤ l.usage.activityAttempts + 2)
    (hretries : u.retries ≤ l.usage.retries + 1) (hfaults : u.faults = l.usage.faults)
    (hreplans : u.replans = l.usage.replans) (hreplaced : u.replacedNodes = l.usage.replacedNodes)
    (hrecoveries : u.sessionRecoveries = l.usage.sessionRecoveries)
    (hunused : u.duplicateSideEffects = 0 ∧ u.workflowReplays = 0)
    (hreceipts : u.receiptCreates ≤ 24 ∧ u.receiptReplays ≤ 24 ∧ u.receiptMismatches ≤ 24) :
    u.InBounds := by
  obtain ⟨hfew, _⟩ := h.harmless hcalls
  have hlength := h.completed.2
  have hmost := h.attempts
  have hmostRetries := h.retries
  have hmostReplaced := h.replaced
  have hmostReplans := h.replans.trans start.budget.replans_range
  have hmostRecoveries := h.recoveries.trans start.budget.sessionRecoveries_range
  refine ⟨by omega, by omega, by omega, hreceipts.1, hreceipts.2.1, hreceipts.2.2, by omega,
    by omega, by omega, by omega, by omega⟩

theorem accepted_of_sound (h : Sound start 0 0 l.toProgress l.calls)
    (hcalls : ∀ call ∈ l.calls, call.Harmless) {u : DurableUsage} (hu : u.InBounds)
    (status : WorkflowTerminalStatus) (reason : TerminalReason) (calls : List Call) :
    (result start { l with
      usage := u, status := status, terminalReason := reason, calls := calls }).Accepted := by
  have hrevision := h.revision
  have hrevisions := start.budget.revisions_range
  have hepoch := h.epoch
  have hrecoveries := start.budget.sessionRecoveries_range
  obtain ⟨_, _, _, _, hcheckpoints⟩ := h.harmless hcalls
  refine ⟨⟨⟨hrevision.1, ?_⟩, ⟨hepoch.1, ?_⟩, ?_, hcheckpoints⟩, hu⟩
  · exact hrevision.2.trans hrevisions.2
  · show l.epoch ≤ 3
    omega
  · exact (List.length_filter_le _ _).trans h.topology

theorem ensures_cleanup (h : Sound start 0 0 l.toProgress l.calls) :
    Ensures (cleanup script start) l
      (fun _ t => Closes l t ∧
        ((∀ call ∈ t.calls, call.Harmless) → (result start t).Accepted))
      (fun e t => Closes l t ∧ e ≠ .unfinished ∧ ¬∀ call ∈ t.calls, call.Harmless) := by
  have hrange : (1 ≤ l.epoch ∧ l.epoch ≤ 3) ∧ 1 ≤ l.revision ∧ l.revision ≤ 2 := by
    have hrevision := h.revision
    have hrevisions := start.budget.revisions_range
    have hepoch := h.epoch
    have hrecoveries := start.budget.sessionRecoveries_range
    exact ⟨⟨hepoch.1, by omega⟩, hrevision.1, by omega⟩
  -- the activity was the last call, and may have been charged for
  have hdone : ∀ {request : ActivityRequest} {reply : Reply} (u : DurableUsage)
      (status : WorkflowTerminalStatus) (reason : TerminalReason),
      ((∀ call ∈ l.calls, call.Harmless) →
        (⟨.cleanup, request, reply, l.toProgress⟩ : Call).Harmless → u.InBounds) →
      Closes l { l.called .cleanup request reply with
        usage := u, status := status, terminalReason := reason } ∧
      ((∀ call ∈ (l.called .cleanup request reply).calls, call.Harmless) →
        (result start { l.called .cleanup request reply with
          usage := u, status := status, terminalReason := reason }).Accepted) := by
    intro request reply u status reason hu
    refine ⟨⟨rfl, _, rfl, rfl⟩, fun hall => ?_⟩
    obtain ⟨hcalls, hlast⟩ := Sound.fewer hall
    exact accepted_of_sound h hcalls (hu hcalls hlast) status reason _
  have hsame : (∀ call ∈ l.calls, call.Harmless) → l.usage.InBounds := by
    intro hcalls
    obtain ⟨_, hcreates, hreplays, hmismatches, _⟩ := h.harmless hcalls
    exact inBounds_of_sound h hcalls (Nat.le_add_right _ _) (Nat.le_add_right _ _) rfl rfl rfl rfl
      h.unused ⟨hcreates, hreplays, hmismatches⟩
  unfold cleanup
  refine Ensures.of_tryCatch (Ensures.bind (Ensures.of_get ?_))
  refine Ensures.bind (ensures_request (fun request => ?_) fun hbad => absurd hrange hbad)
  refine Ensures.bind (ensures_invoke ?_ ?_ ?_)
  · intro cleaned
    refine ensures_chargeResult ?_ ?_
    · intro u hu
      refine hdone u _ _ fun hcalls hlast => ?_
      have hcharged : Charged l.usage cleaned false u := charged_of_charge hu
      have hattempt := cleaned.activityAttempt_range
      obtain ⟨_, hcreates, hreplays, hmismatches, _⟩ := h.harmless hcalls
      refine inBounds_of_sound h hcalls ?_ ?_ hcharged.faults hcharged.replans
        hcharged.replacedNodes hcharged.sessionRecoveries ?_ ⟨?_, ?_, ?_⟩
      · rw [hcharged.activityAttempts]
        omega
      · rw [hcharged.retries]
        omega
      · rw [hcharged.duplicateSideEffects, hcharged.workflowReplays]
        exact h.unused
      · rw [hcharged.receiptCreates]
        exact received_bound hcreates (hlast.creates cleaned rfl)
      · rw [hcharged.receiptReplays]
        exact received_bound hreplays (hlast.replays cleaned rfl)
      · rw [hcharged.receiptMismatches]
        exact received_bound hmismatches (hlast.mismatches cleaned rfl)
    · intro hnone
      obtain ⟨incoming, c, hincoming, hfalls⟩ := falls_of_charge_none hnone
      refine ⟨⟨rfl, _, rfl, rfl⟩, nofun, fun hall => ?_⟩
      have hkept := (Sound.fewer hall).2.cleanup cleaned incoming rfl rfl hincoming c
      exact absurd hfalls (Nat.not_lt_of_le hkept)
  · intro cause
    refine Ensures.of_modify ?_
    split
    · exact hdone l.usage .failed .permanentFailure fun hcalls _ => hsame hcalls
    · exact hdone l.usage _ _ fun hcalls _ => hsame hcalls
  · refine Ensures.of_modify ?_
    split
    · exact hdone l.usage .failed .permanentFailure fun hcalls _ => hsame hcalls
    · exact hdone l.usage _ _ fun hcalls _ => hsame hcalls

/-- An exception that no clause caught goes on after the cleanup. -/
theorem ensures_protectedRun (n : Nat) :
    Ensures (protectedRun script start deadline) { clockReads := n }
      (fun _ t => (∃ s, Sound start 0 0 s.toProgress s.calls ∧ Closes s t) ∧
        ((∀ call ∈ t.calls, call.Harmless) → (result start t).Accepted))
      (fun e t => (∃ s, Sound start 0 0 s.toProgress s.calls ∧ Closes s t) ∧ e ≠ .unfinished ∧
        ¬∀ call ∈ t.calls, call.Harmless) := by
  have hguarded := ensures_guarded script start deadline n
  have hfailed : ∀ {s t : Locals}, Closes s t → (¬∀ call ∈ s.calls, call.Harmless) →
      ¬∀ call ∈ t.calls, call.Harmless := by
    intro s t hcloses hs hall
    obtain ⟨call, hcalls, _⟩ := hcloses.call
    rw [hcalls] at hall
    exact hs (Sound.fewer hall).1
  unfold Ensures protectedRun
  cases hmain : guarded script start deadline { clockReads := n } with
  | ok _ s =>
      have hs := hguarded.ok hmain
      dsimp only
      cases hlast : cleanup script start s with
      | ok _ t =>
          obtain ⟨hcloses, haccepted⟩ := (ensures_cleanup hs).ok hlast
          exact ⟨⟨s, hs, hcloses⟩, haccepted⟩
      | error e t =>
          obtain ⟨hcloses, hfinished, hharm⟩ := (ensures_cleanup hs).error hlast
          exact ⟨⟨s, hs, hcloses⟩, hfinished, hharm⟩
  | error e s =>
      obtain ⟨hs, hfinished, hharm⟩ := hguarded.error hmain
      dsimp only
      cases hlast : cleanup script start s with
      | ok _ t =>
          have hcloses := ((ensures_cleanup hs).ok hlast).1
          exact ⟨⟨s, hs, hcloses⟩, hfinished, hfailed hcloses hharm⟩
      | error e' t =>
          obtain ⟨hcloses, hfinished', hharm'⟩ := (ensures_cleanup hs).error hlast
          exact ⟨⟨s, hs, hcloses⟩, hfinished', hharm'⟩

/-- What a run leaves. -/
theorem ensures_run (script : Script) (start : WorkflowStart) :
    Ensures (run script start) {}
      (fun r t => (∃ s, Sound start 0 0 s.toProgress s.calls ∧ Closes s t) ∧
        ((∀ call ∈ t.calls, call.Harmless) → r.Accepted))
      (fun e t => (∃ s, Sound start 0 0 s.toProgress s.calls ∧ Closes s t) ∧ e ≠ .unfinished ∧
        ¬∀ call ∈ t.calls, call.Harmless) := by
  unfold run
  refine Ensures.bind (ensures_readClock ?_)
  refine Ensures.bind ((ensures_protectedRun 1).mono ?_ fun _ _ he => he)
  rintro _ t ⟨hclosed, haccepted⟩
  refine Ensures.bind (Ensures.of_get ?_)
  dsimp only
  split
  · exact ⟨hclosed, haccepted⟩
  · next hrefused => exact ⟨hclosed, nofun, fun hall => hrefused (haccepted hall).1⟩

theorem closed_outcome (script : Script) (start : WorkflowStart) :
    ∃ s : Locals, Sound start 0 0 s.toProgress s.calls ∧
      Closes s (left (outcome script start)) := by
  have hrun := ensures_run script start
  unfold outcome
  cases houtcome : run script start {} with
  | ok r t => exact (hrun.ok houtcome).1
  | error e t => exact (hrun.error houtcome).1

/-- A run calls the cleanup exactly once and never needs more rounds.  It returns a result that
its schema accepts, when no reply leads it out of the schemas. -/
theorem returns_of_harmless (script : Script) (start : WorkflowStart) :
    ((left (outcome script start)).calls.filter (·.operation = .cleanup)).length = 1 ∧
      (∀ l, outcome script start ≠ .error .unfinished l) ∧
      ((∀ call ∈ (left (outcome script start)).calls, call.Harmless) →
        ∃ r l, outcome script start = .ok r l ∧ r.Accepted) := by
  have hrun := ensures_run script start
  refine ⟨?_, ?_, ?_⟩
  · obtain ⟨s, hs, hcloses⟩ := closed_outcome script start
    obtain ⟨call, hcalls, hcleanup⟩ := hcloses.call
    have hbefore : s.calls.filter (·.operation = .cleanup) = [] := by
      refine List.filter_eq_nil_iff.mpr ?_
      intro c hc hclean
      exact hs.calls c hc (of_decide_eq_true hclean)
    have hlast : [call].filter (·.operation = .cleanup) = [call] := by
      refine List.filter_eq_self.mpr ?_
      intro c hc
      rw [List.mem_singleton.mp hc]
      exact decide_eq_true hcleanup
    rw [hcalls, List.filter_append, hbefore, List.nil_append, hlast]
    rfl
  · intro l hl
    exact (hrun.error hl).2.1 rfl
  · intro hall
    cases houtcome : outcome script start with
    | ok r l =>
        rw [houtcome] at hall
        exact ⟨r, l, rfl, (hrun.ok houtcome).2 hall⟩
    | error e l =>
        rw [houtcome] at hall
        exact absurd hall (hrun.error houtcome).2.2

end

/-! ## The chain of checkpoints -/

section

variable [Sha256]

/-- The checkpoints of a run form a chain of valid checkpoints from the genesis hash, within the
budgets that the run watches; and within all of them, when each reply leaves room in the others. -/
theorem checkpoints_follow (script : Script) (start : WorkflowStart) :
    (left (outcome script start)).checkpoints.IsChain Follows ∧
      (∀ c, (left (outcome script start)).checkpoints.head? = some c →
        c.fields.parentCheckpointHash = genesisHash) ∧
      (∀ c ∈ (left (outcome script start)).checkpoints,
        validateCheckpoint c = true ∧ Partitioned c ∧ WithinBudget start c) ∧
      ((∀ call ∈ (left (outcome script start)).calls, call.Frugal start) →
        (left (outcome script start)).checkpoints.length ≤ start.budget.maxCheckpoints ∧
          ∀ c ∈ (left (outcome script start)).checkpoints,
            c.fields.receiptHashes.length ≤ start.budget.maxReceipts) := by
  obtain ⟨s, hs, hcloses⟩ := closed_outcome script start
  obtain ⟨call, hcalls, _⟩ := hcloses.call
  rw [hcloses.checkpoints, hcalls]
  refine ⟨hs.chain, hs.first, ?_, ?_⟩
  · intro c hc
    have hvalid := hs.valid c hc
    exact ⟨hvalid, (partitioned_of_validate hvalid).1, hs.budget c hc⟩
  · intro hall
    obtain ⟨hreceipts, hcheckpoints⟩ := hs.frugal (Sound.fewer hall).1
    refine ⟨hcheckpoints, fun c hc => ?_⟩
    exact (hs.below c hc).receipts.length_le.trans hreceipts

end

namespace Sample

open FlowPilot.Recovery.Sample

attribute [local instance] polynomialSha256

def zeroes : PlanningUsage := fun _ => 0

def onePlan : PlanningUsage := Function.update zeroes .planGenerations 1

def digest (n : Nat) : Digest := ⟨n⟩

def zeroText : Base64Text := ⟨"AAAAAAAAAAAAAAAA".toList, by decide⟩

def sampleStart (budget : WorkflowBudget) : WorkflowStart :=
  ⟨workflowId, runId, taskId, ⟨zeroText, zeroText, digest 0⟩, .none, budget⟩

/-- The planning service loses its plan, and with it its counters. -/
def lostPlan : Script where
  reply
    | 0 => .result { outcome := .started, planningUsage := some onePlan }
    | _ => .result { outcome := .cleaned, planningUsage := some zeroes }
  now _ := 0

theorem lostPlan_raises : ∃ l, outcome lostPlan (sampleStart {}) = .error .valueError l :=
  ⟨_, rfl⟩

def steps : List StepId := [⟨"inspect", rfl⟩, ⟨"finalize", rfl⟩]

/-- Both steps are verified with a receipt. -/
def twoReceipts : Script where
  reply
    | 0 => .result { outcome := .started, planHash := some (digest 1), topology := steps }
    | n => .result { outcome := .verified, receipt := some ⟨.created, digest n⟩ }
  now _ := 0

theorem secondAttempt_range : 1 ≤ 2 ∧ 2 ≤ 2 := by decide

/-- A plan of one step, which is verified on the second attempt, and the cleanup. -/
def oneRetry : Script where
  reply
    | 0 => .result
        { outcome := .started, planHash := some (digest 1), topology := [⟨"inspect", rfl⟩],
          planningUsage := some onePlan }
    | 1 => .result
        { outcome := .verified, receipt := some ⟨.created, digest 2⟩, activityAttempt := 2,
          activityAttempt_range := secondAttempt_range }
    | _ => .result { outcome := .cleaned, planningUsage := some onePlan }
  now _ := 0

/-- The replies meet both conditions, and there are two checkpoints, the second with a receipt. -/
theorem oneRetry_evaluated :
    ((left (outcome oneRetry (sampleStart {}))).calls.all fun call =>
      call.staysWithin && call.leavesRoom (sampleStart {})) = true ∧
    (left (outcome oneRetry (sampleStart {}))).calls.map (·.operation) =
      [.startRun, .executeStep, .cleanup] ∧
    (left (outcome oneRetry (sampleStart {}))).checkpoints.map
      (·.fields.receiptHashes.length) = [0, 1] := by
  decide +kernel

theorem returns_of_harmless_oneRetry :
    ((left (outcome oneRetry (sampleStart {}))).calls.filter
      (·.operation = .cleanup)).length = 1 ∧
    ∃ r l, outcome oneRetry (sampleStart {}) = .ok r l ∧ r.Accepted := by
  obtain ⟨hcleanup, _, hreturns⟩ := returns_of_harmless oneRetry (sampleStart {})
  refine ⟨hcleanup, hreturns fun call hcall => ?_⟩
  have hchecked := List.all_eq_true.mp oneRetry_evaluated.1 call hcall
  exact Call.harmless_of_staysWithin (Bool.and_eq_true_iff.mp hchecked).1

theorem checkpoints_follow_oneRetry :
    (left (outcome oneRetry (sampleStart {}))).checkpoints.map
      (·.fields.receiptHashes.length) = [0, 1] ∧
    (left (outcome oneRetry (sampleStart {}))).checkpoints.IsChain Follows ∧
    ∀ c ∈ (left (outcome oneRetry (sampleStart {}))).checkpoints,
      validateCheckpoint c = true ∧ c.fields.receiptHashes.length ≤ 24 := by
  obtain ⟨hchain, _, hvalid, hwithin⟩ := checkpoints_follow oneRetry (sampleStart {})
  have hbudget := hwithin fun call hcall => by
    have hchecked := List.all_eq_true.mp oneRetry_evaluated.1 call hcall
    exact Call.frugal_of_leavesRoom (Bool.and_eq_true_iff.mp hchecked).2
  exact ⟨oneRetry_evaluated.2.2, hchain, fun c hc => ⟨(hvalid c hc).1, hbudget.2 c hc⟩⟩

theorem twoReceipts_exceeds :
    ∃ c ∈ (left (outcome twoReceipts (sampleStart { maxReceipts := 1 }))).checkpoints,
      (sampleStart { maxReceipts := 1 }).budget.maxReceipts < c.fields.receiptHashes.length := by
  have hany : ((left (outcome twoReceipts (sampleStart { maxReceipts := 1 }))).checkpoints.any
      fun c => decide (1 < c.fields.receiptHashes.length)) = true := by
    decide +kernel
  obtain ⟨c, hc, hexceeds⟩ := List.any_eq_true.mp hany
  exact ⟨c, hc, of_decide_eq_true hexceeds⟩

end Sample

end FlowPilot.Recovery.Workflow
