import FlowPilot.Audit.Loads
import FlowPilot.Control.Logs
import FlowPilot.Lib.HashChain

/-!
# The audit chain verifier

`verify_audit_chain` over the chain heads and the events as they are stored.  It accepts exactly
the events of an organization that are a hash chain from the genesis hash to the stored head.
-/

open FlowPilot.Lib

namespace FlowPilot.Control

/-- `GENESIS_HASH`. -/
def genesisHash : Digest := ⟨0⟩

example : genesisHash.hex = String.ofList (List.replicate 64 '0') := by decide

inductive VerificationReason where
  | valid | sequenceMismatch | previousHashMismatch | eventHashMismatch | headMismatch
  deriving DecidableEq, Repr

structure AuditVerificationResult where
  valid : Bool
  eventCount : Nat
  headSequence : Nat
  headHash : Digest
  reason : VerificationReason
  deriving DecidableEq, Repr

/-- `ORDER BY sequence`. -/
def organizationEvents (events : Table AuditEvent) (organizationId : OrganizationId) :
    List AuditEvent :=
  (events.select fun e => e.organizationId = organizationId).insertionSort fun e f =>
    e.sequence ≤ f.sequence

/-- The stored payload, closed again. -/
def loadedPayload (event : AuditEvent) : Option Json :=
  match jsonLoads event.payloadJson with
  | some (.obj fields) =>
    match closedPayload fields with
    | .ok closed => some closed
    | .error _ => none
  | _ => none

/-- `_verification`. -/
def verification (valid : Bool) (events : List AuditEvent) (head : AuditChainHead)
    (reason : VerificationReason) : AuditVerificationResult :=
  ⟨valid, events.length, head.headSequence, head.headHash, reason⟩

section

variable [Sha256]

/-- The checks on one event. -/
def verifyEvent (expectedSequence : Nat) (previousHash : Digest) (event : AuditEvent) :
    Except VerificationReason Unit :=
  if event.sequence ≠ expectedSequence then .error .sequenceMismatch
  else if event.previousHash ≠ previousHash then .error .previousHashMismatch
  else
    match loadedPayload event with
    | none => .error .eventHashMismatch
    | some closed =>
      if canonicalBytes closed ≠ event.payloadJson then .error .eventHashMismatch
      else if stableHash closed ≠ event.payloadHash then .error .eventHashMismatch
      else if stableHash (auditEventFields event closed) ≠ event.eventHash then
        .error .eventHashMismatch
      else .ok ()

/-- The loop over the events, with the hash that it ends with. -/
def verifyEvents : Nat → Digest → List AuditEvent → Except VerificationReason Digest
  | _, previousHash, [] => .ok previousHash
  | expectedSequence, previousHash, event :: rest => do
    verifyEvent expectedSequence previousHash event
    verifyEvents (expectedSequence + 1) event.eventHash rest

/-- `verify_audit_chain`. -/
def verifyAuditChain (heads : Table AuditChainHead) (events : Table AuditEvent)
    (organizationId : OrganizationId) : Except Failure AuditVerificationResult :=
  match heads.get? organizationId with
  | none => .error .auditChainMissing
  | some head =>
    let events := organizationEvents events organizationId
    match verifyEvents 1 genesisHash events with
    | .error reason => .ok (verification false events head reason)
    | .ok previousHash =>
      if head.headSequence ≠ events.length ∨ head.headHash ≠ previousHash then
        .ok (verification false events head .headMismatch)
      else .ok (verification true events head .valid)

/-! ## The chain that it accepts -/

/-- The stored hashes are those of the stored columns. -/
def AuditSealed (event : AuditEvent) : Prop :=
  ∃ closed, loadedPayload event = some closed ∧ canonicalBytes closed = event.payloadJson ∧
    stableHash closed = event.payloadHash ∧
    stableHash (auditEventFields event closed) = event.eventHash

def auditChain : HashChain AuditEvent Digest where
  sequence := AuditEvent.sequence
  previous := AuditEvent.previousHash
  hash := AuditEvent.eventHash
  Sealed := AuditSealed

theorem verifyEvent_ok {n : Nat} {previousHash : Digest} {event : AuditEvent} :
    verifyEvent n previousHash event = .ok () ↔
      event.sequence = n ∧ event.previousHash = previousHash ∧ AuditSealed event := by
  unfold verifyEvent AuditSealed
  by_cases hseq : event.sequence = n
  · by_cases hprev : event.previousHash = previousHash
    · rw [if_neg (not_not_intro hseq), if_neg (not_not_intro hprev)]
      cases loadedPayload event with
      | none =>
          constructor
          · intro h
            cases h
          · rintro ⟨_, _, closed, hloaded, _⟩
            cases hloaded
      | some closed =>
          by_cases hjson : canonicalBytes closed = event.payloadJson
          · by_cases hpayload : stableHash closed = event.payloadHash
            · by_cases hhash : stableHash (auditEventFields event closed) = event.eventHash
              · simp [hseq, hprev, hjson, hpayload, hhash]
              · simp [hjson, hpayload, hhash]
            · simp [hjson, hpayload]
          · simp [hjson]
    · simp [hseq, hprev]
  · simp [hseq]

theorem verifyEvents_ok {n : Nat} {previousHash : Digest} {events : List AuditEvent}
    {ending : Digest} :
    verifyEvents (n + 1) previousHash events = .ok ending ↔
      auditChain.Linked n previousHash events ∧ auditChain.last previousHash events = ending := by
  induction events generalizing n previousHash with
  | nil =>
      show Except.ok previousHash = .ok ending ↔ True ∧ previousHash = ending
      rw [true_and, Except.ok.injEq]
  | cons event rest ih =>
      have hevent : verifyEvent (n + 1) previousHash event = .ok () ↔ event.sequence = n + 1 ∧
          event.previousHash = previousHash ∧ AuditSealed event := verifyEvent_ok
      show (do verifyEvent (n + 1) previousHash event; verifyEvents (n + 2) event.eventHash rest) =
          .ok ending ↔
        (event.sequence = n + 1 ∧ event.previousHash = previousHash ∧ AuditSealed event ∧
          auditChain.Linked (n + 1) event.eventHash rest) ∧
          auditChain.last event.eventHash rest = ending
      cases hresult : verifyEvent (n + 1) previousHash event with
      | ok _ =>
          obtain ⟨hseq, hprev, hsealed⟩ := hevent.mp hresult
          refine ih.trans ?_
          constructor
          · rintro ⟨hlinked, hlast⟩
            exact ⟨⟨hseq, hprev, hsealed, hlinked⟩, hlast⟩
          · rintro ⟨⟨_, _, _, hlinked⟩, hlast⟩
            exact ⟨hlinked, hlast⟩
      | error reason =>
          constructor
          · intro h
            cases h
          · rintro ⟨⟨hseq, hprev, hsealed, _⟩, _⟩
            rw [hevent.mpr ⟨hseq, hprev, hsealed⟩] at hresult
            cases hresult

/-- The log of the organization is accepted. -/
def Accepted (heads : Table AuditChainHead) (events : Table AuditEvent)
    (organizationId : OrganizationId) : Prop :=
  ∃ result, verifyAuditChain heads events organizationId = .ok result ∧ result.valid = true

theorem verifyAuditChain_valid {heads : Table AuditChainHead} {events : Table AuditEvent}
    {organizationId : OrganizationId} {head : AuditChainHead}
    (hhead : heads.get? organizationId = some head)
    (hlinked : auditChain.Linked 0 genesisHash (organizationEvents events organizationId))
    (hsequence : head.headSequence = (organizationEvents events organizationId).length)
    (hhash : head.headHash = auditChain.last genesisHash (organizationEvents events organizationId)) :
    verifyAuditChain heads events organizationId =
      .ok (verification true (organizationEvents events organizationId) head .valid) := by
  unfold verifyAuditChain
  rw [hhead]
  dsimp only
  rw [verifyEvents_ok.mpr ⟨hlinked, rfl⟩]
  dsimp only
  rw [if_neg]
  rintro (hne | hne)
  · exact hne hsequence
  · exact hne hhash

/-- What is accepted is a chain from the genesis hash to the head. -/
theorem Accepted.chain {heads : Table AuditChainHead} {events : Table AuditEvent}
    {organizationId : OrganizationId} (h : Accepted heads events organizationId) :
    ∃ head, heads.get? organizationId = some head ∧
      auditChain.Linked 0 genesisHash (organizationEvents events organizationId) ∧
      head.headSequence = (organizationEvents events organizationId).length ∧
      head.headHash = auditChain.last genesisHash (organizationEvents events organizationId) := by
  obtain ⟨result, hresult, hvalid⟩ := h
  unfold verifyAuditChain at hresult
  split at hresult
  · cases hresult
  · next head hhead =>
      dsimp only at hresult
      split at hresult
      · cases hresult
        cases hvalid
      · next ending hevents =>
          obtain ⟨hlinked, rfl⟩ := verifyEvents_ok.mp hevents
          split at hresult
          · cases hresult
            cases hvalid
          · next hends =>
              obtain ⟨hsequence, hhash⟩ := not_or.mp hends
              exact ⟨head, hhead, hlinked, not_not.mp hsequence, not_not.mp hhash⟩

end

end FlowPilot.Control
