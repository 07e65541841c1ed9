import FlowPilot.Audit.Writers

/-!
# Accepted logs with the same head

The event hash covers every column but the payload's own text and hash, and both of these are
determined by the payload.  So the head of an accepted log determines the log.
-/

open FlowPilot.Lib

namespace FlowPilot.Control

/-- The columns that the event hash covers, with the payload that the verifier loads. -/
structure HashedFields where
  eventId : String
  organizationId : OrganizationId
  sequence : Nat
  eventType : AuditEventType
  actorReference : String
  subjectReference : String
  payload : Option Json
  previousHash : Digest
  createdAt : Time

def hashedFields (event : AuditEvent) : HashedFields where
  eventId := event.eventId
  organizationId := event.organizationId
  sequence := event.sequence
  eventType := event.eventType
  actorReference := event.actorReference
  subjectReference := event.subjectReference
  payload := loadedPayload event
  previousHash := event.previousHash
  createdAt := event.createdAt

/-- The bytes that the event hash is taken of. -/
def hashedBytes (event : AuditEvent) : List Nat :=
  canonicalBytes (auditEventFields event ((loadedPayload event).getD .null))

section

variable [Sha256]

/-- The event hash is the hash of the bytes. -/
theorem AuditSealed.eventHash {event : AuditEvent} (h : AuditSealed event) :
    event.eventHash = Sha256.sha256 (hashedBytes event) := by
  obtain ⟨closed, hloaded, _, _, hhash⟩ := h
  unfold hashedBytes
  rw [hloaded]
  exact hhash.symm

/-- Sealed events with the same hashed fields have the same columns. -/
theorem AuditSealed.eq_of_hashedFields {e f : AuditEvent} (he : AuditSealed e)
    (hf : AuditSealed f) (h : hashedFields e = hashedFields f) : e = f := by
  obtain ⟨closed, hloaded, hjson, hpayload, hhash⟩ := he
  obtain ⟨closed', hloaded', hjson', hpayload', hhash'⟩ := hf
  have hsame : loadedPayload e = loadedPayload f := congrArg HashedFields.payload h
  rw [hloaded, hloaded'] at hsame
  cases hsame
  unfold hashedFields at h
  obtain ⟨heventId, horganizationId, hsequence, heventType, hactor, hsubject, _, hprevious,
    hcreatedAt⟩ := HashedFields.mk.inj h
  have hfields : auditEventFields e closed = auditEventFields f closed := by
    unfold auditEventFields
    rw [heventId, horganizationId, hsequence, heventType, hactor, hsubject, hprevious, hcreatedAt]
  have hjsons : e.payloadJson = f.payloadJson := hjson.symm.trans hjson'
  have hpayloads : e.payloadHash = f.payloadHash := hpayload.symm.trans hpayload'
  have hhashes : e.eventHash = f.eventHash := by
    rw [← hhash, ← hhash', hfields]
  cases e
  cases f
  rw [AuditEvent.mk.injEq]
  exact ⟨horganizationId, hsequence, heventId, heventType, hactor, hsubject, hjsons, hpayloads,
    hprevious, hhashes, hcreatedAt⟩

theorem sealed_of_linked {n : Nat} {h : Digest} {events : List AuditEvent}
    (hlinked : auditChain.Linked n h events) : ∀ e ∈ events, AuditSealed e := by
  induction events generalizing n h with
  | nil =>
      intro e he
      cases he
  | cons event rest ih =>
      obtain ⟨_, _, hsealed, hrest⟩ := hlinked
      intro e he
      cases he with
      | head => exact hsealed
      | tail _ he => exact ih hrest e he

theorem eq_of_map_hashedFields {events others : List AuditEvent}
    (hevents : ∀ e ∈ events, AuditSealed e) (hothers : ∀ e ∈ others, AuditSealed e)
    (h : events.map hashedFields = others.map hashedFields) : events = others := by
  induction events generalizing others with
  | nil =>
      rw [List.map_nil] at h
      exact (List.map_eq_nil_iff.mp h.symm).symm
  | cons e events ih =>
      cases others with
      | nil => cases h
      | cons f others =>
          obtain ⟨hhead, htail⟩ := List.cons.inj h
          rw [(hevents e List.mem_cons_self).eq_of_hashedFields (hothers f List.mem_cons_self) hhead,
            ih (fun x hx => hevents x (.tail _ hx)) (fun x hx => hothers x (.tail _ hx)) htail]

theorem accepted_of_valid {heads : Table AuditChainHead} {events : Table AuditEvent}
    {organizationId : OrganizationId}
    (h : (verifyAuditChain heads events organizationId).map (·.valid) = .ok true) :
    Accepted heads events organizationId := by
  unfold Accepted
  cases hresult : verifyAuditChain heads events organizationId with
  | error e =>
      rw [hresult] at h
      cases h
  | ok result =>
      rw [hresult] at h
      exact ⟨result, rfl, Except.ok.inj h⟩

/-- Two logs of an organization that are accepted with the same head are the same log, when no two
of their events encode different fields to the same bytes or different bytes to the same hash. -/
theorem accepted_logs_agree {heads heads' : Table AuditChainHead} {events events' : Table AuditEvent}
    {organizationId : OrganizationId}
    (hencoding : ∀ e ∈ organizationEvents events organizationId,
      ∀ f ∈ organizationEvents events' organizationId,
        hashedBytes e = hashedBytes f → hashedFields e = hashedFields f)
    (hcollision : ∀ e ∈ organizationEvents events organizationId,
      ∀ f ∈ organizationEvents events' organizationId,
        Sha256.sha256 (hashedBytes e) = Sha256.sha256 (hashedBytes f) →
          hashedBytes e = hashedBytes f)
    (hhead : heads.get? organizationId = heads'.get? organizationId)
    (haccepted : Accepted heads events organizationId)
    (haccepted' : Accepted heads' events' organizationId) :
    (organizationEvents events organizationId).map hashedFields =
        (organizationEvents events' organizationId).map hashedFields ∧
      organizationEvents events organizationId = organizationEvents events' organizationId := by
  obtain ⟨head, hget, hlinked, hlength, hlast⟩ := haccepted.chain
  obtain ⟨head', hget', hlinked', hlength', hlast'⟩ := haccepted'.chain
  have hsame : head = head' := by
    rw [hget, hget'] at hhead
    exact Option.some.inj hhead
  subst hsame
  have hcontents := HashChain.Linked.contents_eq hashedFields
    (fun e f h => congrArg HashedFields.previousHash h)
    (fun e he f hf hsealed hsealed' hhash => by
      have hdigest : Sha256.sha256 (hashedBytes e) = Sha256.sha256 (hashedBytes f) := by
        rw [← hsealed.eventHash, ← hsealed'.eventHash]
        exact hhash
      exact hencoding e he f hf (hcollision e he f hf hdigest))
    hlinked hlinked' (hlength.symm.trans hlength') (hlast.symm.trans hlast')
  exact ⟨hcontents, eq_of_map_hashedFields (sealed_of_linked hlinked) (sealed_of_linked hlinked')
    hcontents⟩

end

section

attribute [local instance] polynomialSha256

def startedEvent : AuditEvent :=
  Worker.nextAuditEvent ⟨⟨1⟩, 0, genesisHash, 1, 0⟩ ⟨1⟩ ⟨0⟩ .runStarted ⟨8⟩ "run_1"
    (.obj startedPayload.fields) 2

def heartbeatEvent : AuditEvent :=
  Worker.nextAuditEvent ⟨⟨1⟩, 1, startedEvent.eventHash, 2, 2⟩ ⟨1⟩ ⟨1⟩ .leaseHeartbeat ⟨8⟩ "run_1"
    (.obj startedPayload.fields) 3

/-- An event of another organization. -/
def foreignEvent : AuditEvent := { startedEvent with organizationId := ⟨2⟩ }

def twoEvents : Table AuditEvent :=
  Table.insert (Table.insert .empty startedEvent rfl) heartbeatEvent rfl

def threeEvents : Table AuditEvent :=
  Table.insert (Table.insert (Table.insert .empty startedEvent rfl) foreignEvent rfl)
    heartbeatEvent rfl

theorem sha256_twoEvents :
    Sha256.sha256 (hashedBytes startedEvent) ≠ Sha256.sha256 (hashedBytes heartbeatEvent) := by
  decide +kernel

/-- A log of two events, and the same log with an event of another organization between them. -/
theorem accepted_logs_agree_twoEvents :
    organizationEvents twoEvents ⟨1⟩ = organizationEvents threeEvents ⟨1⟩ := by
  let heads : Table AuditChainHead :=
    Table.insert .empty ⟨⟨1⟩, 2, heartbeatEvent.eventHash, 3, 3⟩ rfl
  have htwo : organizationEvents twoEvents ⟨1⟩ = [startedEvent, heartbeatEvent] := rfl
  have hthree : organizationEvents threeEvents ⟨1⟩ = [startedEvent, heartbeatEvent] := rfl
  have hhash : ∀ e ∈ [startedEvent, heartbeatEvent], ∀ f ∈ [startedEvent, heartbeatEvent],
      Sha256.sha256 (hashedBytes e) = Sha256.sha256 (hashedBytes f) → e = f := by
    intro e he f hf hsame
    rw [List.mem_pair] at he hf
    rcases he with rfl | rfl <;> rcases hf with rfl | rfl
    · rfl
    · exact absurd hsame sha256_twoEvents
    · exact absurd hsame.symm sha256_twoEvents
    · rfl
  have haccepted : Accepted heads twoEvents ⟨1⟩ := accepted_of_valid (by decide +kernel)
  have haccepted' : Accepted heads threeEvents ⟨1⟩ := by
    unfold Accepted verifyAuditChain at haccepted ⊢
    rw [hthree]
    rw [htwo] at haccepted
    exact haccepted
  refine (accepted_logs_agree ?_ ?_ rfl haccepted haccepted').2
  · rw [htwo, hthree]
    intro e he f hf hsame
    rw [hhash e he f hf (congrArg Sha256.sha256 hsame)]
  · rw [htwo, hthree]
    intro e he f hf hsame
    rw [hhash e he f hf hsame]

end

end FlowPilot.Control
