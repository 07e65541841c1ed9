import FlowPilot.Audit.Writers

/-!
# The audit event list

`list_audit_events`, `event_read` and the response body of the audit-event list endpoint.
-/

open FlowPilot.Lib Relation

namespace FlowPilot.Control

/-- The exceptions of the endpoint. -/
inductive ListFailure where
  | auditChainMissing
  | validationError
  deriving DecidableEq, Repr

structure AuditEventRead where
  eventId : String
  organizationId : OrganizationId
  sequence : Nat
  eventType : AuditEventType
  previousHash : Digest
  eventHash : Digest
  payloadHash : Digest
  createdAt : Time

/-- `event_read`. -/
def auditEventRead (event : AuditEvent) : Except ListFailure AuditEventRead :=
  if matchesId .aud event.eventId ∧ matchesId .org event.organizationId.text ∧
      1 ≤ event.sequence then
    .ok ⟨event.eventId, event.organizationId, event.sequence, event.eventType,
      event.previousHash, event.eventHash, event.payloadHash, event.createdAt⟩
  else .error .validationError

/-- `list_audit_events`. -/
def listAuditEvents (heads : Table AuditChainHead) (events : Table AuditEvent)
    (organizationId : OrganizationId) (limit : Nat) :
    Except ListFailure (List AuditEvent × AuditChainHead) :=
  match heads.get? organizationId with
  | none => .error .auditChainMissing
  | some head => .ok ((organizationEvents events organizationId).take limit, head)

structure AuditEventList where
  items : List AuditEventRead
  count : Nat
  headSequence : Nat
  headHash : Digest

def readAll : List AuditEvent → Except ListFailure (List AuditEventRead)
  | [] => .ok []
  | event :: rest => do
    let item ← auditEventRead event
    let items ← readAll rest
    .ok (item :: items)

/-- `read_audit_events`, once the actor is authorized. -/
def readAuditEvents (heads : Table AuditChainHead) (events : Table AuditEvent)
    (organizationId : OrganizationId) : Except ListFailure AuditEventList := do
  let (events, head) ← listAuditEvents heads events organizationId 200
  let items ← readAll events
  .ok ⟨items, events.length, head.headSequence, head.headHash⟩

/-! ## The response body -/

def AuditEventRead.fields (item : AuditEventRead) : List (String × Json) :=
  [("schema_version", .str "w11-audit-event/1.0"),
    ("event_id", .str item.eventId),
    ("organization_id", .id item.organizationId),
    ("sequence", .num item.sequence),
    ("event_type", .str item.eventType.value),
    ("previous_hash", .digest item.previousHash),
    ("event_hash", .digest item.eventHash),
    ("payload_hash", .digest item.payloadHash),
    ("created_at", .time item.createdAt)]

def AuditEventList.fields (list : AuditEventList) : List (String × Json) :=
  [("schema_version", .str "w11-audit-event-list/1.0"),
    ("items", .arr (list.items.map fun item => .obj item.fields)),
    ("count", .num list.count),
    ("head_sequence", .num list.headSequence),
    ("head_hash", .digest list.headHash)]

def AuditEventList.json (list : AuditEventList) : Json := .obj list.fields

/-! ## What a reachable log lists -/

/-- What every writer puts into an event, whatever its payload. -/
structure Written (log : AuditLog) : Prop where
  eventId : ∀ e ∈ log.events.rows, ∃ token < log.events.rows.length,
    e.eventId = (⟨token⟩ : Id .aud).text
  sequence : ∀ e ∈ log.events.rows, 1 ≤ e.sequence

theorem Written.append {log : AuditLog} (h : Written log) {head : AuditChainHead}
    {event : AuditEvent} (hhead : log.heads.get? event.organizationId = some head)
    (hsequence : event.sequence = head.headSequence + 1)
    (hid : event.eventId = (⟨log.events.rows.length⟩ : Id .aud).text) :
    Written (log.append head event hhead hsequence) := by
  have hrows : (log.append head event hhead hsequence).events.rows =
      log.events.rows ++ [event] := rfl
  constructor
  · intro e he
    rw [hrows] at he ⊢
    rw [List.length_append, List.length_singleton]
    rcases List.mem_append.mp he with hold | hnew
    · obtain ⟨token, htoken, htext⟩ := h.eventId e hold
      exact ⟨token, by omega, htext⟩
    · rw [List.mem_singleton.mp hnew]
      exact ⟨_, by omega, hid⟩
  · intro e he
    rw [hrows] at he
    rcases List.mem_append.mp he with hold | hnew
    · exact h.sequence e hold
    · rw [List.mem_singleton.mp hnew, hsequence]
      omega

section

variable [Sha256]

theorem appended_event {accepted : AuditPayload → Prop} {db after : Db}
    (h : AuditAppend accepted db after) :
    ∃ head event hhead hsequence, after.audit = db.audit.append head event hhead hsequence ∧
      event.eventId = (⟨db.audit.events.rows.length⟩ : Id .aud).text := by
  cases h with
  | control h =>
    unfold appendAuditEvent at h
    split at h
    · cases h
    · obtain ⟨closed, _, hrest⟩ := ok_of_bind h
      split at hrest
      · cases hrest
      · split at hrest
        · cases hrest
        · next head hhead =>
          cases hrest
          exact ⟨head, _, hhead, rfl, rfl, rfl⟩
  | worker _ h =>
    unfold Worker.appendAudit at h
    split at h
    · cases h
    · split at h
      · cases h
      · next head hhead =>
        cases h
        exact ⟨head, _, hhead, rfl, rfl, rfl⟩

theorem Written.run {accepted : AuditPayload → Prop} {db after : Db} (h : Written db.audit)
    (hrun : ReflTransGen (AuditAppend accepted) db after) : Written after.audit := by
  induction hrun with
  | refl => exact h
  | tail _ hlast ih =>
    obtain ⟨head, event, hhead, hsequence, hafter, hid⟩ := appended_event hlast
    rw [hafter]
    exact ih.append hhead hsequence hid

end

/-! ## The listed events -/

/-- The identifiers have the 128-bit tokens that `secrets.token_hex(16)` makes. -/
def Tokens (log : AuditLog) (organizationId : OrganizationId) : Prop :=
  organizationId.token < 2 ^ 128 ∧ log.events.rows.length ≤ 2 ^ 128

/-- What the client gets to see of an event. -/
def viewed (e : AuditEvent) : AuditEventRead :=
  ⟨e.eventId, e.organizationId, e.sequence, e.eventType, e.previousHash, e.eventHash,
    e.payloadHash, e.createdAt⟩

theorem readAll_ok {events : List AuditEvent}
    (h : ∀ e ∈ events, auditEventRead e = .ok (viewed e)) :
    readAll events = .ok (events.map viewed) := by
  induction events with
  | nil => rfl
  | cons e events ih =>
    rw [readAll, h e List.mem_cons_self, ih fun f hf => h f (.tail _ hf)]
    rfl

/-- The events that the endpoint lists. -/
def listed (events : Table AuditEvent) (organizationId : OrganizationId) : List AuditEvent :=
  (organizationEvents events organizationId).take 200

theorem mem_of_listed {events : Table AuditEvent} {organizationId : OrganizationId}
    {e : AuditEvent} (h : e ∈ listed events organizationId) :
    e ∈ events.rows ∧ e.organizationId = organizationId := by
  have hsorted := List.mem_of_mem_take h
  unfold organizationEvents at hsorted
  rw [List.mem_insertionSort] at hsorted
  have hmem := List.mem_filter.mp hsorted
  exact ⟨hmem.1, of_decide_eq_true hmem.2⟩

end FlowPilot.Control
