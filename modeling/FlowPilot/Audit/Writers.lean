import FlowPilot.Audit.Verify
import FlowPilot.Worker.Logs
import Mathlib.Logic.Relation

/-!
# Both writers extend the chain

Whichever service appends an event, the verifier loads the payload that was written, and the new
event follows the head.  The Control API closes every payload itself; the worker writes what it
is given.
-/

open FlowPilot.Lib Relation

namespace FlowPilot

open Control

/-- A payload: a `dict`, which has one value for each key. -/
structure AuditPayload where
  fields : List (String × Json)
  nodup : (fields.map (·.1)).Nodup

/-- The payload is within the schema of `_closed_payload`. -/
def AuditPayload.Closed (payload : AuditPayload) : Prop :=
  closedPayload payload.fields = .ok (.obj payload.fields)

/-! ## Payloads -/

theorem closedPayload_ok {fields : List (String × Json)} {closed : Json}
    (h : closedPayload fields = .ok closed) :
    closed = .obj fields ∧ (∀ f ∈ fields, (allowedKeys.contains f.1 &&
      !prohibitedKeys.contains f.1 && closedValue f.2) = true) ∧
      ¬ canonicalLength (.obj fields) > 2048 := by
  unfold closedPayload at h
  split at h
  · next hall =>
      split at h
      · cases h
      · next hlength =>
          cases h
          exact ⟨rfl, List.all_eq_true.mp hall, hlength⟩
  · cases h

theorem scalar_of_closedValue {v : Json} (h : closedValue v = true) : v.Scalar := by
  cases v with
  | null | bool b | num n | str s => trivial
  | arr items => cases h
  | obj fields => cases h

/-- The order of its fields does not matter to a closed payload. -/
theorem closedPayload_sortByName {fields : List (String × Json)} {closed : Json}
    (h : closedPayload fields = .ok closed) :
    closedPayload (sortByName fields) = .ok (.obj (sortByName fields)) := by
  obtain ⟨_, hfields, hlength⟩ := closedPayload_ok h
  unfold closedPayload
  rw [if_pos, if_neg]
  · unfold canonicalLength
    rw [canonicalBytes_sortByName]
    exact hlength
  · rw [List.all_eq_true]
    intro f hf
    exact hfields f ((List.mem_insertionSort _).mp hf)

section

variable [Sha256]

/-- An event is sealed when its hashes are those of a closed payload and of its own columns. -/
theorem auditSealed_of_closed {event : AuditEvent} {payload : AuditPayload}
    (hclosed : payload.Closed)
    (hjson : event.payloadJson = canonicalBytes (.obj payload.fields))
    (hpayload : event.payloadHash = stableHash (.obj payload.fields))
    (hhash : event.eventHash = stableHash (auditEventFields event (.obj payload.fields))) :
    AuditSealed event := by
  have hscalar : ∀ f ∈ payload.fields, f.2.Scalar := by
    intro f hf
    have hfield := (closedPayload_ok hclosed).2.1 f hf
    rw [Bool.and_eq_true] at hfield
    exact scalar_of_closedValue hfield.2
  have hsorted := canonicalBytes_sortByName payload.fields
  refine ⟨.obj (sortByName payload.fields), ?_, ?_, ?_, ?_⟩
  · unfold loadedPayload
    rw [hjson, jsonLoads_dumped hscalar payload.nodup]
    dsimp only
    rw [closedPayload_sortByName hclosed]
  · rw [hjson, hsorted]
  · rw [hpayload]
    unfold stableHash
    rw [hsorted]
  · rw [hhash]
    unfold stableHash auditEventFields
    simp only [canonicalBytes, canonicalFields] at hsorted ⊢
    rw [hsorted]

/-! ## Appends -/

/-- One append by either writer to the log of any organization. -/
inductive AuditAppend (accepted : AuditPayload → Prop) (db : Db) : Db → Prop where
  | control {organizationId : OrganizationId} {eventType : AuditEventType} {actor : Digest}
    {subject : String} {payload : AuditPayload} {now : Time} {sequence : Nat} {after : Db}
    (h : appendAuditEvent db organizationId eventType actor subject payload.fields now =
      .ok (sequence, after)) : AuditAppend accepted db after
  | worker {organizationId : OrganizationId} {eventType : AuditEventType} {actor : Digest}
    {subject : String} {payload : AuditPayload} {now : Time} {sequence : Nat} {after : Db}
    (hpayload : accepted payload)
    (h : Worker.appendAudit db organizationId eventType actor subject payload.fields now =
      .ok (sequence, after)) : AuditAppend accepted db after

/-- The event that a step appends after the head of its organization. -/
structure AppendsAfter (db after : Db) (head : AuditChainHead) (event : AuditEvent) : Prop where
  previous : event.previousHash = head.headHash
  sealed : AuditSealed event
  written : ∃ hhead hsequence, after.audit = db.audit.append head event hhead hsequence

theorem appendAuditEvent_appends {db after : Db} {organizationId : OrganizationId}
    {eventType : AuditEventType} {actor : Digest} {subject : String} {payload : AuditPayload}
    {now : Time} {sequence : Nat}
    (h : appendAuditEvent db organizationId eventType actor subject payload.fields now =
      .ok (sequence, after)) : ∃ head event, AppendsAfter db after head event := by
  unfold appendAuditEvent at h
  split at h
  · cases h
  · obtain ⟨closed, hclosed, hrest⟩ := ok_of_bind h
    split at hrest
    · cases hrest
    · split at hrest
      · cases hrest
      · next head hhead =>
          cases hrest
          obtain ⟨rfl, _⟩ := closedPayload_ok hclosed
          exact ⟨head, _, rfl, auditSealed_of_closed hclosed rfl rfl rfl, hhead, rfl, rfl⟩

theorem appendAudit_appends {db after : Db} {organizationId : OrganizationId}
    {eventType : AuditEventType} {actor : Digest} {subject : String} {payload : AuditPayload}
    {now : Time} {sequence : Nat} (hclosed : payload.Closed)
    (h : Worker.appendAudit db organizationId eventType actor subject payload.fields now =
      .ok (sequence, after)) : ∃ head event, AppendsAfter db after head event := by
  unfold Worker.appendAudit at h
  split at h
  · cases h
  · split at h
    · cases h
    · next head hhead =>
        cases h
        exact ⟨head, _, rfl, auditSealed_of_closed hclosed rfl rfl rfl, hhead, rfl, rfl⟩

theorem AuditAppend.appends {db after : Db} (h : AuditAppend AuditPayload.Closed db after) :
    ∃ head event, AppendsAfter db after head event := by
  cases h with
  | control h => exact appendAuditEvent_appends h
  | worker hpayload h => exact appendAudit_appends hpayload h

/-! ## The log of one organization -/

def AuditLog.of (log : AuditLog) (organizationId : OrganizationId) : List AuditEvent :=
  log.events.select fun e => e.organizationId = organizationId

/-- The events of the organization in the order in which they were written are a chain, and its
head is at their end. -/
structure Chained (log : AuditLog) (organizationId : OrganizationId) : Prop where
  linked : auditChain.Linked 0 genesisHash (log.of organizationId)
  head : ∃ head, log.heads.get? organizationId = some head ∧
    head.headSequence = (log.of organizationId).length ∧
    head.headHash = auditChain.last genesisHash (log.of organizationId)

/-- The head of a new organization. -/
def AuditChainHead.IsNew (head : AuditChainHead) : Prop :=
  head.headSequence = 0 ∧ head.headHash = genesisHash

theorem Chained.new {log : AuditLog} {organizationId : OrganizationId} {head : AuditChainHead}
    (hhead : log.heads.get? organizationId = some head) (hnew : head.IsNew)
    (hempty : log.of organizationId = []) : Chained log organizationId := by
  refine ⟨?_, head, hhead, ?_, ?_⟩
  · rw [hempty]
    trivial
  · rw [hempty]
    exact hnew.1
  · rw [hempty]
    exact hnew.2

omit [Sha256] in
theorem AuditLog.of_append {log : AuditLog} {head : AuditChainHead} {event : AuditEvent}
    {hhead : log.heads.get? event.organizationId = some head}
    {hsequence : event.sequence = head.headSequence + 1} (organizationId : OrganizationId) :
    (log.append head event hhead hsequence).of organizationId =
      log.of organizationId ++ if event.organizationId = organizationId then [event] else [] := by
  unfold AuditLog.of Table.select
  show (log.events.rows ++ [event]).filter _ = _
  rw [List.filter_append]
  by_cases horg : event.organizationId = organizationId
  · simp only [horg, List.filter_cons, List.filter_nil, decide_true, if_true]
  · simp only [horg, List.filter_cons, List.filter_nil, decide_false, Bool.false_eq_true, if_false]

omit [Sha256] in
theorem AuditLog.head_append {log : AuditLog} {head : AuditChainHead} {event : AuditEvent}
    {hhead : log.heads.get? event.organizationId = some head}
    {hsequence : event.sequence = head.headSequence + 1} (organizationId : OrganizationId) :
    (log.append head event hhead hsequence).heads.get? organizationId =
      if event.organizationId = organizationId then
        some { head with
          headSequence := event.sequence
          headHash := event.eventHash
          version := head.version + 1
          updatedAt := event.createdAt }
      else log.heads.get? organizationId := by
  unfold AuditLog.append
  dsimp only
  rw [Table.get?_update]
  by_cases horg : event.organizationId = organizationId
  · subst horg
    have hkey : head.organizationId = event.organizationId := Table.key_of_get? hhead
    rw [if_pos rfl, hhead]
    simp only [Option.map_some, hkey, decide_true, if_true]
  · rw [if_neg horg]
    cases hget : log.heads.get? organizationId with
    | none => rfl
    | some other =>
        have hkey : other.organizationId = organizationId := Table.key_of_get? hget
        have hne : ¬ other.organizationId = event.organizationId := fun h =>
          horg (h.symm.trans hkey)
        simp only [Option.map_some, hne, decide_false, Bool.false_eq_true, if_false]

theorem Chained.append {db after : Db} {organizationId : OrganizationId} {head : AuditChainHead}
    {event : AuditEvent} (hchained : Chained db.audit organizationId)
    (happend : AppendsAfter db after head event) : Chained after.audit organizationId := by
  obtain ⟨hhead, hsequence, hafter⟩ := happend.written
  rw [hafter]
  by_cases horg : event.organizationId = organizationId
  · obtain ⟨old, hold, hlength, hlast⟩ := hchained.head
    have hsame : old = head := by
      rw [← horg, hhead] at hold
      cases hold
      rfl
    subst hsame
    constructor
    · rw [AuditLog.of_append, if_pos horg, HashChain.linked_append]
      refine ⟨hchained.linked, ?_, happend.previous.trans hlast, happend.sealed⟩
      show event.sequence = _
      omega
    · rw [AuditLog.head_append, if_pos horg, AuditLog.of_append, if_pos horg]
      refine ⟨_, rfl, ?_, ?_⟩
      · rw [List.length_append, List.length_singleton]
        show event.sequence = _
        omega
      · rw [HashChain.last_append]
        rfl
  · constructor
    · rw [AuditLog.of_append, if_neg horg, List.append_nil]
      exact hchained.linked
    · rw [AuditLog.head_append, if_neg horg, AuditLog.of_append, if_neg horg, List.append_nil]
      exact hchained.head

theorem Chained.run {db after : Db} {organizationId : OrganizationId}
    (hchained : Chained db.audit organizationId)
    (hrun : ReflTransGen (AuditAppend AuditPayload.Closed) db after) :
    Chained after.audit organizationId := by
  induction hrun with
  | refl => exact hchained
  | tail _ hlast ih =>
      obtain ⟨head, event, happend⟩ := hlast.appends
      exact ih.append happend

/-- The numbers of a chain are its order. -/
theorem Chained.organizationEvents {log : AuditLog} {organizationId : OrganizationId}
    (hchained : Chained log organizationId) :
    organizationEvents log.events organizationId = log.of organizationId := by
  have hsequences := hchained.linked.sequences
  have hsorted : ((log.of organizationId).map AuditEvent.sequence).Pairwise (· ≤ ·) := by
    show ((log.of organizationId).map auditChain.sequence).Pairwise (· ≤ ·)
    rw [hsequences]
    exact List.pairwise_le_range'
  rw [List.pairwise_map] at hsorted
  exact hsorted.insertionSort_eq

/-- However the appends of the two writers to the logs of the organizations interleave, the
verifier accepts the log of each, as long as the worker stays within the closed schema. -/
theorem audit_chain_verifies {db after : Db} {organizationId : OrganizationId}
    {head : AuditChainHead} (hhead : db.audit.heads.get? organizationId = some head)
    (hnew : head.IsNew) (hempty : db.audit.of organizationId = [])
    (hrun : ReflTransGen (AuditAppend AuditPayload.Closed) db after) :
    ∃ head, after.audit.heads.get? organizationId = some head ∧
      verifyAuditChain after.audit.heads after.audit.events organizationId =
        .ok ⟨true, (after.audit.of organizationId).length, head.headSequence, head.headHash,
          .valid⟩ ∧
      (after.audit.of organizationId).map AuditEvent.sequence =
        List.range' 1 (after.audit.of organizationId).length ∧
      auditChain.Linked 0 genesisHash (after.audit.of organizationId) ∧
      head.headSequence = (after.audit.of organizationId).length ∧
      head.headHash = auditChain.last genesisHash (after.audit.of organizationId) := by
  have hchained := (Chained.new hhead hnew hempty).run hrun
  obtain ⟨head, hhead, hlength, hlast⟩ := hchained.head
  have hevents := hchained.organizationEvents
  have hvalid := verifyAuditChain_valid hhead (hevents.symm ▸ hchained.linked)
    (by rw [hevents]; exact hlength) (by rw [hevents]; exact hlast)
  rw [hevents] at hvalid
  exact ⟨head, hhead, hvalid, hchained.linked.sequences, hchained.linked, hlength, hlast⟩

end

section

attribute [local instance] polynomialSha256

/-- One organization whose log is empty. -/
def emptyLog : Db :=
  .initial ⟨Table.insert .empty ⟨⟨1⟩, .active, 1⟩ rfl, .empty, .empty, .empty⟩ .empty
    (Table.insert .empty ⟨⟨1⟩, 0, genesisHash, 1, 0⟩ rfl)

def startedPayload : AuditPayload where
  fields := [("schema_version", .str "w12-audit-payload/1.0"), ("run_status", .str "running"),
    ("fencing_token", .num 1)]
  nodup := by decide

def queuedPayload : AuditPayload where
  fields := [("run_status", .str "queued"), ("retry_after", .null), ("valid", .bool true)]
  nodup := by decide

/-- The Control API and the worker append one event each. -/
def bothAppended : Except Failure Db := do
  let (_, db) ← appendAuditEvent emptyLog ⟨1⟩ .runQueued ⟨7⟩ "run_1" queuedPayload.fields 1
  let (_, db) ← Worker.appendAudit db ⟨1⟩ .runStarted ⟨8⟩ "run_1" startedPayload.fields 2
  .ok db

theorem audit_chain_verifies_bothAppended :
    ∃ after, bothAppended = .ok after ∧ Accepted after.audit.heads after.audit.events ⟨1⟩ := by
  have hsome : ∃ after, bothAppended = .ok after := ⟨_, rfl⟩
  obtain ⟨after, hafter⟩ := hsome
  refine ⟨after, hafter, ?_⟩
  obtain ⟨⟨_, db⟩, hcontrol, hrest⟩ := ok_of_bind hafter
  obtain ⟨⟨_, later⟩, hworker, hlast⟩ := ok_of_bind hrest
  cases hlast
  have hrun : ReflTransGen (AuditAppend AuditPayload.Closed) emptyLog after :=
    .tail (.single (@AuditAppend.control _ _ _ _ _ _ _ queuedPayload _ _ _ hcontrol))
      (@AuditAppend.worker _ _ _ _ _ _ _ startedPayload _ _ _ rfl hworker)
  have hhead : emptyLog.audit.heads.get? ⟨1⟩ = some ⟨⟨1⟩, 0, genesisHash, 1, 0⟩ := rfl
  obtain ⟨head, _, hvalid, _⟩ := audit_chain_verifies hhead ⟨rfl, rfl⟩ rfl hrun
  exact ⟨_, hvalid, rfl⟩

/-- A payload with a key that the closed schema does not have. -/
def tracedPayload : AuditPayload where
  fields := [("trace_id", .str "8f14e45f")]
  nodup := by decide

def tracedAppended : Except Failure Db := do
  let (_, db) ← Worker.appendAudit emptyLog ⟨1⟩ .runStarted ⟨8⟩ "run_1" tracedPayload.fields 1
  .ok db

theorem worker_payload_unverified :
    ∃ after, ReflTransGen (AuditAppend fun _ => True) emptyLog after ∧
      (verifyAuditChain after.audit.heads after.audit.events ⟨1⟩).map (·.reason) =
        .ok .eventHashMismatch := by
  have hsome : ∃ after, tracedAppended = .ok after ∧
      (verifyAuditChain after.audit.heads after.audit.events ⟨1⟩).map (·.reason) =
        .ok .eventHashMismatch := ⟨_, rfl, by decide +kernel⟩
  obtain ⟨after, hafter, hreason⟩ := hsome
  obtain ⟨⟨_, db⟩, hworker, hlast⟩ := ok_of_bind hafter
  cases hlast
  exact ⟨_, .single (@AuditAppend.worker _ _ _ _ _ _ _ tracedPayload _ _ _ trivial hworker),
    hreason⟩

end

end FlowPilot
