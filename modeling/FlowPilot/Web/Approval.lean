import FlowPilot.Audit.Listing
import FlowPilot.Web.Checks

/-!
# The audit view of the web client

`loadAuditEvents` of the client's `approval.ts` on a response body, and when it accepts what the
audit-event list endpoint answers.
-/

open FlowPilot.Lib FlowPilot.Control Relation

namespace FlowPilot.Web

/-- `AUDIT_EVENT_TYPES`. -/
def auditEventTypes : List String :=
  ["risk_classified", "l4_denied", "approval_requested", "approval_approved",
    "approval_rejected", "request_cancelled", "request_expired", "request_invalidated",
    "grant_issued", "grant_claimed", "grant_consumed", "grant_rejected", "execution_started",
    "execution_succeeded", "execution_failed", "recovery_resumed", "authority_disabled",
    "audit_verified"]

structure ViewedEvent where
  eventId : String
  sequence : Int
  eventType : String
  eventHash : String
  deriving DecidableEq, Repr

structure AuditSnapshot where
  events : List ViewedEvent
  headSequence : Int
  headHash : String
  deriving DecidableEq, Repr

/-- One entry of `items`. -/
def parseAuditEvent (organizationId : String) (entry : Json) : Option ViewedEvent := do
  let item ← record entry
  require (exactKeys item ["schema_version", "event_id", "organization_id", "sequence",
    "event_type", "previous_hash", "event_hash", "payload_hash", "created_at"])
  require (isText item "schema_version" "w11-audit-event/1.0")
  let eventId ← stringField item "event_id" (matchesId .aud)
  require (isText item "organization_id" organizationId)
  let sequence ← safeInteger item "sequence" 1
  let eventType ← stringField item "event_type" auditEventTypes.contains
  let _ ← stringField item "previous_hash" matchesSha256
  let eventHash ← stringField item "event_hash" matchesSha256
  let _ ← stringField item "payload_hash" matchesSha256
  let _ ← stringField item "created_at" utcTimestamp
  some ⟨eventId, sequence, eventType, eventHash⟩

def parseAuditEvents (organizationId : String) : List Json → Option (List ViewedEvent)
  | [] => some []
  | entry :: rest => do
    let event ← parseAuditEvent organizationId entry
    let events ← parseAuditEvents organizationId rest
    some (event :: events)

/-- The checks on the body before its entries. -/
def parseAuditList (body : Json) : Option (List Json × Int × String) := do
  let value ← record body
  require (exactKeys value ["schema_version", "items", "count", "head_sequence", "head_hash"])
  require (isText value "schema_version" "w11-audit-event-list/1.0")
  match field value "items", field value "count" with
  | some (.arr items), some (.num count) =>
    require (count = items.length)
    let headSequence ← safeInteger value "head_sequence" 0
    let headHash ← stringField value "head_hash" matchesSha256
    some (items, headSequence, headHash)
  | _, _ => none

/-- `loadAuditEvents` on the body of a response that is ok. -/
def loadAuditEvents (organizationId : String) (body : Json) : Except String AuditSnapshot :=
  if ¬ matchesId .org organizationId then .error "Approval path identifier is invalid"
  else
    match parseAuditList body with
    | none => .error "Audit event list is invalid"
    | some (items, headSequence, headHash) =>
      match parseAuditEvents organizationId items with
      | none => .error "Audit event is invalid"
      | some events => .ok ⟨events, headSequence, headHash⟩

/-! ## What it accepts -/

/-- The client has the type of the event in its set. -/
def Known (e : AuditEvent) : Prop := e.eventType.value ∈ auditEventTypes

instance (e : AuditEvent) : Decidable (Known e) := by
  unfold Known
  infer_instance

/-- The columns hold what their types allow: 32-bit integers, and dates of `datetime`. -/
structure Columns (log : AuditLog) : Prop where
  sequence : ∀ e ∈ log.events.rows, e.sequence < 2 ^ 31
  headSequence : ∀ h ∈ log.heads.rows, h.headSequence < 2 ^ 31
  createdAt : ∀ e ∈ log.events.rows, e.createdAt < endOfDatetime

/-- The event as the client keeps it. -/
def shown (e : AuditEvent) : ViewedEvent :=
  ⟨e.eventId, e.sequence, e.eventType.value, e.eventHash.hex⟩

theorem stringField_none {item : Item} {name s : String} {ok : String → Bool}
    (hfield : field item name = some (.str s)) (hok : ok s = false) :
    stringField item name ok = none := by
  unfold stringField
  rw [hfield]
  exact if_neg (Bool.eq_false_iff.mp hok)

theorem safeInteger_of {item : Item} {name : String} {n low : Nat}
    (hfield : field item name = some (.num n)) (hlow : low ≤ n) (hhigh : n < 2 ^ 31) :
    safeInteger item name low = some (n : Int) := by
  unfold safeInteger maxSafeInteger
  rw [hfield]
  exact if_pos ⟨Int.ofNat_le.mpr hlow, by omega⟩

/-- When the other fields pass, the type of the event decides. -/
theorem parseAuditEvent_of {organizationId : String} {item : Item} {sequence : Int}
    {eventId previousHash eventHash payloadHash createdAt : String}
    (hkeys : exactKeys item ["schema_version", "event_id", "organization_id", "sequence",
      "event_type", "previous_hash", "event_hash", "payload_hash", "created_at"] = true)
    (hschema : isText item "schema_version" "w11-audit-event/1.0" = true)
    (hevent : stringField item "event_id" (matchesId .aud) = some eventId)
    (horganization : isText item "organization_id" organizationId = true)
    (hsequence : safeInteger item "sequence" 1 = some sequence)
    (hprevious : stringField item "previous_hash" matchesSha256 = some previousHash)
    (hhash : stringField item "event_hash" matchesSha256 = some eventHash)
    (hpayload : stringField item "payload_hash" matchesSha256 = some payloadHash)
    (hcreated : stringField item "created_at" utcTimestamp = some createdAt) :
    parseAuditEvent organizationId (.obj item) =
      (stringField item "event_type" auditEventTypes.contains).map fun eventType =>
        ⟨eventId, sequence, eventType, eventHash⟩ := by
  unfold parseAuditEvent record
  simp only [Option.bind_eq_bind, Option.bind_some, hkeys, hschema, hevent, horganization,
    hsequence, hprevious, hhash, hpayload, hcreated, require_true]
  cases stringField item "event_type" auditEventTypes.contains <;> rfl

theorem parseAuditEvent_viewed {e : AuditEvent} (hid : matchesId .aud e.eventId = true)
    (hlow : 1 ≤ e.sequence) (hhigh : e.sequence < 2 ^ 31) (htime : e.createdAt < endOfDatetime) :
    parseAuditEvent e.organizationId.text (.obj (viewed e).fields) =
      if Known e then some (shown e) else none := by
  have hkeys : exactKeys (viewed e).fields ["schema_version", "event_id", "organization_id",
      "sequence", "event_type", "previous_hash", "event_hash", "payload_hash", "created_at"] =
      true := exactKeys_of rfl
  have hschema : isText (viewed e).fields "schema_version" "w11-audit-event/1.0" = true :=
    isText_of rfl
  have hevent : stringField (viewed e).fields "event_id" (matchesId .aud) = some e.eventId :=
    stringField_of rfl hid
  have horganization : isText (viewed e).fields "organization_id" e.organizationId.text = true :=
    isText_of rfl
  have hsequence : safeInteger (viewed e).fields "sequence" 1 = some (e.sequence : Int) :=
    safeInteger_of rfl hlow hhigh
  have hprevious : stringField (viewed e).fields "previous_hash" matchesSha256 =
      some e.previousHash.hex := stringField_of rfl (matchesSha256_hex _)
  have hhash : stringField (viewed e).fields "event_hash" matchesSha256 = some e.eventHash.hex :=
    stringField_of rfl (matchesSha256_hex _)
  have hpayload : stringField (viewed e).fields "payload_hash" matchesSha256 =
      some e.payloadHash.hex := stringField_of rfl (matchesSha256_hex _)
  have hcreated : stringField (viewed e).fields "created_at" utcTimestamp =
      some (isoformat e.createdAt) := stringField_of rfl (utcTimestamp_isoformat htime)
  rw [parseAuditEvent_of hkeys hschema hevent horganization hsequence hprevious hhash hpayload
    hcreated]
  by_cases hknown : Known e
  · have htype : stringField (viewed e).fields "event_type" auditEventTypes.contains =
        some e.eventType.value := stringField_of rfl (List.contains_iff_mem.mpr hknown)
    rw [htype, if_pos hknown]
    rfl
  · have htype : stringField (viewed e).fields "event_type" auditEventTypes.contains = none := by
      refine stringField_none (s := e.eventType.value) rfl (Bool.eq_false_iff.mpr ?_)
      intro hcontains
      exact hknown (List.contains_iff_mem.mp hcontains)
    rw [htype, if_neg hknown]
    rfl

theorem parseAuditEvents_viewed {organizationId : OrganizationId} {events : List AuditEvent}
    (h : ∀ e ∈ events, parseAuditEvent organizationId.text (.obj (viewed e).fields) =
      if Known e then some (shown e) else none) :
    parseAuditEvents organizationId.text ((events.map viewed).map fun item => .obj item.fields) =
      if ∀ e ∈ events, Known e then some (events.map shown) else none := by
  induction events with
  | nil => rfl
  | cons e events ih =>
    have hrest := ih fun f hf => h f (.tail _ hf)
    rw [List.map_cons, List.map_cons, parseAuditEvents, h e List.mem_cons_self, hrest]
    by_cases hfirst : Known e
    · rw [if_pos hfirst]
      by_cases hall : ∀ f ∈ events, Known f
      · rw [if_pos hall, if_pos (List.forall_mem_cons.mpr ⟨hfirst, hall⟩)]
        rfl
      · rw [if_neg hall, if_neg fun hcons => hall (List.forall_mem_cons.mp hcons).2]
        rfl
    · rw [if_neg hfirst, if_neg fun hcons => hfirst (List.forall_mem_cons.mp hcons).1]
      rfl

/-- The list without its entries is accepted. -/
theorem parseAuditList_json (list : AuditEventList) (hcount : list.count = list.items.length)
    (hhead : list.headSequence < 2 ^ 31) :
    parseAuditList list.json = some (list.items.map fun item => .obj item.fields,
      (list.headSequence : Int), list.headHash.hex) := by
  have hkeys : exactKeys list.fields ["schema_version", "items", "count", "head_sequence",
      "head_hash"] = true := exactKeys_of rfl
  have hschema : isText list.fields "schema_version" "w11-audit-event-list/1.0" = true :=
    isText_of rfl
  have hitems : field list.fields "items" =
      some (.arr (list.items.map fun item => .obj item.fields)) := rfl
  have hnumber : field list.fields "count" = some (.num list.count) := rfl
  have hsequence : safeInteger list.fields "head_sequence" 0 = some (list.headSequence : Int) :=
    safeInteger_of rfl (Nat.zero_le _) hhead
  have hhash : stringField list.fields "head_hash" matchesSha256 = some list.headHash.hex :=
    stringField_of rfl (matchesSha256_hex _)
  have hlength : decide ((list.count : Int) =
      (list.items.map fun item => Json.obj item.fields).length) = true := by
    rw [hcount, List.length_map]
    exact decide_eq_true rfl
  unfold parseAuditList AuditEventList.json record
  simp only [Option.bind_eq_bind, Option.bind_some, hkeys, hschema, hitems, hnumber, hlength,
    hsequence, hhash, require_true]

section

variable [Sha256]

/-- However the two writers have appended to the logs of the organizations, the endpoint answers
for each organization, and the client accepts the answer exactly when it knows the type of every
listed event; it then shows those events. -/
theorem audit_view_iff {db after : Db} {organizationId : OrganizationId} {head : AuditChainHead}
    (hempty : db.audit.events.rows = [])
    (hrun : ReflTransGen (AuditAppend fun _ => True) db after)
    (hhead : after.audit.heads.get? organizationId = some head)
    (htokens : Tokens after.audit organizationId) (hcolumns : Columns after.audit) :
    ∃ list, readAuditEvents after.audit.heads after.audit.events organizationId = .ok list ∧
      ((∃ snapshot, loadAuditEvents organizationId.text list.json = .ok snapshot) ↔
        ∀ e ∈ listed after.audit.events organizationId, Known e) ∧
      ∀ snapshot, loadAuditEvents organizationId.text list.json = .ok snapshot →
        snapshot.events = (listed after.audit.events organizationId).map shown := by
  have hstart : Written db.audit := by
    constructor
    · intro e he
      rw [hempty] at he
      cases he
    · intro e he
      rw [hempty] at he
      cases he
  have hwritten := hstart.run hrun
  have hid : ∀ e ∈ listed after.audit.events organizationId, matchesId .aud e.eventId = true := by
    intro e he
    obtain ⟨token, htoken, htext⟩ := hwritten.eventId e (mem_of_listed he).1
    rw [htext]
    exact matchesId_text (Nat.lt_of_lt_of_le htoken htokens.2)
  have hread : ∀ e ∈ listed after.audit.events organizationId,
      auditEventRead e = .ok (viewed e) := by
    intro e he
    obtain ⟨hrow, horganization⟩ := mem_of_listed he
    unfold auditEventRead
    rw [horganization]
    refine (if_pos ⟨hid e he, matchesId_text htokens.1, hwritten.sequence e hrow⟩).trans ?_
    unfold viewed
    rw [horganization]
  have hparseOne : ∀ e ∈ listed after.audit.events organizationId,
      parseAuditEvent organizationId.text (.obj (viewed e).fields) =
        if Known e then some (shown e) else none := by
    intro e he
    obtain ⟨hrow, horganization⟩ := mem_of_listed he
    rw [← horganization]
    exact parseAuditEvent_viewed (hid e he) (hwritten.sequence e hrow)
      (hcolumns.sequence e hrow) (hcolumns.createdAt e hrow)
  have hparse := parseAuditEvents_viewed hparseOne
  have hlist : readAuditEvents after.audit.heads after.audit.events organizationId =
      .ok ⟨(listed after.audit.events organizationId).map viewed,
        (listed after.audit.events organizationId).length, head.headSequence,
        head.headHash⟩ := by
    unfold readAuditEvents listAuditEvents
    rw [hhead]
    show (do
      let items ← readAll (listed after.audit.events organizationId)
      Except.ok _) = _
    rw [readAll_ok hread]
    rfl
  generalize hanswer : (⟨(listed after.audit.events organizationId).map viewed,
    (listed after.audit.events organizationId).length, head.headSequence,
    head.headHash⟩ : AuditEventList) = answer at hlist
  have hload : parseAuditList answer.json = some (answer.items.map fun item => .obj item.fields,
      (answer.headSequence : Int), answer.headHash.hex) := by
    subst hanswer
    exact parseAuditList_json _ (by rw [List.length_map])
      (hcolumns.headSequence head (Table.mem_of_get? hhead))
  have hitems : answer.items = (listed after.audit.events organizationId).map viewed := by
    subst hanswer
    rfl
  refine ⟨answer, hlist, ?_⟩
  unfold loadAuditEvents
  rw [matchesId_text htokens.1, if_neg (by simp), hload]
  dsimp only
  rw [hitems, hparse]
  by_cases hknown : ∀ e ∈ listed after.audit.events organizationId, Known e
  · rw [if_pos hknown]
    refine ⟨⟨fun _ => hknown, fun _ => ⟨_, rfl⟩⟩, ?_⟩
    intro snapshot hsnapshot
    cases hsnapshot
    rfl
  · rw [if_neg hknown]
    refine ⟨⟨?_, fun h => absurd h hknown⟩, ?_⟩
    · intro h
      obtain ⟨snapshot, hsnapshot⟩ := h
      cases hsnapshot
    · intro snapshot hsnapshot
      cases hsnapshot

end

section

attribute [local instance] polynomialSha256

/-- The two events of `bothAppended` are of a production run, and the client refuses the list. -/
theorem production_run_unreadable :
    ∃ after list, bothAppended = .ok after ∧
      ReflTransGen (AuditAppend fun _ => True) emptyLog after ∧
      readAuditEvents after.audit.heads after.audit.events ⟨1⟩ = .ok list ∧
      loadAuditEvents (⟨1⟩ : OrganizationId).text list.json = .error "Audit event is invalid" := by
  have hsome : ∃ after list, bothAppended = .ok after ∧
      readAuditEvents after.audit.heads after.audit.events ⟨1⟩ = .ok list ∧
      loadAuditEvents (⟨1⟩ : OrganizationId).text list.json = .error "Audit event is invalid" :=
    ⟨_, _, rfl, rfl, by decide +kernel⟩
  obtain ⟨after, list, hafter, hread, hload⟩ := hsome
  refine ⟨after, list, hafter, ?_, hread, hload⟩
  obtain ⟨⟨_, db⟩, hcontrol, hrest⟩ := ok_of_bind hafter
  obtain ⟨⟨_, later⟩, hworker, hlast⟩ := ok_of_bind hrest
  cases hlast
  exact .tail (.single (@AuditAppend.control _ _ _ _ _ _ _ queuedPayload _ _ _ hcontrol))
    (@AuditAppend.worker _ _ _ _ _ _ _ startedPayload _ _ _ trivial hworker)

/-- The Control API appends one event of a type that the client knows. -/
def classifiedAppended : Except Failure Db := do
  let (_, db) ← appendAuditEvent emptyLog ⟨1⟩ .riskClassified ⟨7⟩ "run_1" queuedPayload.fields 1
  .ok db

theorem audit_view_iff_classified :
    ∃ after list, classifiedAppended = .ok after ∧
      readAuditEvents after.audit.heads after.audit.events ⟨1⟩ = .ok list ∧
      ∃ snapshot, loadAuditEvents (⟨1⟩ : OrganizationId).text list.json = .ok snapshot := by
  have hsome : ∃ after head, classifiedAppended = .ok after ∧
      after.audit.heads.get? ⟨1⟩ = some head ∧ after.audit.events.rows.length = 1 ∧
      (after.audit.events.rows.all fun e => decide (e.sequence = 1 ∧ e.createdAt = 1)) = true ∧
      (after.audit.heads.rows.all fun h => decide (h.headSequence = 1)) = true ∧
      ∀ e ∈ listed after.audit.events ⟨1⟩, Known e := ⟨_, _, rfl, rfl, rfl, rfl, rfl, by decide⟩
  obtain ⟨after, head, hafter, hhead, hlength, hevents, hheads, hknown⟩ := hsome
  obtain ⟨⟨_, db⟩, hcontrol, hlast⟩ := ok_of_bind hafter
  cases hlast
  have htokens : Tokens after.audit ⟨1⟩ := by
    constructor
    · decide
    · rw [hlength]
      decide
  have hevent : ∀ e ∈ after.audit.events.rows, e.sequence = 1 ∧ e.createdAt = 1 := fun e he =>
    of_decide_eq_true (List.all_eq_true.mp hevents e he)
  have hcolumns : Columns after.audit := by
    constructor
    · intro e he
      rw [(hevent e he).1]
      decide
    · intro h hh
      rw [of_decide_eq_true (List.all_eq_true.mp hheads h hh)]
      decide
    · intro e he
      rw [(hevent e he).2]
      decide
  obtain ⟨list, hread, hiff, _⟩ := @audit_view_iff _ emptyLog _ _ _ rfl
    (.single (@AuditAppend.control _ _ _ _ _ _ _ queuedPayload _ _ _ hcontrol)) hhead htokens
    hcolumns
  exact ⟨_, list, hafter, hread, hiff.mpr hknown⟩

end

end FlowPilot.Web
