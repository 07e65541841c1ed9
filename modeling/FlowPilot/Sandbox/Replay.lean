import FlowPilot.Lib.OrderedRows
import FlowPilot.Sandbox.ReceiptCap

/-!
# Replays

What becomes of a request whose task and key have a receipt already.  The endpoints look their rows
up before and inside the idempotent wrapper, and a replay looks one up again, so the answer depends
on the rows that later requests have added.
-/

open FlowPilot.Lib Relation

namespace FlowPilot.Sandbox

/-! ## The rows that an employee has -/

inductive Kind where
  | ticket | account | asset | mailbox
  deriving DecidableEq, Repr

/-- An employee can have several rows of the kind: its `employee_id` is not unique. -/
def Kind.several : Kind → Bool
  | ticket | asset => true
  | account | mailbox => false

/-- The tasks of the rows of one kind that an employee has. -/
def SandboxDb.tasksOf (db : SandboxDb) (employeeId : Int) : Kind → List (Option String)
  | .ticket => (db.tickets.select fun t => t.employeeId = employeeId).map (·.arenaTaskId)
  | .account => (db.accounts.select fun a => a.employeeId = employeeId).map (·.arenaTaskId)
  | .asset => (db.assets.select fun a => a.employeeId = employeeId).map (·.arenaTaskId)
  | .mailbox => (db.mailboxes.select fun b => b.employeeId = employeeId).map (·.arenaTaskId)

def single (db : SandboxDb) (employeeId : Int) : Kind → Except HttpError Record
  | .ticket => singleTicket db employeeId
  | .account => singleAccount db employeeId
  | .asset => singleAsset db employeeId
  | .mailbox => singleMailbox db employeeId

theorem requireSingle_map_ok {α : Type} {records : List α} {missing : String} {f : α → Record}
    {record : Record} :
    (requireSingle records missing).map f = .ok record ↔
      ∃ row, records = [row] ∧ f row = record := by
  constructor
  · intro h
    match records with
    | [] => cases h
    | [row] => exact ⟨row, rfl, Except.ok.inj h⟩
    | _ :: _ :: _ => cases h
  · intro h
    rcases h with ⟨row, rfl, rfl⟩
    rfl

/-- `require_single` succeeds when the employee has one row of the kind. -/
theorem single_ok_iff {db : SandboxDb} {employeeId : Int} {kind : Kind} {task : Option String} :
    (∃ record, single db employeeId kind = .ok record ∧ record.arenaTaskId = task) ↔
      db.tasksOf employeeId kind = [task] := by
  cases kind with
  | ticket =>
      constructor
      · rintro ⟨record, hrecord, htask⟩
        obtain ⟨row, hrows, rfl⟩ := requireSingle_map_ok.mp hrecord
        unfold SandboxDb.tasksOf
        rw [hrows, ← htask]
        rfl
      · intro h
        obtain ⟨row, hrows, htask⟩ := List.map_eq_singleton_iff.mp h
        exact ⟨_, requireSingle_map_ok.mpr ⟨row, hrows, rfl⟩, htask⟩
  | account | asset | mailbox =>
      constructor
      · rintro ⟨record, hrecord, htask⟩
        obtain ⟨row, hrows, rfl⟩ := requireSingle_map_ok.mp hrecord
        unfold SandboxDb.tasksOf
        rw [hrows, ← htask]
        rfl
      · intro h
        obtain ⟨row, hrows, htask⟩ := List.map_eq_singleton_iff.mp h
        exact ⟨_, requireSingle_map_ok.mpr ⟨row, hrows, rfl⟩, htask⟩

/-! ## What a write does to them -/

/-- The task of the row that a write adds to the employee's rows of a kind. -/
def Write.added (employeeId : Int) : Write → Kind → List (Option String)
  | .newTicket form task, .ticket => if form.employeeId = employeeId then [task] else []
  | .newAccount form task, .account => if form.employeeId = employeeId then [task] else []
  | .newAsset form task, .asset => if form.employeeId = employeeId then [task] else []
  | .newMailbox form task, .mailbox => if form.employeeId = employeeId then [task] else []
  | _, _ => []

theorem flush_tasksOf {db after : SandboxDb} {write : Write} {record : Record}
    (h : db.flush write = some (record, after)) (employeeId : Int) (kind : Kind) :
    after.tasksOf employeeId kind = db.tasksOf employeeId kind ++ write.added employeeId kind := by
  cases write with
  | employee loaded changed =>
      obtain ⟨row, _, hrow⟩ := Option.map_eq_some_iff.mp h
      cases hrow
      cases kind <;> exact (List.append_nil _).symm
  | ticket changed | account changed | asset changed | mailbox changed =>
      obtain ⟨row, _, hrow⟩ := Option.map_eq_some_iff.mp h
      cases hrow
      refine Eq.trans ?_ (List.append_nil _).symm
      cases kind with
      | ticket | account | asset | mailbox =>
          first
          | rfl
          | apply Table.map_select_update
            · exact fun _ => rfl
            · exact fun _ => rfl
            · exact fun _ => rfl
  | newTicket form task | newAccount form task | newAsset form task | newMailbox form task =>
      unfold SandboxDb.flush at h
      dsimp only at h
      split at h
      · cases h
      · obtain ⟨rows, hinsert, hrow⟩ := Option.map_eq_some_iff.mp h
        cases hrow
        obtain ⟨hfresh, rfl⟩ := Table.insert?_eq_some hinsert
        cases kind with
        | ticket | account | asset | mailbox =>
            first
            | exact (List.append_nil _).symm
            | unfold SandboxDb.tasksOf Write.added
              dsimp only
              rw [Table.select_insert, List.map_append]
              by_cases hid : form.employeeId = employeeId
              · simp only [hid, decide_true, if_true, List.map_cons, List.map_nil]
              · simp only [hid, decide_false, Bool.false_eq_true, if_false, List.map_nil]


theorem flush_employees {db after : SandboxDb} {write : Write} {record : Record}
    (h : db.flush write = some (record, after)) (employeeId : Int) :
    (after.employees.get? employeeId).map (·.arenaTaskId) =
      (db.employees.get? employeeId).map (·.arenaTaskId) := by
  cases write with
  | employee loaded changed =>
      obtain ⟨row, _, hrow⟩ := Option.map_eq_some_iff.mp h
      cases hrow
      rw [Table.get?_update, Option.map_map]
      refine Option.map_congr ?_
      intro e _
      by_cases hid : e.id = loaded.id
      · simp only [Function.comp, hid, decide_true, if_true]
      · simp only [Function.comp, hid, decide_false, Bool.false_eq_true, if_false]
  | ticket changed | account changed | asset changed | mailbox changed =>
      obtain ⟨row, _, hrow⟩ := Option.map_eq_some_iff.mp h
      cases hrow
      rfl
  | newTicket form task | newAccount form task | newAsset form task | newMailbox form task =>
      unfold SandboxDb.flush at h
      dsimp only at h
      split at h
      · cases h
      · obtain ⟨rows, _, hrow⟩ := Option.map_eq_some_iff.mp h
        cases hrow
        rfl

/-- A row is added to an employee who cannot have several only when the employee has none. -/
theorem flush_added {db after : SandboxDb} {write : Write} {record : Record}
    (h : db.flush write = some (record, after)) {employeeId : Int} {kind : Kind}
    (hone : kind.several = false) (hadded : write.added employeeId kind ≠ []) :
    db.tasksOf employeeId kind = [] := by
  have hnone : ∀ {α : Type} {f : α → Option String} {rows : List α} {p q : α → Bool},
      rows.find? p = none → (∀ row, q row = true → p row = true) → (rows.filter q).map f = [] := by
    intro α f rows p q hfind hpq
    refine List.map_eq_nil_iff.mpr (List.filter_eq_nil_iff.mpr ?_)
    intro row hrow hq
    exact List.find?_eq_none.mp hfind row hrow (hpq row hq)
  cases write with
  | employee | ticket | account | asset | mailbox => exact absurd rfl hadded
  | newTicket form task =>
      cases kind with
      | ticket => cases hone
      | account | asset | mailbox => exact absurd rfl hadded
  | newAsset form task =>
      cases kind with
      | asset => cases hone
      | ticket | account | mailbox => exact absurd rfl hadded
  | newAccount form task =>
      cases kind with
      | ticket | asset | mailbox => exact absurd rfl hadded
      | account =>
          unfold SandboxDb.flush at h
          dsimp only at h
          split at h
          · cases h
          · next hfree =>
              rw [not_or, Option.isSome_iff_ne_none, not_not] at hfree
              by_cases hid : form.employeeId = employeeId
              · subst hid
                refine hnone hfree.2 ?_
                intro a ha
                exact decide_eq_true (.inl (of_decide_eq_true ha))
              · exact absurd (if_neg hid) hadded
  | newMailbox form task =>
      cases kind with
      | ticket | asset | account => exact absurd rfl hadded
      | mailbox =>
          unfold SandboxDb.flush at h
          dsimp only at h
          split at h
          · cases h
          · next hfree =>
              rw [not_or, Option.isSome_iff_ne_none, not_not] at hfree
              by_cases hid : form.employeeId = employeeId
              · subst hid
                refine hnone hfree.2 ?_
                intro b hb
                exact decide_eq_true (.inl (of_decide_eq_true hb))
              · exact absurd (if_neg hid) hadded

/-! ## Databases that grow -/

/-- `uq_iam_accounts_employee_id` and `uq_mailboxes_employee_id`. -/
def SandboxDb.OneEach (db : SandboxDb) : Prop :=
  ∀ employeeId kind, kind.several = false → (db.tasksOf employeeId kind).length ≤ 1

/-- `after` still has the employees, the rows of each employee and the receipts of `db`. -/
structure Grows (db after : SandboxDb) : Prop where
  employees : ∀ employeeId task, (db.employees.get? employeeId).map (·.arenaTaskId) = some task →
    (after.employees.get? employeeId).map (·.arenaTaskId) = some task
  rows : ∀ employeeId kind, db.tasksOf employeeId kind ⊆ after.tasksOf employeeId kind
  receipts : ∀ key receipt, db.receipts.get? key = some receipt →
    after.receipts.get? key = some receipt

theorem Grows.refl (db : SandboxDb) : Grows db db where
  employees _ _ h := h
  rows _ _ := List.Subset.refl _
  receipts _ _ h := h

theorem Grows.trans {db mid after : SandboxDb} (h : Grows db mid) (h' : Grows mid after) :
    Grows db after where
  employees e task he := h'.employees e task (h.employees e task he)
  rows e kind := List.Subset.trans (h.rows e kind) (h'.rows e kind)
  receipts key receipt hr := h'.receipts key receipt (h.receipts key receipt hr)

theorem flush_grows {db after : SandboxDb} {write : Write} {record : Record}
    (h : db.flush write = some (record, after)) : Grows db after where
  employees e task he := (flush_employees h e).trans he
  rows e kind := by
    rw [flush_tasksOf h]
    exact List.subset_append_left _ _
  receipts key receipt hr := by rwa [flush_receipts h]

theorem flush_oneEach {db after : SandboxDb} {write : Write} {record : Record}
    (h : db.flush write = some (record, after)) (hdb : db.OneEach) : after.OneEach := by
  intro employeeId kind hone
  rw [flush_tasksOf h]
  by_cases hadded : write.added employeeId kind = []
  · rw [hadded, List.append_nil]
    exact hdb employeeId kind hone
  · rw [flush_added h hone hadded]
    unfold Write.added
    split <;> first | exact Nat.zero_le 1 | (split <;> simp)

/-! ## The rows that a mutation is about -/

namespace Mutation

/-- The employee that the path or the body names. -/
def employeeId : Mutation → Int
  | createTicket form => form.employeeId
  | createAccount form => form.employeeId
  | createAsset form => form.employeeId
  | createMailbox form => form.employeeId
  | transferEmployee employeeId _ | disableEmployee employeeId | closeTicket employeeId
  | revokeAccount employeeId | releaseAsset employeeId | disableMailbox employeeId => employeeId

end Mutation

/-- The kind of row that the endpoint looks up first, if it is not the employee. -/
def W8Operation.looksUp : W8Operation → Option Kind
  | createTicket | createAccount | assignAsset | createMailbox => none
  | transferEmployee | disableEmployee => none
  | closeTicket => some .ticket
  | revokeAccount => some .account
  | releaseAsset => some .asset
  | disableMailbox => some .mailbox

/-- The kind of row that a replay looks up again. -/
def W8Operation.answersWith : W8Operation → Option Kind
  | createTicket => some .ticket
  | createAccount => some .account
  | assignAsset => some .asset
  | createMailbox => some .mailbox
  | transferEmployee | disableEmployee => none
  | closeTicket | revokeAccount | releaseAsset | disableMailbox => none

namespace Mutation

theorem owner_eq (m : Mutation) (db : SandboxDb) :
    m.owner db = match m.operation.looksUp with
      | none => (requireEmployee db m.employeeId).map .employee
      | some kind => single db m.employeeId kind := by
  cases m <;> rfl

theorem replay_eq (m : Mutation) (first : Record) (db : SandboxDb) :
    m.replay first db = match m.operation.answersWith with
      | none => .ok first
      | some kind => single db m.employeeId kind := by
  cases m <;> rfl

/-- The lookup finds one row, and it is the task's. -/
def Found (m : Mutation) (task : Option String) (db : SandboxDb) : Prop :=
  match m.operation.looksUp with
  | none => (db.employees.get? m.employeeId).map (·.arenaTaskId) = some task
  | some kind => db.tasksOf m.employeeId kind = [task]

/-- A row that the lookup is for is the task's. -/
def Owned (m : Mutation) (task : Option String) (db : SandboxDb) : Prop :=
  match m.operation.looksUp with
  | none => (db.employees.get? m.employeeId).map (·.arenaTaskId) = some task
  | some kind => task ∈ db.tasksOf m.employeeId kind

/-- A replay finds one row. -/
def Single (m : Mutation) (db : SandboxDb) : Prop :=
  ∀ kind, m.operation.answersWith = some kind → (db.tasksOf m.employeeId kind).length = 1

/-- The employee has a row of the kind that a replay looks up. -/
def Made (m : Mutation) (db : SandboxDb) : Prop :=
  ∀ kind, m.operation.answersWith = some kind → db.tasksOf m.employeeId kind ≠ []

theorem found_iff {m : Mutation} {task : Option String} {db : SandboxDb} :
    (∃ first, m.owner db = .ok first ∧ first.arenaTaskId = task) ↔ m.Found task db := by
  rw [owner_eq]
  unfold Found
  cases m.operation.looksUp with
  | some kind => exact single_ok_iff
  | none =>
      unfold requireEmployee
      cases db.employees.get? m.employeeId with
      | none =>
          constructor
          · rintro ⟨_, h, _⟩
            cases h
          · intro h
            cases h
      | some e =>
          constructor
          · rintro ⟨_, h, htask⟩
            cases h
            exact congrArg some htask
          · intro h
            exact ⟨.employee e, rfl, Option.some.inj h⟩

theorem Found.owned {m : Mutation} {task : Option String} {db : SandboxDb} (h : m.Found task db) :
    m.Owned task db := by
  unfold Found at h
  unfold Owned
  split at h
  · exact h
  · rw [h]
    exact List.mem_singleton_self _

theorem Owned.grows {m : Mutation} {task : Option String} {db after : SandboxDb}
    (h : m.Owned task db) (hgrows : Grows db after) : m.Owned task after := by
  unfold Owned at h ⊢
  split at h
  · exact hgrows.employees _ _ h
  · exact hgrows.rows _ _ h

theorem Made.grows {m : Mutation} {db after : SandboxDb} (h : m.Made db)
    (hgrows : Grows db after) : m.Made after := by
  intro kind hkind hnil
  refine h kind hkind (List.eq_nil_iff_forall_not_mem.mpr ?_)
  intro task htask
  have hstill := hgrows.rows _ _ htask
  rw [hnil] at hstill
  cases hstill

theorem replay_ok_iff {m : Mutation} {db : SandboxDb} (first : Record) :
    (∃ record, m.replay first db = .ok record) ↔ m.Single db := by
  rw [replay_eq]
  unfold Single
  cases m.operation.answersWith with
  | none =>
      constructor
      · intro _ kind hkind
        cases hkind
      · exact fun _ => ⟨first, rfl⟩
  | some kind =>
      constructor
      · rintro ⟨record, hrecord⟩ other hother
        cases hother
        rw [single_ok_iff.mp ⟨record, hrecord, rfl⟩]
        rfl
      · intro h
        obtain ⟨task, htask⟩ := List.length_eq_one_iff.mp (h kind rfl)
        obtain ⟨record, hrecord, _⟩ := single_ok_iff.mpr htask
        exact ⟨record, hrecord⟩

/-- The employee has one row where the endpoint expects it to have one and it could have more. -/
structure OneRow (m : Mutation) (looked answered : SandboxDb) : Prop where
  looked : ∀ kind, m.operation.looksUp = some kind → kind.several = true →
    (looked.tasksOf m.employeeId kind).length = 1
  answered : ∀ kind, m.operation.answersWith = some kind → kind.several = true →
    (answered.tasksOf m.employeeId kind).length = 1

/-- Where the employee once had the row, only further rows of its kind are in the way. -/
theorem found_and_single_iff {m : Mutation} {task : Option String} {looked answered : SandboxDb}
    (howned : m.Owned task looked) (hlooked : looked.OneEach) (hmade : m.Made answered)
    (hanswered : answered.OneEach) :
    m.Found task looked ∧ m.Single answered ↔ m.OneRow looked answered := by
  have hone : ∀ {db : SandboxDb} {kind : Kind} {e : Int}, db.OneEach → db.tasksOf e kind ≠ [] →
      (kind.several = true → (db.tasksOf e kind).length = 1) →
      (db.tasksOf e kind).length = 1 := by
    intro db kind e hdb hne hseveral
    cases hcase : kind.several with
    | true => exact hseveral hcase
    | false =>
        have hmost := hdb e kind hcase
        have hleast := List.length_pos_iff.mpr hne
        omega
  constructor
  · rintro ⟨hfound, hsingle⟩
    refine ⟨?_, fun kind hkind _ => hsingle kind hkind⟩
    intro kind hkind _
    unfold Found at hfound
    rw [hkind] at hfound
    rw [hfound]
    rfl
  · intro h
    refine ⟨?_, fun kind hkind => hone hanswered (hmade kind hkind) (h.answered kind hkind)⟩
    unfold Found
    unfold Owned at howned
    cases hkind : m.operation.looksUp with
    | none =>
        rw [hkind] at howned
        exact howned
    | some kind =>
        rw [hkind] at howned
        dsimp only at howned ⊢
        have hlength := hone hlooked (List.ne_nil_of_mem howned) (h.looked kind hkind)
        obtain ⟨other, hother⟩ := List.length_eq_one_iff.mp hlength
        rw [hother] at howned
        rw [List.mem_singleton.mp howned]
        exact hother

/-- What `perform` adds is what a replay looks up. -/
theorem perform_added {m : Mutation} {first : Record} {write : Write}
    (h : m.perform first = .ok write) {kind : Kind}
    (hkind : m.operation.answersWith = some kind) : write.added m.employeeId kind ≠ [] := by
  cases m with
  | createTicket form | createAccount form | createAsset form | createMailbox form =>
      cases hkind
      cases h
      unfold Write.added
      simp [employeeId]
  | transferEmployee _ _ | disableEmployee _ | closeTicket _ | revokeAccount _ | releaseAsset _
  | disableMailbox _ => cases hkind

end Mutation

section

variable [Sha256]

/-! ## Later requests -/

/-- What the endpoints answer when a request does not fit what its key was bound to. -/
def mismatches : List String :=
  ["W8 mutation ownership or operation mismatch", "idempotency_mismatch"]

/-- The operation is the endpoint's, and the hash is that of the request. -/
def W8IdempotencyMetadata.Genuine (metadata : W8IdempotencyMetadata) (m : Mutation) : Prop :=
  metadata.operation = m.operation ∧
    canonicalRequestHash metadata m.payload = metadata.requestHash

/-- A request whose key has a receipt is replayed or refused. -/
theorem w8Mutation_existing {metadata : W8IdempotencyMetadata} {m : Mutation} {reads : Reads}
    {receipt : W8OperationReceipt} {first : Record} {db : SandboxDb}
    (hexisting : reads.existing = some receipt) (howner : reads.owner = .ok first) :
    w8Mutation metadata m reads db =
      if metadata.operation ≠ m.operation ∨ first.arenaTaskId ≠ some metadata.taskId then
        .error ⟨409, "W8 mutation ownership or operation mismatch"⟩
      else if canonicalRequestHash metadata m.payload ≠ metadata.requestHash ∨
          receipt.requestHash ≠ metadata.requestHash then
        .error ⟨409, "idempotency_mismatch"⟩
      else
        (m.replay first db).map fun record => ((record, ⟨.replayed, receipt.resultHash⟩), db) := by
  unfold w8Mutation
  rw [howner]
  refine ite_congr rfl (fun _ => rfl) ?_
  intro _
  unfold executeIdempotent
  rw [hexisting]
  by_cases hhash : canonicalRequestHash metadata m.payload ≠ metadata.requestHash
  · rw [if_pos hhash, if_pos (.inl hhash)]
  · rw [if_neg hhash]
    by_cases hbound : receipt.requestHash ≠ metadata.requestHash
    · dsimp only
      rw [if_pos hbound, if_pos (.inr hbound)]
    · dsimp only
      rw [if_neg hbound, if_neg (not_or.mpr ⟨hhash, hbound⟩)]
      unfold replayed
      cases m.replay first db with
      | ok record => rfl
      | error e => rfl

theorem w8Mutation_owner_error {metadata : W8IdempotencyMetadata} {m : Mutation} {reads : Reads}
    {db : SandboxDb} {e : HttpError} (howner : reads.owner = .error e) :
    w8Mutation metadata m reads db = .error e := by
  unfold w8Mutation
  rw [howner]
  rfl

section

variable {metadata : W8IdempotencyMetadata} {m : Mutation} {receipt : W8OperationReceipt}
  {looked answered : SandboxDb} {count : Nat}

/-- The same hash: the request is replayed when it is genuine and finds its rows. -/
theorem replayed_iff (hhash : receipt.requestHash = metadata.requestHash) :
    (∃ record, w8Mutation metadata m ⟨m.owner looked, some receipt, count⟩ answered =
        .ok ((record, ⟨.replayed, receipt.resultHash⟩), answered)) ↔
      metadata.Genuine m ∧ m.Found (some metadata.taskId) looked ∧ m.Single answered := by
  rw [← Mutation.found_iff]
  cases howner : m.owner looked with
  | error e =>
      rw [w8Mutation_owner_error rfl]
      constructor
      · rintro ⟨_, h⟩
        cases h
      · rintro ⟨_, ⟨_, h, _⟩, _⟩
        cases h
  | ok first =>
      rw [w8Mutation_existing rfl rfl, ← Mutation.replay_ok_iff first]
      constructor
      · rintro ⟨record, h⟩
        split at h
        · cases h
        · next hown =>
            split at h
            · cases h
            · next hbound =>
                rw [not_or, not_not, not_not] at hown hbound
                cases hreplay : m.replay first answered with
                | error e =>
                    rw [hreplay] at h
                    cases h
                | ok row => exact ⟨⟨hown.1, hbound.1⟩, ⟨first, rfl, hown.2⟩, row, rfl⟩
      · rintro ⟨⟨hoperation, hcanonical⟩, ⟨_, hsame, htask⟩, record, hreplay⟩
        cases hsame
        rw [if_neg (not_or.mpr ⟨not_not.mpr hoperation, not_not.mpr htask⟩),
          if_neg (not_or.mpr ⟨not_not.mpr hcanonical, not_not.mpr hhash⟩), hreplay]
        exact ⟨record, rfl⟩

omit [Sha256] in
theorem owner_error_detail {e : HttpError} (h : m.owner looked = .error e) :
    e.detail ∉ mismatches := by
  have hemployee : ∀ {id : Int} {f : Employee → Record},
      (requireEmployee looked id).map f = .error e → e.detail ∉ mismatches := by
    intro id f hid
    unfold requireEmployee at hid
    cases hget : looked.employees.get? id with
    | some row =>
        rw [hget] at hid
        cases hid
    | none =>
        rw [hget] at hid
        cases hid
        decide
  have hsingle : ∀ {α : Type} {rows : List α} {missing : String} {f : α → Record},
      missing ∉ mismatches → (requireSingle rows missing).map f = .error e →
      e.detail ∉ mismatches := by
    intro α rows missing f hmissing hrows
    match rows with
    | [] =>
        cases hrows
        exact hmissing
    | [_] => cases hrows
    | _ :: _ :: _ =>
        cases hrows
        decide
  cases m with
  | createTicket _ | createAccount _ | createAsset _ | createMailbox _ | transferEmployee _ _
  | disableEmployee _ => exact hemployee h
  | closeTicket _ | revokeAccount _ | releaseAsset _ | disableMailbox _ =>
      exact hsingle (by decide) h

/-- Another hash: the request is refused as a mismatch when its lookup finds a row. -/
theorem mismatch_iff (hhash : receipt.requestHash ≠ metadata.requestHash) :
    (∃ detail ∈ mismatches, w8Mutation metadata m ⟨m.owner looked, some receipt, count⟩ answered =
        .error ⟨409, detail⟩) ↔ ∃ task, m.Found task looked := by
  simp only [← Mutation.found_iff]
  cases howner : m.owner looked with
  | error e =>
      rw [w8Mutation_owner_error rfl]
      constructor
      · rintro ⟨detail, hdetail, h⟩
        cases h
        exact absurd hdetail (owner_error_detail howner)
      · rintro ⟨_, _, h, _⟩
        cases h
  | ok first =>
      rw [w8Mutation_existing rfl rfl]
      refine ⟨fun _ => ⟨_, first, rfl, rfl⟩, fun _ => ?_⟩
      split
      · exact ⟨_, .head _, rfl⟩
      · rw [if_pos (.inr hhash)]
        exact ⟨_, .tail _ (.head _), rfl⟩

/-- In either case nothing is written. -/
theorem existing_unchanged {after : SandboxDb} {reply : Record × W8ReceiptResult}
    (h : w8Mutation metadata m ⟨m.owner looked, some receipt, count⟩ answered =
      .ok (reply, after)) : after = answered := by
  cases howner : m.owner looked with
  | error e =>
      rw [howner, w8Mutation_owner_error rfl] at h
      cases h
  | ok first =>
      rw [howner, w8Mutation_existing rfl rfl] at h
      split at h
      · cases h
      · split at h
        · cases h
        · cases hreplay : m.replay first answered with
          | error e =>
              rw [hreplay] at h
              cases h
          | ok record =>
              rw [hreplay] at h
              cases h
              rfl

end

/-! ## Runs -/

/-- The fields of `EmployeeCreate` that a row keeps here. -/
structure EmployeeCreate where
  workEmail : String
  department : String
  jobTitle : String
  location : String

/-- `create_employee`: the employee is nobody's task. -/
def createEmployee (form : EmployeeCreate) (db : SandboxDb) :
    Except HttpError (Employee × SandboxDb) :=
  let row : Employee :=
    ⟨nextId (db.employees.rows.map (·.id)), form.workEmail, form.department, form.jobTitle,
      form.location, .confirmed, none⟩
  if (db.employees.one? fun e => e.workEmail = form.workEmail).isSome then
    .error ⟨409, "Synthetic work email already exists"⟩
  else
    match db.employees.insert? row with
    | some employees => .ok (row, { db with employees := employees })
    | none => .error ⟨409, "Synthetic work email already exists"⟩

/-- A mutation request under way, with W8 metadata or without. -/
inductive OpenRequest where
  | w8 (t : OpenMutation)
  | plain (m : Mutation) (owner : Except HttpError Record)

/-- Concurrent mutation requests to all endpoints. -/
def requests : Sessions.Protocol SandboxDb OpenRequest where
  opens db r :=
    (∃ metadata m, r = .w8 (.read metadata m db)) ∨ ∃ m, r = .plain m (m.owner db)
  rereads db r u :=
    (∃ t v, r = .w8 t ∧ u = .w8 v ∧ t.Rereads db v) ∨
      ∃ m owner, r = .plain m owner ∧ u = .plain m (m.owner db)
  commits db r after :=
    match r with
    | .w8 t => ∃ reply, w8Mutation t.metadata t.mutation t.reads db = .ok (reply, after)
    | .plain m owner => ∃ reply, plainMutation m owner db = .ok (reply, after)
  other db after := ∃ form reply, createEmployee form db = .ok (reply, after)

theorem commitMutation_flush {db after : SandboxDb} {metadata : W8IdempotencyMetadata}
    {write : Write} {record : Record}
    (h : commitMutation db metadata write = some (record, after)) :
    ∃ mid, db.flush write = some (record, mid) ∧ mid.receipts = db.receipts ∧
      ∃ hfresh, after =
        { mid with receipts := db.receipts.insert (newReceipt metadata) hfresh } := by
  unfold commitMutation at h
  obtain ⟨⟨row, mid⟩, hflush, hrest⟩ := Option.bind_eq_some_iff.mp h
  obtain ⟨receipts, hinsert, hlast⟩ := Option.bind_eq_some_iff.mp hrest
  cases hlast
  have hsame := flush_receipts hflush
  rw [hsame] at hinsert
  obtain ⟨hfresh, rfl⟩ := Table.insert?_eq_some hinsert
  exact ⟨mid, hflush, hsame, hfresh, rfl⟩

theorem commitMutation_grows {db after : SandboxDb} {metadata : W8IdempotencyMetadata}
    {write : Write} {record : Record}
    (h : commitMutation db metadata write = some (record, after)) : Grows db after := by
  obtain ⟨mid, hflush, _, hfresh, rfl⟩ := commitMutation_flush h
  have hgrows := flush_grows hflush
  refine ⟨hgrows.employees, hgrows.rows, ?_⟩
  intro key receipt hreceipt
  rw [Table.get?_insert]
  split
  · next hkey =>
      subst hkey
      rw [hfresh] at hreceipt
      cases hreceipt
  · exact hreceipt

theorem commitMutation_oneEach {db after : SandboxDb} {metadata : W8IdempotencyMetadata}
    {write : Write} {record : Record}
    (h : commitMutation db metadata write = some (record, after)) (hdb : db.OneEach) :
    after.OneEach := by
  obtain ⟨mid, hflush, _, _, rfl⟩ := commitMutation_flush h
  have hmid : mid.OneEach := flush_oneEach hflush hdb
  exact hmid

/-- A mutation that is answered has been replayed or has committed what it performed. -/
theorem w8Mutation_done {metadata : W8IdempotencyMetadata} {m : Mutation} {reads : Reads}
    {db after : SandboxDb} {reply : Record × W8ReceiptResult}
    (h : w8Mutation metadata m reads db = .ok (reply, after)) :
    after = db ∧ reply.2.state = .replayed ∨
      reply.2 = ⟨.created, safeResultHash metadata⟩ ∧
        ∃ first write record, reads.owner = .ok first ∧
          first.arenaTaskId = some metadata.taskId ∧ m.perform first = .ok write ∧
          commitMutation db metadata write = some (record, after) := by
  have hreplay : ∀ {first receipt},
      (replayed m first receipt db).map (·, db) = .ok (reply, after) →
        after = db ∧ reply.2.state = .replayed := by
    intro first receipt hr
    unfold replayed at hr
    cases hcase : m.replay first db with
    | error e =>
        rw [hcase] at hr
        cases hr
    | ok record =>
        rw [hcase] at hr
        cases hr
        exact ⟨rfl, rfl⟩
  unfold w8Mutation at h
  obtain ⟨first, howner, hrest⟩ := ok_of_bind h
  split at hrest
  · cases hrest
  · next hown =>
      rw [not_or, not_not, not_not] at hown
      split at hrest
      · next hexec =>
          cases hrest
          unfold executeIdempotent at hexec
          split at hexec
          · cases hexec
          · split at hexec
            · split at hexec
              · cases hexec
              · exact .inl (hreplay hexec)
            · split at hexec
              · cases hexec
              · split at hexec
                · cases hexec
                · next hperform =>
                    split at hexec
                    · next hcommit =>
                        cases hexec
                        exact .inr ⟨rfl, first, _, _, howner, hown.2, hperform, hcommit⟩
                    · split at hexec
                      · split at hexec
                        · cases hexec
                        · split at hexec
                          · cases hexec
                          · exact .inl (hreplay hexec)
                      · cases hexec
      · cases hrest
      · cases hrest

omit [Sha256] in
theorem plainMutation_flush {m : Mutation} {owner : Except HttpError Record}
    {db after : SandboxDb} {record : Record}
    (h : plainMutation m owner db = .ok (record, after)) :
    ∃ write, db.flush write = some (record, after) := by
  unfold plainMutation at h
  obtain ⟨first, _, hrest⟩ := ok_of_bind h
  obtain ⟨write, _, hflush⟩ := ok_of_bind hrest
  split at hflush
  · next hsome =>
      cases hflush
      exact ⟨write, hsome⟩
  · cases hflush

omit [Sha256] in
theorem createEmployee_grows {form : EmployeeCreate} {db after : SandboxDb} {row : Employee}
    (h : createEmployee form db = .ok (row, after)) :
    Grows db after ∧ (db.OneEach → after.OneEach) := by
  unfold createEmployee at h
  dsimp only at h
  split at h
  · cases h
  · split at h
    · next hinsert =>
        cases h
        obtain ⟨hfresh, rfl⟩ := Table.insert?_eq_some hinsert
        refine ⟨⟨?_, fun _ _ => List.Subset.refl _, fun _ _ hr => hr⟩, fun hdb => hdb⟩
        intro employeeId task htask
        rw [Table.get?_insert]
        split
        · next hid =>
            subst hid
            rw [hfresh] at htask
            cases htask
        · exact htask
    · cases h

/-- The row that an open request has looked up is still there. -/
def StillOwned (db : SandboxDb) : OpenRequest → Prop
  | .w8 t => ∀ first, t.reads.owner = .ok first → t.mutation.Owned first.arenaTaskId db
  | .plain _ _ => True

omit [Sha256] in
theorem StillOwned.grows {db after : SandboxDb} {r : OpenRequest} (h : StillOwned db r)
    (hgrows : Grows db after) : StillOwned after r := by
  cases r with
  | plain _ _ => exact trivial
  | w8 t => exact fun first hfirst => (h first hfirst).grows hgrows

omit [Sha256] in
theorem owned_of_owner {m : Mutation} {first : Record} {db : SandboxDb}
    (h : m.owner db = .ok first) : m.Owned first.arenaTaskId db :=
  (Mutation.found_iff.mp ⟨first, h, rfl⟩).owned

/-- No request takes anything away. -/
theorem requests_grow (start : SandboxDb) :
    Sessions.Invariant requests Sessions.Anything
      (fun db => db.OneEach ∧ Grows start db) StillOwned where
  opens db r _ h := by
    rcases h with ⟨metadata, m, rfl⟩ | ⟨m, rfl⟩
    · exact fun first hfirst => owned_of_owner hfirst
    · exact trivial
  rereads db r u _ hr h := by
    rcases h with ⟨t, v, rfl, rfl, hread⟩ | ⟨m, owner, rfl, rfl⟩
    · cases hread with
      | owner => exact fun first hfirst => owned_of_owner hfirst
      | existing | count => exact hr
    · exact trivial
  commits db r after hdb _ _ h := by
    have hdone : Grows db after ∧ (db.OneEach → after.OneEach) := by
      cases r with
      | plain m owner =>
          obtain ⟨reply, hplain⟩ := h
          obtain ⟨write, hflush⟩ := plainMutation_flush hplain
          exact ⟨flush_grows hflush, flush_oneEach hflush⟩
      | w8 t =>
          obtain ⟨reply, hw8⟩ := h
          rcases w8Mutation_done hw8 with ⟨rfl, _⟩ | ⟨_, _, _, _, _, _, _, hcommit⟩
          · exact ⟨.refl _, id⟩
          · exact ⟨commitMutation_grows hcommit, commitMutation_oneEach hcommit⟩
    exact ⟨⟨hdone.2 hdb.1, hdb.2.trans hdone.1⟩, fun _ hu => hu.grows hdone.1⟩
  other db after hdb h := by
    obtain ⟨form, reply, hcreate⟩ := h
    have hdone := createEmployee_grows hcreate
    exact ⟨⟨hdone.2 hdb.1, hdb.2.trans hdone.1⟩, fun _ hu => hu.grows hdone.1⟩

/-- What a later state has, when the run between has started with `OneEach`. -/
theorem run_grows {c d : Sessions.Config SandboxDb OpenRequest}
    (hc : c.store.OneEach) (howned : ∀ i r, c.opened i = some r → StillOwned c.store r)
    (hrun : ReflTransGen (Sessions.Step requests Sessions.Anything) c d) :
    (d.store.OneEach ∧ Grows c.store d.store) ∧
      ∀ i r, d.opened i = some r → StillOwned d.store r :=
  (requests_grow c.store).run ⟨⟨hc, .refl _⟩, howned⟩ hrun

/-- In some run the mutation has just created its receipt. -/
def Created (metadata : W8IdempotencyMetadata) (m : Mutation) (resultHash : Digest)
    (d : Sessions.Config SandboxDb OpenRequest) : Prop :=
  ∃ (start : SandboxDb) (c : Sessions.Config SandboxDb OpenRequest) (i : Nat) (reads : Reads)
    (counted : List W8OperationReceipt) (record : Record) (after : SandboxDb),
    start.OneEach ∧
    ReflTransGen (Sessions.Step requests Sessions.Anything) (.start start) c ∧
    c.opened i = some (.w8 ⟨metadata, m, reads, counted⟩) ∧
    w8Mutation metadata m reads c.store = .ok ((record, ⟨.created, resultHash⟩), after) ∧
    d = ⟨after, Function.update c.opened i none⟩

theorem Created.facts {metadata : W8IdempotencyMetadata} {m : Mutation} {resultHash : Digest}
    {d : Sessions.Config SandboxDb OpenRequest} (h : Created metadata m resultHash d) :
    (d.store.OneEach ∧ ∀ i r, d.opened i = some r → StillOwned d.store r) ∧
      existing d.store metadata = some (newReceipt metadata) ∧
      resultHash = (newReceipt metadata).resultHash ∧
      m.Owned (some metadata.taskId) d.store ∧ m.Made d.store := by
  obtain ⟨start, c, i, reads, counted, record, after, hstart, hrun, hopen, hcommit, rfl⟩ := h
  obtain ⟨⟨hone, _⟩, howned⟩ := run_grows (c := .start start) hstart
    (fun _ _ hnone => by cases hnone) hrun
  have hstep : Sessions.Step requests Sessions.Anything c
      ⟨after, Function.update c.opened i none⟩ := .commit hopen trivial ⟨_, hcommit⟩
  obtain ⟨⟨hafter, hgrows⟩, hstill⟩ := run_grows hone howned (.single hstep)
  rcases w8Mutation_done hcommit with ⟨_, hreplayed⟩ | ⟨hreceipt, first, write, row, hfirst, htask,
    hperform, hwrite⟩
  · cases hreplayed
  · obtain ⟨mid, hflush, _, hfresh, hinsert⟩ := commitMutation_flush hwrite
    refine ⟨⟨hafter, hstill⟩, ?_, ?_, ?_, ?_⟩
    · show after.receipts.get? (metadata.taskId, metadata.idempotencyKey) = _
      rw [hinsert]
      exact (Table.get?_insert hfresh _).trans (if_pos rfl)
    · cases hreceipt
      rfl
    · rw [← htask]
      exact (howned i _ hopen first hfirst).grows hgrows
    · intro kind hkind hnil
      rw [hinsert] at hnil
      have htasks := flush_tasksOf hflush m.employeeId kind
      rw [show mid.tasksOf m.employeeId kind = [] from hnil] at htasks
      exact Mutation.perform_added hperform hkind (List.append_eq_nil_iff.mp htasks.symm).2

/-- Once a mutation has created its receipt, every later request with its task and key, which reads
and is answered at any later states of any run, changes nothing.  With the same hash it is replayed
if and only if it is genuine and its lookups find one row each; where it is about the same employee
at the same endpoint, only a second ticket or asset stands in their way.  With another hash it is
refused as a mismatch if and only if its lookup finds a row. -/
theorem replay_exact {metadata : W8IdempotencyMetadata} {m : Mutation} {resultHash : Digest}
    {d looked read answered : Sessions.Config SandboxDb OpenRequest}
    (hcreated : Created metadata m resultHash d)
    (hlooked : ReflTransGen (Sessions.Step requests Sessions.Anything) d looked)
    (hread : ReflTransGen (Sessions.Step requests Sessions.Anything) looked read)
    (hanswered : ReflTransGen (Sessions.Step requests Sessions.Anything) read answered)
    (later : W8IdempotencyMetadata) (n : Mutation) (count : Nat)
    (htask : later.taskId = metadata.taskId)
    (hkey : later.idempotencyKey = metadata.idempotencyKey) :
    let reads : Reads := ⟨n.owner looked.store, existing read.store later, count⟩
    let answer := w8Mutation later n reads answered.store
    (later.requestHash = metadata.requestHash →
      ((∃ record, answer = .ok ((record, ⟨.replayed, resultHash⟩), answered.store)) ↔
        later.Genuine n ∧ n.Found (some later.taskId) looked.store ∧ n.Single answered.store) ∧
      (n.operation = m.operation → n.employeeId = m.employeeId →
        (n.Found (some later.taskId) looked.store ∧ n.Single answered.store ↔
          n.OneRow looked.store answered.store))) ∧
    (later.requestHash ≠ metadata.requestHash →
      ((∃ detail ∈ mismatches, answer = .error ⟨409, detail⟩) ↔
        ∃ task, n.Found task looked.store)) ∧
    ∀ reply s, answer = .ok (reply, s) → s = answered.store := by
  obtain ⟨⟨hone, hstill⟩, hreceipt, rfl, howned, hmade⟩ := hcreated.facts
  obtain ⟨⟨honelooked, hgrowslooked⟩, hstilllooked⟩ := run_grows hone hstill hlooked
  obtain ⟨⟨honeread, hgrowsread⟩, hstillread⟩ := run_grows honelooked hstilllooked hread
  obtain ⟨⟨honeanswered, hgrowsanswered⟩, _⟩ := run_grows honeread hstillread hanswered
  have hexisting : existing read.store later = some (newReceipt metadata) := by
    unfold existing
    rw [htask, hkey]
    exact (hgrowslooked.trans hgrowsread).receipts _ _ hreceipt
  dsimp only
  rw [hexisting]
  refine ⟨?_, fun hhash => mismatch_iff fun h => hhash h.symm, fun _ _ => existing_unchanged⟩
  intro hhash
  refine ⟨replayed_iff hhash.symm, ?_⟩
  intro hoperation hemployee
  have hsame : n.Owned (some later.taskId) d.store ∧ n.Made d.store := by
    unfold Mutation.Owned at howned ⊢
    unfold Mutation.Made at hmade ⊢
    rw [hoperation, hemployee, htask]
    exact ⟨howned, hmade⟩
  exact Mutation.found_and_single_iff (hsame.1.grows hgrowslooked) honelooked
    (hsame.2.grows ((hgrowslooked.trans hgrowsread).trans hgrowsanswered)) honeanswered

end

section

attribute [local instance] polynomialSha256

namespace Sample

theorem company_oneEach : company.OneEach := by
  intro employeeId kind _
  cases kind <;> exact Nat.zero_le 1

theorem created_of_state {r : Except HttpError ((Record × W8ReceiptResult) × SandboxDb)}
    (h : r.toOption.map (fun a => a.1.2.state) = some .created) :
    ∃ record resultHash after, r = .ok ((record, ⟨.created, resultHash⟩), after) := by
  match r with
  | .error _ => cases h
  | .ok ((record, ⟨state, resultHash⟩), after) =>
      cases h
      exact ⟨record, resultHash, after, rfl⟩

/-- The request reads and commits with nothing in between. -/
theorem commit_alone {db after : SandboxDb} {n : Nat} {reply : Record × W8ReceiptResult}
    (h : w8Mutation (ticket n db).metadata (ticket n db).mutation (ticket n db).reads db =
      .ok (reply, after)) :
    ∃ c : Sessions.Config SandboxDb OpenRequest,
      ReflTransGen (Sessions.Step requests Sessions.Anything) (.start db) c ∧ c.store = db ∧
      c.opened 0 = some (.w8 (ticket n db)) ∧
      Sessions.Step requests Sessions.Anything c (.start after) ∧
      .start after = (⟨after, Function.update c.opened 0 none⟩ : Sessions.Config _ _) := by
  let opened : Sessions.Config SandboxDb OpenRequest :=
    ⟨db, Function.update (fun _ => none) 0 (some (.w8 (ticket n db)))⟩
  have hopen : Sessions.Step requests Sessions.Anything (.start db) opened :=
    .start rfl (.inl ⟨_, _, rfl⟩)
  have hclosed : Function.update opened.opened 0 none = fun _ => none := by
    rw [Function.update_idem, Function.update_eq_self_iff]
  have hcommit : Sessions.Step requests Sessions.Anything opened
      ⟨after, Function.update opened.opened 0 none⟩ := .commit rfl trivial ⟨reply, h⟩
  rw [hclosed] at hcommit
  refine ⟨opened, .single hopen, rfl, rfl, hcommit, ?_⟩
  rw [hclosed]
  rfl

/-- The company opens its first ticket. -/
theorem company_created :
    ∃ resultHash, Created (ticket 0 company).metadata (ticket 0 company).mutation resultHash
      (.start (afterTickets 1)) := by
  have hstate : (w8Mutation (ticket 0 company).metadata (ticket 0 company).mutation
      (ticket 0 company).reads company).toOption.map (fun a => a.1.2.state) = some .created := by
    decide +kernel
  obtain ⟨record, resultHash, after, hok⟩ := created_of_state hstate
  obtain ⟨c, hrun, hstore, hopen, _, hlast⟩ := commit_alone hok
  have hafter : afterTickets 1 = after := by
    show served (ticket 0 company) company = after
    unfold served
    rw [hok]
  rw [hafter]
  refine ⟨resultHash, company, c, 0, _, _, record, after, company_oneEach, hrun, hopen, ?_, hlast⟩
  rw [hstore]
  exact hok

/-- It opens a second one. -/
theorem run_secondTicket :
    ReflTransGen (Sessions.Step requests Sessions.Anything)
      (.start (afterTickets 1)) (.start (afterTickets 2)) := by
  have hstate : (w8Mutation (ticket 1 (afterTickets 1)).metadata
      (ticket 1 (afterTickets 1)).mutation (ticket 1 (afterTickets 1)).reads
        (afterTickets 1)).toOption.map (fun a => a.1.2.state) = some .created := by
    decide +kernel
  obtain ⟨record, resultHash, after, hok⟩ := created_of_state hstate
  obtain ⟨c, hrun, _, _, hstep, _⟩ := commit_alone hok
  have hafter : afterTickets 2 = after := by
    show served (ticket 1 (afterTickets 1)) (afterTickets 1) = after
    unfold served
    rw [hok]
  rw [hafter]
  exact hrun.tail hstep

/-- The first request once more, at the store `db`. -/
def again (db : SandboxDb) : Except HttpError ((Record × W8ReceiptResult) × SandboxDb) :=
  let t := ticket 0 company
  w8Mutation t.metadata t.mutation (t.mutation.readAll t.metadata db) db

end Sample

open Sample

/-- A request that is repeated at once. -/
theorem replay_exact_atOnce :
    ∃ resultHash record, again (afterTickets 1) =
      .ok ((record, ⟨.replayed, resultHash⟩), afterTickets 1) := by
  obtain ⟨resultHash, hcreated⟩ := company_created
  have hexact := replay_exact hcreated .refl .refl .refl (ticket 0 company).metadata
    (ticket 0 company).mutation
    ((afterTickets 1).receiptCount (ticket 0 company).metadata.taskId) rfl rfl
  rw [Sessions.Config.start_store] at hexact
  have hsame := hexact.1 rfl
  have hrow : (ticket 0 company).mutation.OneRow (afterTickets 1) (afterTickets 1) := by
    constructor
    · intro kind hkind
      cases hkind
    · intro kind hkind _
      cases hkind
      decide +kernel
  have hgenuine : (ticket 0 company).metadata.Genuine (ticket 0 company).mutation :=
    ⟨rfl, rfl⟩
  obtain ⟨record, hanswer⟩ := hsame.1.mpr ⟨hgenuine, (hsame.2 rfl rfl).mpr hrow⟩
  exact ⟨resultHash, record, hanswer⟩

/-- After a second ticket for the employee, the first request is answered with a conflict. -/
theorem again_conflicts :
    ∃ resultHash d looked,
      Created (ticket 0 company).metadata (ticket 0 company).mutation resultHash d ∧
      ReflTransGen (Sessions.Step requests Sessions.Anything) d looked ∧
      (again looked.store).map (fun _ => ()) =
        .error ⟨409, "Synthetic transition requires exactly one employee-owned record"⟩ := by
  obtain ⟨resultHash, hcreated⟩ := company_created
  refine ⟨resultHash, _, _, hcreated, run_secondTicket, ?_⟩
  decide +kernel

end

end FlowPilot.Sandbox
