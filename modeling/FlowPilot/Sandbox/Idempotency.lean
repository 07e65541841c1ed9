import FlowPilot.Lib.Raise
import FlowPilot.Lib.Table
import FlowPilot.Sandbox.Schemas

/-!
# Idempotent mutations

The business rows and receipts of the sandbox, its ten mutation endpoints, `execute_idempotent`
and `w8_mutation`.  A request reads under READ COMMITTED: what it has read before its commit can
come from earlier states, so its reads are an argument.
-/

open FlowPilot.Lib

namespace FlowPilot.Sandbox

/-! ## Rows -/

inductive EmployeeStatus where
  | confirmed | transferred | disabled
  deriving DecidableEq, Repr

inductive TicketStatus where
  | opened | closed
  deriving DecidableEq, Repr

inductive AccountStatus where
  | active | revoked
  deriving DecidableEq, Repr

inductive AssetStatus where
  | assigned | released
  deriving DecidableEq, Repr

inductive MailboxStatus where
  | active | disabled
  deriving DecidableEq, Repr

structure Employee where
  id : Int
  workEmail : String
  department : String
  jobTitle : String
  location : String
  status : EmployeeStatus
  arenaTaskId : Option String
  deriving DecidableEq, Repr

structure OnboardingTicket where
  id : Int
  employeeId : Int
  title : String
  status : TicketStatus
  arenaTaskId : Option String
  deriving DecidableEq, Repr

structure IamAccount where
  id : Int
  employeeId : Int
  username : String
  status : AccountStatus
  arenaTaskId : Option String
  deriving DecidableEq, Repr

structure AssetAssignment where
  id : Int
  employeeId : Int
  assetTag : String
  model : String
  status : AssetStatus
  arenaTaskId : Option String
  deriving DecidableEq, Repr

structure Mailbox where
  id : Int
  employeeId : Int
  address : String
  status : MailboxStatus
  arenaTaskId : Option String
  deriving DecidableEq, Repr

structure W8OperationReceipt where
  taskId : String
  idempotencyKey : IdempotencyKey
  requestHash : Digest
  planRevision : Nat
  stepId : String
  operation : W8Operation
  resultHash : Digest
  deriving DecidableEq, Repr

instance : Keyed Employee Int := ⟨Employee.id⟩
instance : Keyed OnboardingTicket Int := ⟨OnboardingTicket.id⟩
instance : Keyed IamAccount Int := ⟨IamAccount.id⟩
instance : Keyed AssetAssignment Int := ⟨AssetAssignment.id⟩
instance : Keyed Mailbox Int := ⟨Mailbox.id⟩
instance : Keyed W8OperationReceipt (String × IdempotencyKey) :=
  ⟨fun r => (r.taskId, r.idempotencyKey)⟩

structure SandboxDb where
  employees : Table Employee
  tickets : Table OnboardingTicket
  accounts : Table IamAccount
  assets : Table AssetAssignment
  mailboxes : Table Mailbox
  receipts : Table W8OperationReceipt

/-- A row that an endpoint returns. -/
inductive Record where
  | employee (row : Employee)
  | ticket (row : OnboardingTicket)
  | account (row : IamAccount)
  | asset (row : AssetAssignment)
  | mailbox (row : Mailbox)
  deriving DecidableEq, Repr

def Record.arenaTaskId : Record → Option String
  | .employee row => row.arenaTaskId
  | .ticket row => row.arenaTaskId
  | .account row => row.arenaTaskId
  | .asset row => row.arenaTaskId
  | .mailbox row => row.arenaTaskId

/-- `HTTPException`. -/
structure HttpError where
  status : Nat
  detail : String
  deriving DecidableEq, Repr

/-! ## Lookups -/

def requireEmployee (db : SandboxDb) (employeeId : Int) : Except HttpError Employee :=
  match db.employees.get? employeeId with
  | none => .error ⟨404, "Employee not found"⟩
  | some employee => .ok employee

def requireSingle {α : Type} (records : List α) (missing : String) : Except HttpError α :=
  match records with
  | [] => .error ⟨404, missing⟩
  | [record] => .ok record
  | _ => .error ⟨409, "Synthetic transition requires exactly one employee-owned record"⟩

def singleTicket (db : SandboxDb) (employeeId : Int) : Except HttpError Record :=
  (requireSingle (db.tickets.select fun t => t.employeeId = employeeId)
    "Employee-owned ticket not found").map .ticket

def singleAccount (db : SandboxDb) (employeeId : Int) : Except HttpError Record :=
  (requireSingle (db.accounts.select fun a => a.employeeId = employeeId)
    "Employee-owned account not found").map .account

def singleAsset (db : SandboxDb) (employeeId : Int) : Except HttpError Record :=
  (requireSingle (db.assets.select fun a => a.employeeId = employeeId)
    "Employee-owned asset not found").map .asset

def singleMailbox (db : SandboxDb) (employeeId : Int) : Except HttpError Record :=
  (requireSingle (db.mailboxes.select fun m => m.employeeId = employeeId)
    "Employee-owned mailbox not found").map .mailbox

namespace Mutation

/-- The row that the endpoint reads first: its task owns the mutation. -/
def owner (m : Mutation) (db : SandboxDb) : Except HttpError Record :=
  match m with
  | createTicket form => (requireEmployee db form.employeeId).map .employee
  | createAccount form => (requireEmployee db form.employeeId).map .employee
  | createAsset form => (requireEmployee db form.employeeId).map .employee
  | createMailbox form => (requireEmployee db form.employeeId).map .employee
  | transferEmployee employeeId _ => (requireEmployee db employeeId).map .employee
  | disableEmployee employeeId => (requireEmployee db employeeId).map .employee
  | closeTicket employeeId => singleTicket db employeeId
  | revokeAccount employeeId => singleAccount db employeeId
  | releaseAsset employeeId => singleAsset db employeeId
  | disableMailbox employeeId => singleMailbox db employeeId

/-- `replay`: a transition answers with the object read first, which `require_employee` finds in
the session as well. -/
def replay (m : Mutation) (first : Record) (db : SandboxDb) : Except HttpError Record :=
  match m with
  | createTicket form => singleTicket db form.employeeId
  | createAccount form => singleAccount db form.employeeId
  | createAsset form => singleAsset db form.employeeId
  | createMailbox form => singleMailbox db form.employeeId
  | transferEmployee _ _ | disableEmployee _ | closeTicket _ | revokeAccount _ | releaseAsset _
  | disableMailbox _ => .ok first

end Mutation

/-- After a rollback the session reads an object again when it is next used. -/
def Record.reload (db : SandboxDb) : Record → Except HttpError Record
  | .employee row => (requireEmployee db row.id).map .employee
  | .ticket row => found ((db.tickets.get? row.id).map .ticket)
  | .account row => found ((db.accounts.get? row.id).map .account)
  | .asset row => found ((db.assets.get? row.id).map .asset)
  | .mailbox row => found ((db.mailboxes.get? row.id).map .mailbox)
where
  found : Option Record → Except HttpError Record
    | some record => .ok record
    | none => .error ⟨500, "Internal Server Error"⟩

/-! ## Writes -/

/-- What the flush of a mutation writes: a changed row, or a new row whose key is not known yet. -/
inductive Write where
  | employee (loaded changed : Employee)
  | ticket (changed : OnboardingTicket)
  | account (changed : IamAccount)
  | asset (changed : AssetAssignment)
  | mailbox (changed : Mailbox)
  | newTicket (form : TicketCreate) (arenaTaskId : Option String)
  | newAccount (form : AccountCreate) (arenaTaskId : Option String)
  | newAsset (form : AssetCreate) (arenaTaskId : Option String)
  | newMailbox (form : MailboxCreate) (arenaTaskId : Option String)

/-- `perform`: the checks and assignments of an endpoint on the row it read first. -/
def Mutation.perform (m : Mutation) (first : Record) : Except HttpError Write :=
  match m, first with
  | .transferEmployee _ form, .employee e =>
    if e.status = .confirmed then
      .ok (.employee e { e with
        department := form.department
        jobTitle := form.jobTitle
        location := form.location
        status := .transferred })
    else .error ⟨409, "Employee transfer requires confirmed state"⟩
  | .disableEmployee _, .employee e =>
    if e.status = .confirmed ∨ e.status = .transferred then
      .ok (.employee e { e with status := .disabled })
    else .error ⟨409, "Employee disable requires confirmed or transferred state"⟩
  | .createTicket form, first => .ok (.newTicket form first.arenaTaskId)
  | .createAccount form, first => .ok (.newAccount form first.arenaTaskId)
  | .createAsset form, first => .ok (.newAsset form first.arenaTaskId)
  | .createMailbox form, first => .ok (.newMailbox form first.arenaTaskId)
  | .closeTicket _, .ticket t =>
    if t.status = .opened then .ok (.ticket { t with status := .closed })
    else .error ⟨409, "Ticket is not open"⟩
  | .revokeAccount _, .account a =>
    if a.status = .active then .ok (.account { a with status := .revoked })
    else .error ⟨409, "Account is not active"⟩
  | .releaseAsset _, .asset a =>
    if a.status = .assigned then .ok (.asset { a with status := .released })
    else .error ⟨409, "Asset is not assigned"⟩
  | .disableMailbox _, .mailbox b =>
    if b.status = .active then .ok (.mailbox { b with status := .disabled })
    else .error ⟨409, "Mailbox is not active"⟩
  -- the row read first is always of the kind the endpoint looks up
  | _, _ => .error ⟨500, "Internal Server Error"⟩

/-- The next value of a serial key. -/
def nextId (ids : List Int) : Int := ids.foldr max 0 + 1

/-- A column is written when the object's value differs from the one that was loaded. -/
def column {α : Type} [DecidableEq α] (loaded changed stored : α) : α :=
  if changed = loaded then stored else changed

/-- The flush of a mutation, with the row it leaves; `none` is an integrity error. -/
def SandboxDb.flush (db : SandboxDb) : Write → Option (Record × SandboxDb)
  | .employee loaded changed =>
    let employees := db.employees.update (fun e => e.id = loaded.id) fun e =>
      { e with
        department := column loaded.department changed.department e.department
        jobTitle := column loaded.jobTitle changed.jobTitle e.jobTitle
        location := column loaded.location changed.location e.location
        status := column loaded.status changed.status e.status }
    (employees.get? loaded.id).map fun row => (.employee row, { db with employees := employees })
  | .ticket changed =>
    let tickets := db.tickets.update (fun t => t.id = changed.id) fun t =>
      { t with status := changed.status }
    (tickets.get? changed.id).map fun row => (.ticket row, { db with tickets := tickets })
  | .account changed =>
    let accounts := db.accounts.update (fun a => a.id = changed.id) fun a =>
      { a with status := changed.status }
    (accounts.get? changed.id).map fun row => (.account row, { db with accounts := accounts })
  | .asset changed =>
    let assets := db.assets.update (fun a => a.id = changed.id) fun a =>
      { a with status := changed.status }
    (assets.get? changed.id).map fun row => (.asset row, { db with assets := assets })
  | .mailbox changed =>
    let mailboxes := db.mailboxes.update (fun b => b.id = changed.id) fun b =>
      { b with status := changed.status }
    (mailboxes.get? changed.id).map fun row => (.mailbox row, { db with mailboxes := mailboxes })
  | .newTicket form arenaTaskId =>
    if (db.employees.get? form.employeeId).isNone then none
    else
      let row : OnboardingTicket :=
        ⟨nextId (db.tickets.rows.map (·.id)), form.employeeId, form.title, .opened, arenaTaskId⟩
      (db.tickets.insert? row).map fun tickets => (.ticket row, { db with tickets := tickets })
  | .newAccount form arenaTaskId =>
    if (db.employees.get? form.employeeId).isNone ∨ (db.accounts.one? fun a =>
        a.employeeId = form.employeeId ∨ a.username = form.username).isSome then none
    else
      let row : IamAccount :=
        ⟨nextId (db.accounts.rows.map (·.id)), form.employeeId, form.username, .active,
          arenaTaskId⟩
      (db.accounts.insert? row).map fun accounts => (.account row, { db with accounts := accounts })
  | .newAsset form arenaTaskId =>
    if (db.employees.get? form.employeeId).isNone ∨ (db.assets.one? fun a =>
        a.assetTag = form.assetTag).isSome then none
    else
      let row : AssetAssignment :=
        ⟨nextId (db.assets.rows.map (·.id)), form.employeeId, form.assetTag, form.model, .assigned,
          arenaTaskId⟩
      (db.assets.insert? row).map fun assets => (.asset row, { db with assets := assets })
  | .newMailbox form arenaTaskId =>
    if (db.employees.get? form.employeeId).isNone ∨ (db.mailboxes.one? fun b =>
        b.employeeId = form.employeeId ∨ b.address = form.address).isSome then none
    else
      let row : Mailbox :=
        ⟨nextId (db.mailboxes.rows.map (·.id)), form.employeeId, form.address, .active,
          arenaTaskId⟩
      (db.mailboxes.insert? row).map fun mailboxes =>
        (.mailbox row, { db with mailboxes := mailboxes })

/-! ## Idempotent execution -/

def maxReceiptsPerTask : Nat := 24

inductive ReceiptState where
  | created | replayed
  deriving DecidableEq, Repr

/-- `W8ReceiptResult`. -/
structure W8ReceiptResult where
  state : ReceiptState
  resultHash : Digest
  deriving DecidableEq, Repr

/-- `_existing`. -/
def existing (db : SandboxDb) (metadata : W8IdempotencyMetadata) : Option W8OperationReceipt :=
  db.receipts.get? (metadata.taskId, metadata.idempotencyKey)

def SandboxDb.receiptCount (db : SandboxDb) (taskId : String) : Nat :=
  db.receipts.count fun r => r.taskId = taskId

/-- What a request has read before it commits. -/
structure Reads where
  owner : Except HttpError Record
  existing : Option W8OperationReceipt
  count : Nat

/-- All reads at one state. -/
def Mutation.readAll (m : Mutation) (metadata : W8IdempotencyMetadata) (db : SandboxDb) : Reads :=
  ⟨m.owner db, existing db metadata, db.receiptCount metadata.taskId⟩

/-- What `execute_idempotent` raises. -/
inductive ExecutionError where
  | idempotencyMismatch (detail : String)
  | receiptLimitExceeded
  | integrityError
  | http (error : HttpError)
  deriving DecidableEq, Repr

section

variable [Sha256]

def newReceipt (metadata : W8IdempotencyMetadata) : W8OperationReceipt where
  taskId := metadata.taskId
  idempotencyKey := metadata.idempotencyKey
  requestHash := metadata.requestHash
  planRevision := metadata.planRevision
  stepId := metadata.stepId
  operation := metadata.operation
  resultHash := safeResultHash metadata

/-- The flush and commit of a mutation with its receipt; `none` is an integrity error. -/
def commitMutation (db : SandboxDb) (metadata : W8IdempotencyMetadata) (write : Write) :
    Option (Record × SandboxDb) := do
  let (record, after) ← db.flush write
  let receipts ← after.receipts.insert? (newReceipt metadata)
  some (record, { after with receipts := receipts })

def replayed (m : Mutation) (first : Record) (receipt : W8OperationReceipt) (db : SandboxDb) :
    Except ExecutionError (Record × W8ReceiptResult) :=
  match m.replay first db with
  | .ok record => .ok (record, ⟨.replayed, receipt.resultHash⟩)
  | .error e => .error (.http e)

/-- `execute_idempotent`. -/
def executeIdempotent (metadata : W8IdempotencyMetadata) (m : Mutation) (first : Record)
    (reads : Reads) (db : SandboxDb) :
    Except ExecutionError ((Record × W8ReceiptResult) × SandboxDb) :=
  if canonicalRequestHash metadata m.payload ≠ metadata.requestHash then
    .error (.idempotencyMismatch "request hash does not match validated mutation")
  else
    match reads.existing with
    | some receipt =>
      if receipt.requestHash ≠ metadata.requestHash then
        .error (.idempotencyMismatch "idempotency key was already bound to another request")
      else (replayed m first receipt db).map (·, db)
    | none =>
      if reads.count ≥ maxReceiptsPerTask then .error .receiptLimitExceeded
      else
        match m.perform first with
        | .error e => .error (.http e)
        | .ok write =>
          match commitMutation db metadata write with
          | some (record, after) => .ok ((record, ⟨.created, safeResultHash metadata⟩), after)
          | none =>
            match existing db metadata with
            | some raced =>
              if raced.requestHash ≠ metadata.requestHash then .error .integrityError
              else
                match first.reload db with
                | .error e => .error (.http e)
                | .ok first => (replayed m first raced db).map (·, db)
            | none => .error .integrityError

/-- `w8_mutation` and the endpoint's lookup before it. -/
def w8Mutation (metadata : W8IdempotencyMetadata) (m : Mutation) (reads : Reads) (db : SandboxDb) :
    Except HttpError ((Record × W8ReceiptResult) × SandboxDb) := do
  let first ← reads.owner
  if metadata.operation ≠ m.operation ∨ first.arenaTaskId ≠ some metadata.taskId then
    .error ⟨409, "W8 mutation ownership or operation mismatch"⟩
  else
    match executeIdempotent metadata m first reads db with
    | .ok reply => .ok reply
    | .error (.http e) => .error e
    | .error _ => .error ⟨409, "idempotency_mismatch"⟩

end

/-- The texts of the plain endpoints for a refused insert. -/
def Mutation.duplicateMessage : Mutation → String
  | .createTicket _ => "Ticket already exists"
  | .createAccount _ => "Employee or username already has an account"
  | .createAsset _ => "Synthetic asset tag already exists"
  | .createMailbox _ => "Employee or address already has a mailbox"
  | _ => "Internal Server Error"

/-- The endpoint without W8 metadata: `persist` or `commit_transition`. -/
def plainMutation (m : Mutation) (owner : Except HttpError Record) (db : SandboxDb) :
    Except HttpError (Record × SandboxDb) := do
  let first ← owner
  let write ← m.perform first
  match db.flush write with
  | some reply => .ok reply
  | none => .error ⟨409, m.duplicateMessage⟩

end FlowPilot.Sandbox
