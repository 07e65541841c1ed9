import FlowPilot.Canonical

/-!
# Sandbox request schemas

The forms that the sandbox endpoints accept and the idempotency metadata of a W8 mutation.  A form
is a request body in which every field has passed its check; its payload is the form dumped again.
-/

namespace FlowPilot

/-- `str.lower`. -/
class TextCase where
  lower : String → String

/-- On ASCII text it is the lower case of each character. -/
def LowersAscii [TextCase] : Prop :=
  ∀ s : String, (∀ c ∈ s.toList, c.toNat < 128) → TextCase.lower s = s.toLower

namespace Sandbox

inductive W8Operation where
  | createTicket | createAccount | assignAsset | createMailbox | transferEmployee
  | disableEmployee | closeTicket | revokeAccount | releaseAsset | disableMailbox
  deriving DecidableEq, Repr

def W8Operation.value : W8Operation → String
  | createTicket => "create_ticket" | createAccount => "create_account"
  | assignAsset => "assign_asset" | createMailbox => "create_mailbox"
  | transferEmployee => "transfer_employee" | disableEmployee => "disable_employee"
  | closeTicket => "close_ticket" | revokeAccount => "revoke_account"
  | releaseAsset => "release_asset" | disableMailbox => "disable_mailbox"

/-! ## Fields -/

/-- `StringConstraints(min_length=low, max_length=high)`. -/
def textBetween (low high : Nat) (s : String) : Bool :=
  decide (low ≤ textLength s ∧ textLength s ≤ high)

/-- `^[a-z][a-z0-9.]{2,79}$`. -/
def usernamePattern (s : String) : Bool :=
  matchesPattern isLower (fun b => isLower b || isDigit b || Nat.beq b 46) 2 79 s

/-- `^SYN-[A-Z0-9-]+$` of at most eighty characters. -/
def assetTagPattern (s : String) : Bool :=
  let text := utf8 s
  startsWith text (utf8 "SYN-") &&
    (text.drop 4).all (fun b => isUpper b || isDigit b || Nat.beq b 45) &&
      decide (5 ≤ text.length) && textBetween 0 80 s

/-- A field of a request body. -/
abbrev Body := List (String × Json)

def field (body : Body) (name : String) : Option Json :=
  (body.find? fun f => f.1 = name).map (·.2)

/-- A required text field. -/
def text (body : Body) (name : String) (ok : String → Bool) : Option String :=
  match field body name with
  | some (.str s) => if ok s then some s else none
  | _ => none

/-- `employee_id: int = Field(gt=0)`. -/
def positiveEmployeeId (body : Body) : Option Int :=
  match field body "employee_id" with
  | some (.num n) => if 0 < n then some n else none
  | _ => none

/-- A `Literal[value] = value` field. -/
def literal (body : Body) (name value : String) : Option Unit :=
  match field body name with
  | none => some ()
  | some (.str s) => if s = value then some () else none
  | some _ => none

/-- `extra="forbid"`. -/
def noExtra (body : Body) (names : List String) : Option Unit :=
  if body.all fun f => names.contains f.1 then some () else none

/-! ## Forms -/

structure TicketCreate where
  employeeId : Int
  title : String

structure AccountCreate where
  employeeId : Int
  username : String

structure AssetCreate where
  employeeId : Int
  assetTag : String
  model : String

structure MailboxCreate where
  employeeId : Int
  address : String

structure EmployeeTransfer where
  department : String
  jobTitle : String
  location : String

def TicketCreate.validate (body : Body) : Option TicketCreate := do
  let employeeId ← positiveEmployeeId body
  let title ← text body "title" (textBetween 1 200)
  literal body "status" "open"
  some ⟨employeeId, title⟩

def AccountCreate.validate (body : Body) : Option AccountCreate := do
  let employeeId ← positiveEmployeeId body
  let username ← text body "username" usernamePattern
  literal body "role" "employee"
  literal body "status" "active"
  some ⟨employeeId, username⟩

def AssetCreate.validate (body : Body) : Option AssetCreate := do
  let employeeId ← positiveEmployeeId body
  let assetTag ← text body "asset_tag" assetTagPattern
  literal body "device_type" "laptop"
  let model ← text body "model" (textBetween 1 120)
  literal body "status" "assigned"
  some ⟨employeeId, assetTag, model⟩

/-- `require_synthetic_email`. -/
def requireSyntheticEmail [TextCase] (value : String) : Option String :=
  if ¬ (".invalid".toList <:+ (TextCase.lower value).toList) ∨ '@' ∉ value.toList then none
  else some (TextCase.lower value)

def MailboxCreate.validate [TextCase] (body : Body) : Option MailboxCreate := do
  let employeeId ← positiveEmployeeId body
  let address ← text body "address" (textBetween 6 255)
  let address ← requireSyntheticEmail address
  literal body "status" "active"
  some ⟨employeeId, address⟩

def EmployeeTransfer.validate (body : Body) : Option EmployeeTransfer := do
  let department ← text body "department" (textBetween 1 120)
  let jobTitle ← text body "job_title" (textBetween 1 120)
  let location ← text body "location" (textBetween 1 120)
  noExtra body ["department", "job_title", "location"]
  some ⟨department, jobTitle, location⟩

/-! ## Mutations -/

/-- A request that one of the ten endpoints has accepted. -/
inductive Mutation where
  | createTicket (form : TicketCreate)
  | createAccount (form : AccountCreate)
  | createAsset (form : AssetCreate)
  | createMailbox (form : MailboxCreate)
  | transferEmployee (employeeId : Int) (form : EmployeeTransfer)
  | disableEmployee (employeeId : Int)
  | closeTicket (employeeId : Int)
  | revokeAccount (employeeId : Int)
  | releaseAsset (employeeId : Int)
  | disableMailbox (employeeId : Int)

namespace Mutation

/-- The operation that the endpoint passes to `w8_mutation`. -/
def operation : Mutation → W8Operation
  | createTicket _ => .createTicket
  | createAccount _ => .createAccount
  | createAsset _ => .assignAsset
  | createMailbox _ => .createMailbox
  | transferEmployee _ _ => .transferEmployee
  | disableEmployee _ => .disableEmployee
  | closeTicket _ => .closeTicket
  | revokeAccount _ => .revokeAccount
  | releaseAsset _ => .releaseAsset
  | disableMailbox _ => .disableMailbox

/-- The payload that the endpoint passes to `w8_mutation`. -/
def payload : Mutation → Json
  | createTicket form =>
    .obj [("employee_id", .num form.employeeId), ("title", .str form.title),
      ("status", .str "open")]
  | createAccount form =>
    .obj [("employee_id", .num form.employeeId), ("username", .str form.username),
      ("role", .str "employee"), ("status", .str "active")]
  | createAsset form =>
    .obj [("employee_id", .num form.employeeId), ("asset_tag", .str form.assetTag),
      ("device_type", .str "laptop"), ("model", .str form.model), ("status", .str "assigned")]
  | createMailbox form =>
    .obj [("employee_id", .num form.employeeId), ("address", .str form.address),
      ("status", .str "active")]
  | transferEmployee employeeId form =>
    .obj [("employee_id", .num employeeId), ("department", .str form.department),
      ("job_title", .str form.jobTitle), ("location", .str form.location)]
  | disableEmployee employeeId | closeTicket employeeId | revokeAccount employeeId
  | releaseAsset employeeId | disableMailbox employeeId => .obj [("employee_id", .num employeeId)]

end Mutation

/-- A form as the UI sends it: the employee of the path, where there is one, and the body. -/
structure Submission where
  operation : W8Operation
  employeeId : Int
  body : Body

/-- What the endpoint for the operation makes of the form; `none` is a refused body. -/
def Submission.accept [TextCase] (s : Submission) : Option Mutation :=
  let empty : Option Unit := noExtra s.body []
  match s.operation with
  | .createTicket => (TicketCreate.validate s.body).map .createTicket
  | .createAccount => (AccountCreate.validate s.body).map .createAccount
  | .assignAsset => (AssetCreate.validate s.body).map .createAsset
  | .createMailbox => (MailboxCreate.validate s.body).map .createMailbox
  | .transferEmployee => (EmployeeTransfer.validate s.body).map (.transferEmployee s.employeeId)
  | .disableEmployee => empty.map fun _ => .disableEmployee s.employeeId
  | .closeTicket => empty.map fun _ => .closeTicket s.employeeId
  | .revokeAccount => empty.map fun _ => .revokeAccount s.employeeId
  | .releaseAsset => empty.map fun _ => .releaseAsset s.employeeId
  | .disableMailbox => empty.map fun _ => .disableMailbox s.employeeId

/-! ## Idempotency metadata -/

/-- `op_` and sixty-four hexadecimal digits. -/
structure IdempotencyKey where
  digest : Digest
  deriving DecidableEq, Repr

def IdempotencyKey.text (k : IdempotencyKey) : String := "op_" ++ k.digest.hex

/-- `W8IdempotencyMetadata`; the patterns of the key and the hash are those of their types. -/
structure W8IdempotencyMetadata where
  taskId : String
  idempotencyKey : IdempotencyKey
  requestHash : Digest
  planRevision : Nat
  stepId : String
  operation : W8Operation

section

variable [Sha256]

/-- `canonical_request_hash`. -/
def canonicalRequestHash (metadata : W8IdempotencyMetadata) (payload : Json) : Digest :=
  stableHash (.obj
    [("task_id", .str metadata.taskId),
      ("idempotency_key", .str metadata.idempotencyKey.text),
      ("plan_revision", .num metadata.planRevision),
      ("step_id", .str metadata.stepId),
      ("operation", .str metadata.operation.value),
      ("schema_version", .str "w8-idempotent-mutation/1.0"),
      ("payload", payload)])

/-- `safe_result_hash`. -/
def safeResultHash (metadata : W8IdempotencyMetadata) : Digest :=
  stableHash (.obj
    [("schema_version", .str "w8-safe-operation-result/1.0"),
      ("task_id", .str metadata.taskId),
      ("plan_revision", .num metadata.planRevision),
      ("step_id", .str metadata.stepId),
      ("operation", .str metadata.operation.value),
      ("outcome_code", .str "committed")])

end

end Sandbox

end FlowPilot
