import FlowPilot.Sandbox.Schemas

/-!
# Idempotency bindings

`mutation_payload` and `build_binding` of the planning agent, and the form that its browser
instructions leave for the sandbox to receive.
-/

namespace FlowPilot.Planning

open Sandbox (W8Operation W8IdempotencyMetadata IdempotencyKey Submission Mutation usernamePattern
  assetTagPattern textBetween)

/-! ## Supplied values -/

/-- `[a-z0-9._+-]`. -/
def mailboxLocal (c : Char) : Bool :=
  c.isLower || c.isDigit || c == '.' || c == '_' || c == '+' || c == '-'

/-- `[a-z0-9.-]`. -/
def mailboxDomain (c : Char) : Bool := c.isLower || c.isDigit || c == '.' || c == '-'

/-- `^[a-z0-9._+-]+@[a-z0-9.-]+\.invalid$`; neither part has an `@`, so the first one splits. -/
def mailboxPattern (s : String) : Bool :=
  let name := s.toList.takeWhile mailboxLocal
  match s.toList.dropWhile mailboxLocal with
  | '@' :: host =>
    let domain := host.take (host.length - ".invalid".length)
    !name.isEmpty && !domain.isEmpty && domain.all mailboxDomain &&
      decide (host = domain ++ ".invalid".toList)
  | _ => false

/-- `employee_id: int = Field(gt=0, le=999_999_999)`. -/
def employeeIdRange (n : Int) : Prop := 0 < n ∧ n ≤ 999999999

structure JoinerSuppliedValues where
  employeeId : Int
  ticketTitle : String
  username : String
  assetTag : String
  laptopModel : String
  mailbox : String
  employee_id : employeeIdRange employeeId
  ticket_title : textBetween 1 200 ticketTitle = true
  username_pattern : usernamePattern username = true
  asset_tag : assetTagPattern assetTag = true
  laptop_model : textBetween 1 120 laptopModel = true
  mailbox_pattern : mailboxPattern mailbox = true ∧ textBetween 0 255 mailbox = true

structure MoverSuppliedValues where
  employeeId : Int
  newDepartment : String
  newJobTitle : String
  newLocation : String
  employee_id : employeeIdRange employeeId
  new_department : textBetween 1 120 newDepartment = true
  new_job_title : textBetween 1 120 newJobTitle = true
  new_location : textBetween 1 120 newLocation = true

structure LeaverSuppliedValues where
  employeeId : Int
  employee_id : employeeIdRange employeeId

inductive SuppliedValues where
  | joiner (values : JoinerSuppliedValues)
  | mover (values : MoverSuppliedValues)
  | leaver (values : LeaverSuppliedValues)

def SuppliedValues.employeeId : SuppliedValues → Int
  | .joiner values => values.employeeId
  | .mover values => values.employeeId
  | .leaver values => values.employeeId

/-- The operations a plan step can have. -/
inductive Operation where
  | inspectEmployee
  | mutation (operation : W8Operation)
  | finalize
  deriving DecidableEq, Repr

/-- The part of a `PlanningRecoveryActivity` that a binding reads. -/
structure BindingRequest where
  runId : String
  taskId : String
  stepId : Option String
  revision : Nat
  suppliedValues : SuppliedValues

structure RecoveryIdempotencyBinding where
  taskId : String
  idempotencyKey : IdempotencyKey
  requestHash : Digest
  planRevision : Nat
  stepId : String
  operation : W8Operation

/-! ## Bindings -/

/-- The two texts of the module's `ValueError`s. -/
def noPayload : String := "operation has no W8 idempotent mutation payload"
def noStep : String := "idempotency binding requires a step"

/-- `mutation_payload`. -/
def mutationPayload (operation : Operation) (values : SuppliedValues) : Except String Json :=
  let employee : String × Json := ("employee_id", .num values.employeeId)
  match operation, values with
  | .mutation .createTicket, .joiner v =>
    .ok (.obj [employee, ("title", .str v.ticketTitle), ("status", .str "open")])
  | .mutation .createAccount, .joiner v =>
    .ok (.obj [employee, ("username", .str v.username), ("role", .str "employee"),
      ("status", .str "active")])
  | .mutation .assignAsset, .joiner v =>
    .ok (.obj [employee, ("asset_tag", .str v.assetTag), ("device_type", .str "laptop"),
      ("model", .str v.laptopModel), ("status", .str "assigned")])
  | .mutation .createMailbox, .joiner v =>
    .ok (.obj [employee, ("address", .str v.mailbox), ("status", .str "active")])
  | .mutation .transferEmployee, .mover v =>
    .ok (.obj [employee, ("department", .str v.newDepartment), ("job_title", .str v.newJobTitle),
      ("location", .str v.newLocation)])
  | .mutation .disableEmployee, .mover _ | .mutation .disableEmployee, .leaver _
  | .mutation .closeTicket, .mover _ | .mutation .closeTicket, .leaver _
  | .mutation .revokeAccount, .mover _ | .mutation .revokeAccount, .leaver _
  | .mutation .releaseAsset, .mover _ | .mutation .releaseAsset, .leaver _
  | .mutation .disableMailbox, .mover _ | .mutation .disableMailbox, .leaver _ =>
    .ok (.obj [employee])
  | _, _ => .error noPayload

section

variable [Sha256]

/-- The key of the only operation of a step. -/
def idempotencyKey (runId : String) (revision : Nat) (stepId : String) : IdempotencyKey :=
  ⟨stableHash (.obj
    [("schema_version", .str "w8-idempotency-key/1.0"),
      ("run_id", .str runId),
      ("plan_revision", .num revision),
      ("step_id", .str stepId),
      ("operation_index", .num 0)])⟩

/-- `build_binding`. -/
def buildBinding (request : BindingRequest) (operation : Operation) :
    Except String RecoveryIdempotencyBinding :=
  match request.stepId with
  | none => .error noStep
  | some stepId => do
    let key := idempotencyKey request.runId request.revision stepId
    let payload ← mutationPayload operation request.suppliedValues
    match operation with
    | .mutation w8 =>
      let requestHash := stableHash (.obj
        [("task_id", .str request.taskId),
          ("idempotency_key", .str key.text),
          ("plan_revision", .num request.revision),
          ("step_id", .str stepId),
          ("operation", .str w8.value),
          ("schema_version", .str "w8-idempotent-mutation/1.0"),
          ("payload", payload)])
      .ok ⟨request.taskId, key, requestHash, request.revision, stepId, w8⟩
    | _ => .error noPayload

end

/-- `fixed_headers`, read back by `w8_metadata`. -/
def RecoveryIdempotencyBinding.metadata (binding : RecoveryIdempotencyBinding) :
    W8IdempotencyMetadata where
  taskId := binding.taskId
  idempotencyKey := binding.idempotencyKey
  requestHash := binding.requestHash
  planRevision := binding.planRevision
  stepId := binding.stepId
  operation := binding.operation

/-- The form that the instructions for the operation fill in, with the values unchanged. -/
def submission (operation : W8Operation) (values : SuppliedValues) : Option Submission :=
  let employee : String × Json := ("employee_id", .num values.employeeId)
  let form (body : Sandbox.Body) : Option Submission :=
    some ⟨operation, values.employeeId, body⟩
  match operation, values with
  | .createTicket, .joiner v => form [employee, ("title", .str v.ticketTitle)]
  | .createAccount, .joiner v => form [employee, ("username", .str v.username)]
  | .assignAsset, .joiner v =>
    form [employee, ("asset_tag", .str v.assetTag), ("model", .str v.laptopModel)]
  | .createMailbox, .joiner v => form [employee, ("address", .str v.mailbox)]
  | .transferEmployee, .mover v =>
    form [("department", .str v.newDepartment), ("job_title", .str v.newJobTitle),
      ("location", .str v.newLocation)]
  | .disableEmployee, .mover _ | .disableEmployee, .leaver _
  | .closeTicket, .mover _ | .closeTicket, .leaver _
  | .revokeAccount, .mover _ | .revokeAccount, .leaver _
  | .releaseAsset, .mover _ | .releaseAsset, .leaver _
  | .disableMailbox, .mover _ | .disableMailbox, .leaver _ => form []
  | _, _ => none

end FlowPilot.Planning
