import FlowPilot.Control.Logs

/-! Closed server-side action classification: `risk.py` of the Control API. -/

open FlowPilot.Lib

namespace FlowPilot.Control

/-! ## Parameter schemas -/

/-- `[a-z0-9_.:-]`. -/
def codeChar (b : Nat) : Bool :=
  isLower b || isDigit b || isJoiner b || Nat.beq b 46 || Nat.beq b 58

def stringField (ok : String → Bool) : Json → Bool
  | .str s => ok s
  | _ => false

def safeCode : Json → Bool :=
  stringField (matchesPattern (fun b => isLower b || isDigit b) codeChar 0 119)

def opaqueReference : Json → Bool := stringField (matchesPattern isLower codeChar 2 79)

def taskReference : Json → Bool :=
  stringField (matchesPattern (fun b => isLower b || isUpper b) idChar 7 79)

def userReference : Json → Bool := stringField (matchesId .usr)

def employeeReference : Json → Bool
  | .num n => decide (1 ≤ n ∧ n ≤ 999999)
  | _ => false

/-- A strict model: its version literal and its required fields. -/
structure ParameterModel where
  schemaVersion : String
  fields : List (String × (Json → Bool))

def inspectEmployeeParameters : ParameterModel :=
  ⟨"w11-inspect-employee-parameters/1.0", [("employee_id", employeeReference)]⟩

def taskParameters : ParameterModel :=
  ⟨"w11-task-parameters/1.0", [("task_reference", taskReference)]⟩

def createTicketParameters : ParameterModel :=
  ⟨"w11-create-ticket-parameters/1.0",
    [("employee_id", employeeReference), ("ticket_code", safeCode)]⟩

def createAccountParameters : ParameterModel :=
  ⟨"w11-create-account-parameters/1.0",
    [("target_user_id", userReference), ("account_code", safeCode)]⟩

def assignAssetParameters : ParameterModel :=
  ⟨"w11-assign-asset-parameters/1.0",
    [("employee_id", employeeReference), ("asset_code", safeCode)]⟩

def createMailboxParameters : ParameterModel :=
  ⟨"w11-create-mailbox-parameters/1.0",
    [("employee_id", employeeReference), ("mailbox_code", safeCode)]⟩

def transferEmployeeParameters : ParameterModel :=
  ⟨"w11-transfer-employee-parameters/1.0",
    [("employee_id", employeeReference), ("destination_code", safeCode)]⟩

def employeeMutationParameters : ParameterModel :=
  ⟨"w11-employee-mutation-parameters/1.0", [("employee_id", employeeReference)]⟩

def grantAdminParameters : ParameterModel :=
  ⟨"w11-grant-admin-parameters/1.0",
    [("target_user_id", userReference), ("permission_code", safeCode)]⟩

def transferOwnershipParameters : ParameterModel :=
  ⟨"w11-transfer-ownership-parameters/1.0",
    [("source_reference", opaqueReference), ("target_user_id", userReference)]⟩

def forbiddenParameters : ParameterModel := ⟨"w11-forbidden-parameters/1.0", []⟩

def fieldOf (parameters : List (String × Json)) (name : String) : Option Json :=
  (parameters.find? fun f => f.1 = name).map (·.2)

/-- `model_validate(parameters).model_dump(mode="json")`, or `none` for a validation error. -/
def ParameterModel.validate (model : ParameterModel) (parameters : List (String × Json)) :
    Option (List (String × Json)) :=
  let known := parameters.all fun f =>
    f.1 = "schema_version" || model.fields.any fun g => g.1 = f.1
  let version :=
    match fieldOf parameters "schema_version" with
    | none => true
    | some (.str s) => s = model.schemaVersion
    | some _ => false
  let values := model.fields.mapM fun f =>
    match fieldOf parameters f.1 with
    | none => none
    | some value => if f.2 value then some (f.1, value) else none
  if known && version then values.map (("schema_version", .str model.schemaVersion) :: ·)
  else none

/-! ## Classification -/

/-- `ACTION_PARAMETER_MODELS` and `ACTION_RISKS`, which have the same keys. -/
def actionTable : List (String × ParameterModel × RiskLevel) :=
  [("inspect_employee", inspectEmployeeParameters, .L0),
    ("inspect_task", taskParameters, .L0),
    ("create_draft", taskParameters, .L1),
    ("generate_plan", taskParameters, .L1),
    ("create_ticket", createTicketParameters, .L2),
    ("create_account", createAccountParameters, .L2),
    ("assign_asset", assignAssetParameters, .L2),
    ("create_mailbox", createMailboxParameters, .L2),
    ("transfer_employee", transferEmployeeParameters, .L2),
    ("close_ticket", employeeMutationParameters, .L2),
    ("release_asset", employeeMutationParameters, .L2),
    ("grant_admin_privilege", grantAdminParameters, .L3),
    ("revoke_account", employeeMutationParameters, .L3),
    ("disable_employee", employeeMutationParameters, .L3),
    ("disable_mailbox", employeeMutationParameters, .L3),
    ("transfer_file_ownership", transferOwnershipParameters, .L3),
    ("physical_delete", forbiddenParameters, .L4),
    ("bypass_approval", forbiddenParameters, .L4),
    ("modify_audit", forbiddenParameters, .L4),
    ("cross_tenant_operation", forbiddenParameters, .L4),
    ("arbitrary_code_execution", forbiddenParameters, .L4)]

def actionEntry (actionType : String) : Option (ParameterModel × RiskLevel) :=
  (actionTable.find? fun e => e.1 = actionType).map (·.2)

structure RiskFacts where
  targetIsOrganizationAdministrator : Bool := false

structure RiskEvaluation where
  actionType : String
  riskLevel : RiskLevel
  parameterHash : Digest
  validatedParameters : List (String × Json)
  requiredRoles : List ApprovalRole
  knownAction : Bool

/-- `required_roles`. -/
def requiredRoles : RiskLevel → List ApprovalRole
  | .L2 => [.manager]
  | .L3 => [.manager, .security]
  | _ => []

def actionBinding (actionType : String) (parameters : List (String × Json)) : Json :=
  .obj [("schema_version", .str "w11-action-binding/1.0"),
    ("action_type", .str actionType),
    ("parameters", .obj parameters)]

/-- The level of a known action; an account for an administrator is raised to L3. -/
def raisedLevel (actionType : String) (level : RiskLevel) (facts : RiskFacts) : RiskLevel :=
  if actionType = "create_account" ∧ facts.targetIsOrganizationAdministrator ∧
      (level = .L0 ∨ level = .L1 ∨ level = .L2) then .L3
  else level

variable [Sha256]

/-- `evaluate_risk`. -/
def evaluateRisk (actionType : String) (parameters : List (String × Json))
    (facts : RiskFacts) : Except Failure RiskEvaluation :=
  match actionEntry actionType with
  | none =>
    .ok { actionType := actionType
          riskLevel := .L4
          parameterHash := stableHash (actionBinding actionType parameters)
          validatedParameters := parameters
          requiredRoles := []
          knownAction := false }
  | some (model, level) =>
    match model.validate parameters with
    | none => .error .riskSchemaRejected
    | some validated =>
      let level := raisedLevel actionType level facts
      .ok { actionType := actionType
            riskLevel := level
            parameterHash := stableHash (actionBinding actionType validated)
            validatedParameters := validated
            requiredRoles := requiredRoles level
            knownAction := true }

/-- `_risk_facts`, which reads the role of an active target user. -/
def riskFacts (db : Db) (organizationId : OrganizationId) (actionType : String)
    (parameters : List (String × Json)) : RiskFacts :=
  if actionType ≠ "create_account" then {}
  else
    match fieldOf parameters "target_user_id" with
    | some (.str target) =>
      let membership := db.directory.memberships.one? fun m =>
        m.organizationId = organizationId ∧ m.userId.text = target ∧ m.status = .active
      let user := db.directory.users.one? fun u =>
        u.organizationId = organizationId ∧ u.userId.text = target ∧ u.status = .active
      match membership, user with
      | some membership, some _ => ⟨decide (membership.role = .organizationAdmin)⟩
      | _, _ => {}
    | _ => {}

/-- `_evaluate_production_risk`: the facts are read for validated parameters only. -/
def evaluateProductionRisk (db : Db) (organizationId : OrganizationId) (actionType : String)
    (parameters : List (String × Json)) : Except Failure RiskEvaluation := do
  let validated ← evaluateRisk actionType parameters {}
  if !validated.knownAction || actionType ≠ "create_account" then .ok validated
  else
    evaluateRisk actionType validated.validatedParameters
      (riskFacts db organizationId actionType validated.validatedParameters)

end FlowPilot.Control
