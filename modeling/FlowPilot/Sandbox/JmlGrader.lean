import FlowPilot.Canonical
import FlowPilot.Sandbox.Grader

/-!
# The grader of the joiner, mover and leaver tasks

The instances that the catalog generates, and `grade_task` over the rows that a task owns.
-/

open FlowPilot.Lib

namespace FlowPilot.Sandbox.Arena.Jml

/-! ## Facts -/

structure TicketFact where
  id : Int
  employeeId : Int
  title : String
  status : String
  deriving DecidableEq, Repr

structure AccountFact where
  id : Int
  employeeId : Int
  username : String
  role : String
  status : String
  deriving DecidableEq, Repr

structure AssetFact where
  id : Int
  employeeId : Int
  assetTag : String
  deviceType : String
  model : String
  status : String
  deriving DecidableEq, Repr

structure MailboxFact where
  id : Int
  employeeId : Int
  address : String
  status : String
  deriving DecidableEq, Repr

def TicketFact.state (t : TicketFact) : TicketState := ⟨t.employeeId, t.title, t.status⟩

def AccountFact.state (a : AccountFact) : AccountState := ⟨a.employeeId, a.username, a.role, a.status⟩

def AssetFact.state (a : AssetFact) : AssetState :=
  ⟨a.employeeId, a.assetTag, a.deviceType, a.model, a.status⟩

def MailboxFact.state (m : MailboxFact) : MailboxState := ⟨m.employeeId, m.address, m.status⟩

structure FactBundle where
  target : EmployeeState
  decoy : EmployeeState
  ticket : Option TicketFact
  account : Option AccountFact
  asset : Option AssetFact
  mailbox : Option MailboxFact

/-- The fields of an instance that the grader reads.  `validate_references` asks for all four
downstream facts in every process; the generator keeps target and decoy apart. -/
structure JmlInstance where
  taskId : String
  expectedState : FactBundle
  canonicalChecksum : String
  ticket : expectedState.ticket.isSome = true
  account : expectedState.account.isSome = true
  asset : expectedState.asset.isSome = true
  mailbox : expectedState.mailbox.isSome = true
  apart : expectedState.target.id ≠ expectedState.decoy.id

/-! ## Generated instances -/

inductive Process where
  | joiner | mover | leaver
  deriving DecidableEq, Repr

def Process.value : Process → String
  | joiner => "joiner" | mover => "mover" | leaver => "leaver"

/-- `process.title()`. -/
def Process.title : Process → String
  | joiner => "Joiner" | mover => "Mover" | leaver => "Leaver"

/-- `process.upper()`. -/
def Process.upper : Process → String
  | joiner => "JOINER" | mover => "MOVER" | leaver => "LEAVER"

/-- `PROCESS_OFFSET`. -/
def Process.offset : Process → Nat
  | joiner => 0 | mover => 12 | leaver => 20

inductive Variant where
  | v1 | v2 | v3
  deriving DecidableEq, Repr

/-- `int(variant[1])`. -/
def Variant.number : Variant → Nat
  | v1 => 1 | v2 => 2 | v3 => 3

/-- A template by its process and the number at the end of its id. -/
structure JmlTemplate where
  process : Process
  localNumber : Nat

def JmlTemplate.templateId (t : JmlTemplate) : String :=
  "w7-jml-" ++ t.process.value ++ "-" ++ padded 3 t.localNumber

section

variable (template : JmlTemplate) (variant : Variant)

def ordinal : Nat := template.process.offset + template.localNumber

def targetId : Int := 41000 + ordinal template * 10 + variant.number

def recordBase : Int := 700000 + ordinal template * 100 + variant.number * 10

/-- `_employee`. -/
def employee (employeeId : Int) (decoy : Bool) (department jobTitle location status : String) :
    EmployeeState where
  id := employeeId
  firstName := if decoy then "SyntheticDecoy" else "SyntheticTarget"
  lastName := template.process.title ++ padded 3 template.localNumber ++ "V" ++
    toString variant.number
  workEmail := "w7-" ++ template.process.value ++ "-" ++ padded 3 template.localNumber ++ "-v" ++
    toString variant.number ++ "-" ++ (if decoy then "decoy" else "target") ++ "@flowpilot.invalid"
  department := department
  jobTitle := jobTitle
  location := location
  -- `local_number - 1` counts modulo twelve also from zero
  startDate := ⟨2027, (template.localNumber + 11) % 12 + 1, variant.number + 9⟩
  status := status

def expectedTarget : EmployeeState :=
  let initial := employee template variant (targetId template variant) false
    ("Synthetic Department " ++ toString (ordinal template % 5 + 1))
    ("Synthetic Specialist " ++ toString (ordinal template % 4 + 1))
    ("Synthetic Location " ++ toString (variant.number % 3 + 1)) "confirmed"
  match template.process with
  | .joiner => initial
  | .mover =>
    { initial with
      department := "Synthetic Transfer Department " ++ toString (ordinal template % 4 + 1)
      jobTitle := "Synthetic Transfer Lead " ++ toString (template.localNumber % 3 + 1)
      location := "Synthetic Transfer Location " ++ toString variant.number
      status := "transferred" }
  | .leaver => { initial with status := "disabled" }

def decoy : EmployeeState :=
  employee template variant (targetId template variant + 5000) true "Synthetic Decoy Department"
    "Synthetic Decoy Role" "Synthetic Decoy Location" "confirmed"

/-- `w7.joiner001v1`. -/
def accountName : String :=
  "w7." ++ template.process.value ++ padded 3 template.localNumber ++ "v" ++
    toString variant.number

def expectedBundle : FactBundle where
  target := expectedTarget template variant
  decoy := decoy template variant
  ticket := some
    { id := recordBase template variant + 1
      employeeId := targetId template variant
      title := "W7 " ++ template.process.title ++ " " ++ padded 3 template.localNumber ++
        " Variant " ++ toString variant.number
      status := if template.process = .joiner then "open" else "closed" }
  account := some
    { id := recordBase template variant + 2
      employeeId := targetId template variant
      username := accountName template variant
      role := "employee"
      status := if template.process = .leaver then "revoked" else "active" }
  asset := some
    { id := recordBase template variant + 3
      employeeId := targetId template variant
      assetTag := "SYN-W7-" ++ template.process.upper ++ "-" ++ padded 3 template.localNumber ++
        "-V" ++ toString variant.number
      deviceType := "laptop"
      model := "Synthetic Laptop " ++ toString ((ordinal template + variant.number) % 4 + 1)
      status := if template.process = .leaver then "released" else "assigned" }
  mailbox := some
    { id := recordBase template variant + 4
      employeeId := targetId template variant
      address := accountName template variant ++ "@flowpilot.invalid"
      status := if template.process = .leaver then "disabled" else "active" }

theorem target_apart :
    (expectedBundle template variant).target.id ≠ (expectedBundle template variant).decoy.id := by
  have htarget : (expectedBundle template variant).target.id = targetId template variant := by
    unfold expectedBundle expectedTarget
    dsimp only
    cases template.process <;> rfl
  have hdecoy : (expectedBundle template variant).decoy.id = targetId template variant + 5000 := rfl
  omega

/-- `generate_instance`; the checksum of the instance is an argument. -/
def generateInstance (checksum : String) : JmlInstance where
  taskId := template.templateId ++ "-v" ++ toString variant.number
  expectedState := expectedBundle template variant
  canonicalChecksum := checksum
  ticket := rfl
  account := rfl
  asset := rfl
  mailbox := rfl
  apart := target_apart template variant

end

/-! ## Predicates -/

inductive PredicateKind where
  | employeeMatches | ticketMatches | accountMatches | assetMatches | mailboxMatches
  deriving DecidableEq, Repr

structure PredicateResult where
  kind : PredicateKind
  weight : Nat
  passed : Bool
  awardedPoints : Nat
  fact : String
  deriving DecidableEq, Repr

structure GradeResult where
  taskId : String
  instanceChecksum : String
  totalScore : Nat
  passed : Bool
  predicates : List PredicateResult
  deriving DecidableEq, Repr

/-- `{item.id: item for item in employees}.get(id)`. -/
def byId (employees : List Employee) (id : Int) : Option Employee :=
  (employees.filter fun item => item.id = id).getLast?

/-- `_employee_equal`. -/
def employeeEqual (actual : Employee) (expected : EmployeeState) : Bool :=
  decide (actual.id = expected.id ∧ actual.firstName = expected.firstName ∧
    actual.lastName = expected.lastName ∧ actual.workEmail = expected.workEmail ∧
    actual.department = expected.department ∧ actual.jobTitle = expected.jobTitle ∧
    actual.location = expected.location ∧ actual.startDate = expected.startDate ∧
    actual.status = expected.status)

/-- The only row, if there is exactly one, against the expected fact, if there is one. -/
def onlyRowMatches {R F : Type} (rows : List R) (expected : Option F) (same : R → F → Bool) : Bool :=
  match rows, expected with
  | [item], some fact => same item fact
  | _, _ => false

def ownedFact (kind : String) (rows : Nat) : String := "owned_" ++ kind ++ "=" ++ toString rows

section

variable (db : ArenaDb) (jml : JmlInstance)

def employeeMatches : Bool × String :=
  let employees := ownedRows db.employees jml.taskId
  let target := byId employees jml.expectedState.target.id
  let decoy := byId employees jml.expectedState.decoy.id
  let passed :=
    match target, decoy with
    | some target, some decoy =>
      decide (employees.length = 2) && employeeEqual target jml.expectedState.target &&
        employeeEqual decoy jml.expectedState.decoy
    | _, _ => false
  (passed, ownedFact "employees" employees.length ++ "; expected_ids=" ++
    toString (target.isSome.toNat + decoy.isSome.toNat))

def ticketMatches : Bool × String :=
  let tickets := ownedRows db.tickets jml.taskId
  let passed := onlyRowMatches tickets jml.expectedState.ticket fun item expected =>
    decide (item.employeeId = expected.employeeId ∧ item.title = expected.title ∧
      item.status = expected.status)
  (passed, ownedFact "tickets" tickets.length)

def accountMatches : Bool × String :=
  let accounts := ownedRows db.accounts jml.taskId
  let passed := onlyRowMatches accounts jml.expectedState.account fun item expected =>
    decide (item.employeeId = expected.employeeId ∧ item.username = expected.username ∧
      item.role = expected.role ∧ item.status = expected.status)
  (passed, ownedFact "accounts" accounts.length)

def assetMatches : Bool × String :=
  let assets := ownedRows db.assets jml.taskId
  let passed := onlyRowMatches assets jml.expectedState.asset fun item expected =>
    decide (item.employeeId = expected.employeeId ∧ item.assetTag = expected.assetTag ∧
      item.deviceType = expected.deviceType ∧ item.model = expected.model ∧
      item.status = expected.status)
  (passed, ownedFact "assets" assets.length)

def mailboxMatches : Bool × String :=
  let mailboxes := ownedRows db.mailboxes jml.taskId
  let passed := onlyRowMatches mailboxes jml.expectedState.mailbox fun item expected =>
    decide (item.employeeId = expected.employeeId ∧ item.address = expected.address ∧
      item.status = expected.status)
  (passed, ownedFact "mailboxes" mailboxes.length)

/-- `_evaluate`. -/
def evaluate (kind : PredicateKind) (check : Bool × String) : PredicateResult where
  kind := kind
  weight := 20
  passed := check.1
  awardedPoints := if check.1 then 20 else 0
  fact := check.2

/-- `grade_task`. -/
def gradeTask : GradeResult :=
  let predicates :=
    [evaluate .employeeMatches (employeeMatches db jml),
      evaluate .ticketMatches (ticketMatches db jml),
      evaluate .accountMatches (accountMatches db jml),
      evaluate .assetMatches (assetMatches db jml),
      evaluate .mailboxMatches (mailboxMatches db jml)]
  let totalScore := (predicates.map (·.awardedPoints)).sum
  { taskId := jml.taskId
    instanceChecksum := jml.canonicalChecksum
    totalScore := totalScore
    passed := totalScore == 100 && predicates.all (·.passed)
    predicates := predicates }

end

/-! ## The expected bundle -/

/-- The rows of the task say what the expected bundle says, in any order of the two employees. -/
structure BundleHolds (db : ArenaDb) (jml : JmlInstance) : Prop where
  employees : List.Perm (taskState db jml.taskId).employees
    [jml.expectedState.target, jml.expectedState.decoy]
  tickets : (taskState db jml.taskId).tickets =
    jml.expectedState.ticket.toList.map (·.state)
  accounts : (taskState db jml.taskId).accounts =
    jml.expectedState.account.toList.map (·.state)
  assets : (taskState db jml.taskId).assets =
    jml.expectedState.asset.toList.map (·.state)
  mailboxes : (taskState db jml.taskId).mailboxes =
    jml.expectedState.mailbox.toList.map (·.state)

/-- The score keeps the bound of `GradeResult`. -/
theorem totalScore_le (db : ArenaDb) (jml : JmlInstance) :
    (gradeTask db jml).totalScore ≤ 100 := by
  have hawarded : ∀ kind check, (evaluate kind check).awardedPoints ≤ 20 := by
    intro kind check
    unfold evaluate
    dsimp only
    split <;> omega
  have h1 := hawarded .employeeMatches (employeeMatches db jml)
  have h2 := hawarded .ticketMatches (ticketMatches db jml)
  have h3 := hawarded .accountMatches (accountMatches db jml)
  have h4 := hawarded .assetMatches (assetMatches db jml)
  have h5 := hawarded .mailboxMatches (mailboxMatches db jml)
  unfold gradeTask
  simp only [List.map_cons, List.map_nil, List.sum_cons, List.sum_nil]
  omega

theorem passed_iff_checks (db : ArenaDb) (jml : JmlInstance) :
    (gradeTask db jml).passed = true ↔ (employeeMatches db jml).1 = true ∧
      (ticketMatches db jml).1 = true ∧ (accountMatches db jml).1 = true ∧
      (assetMatches db jml).1 = true ∧ (mailboxMatches db jml).1 = true := by
  unfold gradeTask evaluate
  simp only [List.all_cons, List.all_nil, Bool.and_true, Bool.and_eq_true, beq_iff_eq,
    List.map_cons, List.map_nil, List.sum_cons, List.sum_nil]
  constructor
  · exact fun h => h.2
  · intro h
    refine ⟨?_, h⟩
    rw [h.1, h.2.1, h.2.2.1, h.2.2.2.1, h.2.2.2.2]
    rfl

theorem onlyRowMatches_iff {R F S : Type} {rows : List R} {expected : Option F}
    {same : R → F → Bool} (state : R → S) (factState : F → S)
    (hsame : ∀ item fact, same item fact = true ↔ state item = factState fact)
    (hsome : expected.isSome = true) :
    onlyRowMatches rows expected same = true ↔
      rows.map state = expected.toList.map factState := by
  obtain ⟨fact, rfl⟩ := Option.isSome_iff_exists.mp hsome
  cases rows with
  | nil => exact iff_of_false Bool.false_ne_true fun h => by cases h
  | cons item rest =>
    cases rest with
    | nil =>
      rw [List.map_singleton, Option.toList_some, List.map_singleton, List.singleton_inj]
      exact hsame item fact
    | cons other rest =>
      refine iff_of_false Bool.false_ne_true fun h => ?_
      have hlength := congrArg List.length h
      simp at hlength

theorem byId_eq_some {table : Table Employee} {taskId : String} {id : Int} {e : Employee} :
    byId (ownedRows table taskId) id = some e ↔ e ∈ ownedRows table taskId ∧ e.id = id := by
  unfold byId
  constructor
  · intro h
    have hmem := List.mem_of_getLast? h
    rw [List.mem_filter, decide_eq_true_eq] at hmem
    exact hmem
  · rintro ⟨he, rfl⟩
    rw [filter_id_eq_singleton he]
    rfl

theorem employeeEqual_iff {actual : Employee} {expected : EmployeeState} :
    employeeEqual actual expected = true ↔ actual.state = expected := by
  unfold employeeEqual Employee.state
  rw [decide_eq_true_eq, EmployeeState.mk.injEq]

/-- Two rows that are the target and the decoy are all rows of the task. -/
theorem employeeMatches_iff (db : ArenaDb) (jml : JmlInstance) :
    (employeeMatches db jml).1 = true ↔ List.Perm (taskState db jml.taskId).employees
      [jml.expectedState.target, jml.expectedState.decoy] := by
  unfold employeeMatches taskState
  dsimp only
  constructor
  · intro h
    split at h
    · rename_i target decoy htarget hdecoy
      rw [Bool.and_eq_true, Bool.and_eq_true, decide_eq_true_eq, employeeEqual_iff,
        employeeEqual_iff] at h
      rw [byId_eq_some] at htarget hdecoy
      have hapart : target ≠ decoy := fun hsame =>
        jml.apart (htarget.2.symm.trans ((congrArg Employee.id hsame).trans hdecoy.2))
      have hsubset : [target, decoy] ⊆ ownedRows db.employees jml.taskId :=
        List.cons_subset.mpr ⟨htarget.1, List.cons_subset.mpr ⟨hdecoy.1, List.nil_subset _⟩⟩
      have hpair : [target, decoy].Nodup := by simp [hapart]
      have hperm := (List.subperm_of_subset hpair hsubset).perm_of_length_le (Nat.le_of_eq h.1.1)
      have hstates := (hperm.map (·.state)).symm
      rw [List.map_cons, List.map_singleton, h.1.2, h.2] at hstates
      exact hstates
    · cases h
  · intro h
    have hfound : ∀ state ∈ [jml.expectedState.target, jml.expectedState.decoy],
        ∃ e, byId (ownedRows db.employees jml.taskId) state.id = some e ∧ e.state = state := by
      intro state hstate
      obtain ⟨e, he, hequal⟩ := List.mem_map.mp (h.mem_iff.mpr hstate)
      exact ⟨e, byId_eq_some.mpr ⟨he, congrArg EmployeeState.id hequal⟩, hequal⟩
    obtain ⟨target, htarget, htargetState⟩ := hfound _ List.mem_cons_self
    obtain ⟨decoy, hdecoy, hdecoyState⟩ := hfound _ (List.mem_cons_of_mem _ List.mem_cons_self)
    have hlength : (ownedRows db.employees jml.taskId).length = 2 :=
      (List.length_map _).symm.trans h.length_eq
    rw [htarget, hdecoy]
    show (decide ((ownedRows db.employees jml.taskId).length = 2) && _ && _) = true
    rw [decide_eq_true hlength, employeeEqual_iff.mpr htargetState,
      employeeEqual_iff.mpr hdecoyState]
    rfl

/-- **The JML grader is exact**: a state passes if and only if the rows of the task are those of
the expected bundle. -/
theorem grade_passed_iff (db : ArenaDb) (jml : JmlInstance) :
    (gradeTask db jml).passed = true ↔ BundleHolds db jml := by
  have hticket : (ticketMatches db jml).1 = true ↔ _ := onlyRowMatches_iff
    OnboardingTicket.state TicketFact.state (fun item fact => by
      unfold OnboardingTicket.state TicketFact.state
      rw [decide_eq_true_eq, TicketState.mk.injEq]) jml.ticket
  have haccount : (accountMatches db jml).1 = true ↔ _ := onlyRowMatches_iff
    IamAccount.state AccountFact.state (fun item fact => by
      unfold IamAccount.state AccountFact.state
      rw [decide_eq_true_eq, AccountState.mk.injEq]) jml.account
  have hasset : (assetMatches db jml).1 = true ↔ _ := onlyRowMatches_iff
    AssetAssignment.state AssetFact.state (fun item fact => by
      unfold AssetAssignment.state AssetFact.state
      rw [decide_eq_true_eq, AssetState.mk.injEq]) jml.asset
  have hmailbox : (mailboxMatches db jml).1 = true ↔ _ := onlyRowMatches_iff
    Mailbox.state MailboxFact.state (fun item fact => by
      unfold Mailbox.state MailboxFact.state
      rw [decide_eq_true_eq, MailboxState.mk.injEq]) jml.mailbox
  rw [passed_iff_checks, employeeMatches_iff, hticket, haccount, hasset, hmailbox]
  constructor
  · rintro ⟨h1, h2, h3, h4, h5⟩
    exact ⟨h1, h2, h3, h4, h5⟩
  · rintro ⟨h1, h2, h3, h4, h5⟩
    exact ⟨h1, h2, h3, h4, h5⟩

/-- The whole grade reads the rows of the task only. -/
theorem gradeTask_congr {db other : ArenaDb} {jml : JmlInstance}
    (h : SameTask db other jml.taskId) : gradeTask db jml = gradeTask other jml := by
  unfold gradeTask employeeMatches ticketMatches accountMatches assetMatches mailboxMatches
  rw [ownedRows_congr h.employees, ownedRows_congr h.tickets, ownedRows_congr h.accounts,
    ownedRows_congr h.assets, ownedRows_congr h.mailboxes]

end FlowPilot.Sandbox.Arena.Jml

namespace FlowPilot.Sandbox.Arena

/-! ## Both graders -/

/-- **The graders are exact and read their task**: both verdicts are the expected outcome.  Rows
of other tasks do not change a JML grade, and a joiner verdict through the expected ticket title
only. -/
theorem graders_exact :
    (∀ db spec, (gradeTask db spec).passed = true ↔ OutcomeHolds db spec ∧ ¬TitleTaken db spec) ∧
    (∀ db jml, (Jml.gradeTask db jml).passed = true ↔ Jml.BundleHolds db jml) ∧
    (∀ db other jml, SameTask db other jml.taskId →
      Jml.gradeTask db jml = Jml.gradeTask other jml) ∧
    (∀ db other spec, SameTask db other spec.taskId →
      (TitleTaken db spec ↔ TitleTaken other spec) →
      (gradeTask db spec).passed = (gradeTask other spec).passed) :=
  ⟨grade_passed_iff, Jml.grade_passed_iff, fun _ _ _ => Jml.gradeTask_congr,
    fun _ _ _ => passed_of_sameTask⟩

/-! ## A taken title -/

namespace Sample

def nova : EmployeeState where
  id := 31001
  firstName := "Nova"
  lastName := "Quill"
  workEmail := "nova.quill.w3001@flowpilot.invalid"
  department := "Finance Operations Lab"
  jobTitle := "Financial Systems Analyst"
  location := "Shanghai Fiction Lab"
  startDate := ⟨2026, 9, 7⟩
  status := "confirmed"

/-- `w3-joiner-001`. -/
def spec : TaskSpec where
  taskId := "w3-joiner-001"
  expectedFinalState :=
    { employee := nova
      ticket := ⟨"Synthetic onboarding: Nova Quill [W3-001]", "open"⟩
      iamAccount := ⟨"nova.quill.w3001", "employee", "active"⟩
      asset := ⟨"SYN-W3-001-LAPTOP", "laptop", "ExampleBook Air 13", "assigned"⟩
      mailbox := ⟨"nova.quill.w3001@flowpilot.invalid", "active"⟩
      ordinary := rfl }
  graderPredicates :=
    [⟨"employee_matches", .employeeMatches, 10⟩, ⟨"ticket_linked", .ticketExactlyOneLinked, 15⟩,
      ⟨"iam_linked", .iamExactlyOneLinked, 15⟩, ⟨"iam_no_elevated", .iamNoElevatedRole, 10⟩,
      ⟨"asset_linked", .assetExactlyOneLinked, 15⟩,
      ⟨"mailbox_linked", .mailboxExactlyOneLinked, 15⟩,
      ⟨"no_wrong_links", .noWrongAssociations, 10⟩,
      ⟨"no_duplicates", .noDuplicateBusinessRecords, 10⟩]
  canonicalChecksum := "614b3b0b1d907bf98dd9990b723eb7107e8ff81c9ed0dd5c464383f70b4f33f2"
  kinds := rfl
  weights := rfl

def target : Employee :=
  ⟨31001, "Nova", "Quill", "nova.quill.w3001@flowpilot.invalid", "Finance Operations Lab",
    "Financial Systems Analyst", "Shanghai Fiction Lab", ⟨2026, 9, 7⟩, "confirmed",
    some "w3-joiner-001"⟩

/-- An employee with no other business than to exist. -/
def bystander (id : Int) (workEmail : String) (taskId : Option String) : Employee :=
  ⟨id, "Decoy001", "Example", workEmail, "Synthetic Decoy Records", "Do Not Onboard",
    "Fictional Holding Area", ⟨2026, 9, 7⟩, "confirmed", taskId⟩

def decoy : Employee := bystander 31901 "decoy.001@flowpilot.invalid" (some "w3-joiner-001")

def ticket : OnboardingTicket :=
  ⟨1, 31001, "Synthetic onboarding: Nova Quill [W3-001]", "open", some "w3-joiner-001"⟩

/-- A ticket of no task with the same title. -/
def sameTitle : OnboardingTicket :=
  ⟨2, 7, "Synthetic onboarding: Nova Quill [W3-001]", "open", none⟩

/-- The completed task with an employee of no task and one more row in a table. -/
def database (extra : List Employee) (tickets : List OnboardingTicket)
    (hemployees : ([target, decoy, bystander 7 "w2@flowpilot.invalid" none] ++ extra).map
      (·.id) |>.Nodup := by decide)
    (hemails : ([target, decoy, bystander 7 "w2@flowpilot.invalid" none] ++ extra).map
      (·.workEmail) |>.Nodup := by decide)
    (htickets : ((ticket :: tickets).map (·.id)).Nodup := by decide)
    (hlinks : ∀ t ∈ ticket :: tickets, t.employeeId ∈
      ([target, decoy, bystander 7 "w2@flowpilot.invalid" none] ++ extra).map (·.id) := by
        decide) : ArenaDb where
  employees := ⟨[target, decoy, bystander 7 "w2@flowpilot.invalid" none] ++ extra, hemployees⟩
  tickets := ⟨ticket :: tickets, htickets⟩
  accounts := ⟨[⟨1, 31001, "nova.quill.w3001", "employee", "active", some "w3-joiner-001"⟩],
    List.nodup_singleton _⟩
  assets := ⟨[⟨1, 31001, "SYN-W3-001-LAPTOP", "laptop", "ExampleBook Air 13", "assigned",
    some "w3-joiner-001"⟩], List.nodup_singleton _⟩
  mailboxes := ⟨[⟨1, 31001, "nova.quill.w3001@flowpilot.invalid", "active",
    some "w3-joiner-001"⟩], List.nodup_singleton _⟩
  workEmails := hemails
  accountEmployees := List.nodup_singleton _
  usernames := List.nodup_singleton _
  assetTags := List.nodup_singleton _
  mailboxEmployees := List.nodup_singleton _
  addresses := List.nodup_singleton _
  ticketsOf := hlinks
  accountsOf := by simp [target]
  assetsOf := by simp [target]
  mailboxesOf := by simp [target]

/-- `w7-jml-joiner-001-v1`. -/
def joiner : Jml.JmlInstance :=
  Jml.generateInstance ⟨.joiner, 1⟩ .v1
    "47fbb29507e69a984d57ab9a73266d9e112572f37f72642d6014dd5f7712071a"

/-- The row of an employee of the joiner. -/
def joinerRow (e : EmployeeState) : Employee :=
  ⟨e.id, e.firstName, e.lastName, e.workEmail, e.department, e.jobTitle, e.location, e.startDate,
    e.status, some joiner.taskId⟩

/-- The joiner is onboarded; the ids of the rows are those of an empty database. -/
def onboarded : ArenaDb where
  employees := ⟨[joinerRow joiner.expectedState.target, joinerRow joiner.expectedState.decoy],
    by decide +kernel⟩
  tickets := ⟨[⟨1, 41011, "W7 Joiner 001 Variant 1", "open", some joiner.taskId⟩],
    List.nodup_singleton _⟩
  accounts := ⟨[⟨1, 41011, "w7.joiner001v1", "employee", "active", some joiner.taskId⟩],
    List.nodup_singleton _⟩
  assets := ⟨[⟨1, 41011, "SYN-W7-JOINER-001-V1", "laptop", "Synthetic Laptop 3", "assigned",
    some joiner.taskId⟩], List.nodup_singleton _⟩
  mailboxes := ⟨[⟨1, 41011, "w7.joiner001v1@flowpilot.invalid", "active", some joiner.taskId⟩],
    List.nodup_singleton _⟩
  workEmails := by decide +kernel
  accountEmployees := List.nodup_singleton _
  usernames := List.nodup_singleton _
  assetTags := List.nodup_singleton _
  mailboxEmployees := List.nodup_singleton _
  addresses := List.nodup_singleton _
  ticketsOf := by decide +kernel
  accountsOf := by decide +kernel
  assetsOf := by decide +kernel
  mailboxesOf := by decide +kernel

/-- Both tasks are completed, and another employee does not change the verdict of the first. -/
theorem graders_exact_completed :
    (OutcomeHolds (database [] []) spec ∧ ¬TitleTaken (database [] []) spec) ∧
    Jml.BundleHolds onboarded joiner ∧
    (gradeTask (database [] []) spec).passed =
      (gradeTask (database [bystander 31902 "extra@flowpilot.invalid" none] []) spec).passed := by
  have ⟨hjoiner, hjml, _, hothers⟩ := graders_exact
  refine ⟨(hjoiner _ _).mp (by decide), (hjml _ _).mp (by decide +kernel), hothers _ _ _ ?_ ?_⟩
  · constructor
    · intro e htask
      have hother : e ≠ bystander 31902 "extra@flowpilot.invalid" none := by
        intro hsame
        rw [hsame] at htask
        cases htask
      simp [database, hother]
    · exact fun _ _ => Iff.rfl
    · exact fun _ _ => Iff.rfl
    · exact fun _ _ => Iff.rfl
    · exact fun _ _ => Iff.rfl
  · exact Iff.rfl

/-- A ticket of no task fails the completed task, and another employee of the task does not. -/
theorem verdict_of_other_rows :
    (gradeTask (database [] []) spec).passed = true ∧
    SameTask (database [] []) (database [] [sameTitle]) spec.taskId ∧
    (gradeTask (database [] [sameTitle]) spec).passed = false ∧
    (gradeTask (database [bystander 31902 "extra@flowpilot.invalid" (some "w3-joiner-001")] [])
      spec).passed = true := by
  refine ⟨by decide, ?_, by decide, by decide⟩
  constructor
  · exact fun _ _ => Iff.rfl
  · intro t htask
    have hother : t ≠ sameTitle := by
      rintro rfl
      cases htask
    simp [database, hother]
  · exact fun _ _ => Iff.rfl
  · exact fun _ _ => Iff.rfl
  · exact fun _ _ => Iff.rfl

end Sample

end FlowPilot.Sandbox.Arena
