import FlowPilot.Sandbox.Arena
import Mathlib.Algebra.Order.Group.Nat
import Mathlib.Algebra.GroupWithZero.Nat
import Mathlib.Algebra.Order.BigOperators.Group.List

/-!
# The grader of the joiner tasks

`grade_task` of the arena: eight predicates over the rows of a task and over the rows that carry
its expected title, username, tag and address.
-/

open FlowPilot.Lib

namespace FlowPilot.Sandbox.Arena

open Keyed (key)

/-! ## Task specs -/

structure ExpectedTicket where
  title : String
  status : String
  deriving DecidableEq, Repr

structure ExpectedAccount where
  username : String
  role : String
  status : String
  deriving DecidableEq, Repr

structure ExpectedAsset where
  assetTag : String
  deviceType : String
  model : String
  status : String
  deriving DecidableEq, Repr

structure ExpectedMailbox where
  address : String
  status : String
  deriving DecidableEq, Repr

/-- The expected account has the role `employee`. -/
structure ExpectedFinalState where
  employee : EmployeeState
  ticket : ExpectedTicket
  iamAccount : ExpectedAccount
  asset : ExpectedAsset
  mailbox : ExpectedMailbox
  ordinary : iamAccount.role = "employee"

inductive PredicateKind where
  | employeeMatches | ticketExactlyOneLinked | iamExactlyOneLinked | iamNoElevatedRole
  | assetExactlyOneLinked | mailboxExactlyOneLinked | noWrongAssociations
  | noDuplicateBusinessRecords
  deriving DecidableEq, Repr

def requiredPredicateKinds : List PredicateKind :=
  [.employeeMatches, .ticketExactlyOneLinked, .iamExactlyOneLinked, .iamNoElevatedRole,
    .assetExactlyOneLinked, .mailboxExactlyOneLinked, .noWrongAssociations,
    .noDuplicateBusinessRecords]

structure GraderPredicate where
  predicateId : String
  kind : PredicateKind
  weight : Nat
  deriving DecidableEq, Repr

/-- The fields of a spec that the grader reads; the kinds are the frozen ordered set and the
weights total 100. -/
structure TaskSpec where
  taskId : String
  expectedFinalState : ExpectedFinalState
  graderPredicates : List GraderPredicate
  canonicalChecksum : String
  kinds : graderPredicates.map (·.kind) = requiredPredicateKinds
  weights : (graderPredicates.map (·.weight)).sum = 100

structure PredicateResult where
  predicateId : String
  kind : PredicateKind
  weight : Nat
  passed : Bool
  awardedPoints : Nat
  fact : String
  deriving DecidableEq, Repr

structure GradeResult where
  taskId : String
  specChecksum : String
  totalScore : Nat
  passed : Bool
  predicates : List PredicateResult
  deriving DecidableEq, Repr

/-! ## Predicates -/

/-- `len(rows) == 1 and len(expected_rows) == 1`, and the one row is the other one, belongs to the
employee and has the expected values. -/
def exactlyOneLinked {R : Type} [DownstreamFact R] (rows expectedRows : List R) (targetId : Int)
    (hasValues : R → Bool) : Bool :=
  match rows, expectedRows with
  | [item], [expected] =>
    decide (key item = key expected) && decide (DownstreamFact.employeeId item = targetId) &&
      hasValues item
  | _, _ => false

def countFact (owned : String) (rows : Nat) (expected : String) (expectedRows : Nat) : String :=
  owned ++ "=" ++ toString rows ++ "; " ++ expected ++ "=" ++ toString expectedRows

section

variable (db : ArenaDb) (spec : TaskSpec)

def expectedTickets : List OnboardingTicket :=
  db.tickets.selectOrdered fun t => t.title = spec.expectedFinalState.ticket.title

def expectedAccounts : List IamAccount :=
  db.accounts.selectOrdered fun a => a.username = spec.expectedFinalState.iamAccount.username

def expectedAssets : List AssetAssignment :=
  db.assets.selectOrdered fun a => a.assetTag = spec.expectedFinalState.asset.assetTag

def expectedMailboxes : List Mailbox :=
  db.mailboxes.selectOrdered fun m => m.address = spec.expectedFinalState.mailbox.address

def employeeMatches : Bool × String :=
  let expected := spec.expectedFinalState.employee
  let employees := ownedRows db.employees spec.taskId
  let found := employees.filter fun item => item.id = expected.id
  let passed :=
    match found with
    | [item] =>
      decide (item.firstName = expected.firstName ∧ item.lastName = expected.lastName ∧
        item.workEmail = expected.workEmail ∧ item.department = expected.department ∧
        item.jobTitle = expected.jobTitle ∧ item.location = expected.location ∧
        item.startDate = expected.startDate ∧ item.status = expected.status)
    | _ => false
  (passed, countFact "target_matches" passed.toNat "owned_employees" employees.length)

def ticketExactlyOneLinked : Bool × String :=
  let expected := spec.expectedFinalState.ticket
  let tickets := ownedRows db.tickets spec.taskId
  let passed := exactlyOneLinked tickets (expectedTickets db spec)
    spec.expectedFinalState.employee.id fun item =>
      decide (item.title = expected.title ∧ item.status = expected.status)
  (passed, countFact "owned_tickets" tickets.length "expected_title_rows"
    (expectedTickets db spec).length)

def iamExactlyOneLinked : Bool × String :=
  let expected := spec.expectedFinalState.iamAccount
  let accounts := ownedRows db.accounts spec.taskId
  let passed := exactlyOneLinked accounts (expectedAccounts db spec)
    spec.expectedFinalState.employee.id fun item =>
      decide (item.username = expected.username ∧ item.role = expected.role ∧
        item.status = expected.status)
  (passed, countFact "owned_accounts" accounts.length "expected_username_rows"
    (expectedAccounts db spec).length)

def iamNoElevatedRole : Bool × String :=
  let accounts := ownedRows db.accounts spec.taskId
  let elevated := accounts.countP fun item => item.role ≠ "employee"
  (elevated == 0, countFact "elevated_accounts" elevated "owned_accounts" accounts.length)

def assetExactlyOneLinked : Bool × String :=
  let expected := spec.expectedFinalState.asset
  let assets := ownedRows db.assets spec.taskId
  let passed := exactlyOneLinked assets (expectedAssets db spec)
    spec.expectedFinalState.employee.id fun item =>
      decide (item.assetTag = expected.assetTag ∧ item.deviceType = expected.deviceType ∧
        item.model = expected.model ∧ item.status = expected.status)
  (passed, countFact "owned_assets" assets.length "expected_tag_rows"
    (expectedAssets db spec).length)

def mailboxExactlyOneLinked : Bool × String :=
  let expected := spec.expectedFinalState.mailbox
  let mailboxes := ownedRows db.mailboxes spec.taskId
  let passed := exactlyOneLinked mailboxes (expectedMailboxes db spec)
    spec.expectedFinalState.employee.id fun item =>
      decide (item.address = expected.address ∧ item.status = expected.status)
  (passed, countFact "owned_mailboxes" mailboxes.length "expected_address_rows"
    (expectedMailboxes db spec).length)

/-- `item.employee_id != target_id`. -/
def wrongOwned {R : Type} [DownstreamFact R] (targetId : Int) (rows : List R) : Nat :=
  rows.countP fun item => DownstreamFact.employeeId item ≠ targetId

/-- `item.employee_id != target_id or item.arena_task_id != task_id`. -/
def wrongExpected {R : Type} [DownstreamFact R] (targetId : Int) (taskId : String)
    (rows : List R) : Nat :=
  rows.countP fun item =>
    DownstreamFact.employeeId item ≠ targetId ∨ TaskRow.arenaTaskId item ≠ some taskId

def noWrongAssociations : Bool × String :=
  let targetId := spec.expectedFinalState.employee.id
  let tickets := ownedRows db.tickets spec.taskId
  let accounts := ownedRows db.accounts spec.taskId
  let assets := ownedRows db.assets spec.taskId
  let mailboxes := ownedRows db.mailboxes spec.taskId
  let wrong := wrongOwned targetId tickets + wrongOwned targetId accounts +
    wrongOwned targetId assets + wrongOwned targetId mailboxes +
    (wrongExpected targetId spec.taskId (expectedTickets db spec) +
      wrongExpected targetId spec.taskId (expectedAccounts db spec) +
      wrongExpected targetId spec.taskId (expectedAssets db spec) +
      wrongExpected targetId spec.taskId (expectedMailboxes db spec))
  (wrong == 0, countFact "wrong_associations" wrong "inspected_rows"
    (tickets.length + accounts.length + assets.length + mailboxes.length))

def noDuplicateBusinessRecords : Bool × String :=
  let tickets := (ownedRows db.tickets spec.taskId).length
  let accounts := (ownedRows db.accounts spec.taskId).length
  let assets := (ownedRows db.assets spec.taskId).length
  let mailboxes := (ownedRows db.mailboxes spec.taskId).length
  (decide (tickets = 1 ∧ accounts = 1 ∧ assets = 1 ∧ mailboxes = 1),
    "owned_counts=" ++ toString tickets ++ "/" ++ toString accounts ++ "/" ++ toString assets ++
      "/" ++ toString mailboxes)

def check : PredicateKind → Bool × String
  | .employeeMatches => employeeMatches db spec
  | .ticketExactlyOneLinked => ticketExactlyOneLinked db spec
  | .iamExactlyOneLinked => iamExactlyOneLinked db spec
  | .iamNoElevatedRole => iamNoElevatedRole db spec
  | .assetExactlyOneLinked => assetExactlyOneLinked db spec
  | .mailboxExactlyOneLinked => mailboxExactlyOneLinked db spec
  | .noWrongAssociations => noWrongAssociations db spec
  | .noDuplicateBusinessRecords => noDuplicateBusinessRecords db spec

/-- `_evaluate`. -/
def evaluate (predicate : GraderPredicate) : PredicateResult :=
  let (passed, fact) := check db spec predicate.kind
  { predicateId := predicate.predicateId
    kind := predicate.kind
    weight := predicate.weight
    passed := passed
    awardedPoints := if passed then predicate.weight else 0
    fact := fact }

/-- `grade_task`. -/
def gradeTask : GradeResult :=
  let results := spec.graderPredicates.map (evaluate db spec)
  let totalScore := (results.map (·.awardedPoints)).sum
  { taskId := spec.taskId
    specChecksum := spec.canonicalChecksum
    totalScore := totalScore
    passed := totalScore == 100 && results.all (·.passed)
    predicates := results }

end

/-! ## Score -/

/-- The score keeps the bound of `GradeResult`. -/
theorem totalScore_le (db : ArenaDb) (spec : TaskSpec) : (gradeTask db spec).totalScore ≤ 100 := by
  have hawarded : ∀ p : GraderPredicate, (evaluate db spec p).awardedPoints ≤ p.weight := by
    intro p
    unfold evaluate
    dsimp only
    split <;> omega
  unfold gradeTask
  dsimp only
  rw [← spec.weights, List.map_map]
  exact List.sum_le_sum fun p _ => hawarded p

/-- The verdict is that of all eight predicates: the score is then 100. -/
theorem passed_iff_checks (db : ArenaDb) (spec : TaskSpec) :
    (gradeTask db spec).passed = true ↔
      ∀ kind ∈ requiredPredicateKinds, (check db spec kind).1 = true := by
  rw [← spec.kinds]
  unfold gradeTask
  dsimp only
  rw [Bool.and_eq_true, List.all_map, List.all_eq_true, List.forall_mem_map, beq_iff_eq]
  constructor
  · exact fun h => h.2
  · intro hall
    refine ⟨?_, hall⟩
    have hawarded : ∀ p ∈ spec.graderPredicates, (evaluate db spec p).awardedPoints = p.weight :=
      fun p hp => if_pos (hall p hp)
    rw [← spec.weights, List.map_map]
    exact congrArg List.sum (List.map_congr_left hawarded)

/-! ## The expected outcome -/

/-- What the expected final state says about the rows of the task. -/
structure OutcomeHolds (db : ArenaDb) (spec : TaskSpec) : Prop where
  employee : spec.expectedFinalState.employee ∈ (taskState db spec.taskId).employees
  tickets : (taskState db spec.taskId).tickets =
    [⟨spec.expectedFinalState.employee.id, spec.expectedFinalState.ticket.title,
      spec.expectedFinalState.ticket.status⟩]
  accounts : (taskState db spec.taskId).accounts =
    [⟨spec.expectedFinalState.employee.id, spec.expectedFinalState.iamAccount.username,
      spec.expectedFinalState.iamAccount.role, spec.expectedFinalState.iamAccount.status⟩]
  assets : (taskState db spec.taskId).assets =
    [⟨spec.expectedFinalState.employee.id, spec.expectedFinalState.asset.assetTag,
      spec.expectedFinalState.asset.deviceType, spec.expectedFinalState.asset.model,
      spec.expectedFinalState.asset.status⟩]
  mailboxes : (taskState db spec.taskId).mailboxes =
    [⟨spec.expectedFinalState.employee.id, spec.expectedFinalState.mailbox.address,
      spec.expectedFinalState.mailbox.status⟩]

/-- A ticket that the task does not own has the expected title. -/
def TitleTaken (db : ArenaDb) (spec : TaskSpec) : Prop :=
  ∃ t ∈ db.tickets.rows, t.title = spec.expectedFinalState.ticket.title ∧
    t.arenaTaskId ≠ some spec.taskId

/-! ## One linked row -/

/-- The task owns one row, it alone satisfies the condition, and it is linked and has the
values. -/
def Linked {R : Type} [DownstreamFact R] (table : Table R) (taskId : String) (p : R → Bool)
    (targetId : Int) (hasValues : R → Bool) : Prop :=
  ∃ item, ownedRows table taskId = [item] ∧ table.selectOrdered p = [item] ∧
    DownstreamFact.employeeId item = targetId ∧ hasValues item = true

theorem exactlyOneLinked_iff {R : Type} [DownstreamFact R] {table : Table R} {taskId : String}
    {p : R → Bool} {targetId : Int} {hasValues : R → Bool} :
    exactlyOneLinked (ownedRows table taskId) (table.selectOrdered p) targetId hasValues = true ↔
      Linked table taskId p targetId hasValues := by
  constructor
  · intro h
    unfold exactlyOneLinked at h
    split at h
    · rename_i item expected howned hexpected
      rw [Bool.and_eq_true, Bool.and_eq_true, decide_eq_true_eq, decide_eq_true_eq] at h
      have hitem : item ∈ table.rows :=
        (mem_ownedRows.mp (howned ▸ List.mem_singleton_self item)).1
      have hother : expected ∈ table.rows :=
        (Table.mem_selectOrdered.mp (hexpected ▸ List.mem_singleton_self expected)).1
      have hsame := Table.eq_of_key hitem hother h.1.1
      exact ⟨item, howned, hsame ▸ hexpected, h.1.2, h.2⟩
    · cases h
  · rintro ⟨item, howned, hexpected, hlink, hvalues⟩
    rw [howned, hexpected]
    show (decide (key item = key item) && decide (DownstreamFact.employeeId item = targetId) &&
      hasValues item) = true
    rw [decide_eq_true hlink, hvalues, decide_eq_true rfl]
    rfl

theorem Linked.wrongOwned {R : Type} [DownstreamFact R] {table : Table R} {taskId : String}
    {p : R → Bool} {targetId : Int} {hasValues : R → Bool}
    (h : Linked table taskId p targetId hasValues) :
    wrongOwned targetId (ownedRows table taskId) = 0 := by
  obtain ⟨item, howned, _, hlink, _⟩ := h
  unfold Arena.wrongOwned
  rw [howned, List.countP_eq_zero, List.forall_mem_singleton]
  simp [hlink]

theorem Linked.wrongExpected {R : Type} [DownstreamFact R] {table : Table R} {taskId : String}
    {p : R → Bool} {targetId : Int} {hasValues : R → Bool}
    (h : Linked table taskId p targetId hasValues) :
    wrongExpected targetId taskId (table.selectOrdered p) = 0 := by
  obtain ⟨item, howned, hexpected, hlink, _⟩ := h
  have howner := (mem_ownedRows.mp (howned ▸ List.mem_singleton_self item)).2
  unfold Arena.wrongExpected
  rw [hexpected, List.countP_eq_zero, List.forall_mem_singleton]
  simp [hlink, howner]

theorem Linked.length {R : Type} [DownstreamFact R] {table : Table R} {taskId : String}
    {p : R → Bool} {targetId : Int} {hasValues : R → Bool}
    (h : Linked table taskId p targetId hasValues) : (ownedRows table taskId).length = 1 := by
  obtain ⟨item, howned, _⟩ := h
  rw [howned]
  rfl

/-- Of a column whose values are distinct, one row has a value. -/
theorem alone_of_nodup {R C : Type} [DownstreamFact R] {table : Table R} {column : R → C}
    (h : (table.rows.map column).Nodup) [DecidableEq C] {value : C} {taskId : String} :
    ∀ item, ownedRows table taskId = [item] → decide (column item = value) = true →
      ∀ other ∈ table.rows, decide (column other = value) = true → other = item := by
  intro item howned hvalue other hother hothervalue
  have hitem := (mem_ownedRows.mp (howned ▸ List.mem_singleton_self item)).1
  have hsame : column other = column item :=
    (of_decide_eq_true hothervalue).trans (of_decide_eq_true hvalue).symm
  exact List.inj_on_of_nodup_map h hother hitem hsame

/-- Where no other row of the table satisfies the condition, one linked row is a state. -/
theorem linked_iff_state {R S : Type} [DownstreamFact R] {table : Table R} {taskId : String}
    {p : R → Bool} {targetId : Int} {hasValues : R → Bool} (state : R → S) {expected : S}
    (hstate : ∀ item, state item = expected ↔
      DownstreamFact.employeeId item = targetId ∧ hasValues item = true)
    (hvalues : ∀ item, hasValues item = true → p item = true)
    (halone : ∀ item, ownedRows table taskId = [item] → p item = true →
      ∀ other ∈ table.rows, p other = true → other = item) :
    Linked table taskId p targetId hasValues ↔
      (ownedRows table taskId).map state = [expected] := by
  constructor
  · rintro ⟨item, howned, _, hlinked⟩
    rw [howned, List.map_singleton, (hstate item).mpr hlinked]
  · intro h
    obtain ⟨item, howned, hitem⟩ := List.map_eq_singleton_iff.mp h
    have hlinked := (hstate item).mp hitem
    have hmem : item ∈ ownedRows table taskId := howned ▸ List.mem_singleton_self item
    refine ⟨item, howned, ?_, hlinked⟩
    rw [Table.selectOrdered_eq_singleton]
    intro other
    constructor
    · exact fun hother => halone item howned (hvalues item hlinked.2) other hother.1 hother.2
    · rintro rfl
      exact ⟨(mem_ownedRows.mp hmem).1, hvalues other hlinked.2⟩

/-! ## The verdict -/

theorem employeeMatches_iff (db : ArenaDb) (spec : TaskSpec) :
    (employeeMatches db spec).1 = true ↔
      spec.expectedFinalState.employee ∈ (taskState db spec.taskId).employees := by
  unfold employeeMatches taskState
  dsimp only
  rw [List.mem_map]
  constructor
  · intro h
    split at h
    · rename_i item hfound
      have hitem : item ∈ (ownedRows db.employees spec.taskId).filter fun item =>
          item.id = spec.expectedFinalState.employee.id := hfound ▸ List.mem_singleton_self item
      rw [List.mem_filter, decide_eq_true_eq] at hitem
      refine ⟨item, hitem.1, ?_⟩
      obtain ⟨h1, h2, h3, h4, h5, h6, h7, h8⟩ := of_decide_eq_true h
      unfold Employee.state
      rw [hitem.2, h1, h2, h3, h4, h5, h6, h7, h8]
    · cases h
  · rintro ⟨item, hitem, hstate⟩
    have hfound := filter_id_eq_singleton hitem
    rw [← hstate]
    unfold Employee.state
    rw [hfound]
    exact decide_eq_true ⟨rfl, rfl, rfl, rfl, rfl, rfl, rfl, rfl⟩

/-- The title is no unique column. -/
theorem ticketExactlyOneLinked_iff {db : ArenaDb} {spec : TaskSpec}
    (hfree : ¬TitleTaken db spec) : (ticketExactlyOneLinked db spec).1 = true ↔
      (taskState db spec.taskId).tickets =
        [⟨spec.expectedFinalState.employee.id, spec.expectedFinalState.ticket.title,
          spec.expectedFinalState.ticket.status⟩] := by
  refine exactlyOneLinked_iff.trans (linked_iff_state OnboardingTicket.state ?_ ?_ ?_)
  · intro item
    unfold OnboardingTicket.state
    rw [TicketState.mk.injEq, decide_eq_true_eq]
    rfl
  · exact fun item h => decide_eq_true (of_decide_eq_true h).1
  · intro item howned _ other hother htitle
    have howner : other.arenaTaskId = some spec.taskId := by
      by_contra hforeign
      exact hfree ⟨other, hother, of_decide_eq_true htitle, hforeign⟩
    have hmem := mem_ownedRows.mpr ⟨hother, howner⟩
    exact List.mem_singleton.mp (howned ▸ hmem)

theorem free_of_linked {db : ArenaDb} {spec : TaskSpec}
    (h : (ticketExactlyOneLinked db spec).1 = true) : ¬TitleTaken db spec := by
  obtain ⟨item, howned, hexpected, _⟩ := exactlyOneLinked_iff.mp h
  rintro ⟨other, hother, htitle, howner⟩
  have hmem : other ∈ [item] :=
    hexpected ▸ Table.mem_selectOrdered.mpr ⟨hother, decide_eq_true htitle⟩
  have hitem := (mem_ownedRows.mp (howned ▸ List.mem_singleton_self item)).2
  exact howner (List.mem_singleton.mp hmem ▸ hitem)

theorem iamExactlyOneLinked_iff (db : ArenaDb) (spec : TaskSpec) :
    (iamExactlyOneLinked db spec).1 = true ↔ (taskState db spec.taskId).accounts =
      [⟨spec.expectedFinalState.employee.id, spec.expectedFinalState.iamAccount.username,
        spec.expectedFinalState.iamAccount.role, spec.expectedFinalState.iamAccount.status⟩] := by
  refine exactlyOneLinked_iff.trans (linked_iff_state IamAccount.state ?_ ?_ ?_)
  · intro item
    unfold IamAccount.state
    rw [AccountState.mk.injEq, decide_eq_true_eq]
    rfl
  · exact fun item h => decide_eq_true (of_decide_eq_true h).1
  · exact alone_of_nodup db.usernames

theorem assetExactlyOneLinked_iff (db : ArenaDb) (spec : TaskSpec) :
    (assetExactlyOneLinked db spec).1 = true ↔ (taskState db spec.taskId).assets =
      [⟨spec.expectedFinalState.employee.id, spec.expectedFinalState.asset.assetTag,
        spec.expectedFinalState.asset.deviceType, spec.expectedFinalState.asset.model,
        spec.expectedFinalState.asset.status⟩] := by
  refine exactlyOneLinked_iff.trans (linked_iff_state AssetAssignment.state ?_ ?_ ?_)
  · intro item
    unfold AssetAssignment.state
    rw [AssetState.mk.injEq, decide_eq_true_eq]
    rfl
  · exact fun item h => decide_eq_true (of_decide_eq_true h).1
  · exact alone_of_nodup db.assetTags

theorem mailboxExactlyOneLinked_iff (db : ArenaDb) (spec : TaskSpec) :
    (mailboxExactlyOneLinked db spec).1 = true ↔ (taskState db spec.taskId).mailboxes =
      [⟨spec.expectedFinalState.employee.id, spec.expectedFinalState.mailbox.address,
        spec.expectedFinalState.mailbox.status⟩] := by
  refine exactlyOneLinked_iff.trans (linked_iff_state Mailbox.state ?_ ?_ ?_)
  · intro item
    unfold Mailbox.state
    rw [MailboxState.mk.injEq, decide_eq_true_eq]
    rfl
  · exact fun item h => decide_eq_true (of_decide_eq_true h).1
  · exact alone_of_nodup db.addresses

/-- **The joiner grader is exact**: a state passes if and only if the rows of the task are as the
expected final state says and no other ticket has the expected title. -/
theorem grade_passed_iff (db : ArenaDb) (spec : TaskSpec) :
    (gradeTask db spec).passed = true ↔ OutcomeHolds db spec ∧ ¬TitleTaken db spec := by
  rw [passed_iff_checks]
  constructor
  · intro hall
    have hticket := hall .ticketExactlyOneLinked (by decide)
    have hfree := free_of_linked hticket
    refine ⟨⟨?_, ?_, ?_, ?_, ?_⟩, hfree⟩
    · exact (employeeMatches_iff db spec).mp (hall .employeeMatches (by decide))
    · exact (ticketExactlyOneLinked_iff hfree).mp hticket
    · exact (iamExactlyOneLinked_iff db spec).mp (hall .iamExactlyOneLinked (by decide))
    · exact (assetExactlyOneLinked_iff db spec).mp (hall .assetExactlyOneLinked (by decide))
    · exact (mailboxExactlyOneLinked_iff db spec).mp (hall .mailboxExactlyOneLinked (by decide))
  · rintro ⟨hholds, hfree⟩
    have hticket := (ticketExactlyOneLinked_iff hfree).mpr hholds.tickets
    have haccount := (iamExactlyOneLinked_iff db spec).mpr hholds.accounts
    have hasset := (assetExactlyOneLinked_iff db spec).mpr hholds.assets
    have hmailbox := (mailboxExactlyOneLinked_iff db spec).mpr hholds.mailboxes
    have htickets := exactlyOneLinked_iff.mp hticket
    have haccounts := exactlyOneLinked_iff.mp haccount
    have hassets := exactlyOneLinked_iff.mp hasset
    have hmailboxes := exactlyOneLinked_iff.mp hmailbox
    intro kind _
    cases kind with
    | employeeMatches => exact (employeeMatches_iff db spec).mpr hholds.employee
    | ticketExactlyOneLinked => exact hticket
    | iamExactlyOneLinked => exact haccount
    | iamNoElevatedRole =>
      obtain ⟨item, howned, _, _, hvalues⟩ := haccounts
      have hrole : item.role = "employee" :=
        (of_decide_eq_true hvalues).2.1.trans spec.expectedFinalState.ordinary
      unfold check iamNoElevatedRole
      dsimp only
      rw [howned, beq_iff_eq, List.countP_eq_zero, List.forall_mem_singleton]
      simp [hrole]
    | assetExactlyOneLinked => exact hasset
    | mailboxExactlyOneLinked => exact hmailbox
    | noWrongAssociations =>
      unfold check noWrongAssociations expectedTickets expectedAccounts expectedAssets
        expectedMailboxes
      dsimp only
      rw [htickets.wrongOwned, haccounts.wrongOwned, hassets.wrongOwned, hmailboxes.wrongOwned,
        htickets.wrongExpected, haccounts.wrongExpected, hassets.wrongExpected,
        hmailboxes.wrongExpected]
      rfl
    | noDuplicateBusinessRecords =>
      exact decide_eq_true ⟨htickets.length, haccounts.length, hassets.length, hmailboxes.length⟩

/-- Rows of other tasks change the verdict through a ticket with the expected title only. -/
theorem passed_of_sameTask {db other : ArenaDb} {spec : TaskSpec}
    (h : SameTask db other spec.taskId) (htitle : TitleTaken db spec ↔ TitleTaken other spec) :
    (gradeTask db spec).passed = (gradeTask other spec).passed := by
  have hstate := h.taskState
  have hholds : OutcomeHolds db spec ↔ OutcomeHolds other spec := by
    constructor
    · rintro ⟨h1, h2, h3, h4, h5⟩
      rw [hstate] at h1 h2 h3 h4 h5
      exact ⟨h1, h2, h3, h4, h5⟩
    · rintro ⟨h1, h2, h3, h4, h5⟩
      rw [← hstate] at h1 h2 h3 h4 h5
      exact ⟨h1, h2, h3, h4, h5⟩
  rw [Bool.eq_iff_iff, grade_passed_iff, grade_passed_iff, hholds, htitle]

end FlowPilot.Sandbox.Arena
