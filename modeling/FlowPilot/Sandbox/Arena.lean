import FlowPilot.Lib.OrderedRows

/-!
# Arena rows

The business rows that the graders read, the queries they read them with, and what the rows of
one task say: the state that a grader compares with an expected one.
-/

open FlowPilot.Lib

namespace FlowPilot.Sandbox.Arena

open Keyed (key)

/-! ## Rows -/

structure Date where
  year : Nat
  month : Nat
  day : Nat
  deriving DecidableEq, Repr

structure Employee where
  id : Int
  firstName : String
  lastName : String
  workEmail : String
  department : String
  jobTitle : String
  location : String
  startDate : Date
  status : String
  arenaTaskId : Option String
  deriving DecidableEq, Repr

structure OnboardingTicket where
  id : Int
  employeeId : Int
  title : String
  status : String
  arenaTaskId : Option String
  deriving DecidableEq, Repr

structure IamAccount where
  id : Int
  employeeId : Int
  username : String
  role : String
  status : String
  arenaTaskId : Option String
  deriving DecidableEq, Repr

structure AssetAssignment where
  id : Int
  employeeId : Int
  assetTag : String
  deviceType : String
  model : String
  status : String
  arenaTaskId : Option String
  deriving DecidableEq, Repr

structure Mailbox where
  id : Int
  employeeId : Int
  address : String
  status : String
  arenaTaskId : Option String
  deriving DecidableEq, Repr

/-- A row with the task that owns it. -/
class TaskRow (R : Type) extends Keyed R Int where
  arenaTaskId : R → Option String

/-- A row that belongs to an employee as well. -/
class DownstreamFact (R : Type) extends TaskRow R where
  employeeId : R → Int

instance : TaskRow Employee where
  key := Employee.id
  arenaTaskId := Employee.arenaTaskId

instance : DownstreamFact OnboardingTicket where
  key := OnboardingTicket.id
  arenaTaskId := OnboardingTicket.arenaTaskId
  employeeId := OnboardingTicket.employeeId

instance : DownstreamFact IamAccount where
  key := IamAccount.id
  arenaTaskId := IamAccount.arenaTaskId
  employeeId := IamAccount.employeeId

instance : DownstreamFact AssetAssignment where
  key := AssetAssignment.id
  arenaTaskId := AssetAssignment.arenaTaskId
  employeeId := AssetAssignment.employeeId

instance : DownstreamFact Mailbox where
  key := Mailbox.id
  arenaTaskId := Mailbox.arenaTaskId
  employeeId := Mailbox.employeeId

/-- The five tables with their unique columns and foreign keys. -/
structure ArenaDb where
  employees : Table Employee
  tickets : Table OnboardingTicket
  accounts : Table IamAccount
  assets : Table AssetAssignment
  mailboxes : Table Mailbox
  workEmails : (employees.rows.map (·.workEmail)).Nodup
  accountEmployees : (accounts.rows.map (·.employeeId)).Nodup
  usernames : (accounts.rows.map (·.username)).Nodup
  assetTags : (assets.rows.map (·.assetTag)).Nodup
  mailboxEmployees : (mailboxes.rows.map (·.employeeId)).Nodup
  addresses : (mailboxes.rows.map (·.address)).Nodup
  ticketsOf : ∀ t ∈ tickets.rows, t.employeeId ∈ employees.rows.map (·.id)
  accountsOf : ∀ a ∈ accounts.rows, a.employeeId ∈ employees.rows.map (·.id)
  assetsOf : ∀ a ∈ assets.rows, a.employeeId ∈ employees.rows.map (·.id)
  mailboxesOf : ∀ m ∈ mailboxes.rows, m.employeeId ∈ employees.rows.map (·.id)

/-- `select(Model).where(Model.arena_task_id == task_id).order_by(Model.id)`. -/
def ownedRows {R : Type} [TaskRow R] (table : Table R) (taskId : String) : List R :=
  table.selectOrdered fun row => TaskRow.arenaTaskId row = some taskId

theorem mem_ownedRows {R : Type} [TaskRow R] {table : Table R} {taskId : String} {row : R} :
    row ∈ ownedRows table taskId ↔
      row ∈ table.rows ∧ TaskRow.arenaTaskId row = some taskId := by
  unfold ownedRows
  rw [Table.mem_selectOrdered, decide_eq_true_eq]

theorem ownedRows_eq_of_key {R : Type} [TaskRow R] {table : Table R} {taskId : String}
    {row other : R} (hrow : row ∈ ownedRows table taskId) (hother : other ∈ ownedRows table taskId)
    (h : key row = key other) : row = other :=
  Table.eq_of_key (mem_ownedRows.mp hrow).1 (mem_ownedRows.mp hother).1 h

/-- One owned employee has an id. -/
theorem filter_id_eq_singleton {table : Table Employee} {taskId : String} {e : Employee}
    (h : e ∈ ownedRows table taskId) :
    (ownedRows table taskId).filter (fun item => item.id = e.id) = [e] := by
  have hnodup : (ownedRows table taskId).Nodup := Table.nodup_selectOrdered _ _
  have hperm : List.Perm ((ownedRows table taskId).filter fun item => item.id = e.id) [e] := by
    refine (List.perm_ext_iff_of_nodup (hnodup.filter _) (List.nodup_singleton e)).mpr ?_
    intro other
    rw [List.mem_filter, List.mem_singleton, decide_eq_true_eq]
    constructor
    · exact fun hother => ownedRows_eq_of_key hother.1 h hother.2
    · rintro rfl
      exact ⟨h, rfl⟩
  exact List.perm_singleton.mp hperm

/-! ## What the rows of a task say -/

structure EmployeeState where
  id : Int
  firstName : String
  lastName : String
  workEmail : String
  department : String
  jobTitle : String
  location : String
  startDate : Date
  status : String
  deriving DecidableEq, Repr

structure TicketState where
  employeeId : Int
  title : String
  status : String
  deriving DecidableEq, Repr

structure AccountState where
  employeeId : Int
  username : String
  role : String
  status : String
  deriving DecidableEq, Repr

structure AssetState where
  employeeId : Int
  assetTag : String
  deviceType : String
  model : String
  status : String
  deriving DecidableEq, Repr

structure MailboxState where
  employeeId : Int
  address : String
  status : String
  deriving DecidableEq, Repr

def Employee.state (e : Employee) : EmployeeState :=
  ⟨e.id, e.firstName, e.lastName, e.workEmail, e.department, e.jobTitle, e.location, e.startDate,
    e.status⟩

def OnboardingTicket.state (t : OnboardingTicket) : TicketState := ⟨t.employeeId, t.title, t.status⟩

def IamAccount.state (a : IamAccount) : AccountState := ⟨a.employeeId, a.username, a.role, a.status⟩

def AssetAssignment.state (a : AssetAssignment) : AssetState :=
  ⟨a.employeeId, a.assetTag, a.deviceType, a.model, a.status⟩

def Mailbox.state (m : Mailbox) : MailboxState := ⟨m.employeeId, m.address, m.status⟩

/-- What the rows of one task say, apart from their keys. -/
structure TaskState where
  employees : List EmployeeState
  tickets : List TicketState
  accounts : List AccountState
  assets : List AssetState
  mailboxes : List MailboxState

def taskState (db : ArenaDb) (taskId : String) : TaskState where
  employees := (ownedRows db.employees taskId).map (·.state)
  tickets := (ownedRows db.tickets taskId).map (·.state)
  accounts := (ownedRows db.accounts taskId).map (·.state)
  assets := (ownedRows db.assets taskId).map (·.state)
  mailboxes := (ownedRows db.mailboxes taskId).map (·.state)

/-- The two databases differ in rows of other tasks only. -/
structure SameTask (db other : ArenaDb) (taskId : String) : Prop where
  employees : ∀ e : Employee, e.arenaTaskId = some taskId →
    (e ∈ db.employees.rows ↔ e ∈ other.employees.rows)
  tickets : ∀ t : OnboardingTicket, t.arenaTaskId = some taskId →
    (t ∈ db.tickets.rows ↔ t ∈ other.tickets.rows)
  accounts : ∀ a : IamAccount, a.arenaTaskId = some taskId →
    (a ∈ db.accounts.rows ↔ a ∈ other.accounts.rows)
  assets : ∀ a : AssetAssignment, a.arenaTaskId = some taskId →
    (a ∈ db.assets.rows ↔ a ∈ other.assets.rows)
  mailboxes : ∀ m : Mailbox, m.arenaTaskId = some taskId →
    (m ∈ db.mailboxes.rows ↔ m ∈ other.mailboxes.rows)

theorem ownedRows_congr {R : Type} [TaskRow R] {table other : Table R} {taskId : String}
    (h : ∀ row, TaskRow.arenaTaskId row = some taskId → (row ∈ table.rows ↔ row ∈ other.rows)) :
    ownedRows table taskId = ownedRows other taskId :=
  Table.selectOrdered_congr fun row hrow => h row (of_decide_eq_true hrow)

theorem SameTask.taskState {db other : ArenaDb} {taskId : String}
    (h : SameTask db other taskId) : taskState db taskId = taskState other taskId := by
  unfold Arena.taskState
  rw [ownedRows_congr h.employees, ownedRows_congr h.tickets, ownedRows_congr h.accounts,
    ownedRows_congr h.assets, ownedRows_congr h.mailboxes]

end FlowPilot.Sandbox.Arena
