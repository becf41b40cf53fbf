import VolunteerApi.Model.RequestsService
import VolunteerApi.Model.UsersService
import VolunteerApi.Programs.Runs

/-!
# The system: service calls executed one at a time

One constructor for each service method, with the arguments it is called with.
`user` is the acting user as the strategy loaded it for the request, `now` the
time of the call.  A call changes the database to what its program leaves,
whether it ends in a result or in an exception; `assignVolunteer` runs in a
transaction and leaves nothing behind when it throws.
-/

set_option autoImplicit false

namespace VolunteerApi

open Relational Programs

inductive TasksOp where
  | create (requestId : RequestId) (dto : CreateTaskDto) (user : User)
  | update (taskId : TaskId) (dto : UpdateTaskDto) (user : User)
  | deleteTask (taskId : TaskId) (user : User) (now : Time)
  | assignVolunteer (taskId : TaskId) (dto : AssignTaskDto) (user : User) (now : Time)
  | withdrawAssignment (taskId : TaskId) (user : User)
  | updateAssignmentStatus (taskId : TaskId) (newStatus : String) (user : User)
  | completeTask (taskId : TaskId) (user : User) (now : Time)
  | returnToProgress (taskId : TaskId) (user : User) (now : Time)
  | confirmTaskCompletion (taskId : TaskId) (user : User) (now : Time)
  | rejectTask (taskId : TaskId) (user : User)
  | updateTaskStatusAdmin (taskId : TaskId) (status : TaskStatus) (user : User)
  | cancelTask (taskId : TaskId) (user : User)
  | renewTask (taskId : TaskId) (user : User)
  | delegateTask (taskId : TaskId) (dto : DelegateTaskDto) (user : User) (now : Time)
  | acceptDelegation (taskId : TaskId) (organizationId : OrgId) (user : User)
  | unacceptDelegation (taskId : TaskId) (organizationId : OrgId) (user : User)
  | declineDelegation (taskId : TaskId) (organizationId : OrgId) (user : User)

inductive UsersOp where
  | updateProfile (targetId : UserId) (dto : UpdateProfileDto) (user : User)
  | updateAvatar (userId : UserId) (avatarUrl : String)
  | blockUser (targetId : UserId) (user : User) (now : Time)
  | unblockUser (targetId : UserId) (user : User)
  | changeRole (targetId : UserId) (newRole : SystemRole) (user : User)
  | updateClearance (targetId : UserId) (newLevel : ClearanceLevel) (user : User)
  | createUser (dto : AdminCreateUserDto) (user : User)
  | vouchForUser (voucheeId : UserId) (user : User)
  | recalculateClearance (userId : UserId)
  | restoreVouch (vouchId : VouchId) (user : User)
  | revokeVouchPermanently (vouchId : VouchId) (user : User)

inductive RequestsOp where
  | create (dto : CreateRequestDto) (user : User) (now : Time)
  | update (id : RequestId) (dto : UpdateRequestDto) (user : User)
  | addInfo (id : RequestId) (dto : AddInfoRequestDto) (user : User) (infoId : InfoId)
      (now : Time)
  | updateAdditionalInfo (id : RequestId) (infoId : InfoId) (dto : AddInfoRequestDto)
      (user : User) (now : Time)
  | removeAdditionalInfo (id : RequestId) (infoId : InfoId) (user : User) (now : Time)
  | remove (id : RequestId) (user : User) (now : Time)
  | markAsPendingReview (id : RequestId) (user : User)
  | cancel (id : RequestId) (reason : Option String) (user : User) (now : Time)
  | confirmCompletion (id : RequestId) (user : User)
  | returnToProgress (id : RequestId) (user : User) (now : Time)

/-- How a call ended: without an exception, or with one. -/
abbrev Outcome := Except HttpException Unit

/-- A program's end, its result dropped. -/
def ended {α : Type} (finished : Except HttpException α × Db) : Outcome × Db :=
  (finished.1.map fun _ => (), finished.2)

/-- `required` is `FRONTLINE_VOUCHES_REQUIRED`. -/
def TasksOp.run (required : Nat) (db : Db) : TasksOp → Outcome × Db
  | .create requestId dto user => ended ((TasksService.create requestId dto user).run db)
  | .update taskId dto user => ended ((TasksService.update taskId dto user).run db)
  | .deleteTask taskId user now => ended ((TasksService.deleteTask taskId user now).run db)
  | .assignVolunteer taskId dto user now =>
      ended ((TasksService.assignVolunteer required taskId dto user now).runTx db)
  | .withdrawAssignment taskId user =>
      ended ((TasksService.withdrawAssignment taskId user).run db)
  | .updateAssignmentStatus taskId newStatus user =>
      ended ((TasksService.updateAssignmentStatus taskId newStatus user).run db)
  | .completeTask taskId user now => ended ((TasksService.completeTask taskId user now).run db)
  | .returnToProgress taskId user now =>
      ended ((TasksService.returnToProgress taskId user now).run db)
  | .confirmTaskCompletion taskId user now =>
      ended ((TasksService.confirmTaskCompletion taskId user now).run db)
  | .rejectTask taskId user => ended ((TasksService.rejectTask taskId user).run db)
  | .updateTaskStatusAdmin taskId status user =>
      ended ((TasksService.updateTaskStatusAdmin taskId status user).run db)
  | .cancelTask taskId user => ended ((TasksService.cancelTask taskId user).run db)
  | .renewTask taskId user => ended ((TasksService.renewTask taskId user).run db)
  | .delegateTask taskId dto user now =>
      ended ((TasksService.delegateTask taskId dto user now).run db)
  | .acceptDelegation taskId organizationId user =>
      ended ((TasksService.acceptDelegation taskId organizationId user).run db)
  | .unacceptDelegation taskId organizationId user =>
      ended ((TasksService.unacceptDelegation taskId organizationId user).run db)
  | .declineDelegation taskId organizationId user =>
      ended ((TasksService.declineDelegation taskId organizationId user).run db)

def UsersOp.run (required : Nat) (db : Db) : UsersOp → Outcome × Db
  | .updateProfile targetId dto user =>
      ended ((UsersService.updateProfile targetId dto user).run db)
  | .updateAvatar userId avatarUrl => ended ((UsersService.updateAvatar userId avatarUrl).run db)
  | .blockUser targetId user now =>
      ended ((UsersService.blockUser required targetId user now).run db)
  | .unblockUser targetId user => ended ((UsersService.unblockUser targetId user).run db)
  | .changeRole targetId newRole user =>
      ended ((UsersService.changeRole targetId newRole user).run db)
  | .updateClearance targetId newLevel user =>
      ended ((UsersService.updateClearance targetId newLevel user).run db)
  | .createUser dto user => ended ((UsersService.createUser dto user).run db)
  | .vouchForUser voucheeId user =>
      ended ((UsersService.vouchForUser required voucheeId user).run db)
  | .recalculateClearance userId =>
      ended ((UsersService.recalculateClearance required userId).run db)
  | .restoreVouch vouchId user =>
      ended ((UsersService.restoreVouch required vouchId user).run db)
  | .revokeVouchPermanently vouchId user =>
      ended ((UsersService.revokeVouchPermanently required vouchId user).run db)

def RequestsOp.run (db : Db) : RequestsOp → Outcome × Db
  | .create dto user now => ended ((RequestsService.create dto user now).run db)
  | .update id dto user => ended ((RequestsService.update id dto user).run db)
  | .addInfo id dto user infoId now =>
      ended ((RequestsService.addInfo id dto user infoId now).run db)
  | .updateAdditionalInfo id infoId dto user now =>
      ended ((RequestsService.updateAdditionalInfo id infoId dto user now).run db)
  | .removeAdditionalInfo id infoId user now =>
      ended ((RequestsService.removeAdditionalInfo id infoId user now).run db)
  | .remove id user now => ended ((RequestsService.remove id user now).run db)
  | .markAsPendingReview id user =>
      ended ((RequestsService.markAsPendingReview id user).run db)
  | .cancel id reason user now => ended ((RequestsService.cancel id reason user now).run db)
  | .confirmCompletion id user => ended ((RequestsService.confirmCompletion id user).run db)
  | .returnToProgress id user now =>
      ended ((RequestsService.returnToProgress id user now).run db)

inductive Op where
  | tasks (op : TasksOp)
  | users (op : UsersOp)
  | requests (op : RequestsOp)

def Op.run (required : Nat) (db : Db) : Op → Outcome × Db
  | .tasks op => op.run required db
  | .users op => op.run required db
  | .requests op => op.run db

/-- The transition functions: the database after a call. -/
def TasksOp.step (required : Nat) (db : Db) (op : TasksOp) : Db := (op.run required db).2
def RequestsOp.step (db : Db) (op : RequestsOp) : Db := (op.run db).2
def Op.step (required : Nat) (db : Db) (op : Op) : Db := (op.run required db).2

/-- Whether a call ended without an exception. -/
def Outcome.succeeded (outcome : Outcome) : Bool := outcome.toBool

/-- A board nobody has taken a task from yet: every task is new. -/
def FreshBoard (db : Db) : Prop :=
  db.assignments.rows = [] ∧ ∀ task ∈ db.tasks.rows, task.status = .todo ∧ task.chatId = none

/-! ## A small board

One request by `author` with one new task, two volunteers and two admins.
-/

def exampleUser (id : UserId) (email : String) (systemRole : SystemRole) : User where
  id := id
  email := email
  fullName := email
  systemRole := systemRole
  clearanceLevel := .local
  trustScore := 1000
  isBlocked := false
  avatarUrl := some "avatar.png"
  isEmailVerified := true
  isIdentityVerified := true
  frontlineGrantedByAdmin := false

def author : User := exampleUser 0 "author@example.org" .requester
def firstVolunteer : User := exampleUser 1 "first@example.org" .volunteer
def secondVolunteer : User := exampleUser 2 "second@example.org" .volunteer
def firstAdmin : User := exampleUser 3 "admin@example.org" .admin
def secondAdmin : User := exampleUser 4 "root@example.org" .admin

def exampleRequest (level : ClearanceLevel) : Request :=
  RequestsService.newRequest
    { title := "Допомога"
      requiredClearance := some level
      managingOrganizationId := none } author 0 0

def exampleBoard (level : ClearanceLevel) : Db where
  users :=
    { rows := [author, firstVolunteer, secondVolunteer, firstAdmin, secondAdmin]
      next := 5
      below := by decide
      keys := by decide
      slots := by decide }
  vouches := Table.empty
  requests := Table.empty.append fun id => { exampleRequest level with id := id }
  tasks := Table.empty.append (RequestsService.autoTask 0 author)
  assignments := Table.empty
  delegations := Table.empty
  members := Table.empty
  chats := Table.empty

def exampleOrganization (name : String) (id : OrgId) : Organization where
  id := id
  name := name
  description := none
  logoUrl := none
  bannerUrl := none
  chatId := none
  parentOrgId := none
  tags := some []

/-- The board with two organizations. -/
def organizedBoard (level : ClearanceLevel) : Db :=
  { exampleBoard level with
    organizations :=
      (Table.empty.append (exampleOrganization "Штаб")).append (exampleOrganization "Склад") }

end VolunteerApi
