import VolunteerApi.Model.AuthLibraries
import VolunteerApi.Model.DirectChats
import VolunteerApi.Model.JwtStrategy
import VolunteerApi.Model.OrganizationsController
import VolunteerApi.Model.Passwords
import VolunteerApi.Model.ReadMarks
import VolunteerApi.Model.RequestCascade
import VolunteerApi.Model.TaskReportsService
import VolunteerApi.Programs.Sessions

/-!
# The server

Every route that writes, with the program it runs.  A route behind `JwtAuthGuard` is called with
the payload of a token; the guard loads the user whom the payload names, and the route acts for
that user.  `assignVolunteer` is the only method that opens a transaction.

`Call.step` executes a call from its first statement to its last before the next one begins.
`UserOp.session` and `VisitorOp.session` are the same programs for calls that interleave.
-/

set_option autoImplicit false

namespace VolunteerApi

open Relational Programs

/-- What the programs take from outside the repository, and from `process.env`.  The two orders
are those of rows that a query asks for without `ORDER BY`. -/
structure ServerEnv where
  auth : AuthEnv
  parse : String → Option (BodyValue UserId)
  required : Nat
  found : OrderBy fun _ _ : Chat => True
  returned : OrderBy fun _ _ : Message => True

/-! ## Routes for an authenticated user -/

/-- Creating and editing requests with all the columns of the model. -/
inductive ContentOp where
  | create (dto : NewRequestDto) (user : User) (now : Time)
  | update (id : RequestId) (dto : LocatedEditDto) (user : User)

inductive ConversationOp where
  | getOrCreateDirect (targetUserId : UserId) (user : User)
  | sendMessage (chatId : ChatId) (dto : CreateMessageDto) (user : User) (now : Time)
  | markAsRead (chatId : ChatId) (user : User)

inductive PersonalOp where
  | logout (userId : UserId)
  | resendVerification (userId : UserId) (token : String) (now : Time)
  | changePassword (userId : UserId) (dto : ChangePasswordDto) (salt : String)
  | createUser (dto : AdminCreateUserDto) (password salt : String) (user : User)
  | saveRequest (requestId : RequestId) (userId : UserId) (now : Time)
  | unsaveRequest (requestId : RequestId) (userId : UserId)

inductive UserOp where
  | tasks (op : TasksOp)
  | users (op : UsersOp)
  | requests (op : RequestsOp)
  | content (op : ContentOp)
  | organizations (op : OrganizationsOp)
  | conversations (op : ConversationOp)
  | reports (op : TaskReportsOp)
  | personal (op : PersonalOp)

/-! ### The acting user

`recalculateClearance` is no route, `createUser` is `PersonalOp.createUser`, and creating and
editing a request are `ContentOp`. -/

def TasksOp.caller : TasksOp → User
  | .create _ _ user | .update _ _ user | .deleteTask _ user _ | .assignVolunteer _ _ user _
  | .withdrawAssignment _ user | .updateAssignmentStatus _ _ user | .completeTask _ user _
  | .returnToProgress _ user _ | .confirmTaskCompletion _ user _ | .rejectTask _ user
  | .updateTaskStatusAdmin _ _ user | .cancelTask _ user | .renewTask _ user
  | .delegateTask _ _ user _ | .acceptDelegation _ _ user | .unacceptDelegation _ _ user
  | .declineDelegation _ _ user => user

def UsersOp.By (user : User) : UsersOp → Prop
  | .updateProfile _ _ caller | .blockUser _ caller _ | .unblockUser _ caller
  | .changeRole _ _ caller | .updateClearance _ _ caller | .vouchForUser _ caller
  | .restoreVouch _ caller | .revokeVouchPermanently _ caller => caller = user
  | .updateAvatar userId _ => userId = user.id
  | .createUser _ _ | .recalculateClearance _ => False

def RequestsOp.By (user : User) : RequestsOp → Prop
  | .addInfo _ _ caller _ _ | .updateAdditionalInfo _ _ _ caller _
  | .removeAdditionalInfo _ _ caller _ | .remove _ caller _ | .markAsPendingReview _ caller
  | .cancel _ _ caller _ | .confirmCompletion _ caller | .returnToProgress _ caller _ =>
      caller = user
  | .create _ _ _ | .update _ _ _ => False

def ContentOp.caller : ContentOp → User
  | .create _ user _ | .update _ _ user => user

def ConversationOp.caller : ConversationOp → User
  | .getOrCreateDirect _ user | .sendMessage _ _ user _ | .markAsRead _ user => user

/-- `update` is not told who calls it. -/
def TaskReportsOp.callerId : TaskReportsOp → UserId
  | .create _ userId _ _ _ | .findAll _ userId | .update _ userId _ _ | .delete _ userId _
  | .verify _ userId _ => userId

def PersonalOp.By (user : User) : PersonalOp → Prop
  | .logout userId | .resendVerification userId _ _ | .changePassword userId _ _
  | .saveRequest _ userId _ | .unsaveRequest _ userId => userId = user.id
  | .createUser _ _ _ caller => caller = user

/-- The route is called by this user. -/
def UserOp.By (user : User) : UserOp → Prop
  | .tasks op => op.caller = user
  | .users op => op.By user
  | .requests op => op.By user
  | .content op => op.caller = user
  | .organizations op => op.caller = user
  | .conversations op => op.caller = user
  | .reports op => op.callerId = user.id
  | .personal op => op.By user

/-! ### The programs -/

def TasksOp.program (required : Nat) : TasksOp → Service Unit
  | .create requestId dto user => (TasksService.create requestId dto user).discard
  | .update taskId dto user => (TasksService.update taskId dto user).discard
  | .deleteTask taskId user now => (TasksService.deleteTask taskId user now).discard
  | .assignVolunteer taskId dto user now =>
      (TasksService.assignVolunteer required taskId dto user now).discard
  | .withdrawAssignment taskId user => (TasksService.withdrawAssignment taskId user).discard
  | .updateAssignmentStatus taskId newStatus user =>
      (TasksService.updateAssignmentStatus taskId newStatus user).discard
  | .completeTask taskId user now => (TasksService.completeTask taskId user now).discard
  | .returnToProgress taskId user now => (TasksService.returnToProgress taskId user now).discard
  | .confirmTaskCompletion taskId user now =>
      (TasksService.confirmTaskCompletion taskId user now).discard
  | .rejectTask taskId user => (TasksService.rejectTask taskId user).discard
  | .updateTaskStatusAdmin taskId status user =>
      (TasksService.updateTaskStatusAdmin taskId status user).discard
  | .cancelTask taskId user => (TasksService.cancelTask taskId user).discard
  | .renewTask taskId user => (TasksService.renewTask taskId user).discard
  | .delegateTask taskId dto user now => (TasksService.delegateTask taskId dto user now).discard
  | .acceptDelegation taskId organizationId user =>
      (TasksService.acceptDelegation taskId organizationId user).discard
  | .unacceptDelegation taskId organizationId user =>
      (TasksService.unacceptDelegation taskId organizationId user).discard
  | .declineDelegation taskId organizationId user =>
      (TasksService.declineDelegation taskId organizationId user).discard

def UsersOp.program (required : Nat) : UsersOp → Service Unit
  | .updateProfile targetId dto user => (UsersService.updateProfile targetId dto user).discard
  | .updateAvatar userId avatarUrl => (UsersService.updateAvatar userId avatarUrl).discard
  | .blockUser targetId user now => (UsersService.blockUser required targetId user now).discard
  | .unblockUser targetId user => (UsersService.unblockUser targetId user).discard
  | .changeRole targetId newRole user => (UsersService.changeRole targetId newRole user).discard
  | .updateClearance targetId newLevel user =>
      (UsersService.updateClearance targetId newLevel user).discard
  | .createUser dto user => (UsersService.createUser dto user).discard
  | .vouchForUser voucheeId user => (UsersService.vouchForUser required voucheeId user).discard
  | .recalculateClearance userId => (UsersService.recalculateClearance required userId).discard
  | .restoreVouch vouchId user => (UsersService.restoreVouch required vouchId user).discard
  | .revokeVouchPermanently vouchId user =>
      (UsersService.revokeVouchPermanently required vouchId user).discard

def RequestsOp.program : RequestsOp → Service Unit
  | .create dto user now => (RequestsService.create dto user now).discard
  | .update id dto user => (RequestsService.update id dto user).discard
  | .addInfo id dto user infoId now => (RequestsService.addInfo id dto user infoId now).discard
  | .updateAdditionalInfo id infoId dto user now =>
      (RequestsService.updateAdditionalInfo id infoId dto user now).discard
  | .removeAdditionalInfo id infoId user now =>
      (RequestsService.removeAdditionalInfo id infoId user now).discard
  | .remove id user now => (RequestsService.remove id user now).discard
  | .markAsPendingReview id user => (RequestsService.markAsPendingReview id user).discard
  | .cancel id reason user now => (RequestsService.cancel id reason user now).discard
  | .confirmCompletion id user => (RequestsService.confirmCompletion id user).discard
  | .returnToProgress id user now => (RequestsService.returnToProgress id user now).discard

def ContentOp.program : ContentOp → Service Unit
  | .create dto user now => (RequestsService.createRequest dto user now).discard
  | .update id dto user => (RequestsService.updateCascading id dto user).discard

def OrganizationsOp.program : OrganizationsOp → Service Unit
  | .create dto user => (OrganizationsService.create dto user).discard
  | .addMember id userId role user => (OrganizationsService.addMember id userId role user).discard
  | .removeMember id userId user => (OrganizationsService.removeMember id userId user).discard
  | .updateMemberRole id userId role isDeputy user =>
      (OrganizationsController.updateMemberRole id userId role isDeputy user).discard
  | .update id dto user => (OrganizationsController.update id dto user).discard
  | .delete id user => (OrganizationsController.delete id user).discard
  | .leave id user => (OrganizationsService.leave id user).discard
  | .join id user message => (OrganizationsService.createJoinRequest id user message).discard
  | .approveRequest id requestId user comment now =>
      (OrganizationsController.approveRequest id requestId user comment now).discard
  | .rejectRequest id requestId user comment now =>
      (OrganizationsController.rejectRequest id requestId user comment now).discard
  | .createChat id user => (OrganizationsController.createChat id user).discard
  | .uploadLogo id filename user => (OrganizationsController.uploadLogo id filename user).discard
  | .uploadBanner id filename user =>
      (OrganizationsController.uploadBanner id filename user).discard

def ConversationOp.program (env : ServerEnv) : ConversationOp → Service Unit
  | .getOrCreateDirect targetUserId user =>
      (ChatService.getOrCreateDirectChat env.found user targetUserId).discard
  | .sendMessage chatId dto user now => (ChatService.sendMessage chatId user dto now).discard
  | .markAsRead chatId user => (ChatService.markAsRead env.returned chatId user).discard

def TaskReportsOp.program : TaskReportsOp → Service Unit
  | .create taskId userId comment files now =>
      (TaskReportsService.create taskId userId comment files now).discard
  | .findAll taskId _ => (TaskReportsService.findByTask taskId).discard
  | .update id _ comment now => (TaskReportsService.update id comment now).discard
  | .delete id userId now => (TaskReportsService.delete id userId now).discard
  | .verify id userId now => (TaskReportsService.verifyReport id userId now).discard

def PersonalOp.program (env : AuthEnv) : PersonalOp → Service Unit
  | .logout userId => (AuthService.logout userId).discard
  | .resendVerification userId token now =>
      (AuthService.resendVerificationEmail userId token now).discard
  | .changePassword userId dto salt => (AuthService.changePassword env userId dto salt).discard
  | .createUser dto password salt user =>
      (UsersService.createAccount env dto password salt user).discard
  | .saveRequest requestId userId now =>
      (RequestsService.saveRequest requestId userId now).discard
  | .unsaveRequest requestId userId => (RequestsService.unsaveRequest requestId userId).discard

def UserOp.program (env : ServerEnv) : UserOp → Service Unit
  | .tasks op => op.program env.required
  | .users op => op.program env.required
  | .requests op => op.program
  | .content op => op.program
  | .organizations op => op.program
  | .conversations op => op.program env
  | .reports op => op.program
  | .personal op => op.program env.auth

def TasksOp.transactional : TasksOp → Bool
  | .assignVolunteer _ _ _ _ => true
  | _ => false

def UserOp.transactional : UserOp → Bool
  | .tasks op => op.transactional
  | _ => false

def UserOp.run (env : ServerEnv) (db : Db) (op : UserOp) : Outcome × Db :=
  if op.transactional then (op.program env).runTx db else (op.program env).run db

/-! ## Routes for everybody -/

inductive VisitorOp where
  | register (dto : RegisterDto) (password passwordSalt token salt : String) (now : Time)
  | login (dto : LoginDto) (salt : String) (now : Time)
  | refresh (met : OrderBy fun _ _ : User => True) (refreshToken salt : String) (now : Time)
  | verifyEmail (met : OrderBy fun _ _ : User => True) (token : Option String) (now : Time)
  | forgotPassword (email code : String) (now : Time)
  | verifyResetCode (email code token : String) (now : Time)
  | resetPassword (token newPassword salt : String) (now : Time)

def VisitorOp.program (env : ServerEnv) : VisitorOp → Service Unit
  | .register dto password passwordSalt token salt now =>
      (AuthService.registerAccount env.auth dto password passwordSalt token salt now).discard
  | .login dto salt now => (AuthService.login env.auth dto salt now).discard
  | .refresh met refreshToken salt now =>
      (AuthController.refresh env.auth env.parse met refreshToken salt now).discard
  | .verifyEmail met token now => (AuthService.verifyEmail met token now).discard
  | .forgotPassword email code now => (AuthService.requestPasswordReset email code now).discard
  | .verifyResetCode email code token now =>
      (AuthService.verifyResetCode email code token now).discard
  | .resetPassword token newPassword salt now =>
      (AuthService.resetPassword env.auth token newPassword salt now).discard

def VisitorOp.run (env : ServerEnv) (db : Db) (op : VisitorOp) : Outcome × Db :=
  (op.program env).run db

/-! ## Calls -/

inductive Call where
  | user (payload : JwtClaims) (op : User → UserOp) (own : ∀ user, (op user).By user)
  | visitor (op : VisitorOp)

def Call.run (env : ServerEnv) (db : Db) : Call → Outcome × Db
  | .user payload op _ =>
      match ((JwtStrategy.validate payload).run db).1 with
      | .ok loaded => (op loaded).run env db
      | .error error => (.error error, db)
  | .visitor op => op.run env db

def Call.step (env : ServerEnv) (db : Db) (call : Call) : Db := (call.run env db).2

/-! ## Calls that interleave -/

abbrev ServerSession := Session Db TaskId HttpException Unit

def UserOp.session (env : ServerEnv) (op : UserOp) : ServerSession :=
  if op.transactional then .tx (op.program env) id else .auto (op.program env)

def VisitorOp.session (env : ServerEnv) (op : VisitorOp) : ServerSession := .auto (op.program env)

/-! ## A small server -/

def exampleServer : ServerEnv where
  auth := plainTextEnv
  parse _ := none
  required := 3
  found := OrderBy.asStored
  returned := OrderBy.asStored

/-- The payload of a token for the user. -/
def User.claims (user : User) : JwtClaims where
  sub := user.id
  email := user.email
  role := user.systemRole
  clearance := user.clearanceLevel
  iat := 0
  exp := 900

/-- The first volunteer takes the task of the board. -/
def takingCall : Call :=
  .user firstVolunteer.claims (fun user => .tasks (.assignVolunteer 0 ⟨none⟩ user 1)) fun _ => rfl

end VolunteerApi
