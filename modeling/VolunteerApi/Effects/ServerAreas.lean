import VolunteerApi.Effects.BoardAreas
import VolunteerApi.Effects.ConversationAreas
import VolunteerApi.Effects.OrganizationAreas
import VolunteerApi.Effects.RequestAreas
import VolunteerApi.Model.Server

/-!
# What the routes of the server touch

Each route stays inside the tables of its service, alone or between the statements of others.
-/

set_option autoImplicit false

namespace VolunteerApi

open Relational Programs Prog Db

/-! ## Programs -/

def TasksOp.scope : TasksOp → Scope
  | .confirmTaskCompletion _ _ _ => confirmationScope
  | _ => boardScope

theorem TasksOp.guarantees (required : Nat) {op : TasksOp} (single : op.transactional = false)
    (db : Db) :
    (op.program required).Guarantees Db.Evolves (Area op.scope) (fun _ _ => True) db := by
  cases op with
  | create requestId dto user => exact (TasksService.create_stays _ _ _).discard.guarantees db
  | update taskId dto user => exact (TasksService.update_guarantees _ _ _ db).discard
  | deleteTask taskId user now => exact (TasksService.deleteTask_stays _ _ _).discard.guarantees db
  | assignVolunteer taskId dto user now => cases single
  | withdrawAssignment taskId user =>
      exact (TasksService.withdrawAssignment_stays _ _).discard.guarantees db
  | updateAssignmentStatus taskId newStatus user =>
      exact (TasksService.updateAssignmentStatus_guarantees _ _ _ db).discard
  | completeTask taskId user now => exact (TasksService.completeTask_guarantees _ _ _ db).discard
  | returnToProgress taskId user now =>
      exact (TasksService.returnToProgress_guarantees _ _ _ db).discard
  | confirmTaskCompletion taskId user now =>
      exact (TasksService.confirmTaskCompletion_guarantees _ _ _ db).discard
  | rejectTask taskId user => exact (TasksService.rejectTask_guarantees _ _ db).discard
  | updateTaskStatusAdmin taskId status user =>
      exact (TasksService.updateTaskStatusAdmin_guarantees _ _ _ db).discard
  | cancelTask taskId user => exact (TasksService.cancelTask_guarantees _ _ db).discard
  | renewTask taskId user => exact (TasksService.renewTask_guarantees _ _ db).discard
  | delegateTask taskId dto user now =>
      exact (TasksService.delegateTask_stays _ _ _ _).discard.guarantees db
  | acceptDelegation taskId organizationId user =>
      exact (TasksService.acceptDelegation_stays _ _ _).discard.guarantees db
  | unacceptDelegation taskId organizationId user =>
      exact (TasksService.unacceptDelegation_stays _ _ _).discard.guarantees db
  | declineDelegation taskId organizationId user =>
      exact (TasksService.declineDelegation_stays _ _ _).discard.guarantees db

theorem TasksOp.settles (required : Nat) {op : TasksOp} (transactional : op.transactional = true)
    (db : Db) :
    (op.program required).Ensures Db.Evolves
      (fun _ written now => ∀ later, now.Evolves later → Area op.scope later (written later))
      id db := by
  cases op with
  | assignVolunteer taskId dto user now =>
      exact (TasksService.assignVolunteer_settles required taskId dto user now db).bind
        fun _ _ _ ended => ended
  | _ => cases transactional

def UsersOp.tables : UsersOp → List TableName
  | .blockUser _ _ _ | .vouchForUser _ _ | .recalculateClearance _ | .restoreVouch _ _
  | .revokeVouchPermanently _ _ => trustTables
  | _ => []

theorem UsersOp.untouched (op : UsersOp) {table : TableName}
    (outside : table ∉ .users :: trustTables) :
    table ∉ (peopleScope op.tables op.writes op.inserts).tables := by
  intro inside
  rcases List.mem_cons.mp inside with rfl | other
  · exact outside List.mem_cons_self
  · refine outside (List.mem_cons_of_mem _ ?_)
    cases op <;> first | exact other | cases other

theorem UsersOp.stays (required : Nat) (op : UsersOp) :
    (op.program required).Stays (Area (peopleScope op.tables op.writes op.inserts)) := by
  cases op with
  | updateProfile targetId dto user => exact (UsersService.updateProfile_stays _ _ _).discard
  | updateAvatar userId avatarUrl => exact (UsersService.updateAvatar_stays _ _).discard
  | blockUser targetId user now => exact (UsersService.blockUser_stays _ _ _ _).discard
  | unblockUser targetId user => exact (UsersService.unblockUser_stays _ _).discard
  | changeRole targetId newRole user => exact (UsersService.changeRole_stays _ _ _).discard
  | updateClearance targetId newLevel user =>
      exact (UsersService.updateClearance_stays _ _ _).discard
  | createUser dto user => exact (UsersService.createUser_stays _ _).discard
  | vouchForUser voucheeId user => exact (UsersService.vouchForUser_stays _ _ _).discard
  | recalculateClearance userId =>
      refine (UsersService.recalculateClearance_stays _ ?_).discard
      exact fun _ _ written => ⟨rfl, written⟩
  | restoreVouch vouchId user => exact (UsersService.restoreVouch_stays _ _ _).discard
  | revokeVouchPermanently vouchId user =>
      exact (UsersService.revokeVouchPermanently_stays _ _ _).discard

theorem RequestsOp.guarantees (op : RequestsOp) (db : Db) :
    op.program.Guarantees Db.Evolves (Area requestScope) (fun _ _ => True) db := by
  cases op with
  | create dto user now => exact (RequestsService.create_stays _ _ _).discard.guarantees db
  | update id dto user => exact (RequestsService.update_guarantees _ _ _ db).discard
  | addInfo id dto user infoId now =>
      exact (RequestsService.addInfo_guarantees _ _ _ _ _ db).discard
  | updateAdditionalInfo id infoId dto user now =>
      exact (RequestsService.updateAdditionalInfo_guarantees _ _ _ _ _ db).discard
  | removeAdditionalInfo id infoId user now =>
      exact (RequestsService.removeAdditionalInfo_guarantees _ _ _ _ db).discard
  | remove id user now => exact (RequestsService.remove_stays _ _ _).discard.guarantees db
  | markAsPendingReview id user =>
      exact (RequestsService.markAsPendingReview_guarantees _ _ db).discard
  | cancel id reason user now => exact (RequestsService.cancel_guarantees _ _ _ _ db).discard
  | confirmCompletion id user => exact (RequestsService.confirmCompletion_guarantees _ _ db).discard
  | returnToProgress id user now =>
      exact (RequestsService.returnToProgress_guarantees _ _ _ db).discard

theorem ContentOp.guarantees (op : ContentOp) (db : Db) :
    op.program.Guarantees Db.Evolves (Area requestScope) (fun _ _ => True) db := by
  cases op with
  | create dto user now => exact (RequestsService.createRequest_stays _ _ _).discard.guarantees db
  | update id dto user => exact (RequestsService.updateCascading_guarantees _ _ _ db).discard

theorem OrganizationsOp.stays_of_keeps {op : OrganizationsOp}
    (keeps : ∀ id user, op ≠ .delete id user) :
    op.program.Stays (OrganizationsArea membershipScope) := by
  cases op with
  | create dto user => exact (OrganizationsService.create_stays _ _).discard
  | addMember id userId role user => exact (OrganizationsService.addMember_stays _ _ _ _).discard
  | removeMember id userId user => exact (OrganizationsService.removeMember_stays _ _ _).discard
  | updateMemberRole id userId role isDeputy user =>
      exact ((canActivate_stays _ _ _ _).bind fun _ =>
        OrganizationsService.updateMemberRole_stays _ _ _ _).discard
  | update id dto user =>
      exact ((canActivate_stays _ _ _ _).bind fun _ =>
        OrganizationsService.update_stays _ _).discard
  | delete id user => exact absurd rfl (keeps id user)
  | leave id user => exact (OrganizationsService.leave_stays _ _).discard
  | join id user message => exact (OrganizationsService.createJoinRequest_stays _ _ _).discard
  | approveRequest id requestId user comment now =>
      exact ((canActivate_stays _ _ _ _).bind fun _ =>
        OrganizationsService.handleJoinRequest_stays _ _ _ _ _).discard
  | rejectRequest id requestId user comment now =>
      exact ((canActivate_stays _ _ _ _).bind fun _ =>
        OrganizationsService.handleJoinRequest_stays _ _ _ _ _).discard
  | createChat id user =>
      exact ((canActivate_stays _ _ _ _).bind fun _ =>
        OrganizationsService.createOrgChat_stays _ _).discard
  | uploadLogo id filename user =>
      exact ((canActivate_stays _ _ _ _).bind fun _ => stays_orThrow.bind fun _ =>
        OrganizationsService.update_stays _ _).discard
  | uploadBanner id filename user =>
      exact ((canActivate_stays _ _ _ _).bind fun _ => stays_orThrow.bind fun _ =>
        OrganizationsService.update_stays _ _).discard

theorem OrganizationsOp.stays (op : OrganizationsOp) :
    op.program.Stays (OrganizationsArea organizationScope) := by
  by_cases deletes : ∃ id user, op = .delete id user
  · obtain ⟨id, user, rfl⟩ := deletes
    exact (((canActivate_stays _ _ _ _).mono fun _ _ area => area.wider _ _ (.ofTables (by decide))).bind
      fun _ => OrganizationsService.delete_stays _ _).discard
  · have keeps : ∀ id user, op ≠ .delete id user := fun id user same => deletes ⟨id, user, same⟩
    exact (stays_of_keeps keeps).mono fun _ _ area => area.wider _ _ (.ofTables (by decide))

theorem ConversationOp.stays (env : ServerEnv) (op : ConversationOp) :
    (op.program env).Stays (Area conversationScope) := by
  have messages {p : Service Unit} (stays : p.Stays (Area messageScope)) :
      p.Stays (Area conversationScope) :=
    stays.mono fun _ _ area => Area.wider _ _ area (.ofTables (by decide))
  cases op with
  | getOrCreateDirect targetUserId user =>
      exact (ChatService.getOrCreateDirectChat_stays _ _ _).discard
  | sendMessage chatId dto user now =>
      exact messages (ChatService.sendMessage_stays _ _ _ _).discard
  | markAsRead chatId user => exact messages (ChatService.markAsRead_stays _ _ _).discard

theorem TaskReportsOp.stays (op : TaskReportsOp) : op.program.Stays (Area reportScope) := by
  cases op with
  | create taskId userId comment files now =>
      exact (TaskReportsService.create_stays _ _ _ _ _).discard
  | findAll taskId userId => exact (TaskReportsService.findByTask_stays _).discard
  | update id userId comment now => exact (TaskReportsService.update_stays _ _ _).discard
  | delete id userId now => exact (TaskReportsService.delete_stays _ _ _).discard
  | verify id userId now => exact (TaskReportsService.verifyReport_stays _ _ _).discard

def personalScope (columns : UserId × String → UserColumn → Prop) (newcomers : User → Prop) :
    Scope where
  tables := [.users, .savedRequests]
  columns := columns
  newcomers := newcomers

theorem PersonalOp.stays (env : AuthEnv) (op : PersonalOp) :
    (op.program env).Stays (Area (personalScope op.writes op.inserts)) := by
  have people {columns : UserId × String → UserColumn → Prop} {newcomers : User → Prop}
      {p : Service Unit} (stays : p.Stays (Area (peopleScope [] columns newcomers))) :
      p.Stays (Area (personalScope columns newcomers)) :=
    stays.mono fun _ _ area => Area.wider _ _ area
      ⟨by simp [peopleScope, personalScope], fun _ _ allowed => allowed, fun _ isNew => isNew⟩
  have saved {columns : UserId × String → UserColumn → Prop} {newcomers : User → Prop}
      {p : Service Unit} (stays : p.Stays (Area savedScope)) :
      p.Stays (Area (personalScope columns newcomers)) :=
    stays.mono fun _ _ area => Area.wider _ _ area (.ofTables (by simp [personalScope]))
  cases op with
  | logout userId => exact people (AuthService.logout_stays _).discard
  | resendVerification userId token now =>
      exact people (AuthService.resendVerificationEmail_stays _ _ _).discard
  | changePassword userId dto salt =>
      exact people (AuthService.changePassword_stays _ _ _ _).discard
  | createUser dto password salt user =>
      exact people (UsersService.createAccount_stays _ _ _ _ _).discard
  | saveRequest requestId userId now =>
      exact saved (RequestsService.saveRequest_stays _ _ _).discard
  | unsaveRequest requestId userId =>
      exact saved (RequestsService.unsaveRequest_stays _ _).discard

theorem VisitorOp.guarantees (env : ServerEnv) (op : VisitorOp) (db : Db) :
    (op.program env).Guarantees Db.Evolves (Area (peopleScope [] (op.writes env) (op.inserts env)))
      (fun _ _ => True) db := by
  cases op with
  | register dto password passwordSalt token salt now =>
      exact (AuthService.registerAccount_guarantees env _ _ _ _ _ _ db).discard
  | login dto salt now => exact (AuthService.login_guarantees env _ _ _ db).discard
  | refresh met refreshToken salt now =>
      exact (AuthService.refresh_guarantees env _ _ _ _ db).discard
  | verifyEmail met token now =>
      exact (AuthService.verifyEmail_stays env _ _ _).discard.guarantees db
  | forgotPassword email code now =>
      exact (AuthService.requestPasswordReset_guarantees env _ _ _ db).discard
  | verifyResetCode email code token now =>
      exact (AuthService.verifyResetCode_guarantees env _ _ _ _ db).discard
  | resetPassword token newPassword salt now =>
      exact (AuthService.resetPassword_stays env _ _ _ _).discard.guarantees db

/-! ## Routes -/

def UserOp.scope : UserOp → Scope
  | .tasks op => op.scope
  | .users op => peopleScope op.tables op.writes op.inserts
  | .requests _ => requestScope
  | .content _ => requestScope
  | .organizations _ => organizationScope
  | .conversations _ => conversationScope
  | .reports _ => reportScope
  | .personal op => personalScope op.writes op.inserts

/-- The columns in the scope are those of the matrix. -/
theorem UserOp.writes_of_scope {op : UserOp} {account : UserId × String} {column : UserColumn}
    (inside : op.scope.columns account column) : op.writes account column := by
  cases op with
  | tasks op => cases op <;> exact inside
  | users op => exact inside
  | personal op => exact inside
  | _ => exact inside.elim

theorem UserOp.inserts_of_scope {op : UserOp} {user : User} (inside : op.scope.newcomers user) :
    op.inserts user := by
  cases op with
  | tasks op => cases op <;> exact inside
  | users op => exact inside
  | personal op => exact inside
  | _ => exact inside.elim

theorem UserOp.guarantees (env : ServerEnv) {op : UserOp} (single : op.transactional = false)
    (db : Db) :
    (op.program env).Guarantees Db.Evolves (Area op.scope) (fun _ _ => True) db := by
  cases op with
  | tasks op => exact op.guarantees env.required single db
  | users op => exact (op.stays env.required).guarantees db
  | requests op => exact op.guarantees db
  | content op => exact op.guarantees db
  | organizations op => exact (op.stays.mono fun _ _ area => area.toArea).guarantees db
  | conversations op => exact (op.stays env).guarantees db
  | reports op => exact op.stays.guarantees db
  | personal op => exact (op.stays env.auth).guarantees db

theorem UserOp.settles (env : ServerEnv) {op : UserOp} (transactional : op.transactional = true)
    (db : Db) :
    (op.program env).Ensures Db.Evolves
      (fun _ written now => ∀ later, now.Evolves later → Area op.scope later (written later))
      id db := by
  cases op with
  | tasks op => exact op.settles env.required transactional db
  | _ => cases transactional

/-- A call that runs alone changes no other table. -/
theorem UserOp.area (env : ServerEnv) (db : Db) (op : UserOp) :
    Area op.scope db (op.run env db).2 := by
  unfold UserOp.run
  split
  case isTrue transactional =>
    exact (op.settles env transactional db).runTx Db.Evolves.refl Area.refl
  case isFalse several =>
    exact (op.guarantees env (by simpa using several) db).run Db.Evolves.refl Area.refl Area.trans

theorem VisitorOp.area (env : ServerEnv) (db : Db) (op : VisitorOp) :
    Area (peopleScope [] (op.writes env) (op.inserts env)) db (op.run env db).2 :=
  (op.guarantees env db).run Db.Evolves.refl Area.refl Area.trans

/-! ## Sessions -/

theorem UserOp.session_keeps (env : ServerEnv) (op : UserOp) (db : Db) :
    (op.session env).Keeps Db.Evolves (Area op.scope) db := by
  unfold UserOp.session
  split
  case isTrue transactional => exact op.settles env transactional db
  case isFalse several => exact op.guarantees env (by simpa using several) db

theorem VisitorOp.session_keeps (env : ServerEnv) (op : VisitorOp) (db : Db) :
    (op.session env).Keeps Db.Evolves (Area (peopleScope [] (op.writes env) (op.inserts env))) db :=
  op.guarantees env db

inductive Route where
  | user (op : UserOp)
  | visitor (op : VisitorOp)

def Route.session (env : ServerEnv) : Route → ServerSession
  | .user op => op.session env
  | .visitor op => op.session env

def Route.scope (env : ServerEnv) : Route → Scope
  | .user op => op.scope
  | .visitor op => peopleScope [] (op.writes env) (op.inserts env)

theorem Route.session_keeps (env : ServerEnv) (route : Route) (db : Db) :
    (route.session env).Keeps Db.Evolves (Area (route.scope env)) db := by
  cases route with
  | user op => exact op.session_keeps env db
  | visitor op => exact op.session_keeps env db

section Interleaved

variable {ι : Type} [DecidableEq ι]

abbrev ServerSessions (ι : Type) := Sessions ι Db TaskId HttpException Unit

/-- All calls at their first statement. -/
def serve (env : ServerEnv) (db : Db) (calls : ι → Route) : ServerSessions ι where
  store := db
  session i := (calls i).session env
  holder _ := none

/-- What every call that is executed in the second part keeps to, its statements keep to. -/
theorem serve_along {along : Db → Db → Prop} (start : ∀ db, along db db)
    (further : ∀ db mid after, along db mid → along mid after → along db after) (env : ServerEnv)
    (db : Db) (calls : ι → Route) (first second : List ι)
    (within : ∀ i ∈ second, ∀ db after, Area ((calls i).scope env) db after → along db after) :
    along (execute Sessions.step (serve env db calls) first).store
      (execute Sessions.step (serve env db calls) (first ++ second)).store := by
  have cooperative : (serve env db calls).Cooperative Db.Evolves
      fun i => Area ((calls i).scope env) := fun i => (calls i).session_keeps env db
  have evolves : ∀ i db after, Area ((calls i).scope env) db after → db.Evolves after :=
    fun _ _ _ area => area.evolves
  obtain ⟨_, reached⟩ := Sessions.execute_cooperative Evolves.refl Evolves.trans
    (fun _ => Area.refl) evolves Evolves.refl Evolves.trans cooperative first
    fun i _ => evolves i
  rw [execute_append]
  exact (Sessions.execute_cooperative Evolves.refl Evolves.trans (fun _ => Area.refl) evolves
    start further reached second within).1

end Interleaved

end VolunteerApi
