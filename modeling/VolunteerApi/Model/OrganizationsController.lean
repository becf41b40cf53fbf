import VolunteerApi.Model.OrganizationsService

/-!
# The routes of the organizations

`OrganizationRoleGuard` and the routes of `modules/organizations/organizations.controller.ts`
that write, each with its guard and the service method behind it.  `user` is the user
`JwtAuthGuard` loaded for the call.  The routes of hubs and settings write no row of
the model.
-/

set_option autoImplicit false

namespace VolunteerApi

open Relational Programs

namespace OrganizationRoleGuard

/-- A deputy stands in for a leader, unless the route deletes or transfers something. -/
def standsIn (requiredRoles : List OrgRole) (path : String) (membership : OrganizationMember) :
    Bool :=
  .leader ∈ requiredRoles ∧ membership.isDeputy = true ∧
    includes path "delete" = false ∧ includes path "transfer" = false

/-- `requiredRoles` are those of `@Roles`, `path` is `request.route.path`. -/
def canActivate (requiredRoles : List OrgRole) (path : String) (organizationId : OrgId)
    (user : User) : Service Unit :=
  if user.systemRole = .admin then return ()
  else do
    let found ← Prog.query fun db => db.findMember organizationId user.id
    let membership ← Prog.orThrow found (.forbidden "Ви не є учасником цієї організації")
    Prog.throwIf
      (standsIn requiredRoles path membership = false ∧ membership.orgRole ∉ requiredRoles)
      (.forbidden "Недостатньо прав для виконання цієї дії")

end OrganizationRoleGuard

namespace OrganizationsController

open OrganizationRoleGuard

def updateMemberRole (id : OrgId) (userId : UserId) (role : BodyValue OrgRole)
    (isDeputy : BodyValue Bool) (user : User) : Service OrganizationMember := do
  canActivate [.leader] "/api/organizations/:id/members/:userId/role" id user
  OrganizationsService.updateMemberRole id userId role isDeputy

def update (id : OrgId) (dto : UpdateOrgDto) (user : User) : Service Organization := do
  canActivate [.leader] "/api/organizations/:id" id user
  OrganizationsService.update id dto

def delete (id : OrgId) (user : User) : Service Unit := do
  canActivate [.leader] "/api/organizations/:id" id user
  OrganizationsService.delete id user

def approveRequest (id : OrgId) (requestId : JoinRequestId) (user : User)
    (comment : Option (Option String)) (now : Time) : Service Unit := do
  canActivate [.leader, .coordinator]
    "/api/organizations/:id/join-requests/:requestId/approve" id user
  OrganizationsService.handleJoinRequest requestId true user comment now

def rejectRequest (id : OrgId) (requestId : JoinRequestId) (user : User)
    (comment : Option (Option String)) (now : Time) : Service Unit := do
  canActivate [.leader, .coordinator]
    "/api/organizations/:id/join-requests/:requestId/reject" id user
  OrganizationsService.handleJoinRequest requestId false user comment now

def createChat (id : OrgId) (user : User) : Service Organization := do
  canActivate [.leader, .coordinator] "/api/organizations/:id/create-chat" id user
  OrganizationsService.createOrgChat id user

/-- `filename` is the name the upload was stored under, if one was sent. -/
def uploadLogo (id : OrgId) (filename : Option String) (user : User) : Service Organization := do
  canActivate [.leader] "/api/organizations/:id/upload-logo" id user
  let file ← Prog.orThrow filename (.badRequest "Файл не передано")
  OrganizationsService.update id
    { logoUrl := .value (some ("/uploads/organizations/" ++ file)) }

def uploadBanner (id : OrgId) (filename : Option String) (user : User) :
    Service Organization := do
  canActivate [.leader] "/api/organizations/:id/upload-banner" id user
  let file ← Prog.orThrow filename (.badRequest "Файл не передано")
  OrganizationsService.update id
    { bannerUrl := .value (some ("/uploads/organizations/" ++ file)) }

end OrganizationsController

/-! ## Calls -/

inductive OrganizationsOp where
  | create (dto : CreateOrgDto) (user : User)
  | addMember (id : OrgId) (userId : UserId) (role : OrgRole) (user : User)
  | removeMember (id : OrgId) (userId : UserId) (user : User)
  | updateMemberRole (id : OrgId) (userId : UserId) (role : BodyValue OrgRole)
      (isDeputy : BodyValue Bool) (user : User)
  | update (id : OrgId) (dto : UpdateOrgDto) (user : User)
  | delete (id : OrgId) (user : User)
  | leave (id : OrgId) (user : User)
  | join (id : OrgId) (user : User) (message : Option String)
  | approveRequest (id : OrgId) (requestId : JoinRequestId) (user : User)
      (comment : Option (Option String)) (now : Time)
  | rejectRequest (id : OrgId) (requestId : JoinRequestId) (user : User)
      (comment : Option (Option String)) (now : Time)
  | createChat (id : OrgId) (user : User)
  | uploadLogo (id : OrgId) (filename : Option String) (user : User)
  | uploadBanner (id : OrgId) (filename : Option String) (user : User)

namespace OrganizationsOp

def run (db : Db) : OrganizationsOp → Outcome × Db
  | .create dto user => ended ((OrganizationsService.create dto user).run db)
  | .addMember id userId role user =>
      ended ((OrganizationsService.addMember id userId role user).run db)
  | .removeMember id userId user =>
      ended ((OrganizationsService.removeMember id userId user).run db)
  | .updateMemberRole id userId role isDeputy user =>
      ended ((OrganizationsController.updateMemberRole id userId role isDeputy user).run db)
  | .update id dto user => ended ((OrganizationsController.update id dto user).run db)
  | .delete id user => ended ((OrganizationsController.delete id user).run db)
  | .leave id user => ended ((OrganizationsService.leave id user).run db)
  | .join id user message =>
      ended ((OrganizationsService.createJoinRequest id user message).run db)
  | .approveRequest id requestId user comment now =>
      ended ((OrganizationsController.approveRequest id requestId user comment now).run db)
  | .rejectRequest id requestId user comment now =>
      ended ((OrganizationsController.rejectRequest id requestId user comment now).run db)
  | .createChat id user => ended ((OrganizationsController.createChat id user).run db)
  | .uploadLogo id filename user =>
      ended ((OrganizationsController.uploadLogo id filename user).run db)
  | .uploadBanner id filename user =>
      ended ((OrganizationsController.uploadBanner id filename user).run db)

def step (db : Db) (op : OrganizationsOp) : Db := (op.run db).2

/-- The user who makes the call. -/
def caller : OrganizationsOp → User
  | .create _ user | .addMember _ _ _ user | .removeMember _ _ user
  | .updateMemberRole _ _ _ _ user | .update _ _ user | .delete _ user | .leave _ user
  | .join _ user _ | .approveRequest _ _ user _ _ | .rejectRequest _ _ user _ _
  | .createChat _ user | .uploadLogo _ _ user | .uploadBanner _ _ user => user

end OrganizationsOp

end VolunteerApi
