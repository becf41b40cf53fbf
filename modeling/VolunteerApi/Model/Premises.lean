import VolunteerApi.Model.Server
import VolunteerApi.Programs.Within

/-!
# Hubs and settings of organizations

The methods of `OrganizationsService` on `hubs` and `organization_settings`, with their routes.
Both tables stand beside the database of the other methods, which only meet them in `create`,
where the settings are stored right behind the organization, and where the foreign keys act: the
hubs of a deleted organization belong to nobody, and its settings are deleted.
-/

set_option autoImplicit false

namespace VolunteerApi

open Relational Programs

abbrev HubId := Nat
abbrev SettingsId := Nat

/-- The column `location` is written by no method.  Coordinates are in ten-millionths of a degree,
as the columns hold them. -/
structure Hub where
  id : HubId
  name : String
  description : Option String
  address : Option String
  mediaUrl : Option String
  latitude : Option Int
  longitude : Option Int
  organizationId : Option OrgId
  ownerUserId : Option UserId
  isPublic : Bool
  deriving DecidableEq, Repr

structure OrganizationSettings where
  id : SettingsId
  organizationId : OrgId
  allowPublicJoin : Bool
  requireJoinApproval : Bool
  memberInviteAllowed : Bool
  subgroupCreationAllowed : Bool
  mediaUploadAllowed : Bool
  allowedMemberRoles : List OrgRole
  deriving DecidableEq, Repr

/-- The database with its hubs and settings.  `organization_id` of the settings is unique. -/
structure Premises where
  db : Db
  hubs : Table Hub.id Hub.id
  settings : Table OrganizationSettings.id OrganizationSettings.organizationId

abbrev PremisesService (α : Type) := Prog Premises TaskId HttpException α

def Premises.dbPart : Part Premises Db where
  get premises := premises.db
  set premises db := { premises with db := db }
  get_set _ _ := rfl
  set_set _ _ _ := rfl
  set_get _ := rfl

/-- A method that touches neither hubs nor settings. -/
abbrev inDb {α : Type} (p : Service α) : PremisesService α := p.within Premises.dbPart

/-! ## What a body may set -/

/-- The properties of `CreateHubDto` besides the name.  A value the column cannot hold is
`unreadable`, `null` for `isPublic` too. -/
structure HubProperties where
  description : Option (Option String)
  address : BodyValue (Option String)
  mediaUrl : BodyValue (Option String)
  latitude : BodyValue (Option Int)
  longitude : BodyValue (Option Int)
  isPublic : BodyValue Bool

structure CreateHubDto extends HubProperties where
  name : String

/-- What `updateHub` is handed.  The body of its route has no `mediaUrl`, which only an upload
sets. -/
structure UpdateHubDto extends HubProperties where
  name : BodyValue String

def UpdateHubDto.media (url : String) : UpdateHubDto where
  name := .absent
  description := none
  address := .absent
  mediaUrl := .value (some url)
  latitude := .absent
  longitude := .absent
  isPublic := .absent

structure UpdateOrgSettingsDto where
  allowPublicJoin : BodyValue Bool
  requireJoinApproval : BodyValue Bool
  memberInviteAllowed : BodyValue Bool
  subgroupCreationAllowed : BodyValue Bool
  mediaUploadAllowed : BodyValue Bool

/-- `Object.assign(hub, dto)`, or nothing when the database refuses the row. -/
def HubProperties.assign (dto : HubProperties) (hub : Hub) : Option Hub := do
  let address ← dto.address.over hub.address
  let mediaUrl ← dto.mediaUrl.over hub.mediaUrl
  let latitude ← dto.latitude.over hub.latitude
  let longitude ← dto.longitude.over hub.longitude
  let isPublic ← dto.isPublic.over hub.isPublic
  return { hub with
    description := dto.description.getD hub.description
    address := address
    mediaUrl := mediaUrl
    latitude := latitude
    longitude := longitude
    isPublic := isPublic }

def UpdateHubDto.assign (dto : UpdateHubDto) (hub : Hub) : Option Hub := do
  let name ← dto.name.over hub.name
  dto.toHubProperties.assign { hub with name := name }

def UpdateOrgSettingsDto.assign (dto : UpdateOrgSettingsDto) (settings : OrganizationSettings) :
    Option OrganizationSettings := do
  let allowPublicJoin ← dto.allowPublicJoin.over settings.allowPublicJoin
  let requireJoinApproval ← dto.requireJoinApproval.over settings.requireJoinApproval
  let memberInviteAllowed ← dto.memberInviteAllowed.over settings.memberInviteAllowed
  let subgroupCreationAllowed ← dto.subgroupCreationAllowed.over settings.subgroupCreationAllowed
  let mediaUploadAllowed ← dto.mediaUploadAllowed.over settings.mediaUploadAllowed
  return { settings with
    allowPublicJoin := allowPublicJoin
    requireJoinApproval := requireJoinApproval
    memberInviteAllowed := memberInviteAllowed
    subgroupCreationAllowed := subgroupCreationAllowed
    mediaUploadAllowed := mediaUploadAllowed }

namespace OrganizationsService

/-! ## Hubs -/

/-- A hub without anything a body may leave out. -/
def bareHub (orgId : OrgId) (name : String) (creator : User) (id : HubId) : Hub where
  id := id
  name := name
  description := none
  address := none
  mediaUrl := none
  latitude := none
  longitude := none
  organizationId := some orgId
  ownerUserId := some creator.id
  isPublic := false

/-- `hubRepo.save(hub)` for a new hub. -/
def insertHub (orgId : OrgId) (dto : CreateHubDto) (creator : User) : PremisesService Hub :=
  Prog.execOr (.queryFailed "insert on table hubs violates a constraint") fun premises =>
    if premises.db.hasOrganization orgId = true ∧ premises.db.hasUser creator.id = true then
      (dto.assign (bareHub orgId dto.name creator premises.hubs.next)).map fun hub =>
        ({ premises with hubs := premises.hubs.append fun id => { hub with id := id } }, hub)
    else none

def createHub (orgId : OrgId) (dto : CreateHubDto) (creator : User) : PremisesService Hub := do
  inDb (checkLeaderOrAdmin orgId creator)
  insertHub orgId dto creator

/-- `order: { createdAt: 'DESC' }`, with the later row first where two are of the same instant. -/
def getHubs (orgId : OrgId) : PremisesService (List Hub) :=
  Prog.query fun premises =>
    (premises.hubs.find fun hub => hub.organizationId = some orgId).reverse

def findHub (orgId : OrgId) (hubId : HubId) : PremisesService Hub := do
  let found ← Prog.query fun premises => premises.hubs.findOne fun hub =>
    hub.id = hubId ∧ hub.organizationId = some orgId
  Prog.orThrow found (.notFound "Хаб не знайдено в цій організації")

def updateHub (orgId : OrgId) (hubId : HubId) (dto : UpdateHubDto) (requester : User) :
    PremisesService Hub := do
  inDb (checkLeaderOrAdmin orgId requester)
  let hub ← findHub orgId hubId
  let updated ← Prog.orThrow (dto.assign hub)
    (.queryFailed "update of table hubs violates a constraint")
  Prog.exec fun premises => { premises with hubs := premises.hubs.saveAll [updated] }
  return updated

def deleteHub (orgId : OrgId) (hubId : HubId) (requester : User) : PremisesService Unit := do
  inDb (checkLeaderOrAdmin orgId requester)
  let hub ← findHub orgId hubId
  Prog.exec fun premises =>
    { premises with hubs := premises.hubs.delete fun other => other.id = hub.id }

/-! ## Settings -/

def newSettings (orgId : OrgId) (id : SettingsId) : OrganizationSettings where
  id := id
  organizationId := orgId
  allowPublicJoin := false
  requireJoinApproval := true
  memberInviteAllowed := true
  subgroupCreationAllowed := true
  mediaUploadAllowed := true
  allowedMemberRoles := [.member, .coordinator, .leader]

/-- `settingsRepo.save(settingsRepo.create({ organizationId }))` -/
def insertSettings (orgId : OrgId) : PremisesService OrganizationSettings :=
  Prog.execOr (.queryFailed "insert on table organization_settings violates a constraint")
    fun premises =>
      if premises.db.hasOrganization orgId = true then
        (premises.settings.insert (newSettings orgId)).map fun settings =>
          ({ premises with settings := settings }, newSettings orgId premises.settings.next)
      else none

/-- Organizations that have none get theirs when they are asked for. -/
def getSettings (orgId : OrgId) : PremisesService OrganizationSettings := do
  let found ← Prog.query fun premises => premises.settings.findOne fun settings =>
    settings.organizationId = orgId
  match found with
  | some settings => return settings
  | none => insertSettings orgId

def updateSettings (orgId : OrgId) (dto : UpdateOrgSettingsDto) :
    PremisesService OrganizationSettings := do
  let settings ← getSettings orgId
  let updated ← Prog.orThrow (dto.assign settings)
    (.queryFailed "update of table organization_settings violates a constraint")
  Prog.exec fun premises => { premises with settings := premises.settings.saveAll [updated] }
  return updated

theorem newOrganization_id (dto : CreateOrgDto) (n : Nat) : (newOrganization dto n).id = n := rfl

/-- `create` with the statement that stores the settings. -/
def createWithSettings (dto : CreateOrgDto) (creator : User) : PremisesService Organization := do
  inDb do
    checkParent dto.parentOrgId
    Prog.throwIf (organizationNameLength < dto.name.length)
      (.queryFailed "value too long for type character varying(255)")
  let organization ← inDb (Prog.execReturning
    (fun db =>
      { db with
        organizations := db.organizations.append (newOrganization dto) (newOrganization_id dto) })
    (fun db => newOrganization dto db.organizations.next))
  let _settings ← insertSettings organization.id
  inDb do
    let _leader ← insertMember organization.id creator.id .leader
    Prog.recover (giveChat organization [creator.id]) fun _ => return organization

end OrganizationsService

namespace OrganizationsController

open OrganizationRoleGuard

def updateHub (id : OrgId) (hubId : HubId) (dto : UpdateHubDto) (user : User) :
    PremisesService Hub := do
  inDb (canActivate [.leader, .coordinator] "/api/organizations/:id/hubs/:hubId" id user)
  OrganizationsService.updateHub id hubId { dto with mediaUrl := .absent } user

/-- `filename` is the name the upload was stored under, if one was sent. -/
def uploadHubMedia (id : OrgId) (hubId : HubId) (filename : Option String) (user : User) :
    PremisesService Hub := do
  inDb (canActivate [.leader, .coordinator]
    "/api/organizations/:id/hubs/:hubId/upload-media" id user)
  let file ← Prog.orThrow filename (.badRequest "Файл не передано")
  OrganizationsService.updateHub id hubId (.media ("/uploads/hubs/" ++ file)) user

def deleteHub (id : OrgId) (hubId : HubId) (user : User) : PremisesService Unit := do
  inDb (canActivate [.leader, .coordinator] "/api/organizations/:id/hubs/:hubId" id user)
  OrganizationsService.deleteHub id hubId user

def getSettings (id : OrgId) (user : User) : PremisesService OrganizationSettings := do
  inDb (canActivate [.leader, .coordinator] "/api/organizations/:id/settings" id user)
  OrganizationsService.getSettings id

def updateSettings (id : OrgId) (dto : UpdateOrgSettingsDto) (user : User) :
    PremisesService OrganizationSettings := do
  inDb (canActivate [.leader] "/api/organizations/:id/settings" id user)
  OrganizationsService.updateSettings id dto

end OrganizationsController

/-! ## Calls -/

inductive PremisesOp where
  | createHub (id : OrgId) (dto : CreateHubDto)
  | updateHub (id : OrgId) (hubId : HubId) (dto : UpdateHubDto)
  | uploadHubMedia (id : OrgId) (hubId : HubId) (filename : Option String)
  | deleteHub (id : OrgId) (hubId : HubId)
  | getSettings (id : OrgId)
  | updateSettings (id : OrgId) (dto : UpdateOrgSettingsDto)

def PremisesOp.program (user : User) : PremisesOp → PremisesService Unit
  | .createHub id dto => (OrganizationsService.createHub id dto user).discard
  | .updateHub id hubId dto => (OrganizationsController.updateHub id hubId dto user).discard
  | .uploadHubMedia id hubId filename =>
      (OrganizationsController.uploadHubMedia id hubId filename user).discard
  | .deleteHub id hubId => (OrganizationsController.deleteHub id hubId user).discard
  | .getSettings id => (OrganizationsController.getSettings id user).discard
  | .updateSettings id dto => (OrganizationsController.updateSettings id dto user).discard

/-- `ON DELETE SET NULL` -/
def unhousedPatch : Patch Hub.id Hub.id where
  run hub := { hub with organizationId := none }

/-- What the foreign keys leave when organizations have been deleted.  A deletion is the last
statement of its call. -/
def Premises.cascade (premises : Premises) : Premises :=
  { premises with
    hubs := premises.hubs.update
      (fun hub => hub.organizationId.any fun id => !premises.db.hasOrganization id) unhousedPatch
    settings := premises.settings.delete fun settings =>
      !premises.db.hasOrganization settings.organizationId }

def Call.Founds (call : Call) : Prop :=
  ∃ payload op own user dto creator,
    call = .user payload op own ∧ op user = .organizations (.create dto creator)

inductive PremisesCall where
  | server (call : Call) (other : ¬ call.Founds)
  | create (payload : JwtClaims) (dto : CreateOrgDto)
  | premises (payload : JwtClaims) (op : PremisesOp)

/-- A route behind `JwtAuthGuard`. -/
def Premises.serve (premises : Premises) (payload : JwtClaims)
    (program : User → PremisesService Unit) : Premises :=
  match ((JwtStrategy.validate payload).run premises.db).1 with
  | .ok user => ((program user).run premises).2
  | .error _ => premises

def PremisesCall.step (env : ServerEnv) (premises : Premises) : PremisesCall → Premises
  | .server call _ => { premises with db := call.step env premises.db }.cascade
  | .create payload dto =>
      premises.serve payload fun user =>
        (OrganizationsService.createWithSettings dto user).discard
  | .premises payload op => premises.serve payload fun user => op.program user

end VolunteerApi
