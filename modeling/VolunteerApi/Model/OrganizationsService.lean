import VolunteerApi.Model.System

/-!
# `OrganizationsService` and its endpoints

The methods of `modules/organizations/organizations.service.ts` that write
organizations, memberships and join requests, the guard in front of some of the
routes, and the routes.  Settings and hubs are in `Premises`: no method here reads
them.

`findById` loads an organization with its relations.  `save` writes the row back
as it was loaded; the members it holds were not changed since, so the cascade to
them changes nothing.  A membership is refused where its organization or its user
is not stored, or where the pair is taken.
-/

set_option autoImplicit false

namespace VolunteerApi

open Relational Programs

/-- A column that can be `null` may be given as `null`. -/
structure CreateOrgDto where
  name : String
  description : Option String
  parentOrgId : Option OrgId
  tags : Option (Option (List String))
  deriving DecidableEq, Repr

structure UpdateOrgDto where
  name : BodyValue String := .absent
  description : Option (Option String) := none
  logoUrl : BodyValue (Option String) := .absent
  bannerUrl : BodyValue (Option String) := .absent
  tags : Option (Option (List String)) := none
  deriving DecidableEq, Repr

/-! ## Lookups -/

namespace Db

def findMember (db : Db) (organizationId : OrgId) (userId : UserId) : Option OrganizationMember :=
  db.members.findOne fun member =>
    member.organizationId = organizationId ∧ member.userId = userId

def findJoinRequest (db : Db) (id : JoinRequestId) : Option OrganizationJoinRequest :=
  db.joinRequests.findOne fun request => request.id = id

/-- The relation `children`. -/
def childrenOf (db : Db) (id : OrgId) : List Organization :=
  db.organizations.find fun organization => organization.parentOrgId = some id

end Db

/-! ## Chats -/

namespace ChatService

def newGroupChat (name : String) (participants : List UserId) (type : ChatType)
    (relatedId : Option Nat) (id : ChatId) : Chat where
  id := id
  type := type
  relatedRequestId := if type = .taskChat then relatedId else none
  name := name
  participants := participants
  relatedOrgId := if type = .orgChat then relatedId else none

def createGroupChat (name : String) (participantIds : List UserId) (type : ChatType)
    (relatedId : Option Nat) : Service Chat := do
  let participants ← Prog.query fun db => db.users.find fun user => user.id ∈ participantIds
  Prog.throwIf (chatNameLength < name.length)
    (.queryFailed "value too long for type character varying(255)")
  Prog.execReturning
    (fun db =>
      { db with
        chats := db.chats.append
          (newGroupChat name (participants.map User.id) type relatedId) })
    (fun db => newGroupChat name (participants.map User.id) type relatedId db.chats.next)

end ChatService

namespace OrganizationsService

/-! ## Organizations -/

/-- `@Column({ type: 'varchar', length: 255 })` -/
def organizationNameLength : Nat := 255

def newOrganization (dto : CreateOrgDto) (id : OrgId) : Organization where
  id := id
  name := dto.name
  description := dto.description
  logoUrl := none
  bannerUrl := none
  chatId := none
  parentOrgId := dto.parentOrgId
  tags := dto.tags.getD (some [])

def newMember (organizationId : OrgId) (userId : UserId) (orgRole : OrgRole)
    (id : MembershipId) : OrganizationMember where
  id := id
  organizationId := organizationId
  userId := userId
  orgRole := orgRole
  isActive := true
  isDeputy := false

theorem newMember_id (organizationId : OrgId) (userId : UserId) (orgRole : OrgRole) (n : Nat) :
    (newMember organizationId userId orgRole n).id = n := rfl

/-- `memberRepo.save({ organizationId, userId, orgRole })` -/
def insertMember (organizationId : OrgId) (userId : UserId) (orgRole : OrgRole) :
    Service OrganizationMember :=
  Prog.execOr (.queryFailed "insert on table organization_members violates a constraint")
    fun db =>
      if db.hasOrganization organizationId = true ∧ db.hasUser userId = true then
        (db.members.insert (newMember organizationId userId orgRole)
            (newMember_id organizationId userId orgRole)).map fun members =>
          ({ db with members := members },
            newMember organizationId userId orgRole db.members.next)
      else none

/-- `orgRepo.save(org)` -/
def saveOrganizationRow (organization : Organization) : Service Unit :=
  Prog.exec fun db => { db with organizations := db.organizations.saveAll [organization] }

def checkParent (parentOrgId : Option OrgId) : Service Unit :=
  match parentOrgId with
  | none => return ()
  | some parentOrgId => do
      let parent ← Prog.query fun db => db.findOrganization parentOrgId
      Prog.throwIf (parent = none) (.notFound "Батьківську організацію не знайдено")

/-- The body of the `try` of `create` and of `createOrgChat`. -/
def giveChat (organization : Organization) (participantIds : List UserId) :
    Service Organization := do
  let chat ← ChatService.createGroupChat ("Чат: " ++ organization.name) participantIds .orgChat
    (some organization.id)
  saveOrganizationRow { organization with chatId := some chat.id }
  return { organization with chatId := some chat.id }

/-- The statements are not one transaction.  The `catch` around the chat only logs. -/
def create (dto : CreateOrgDto) (creator : User) : Service Organization := do
  checkParent dto.parentOrgId
  Prog.throwIf (organizationNameLength < dto.name.length)
    (.queryFailed "value too long for type character varying(255)")
  let organization ← Prog.execReturning
    (fun db => { db with organizations := db.organizations.append (newOrganization dto) })
    (fun db => newOrganization dto db.organizations.next)
  let _leader ← insertMember organization.id creator.id .leader
  Prog.recover (giveChat organization [creator.id]) fun _ => return organization

/-- An organization with the relation `children`. -/
structure LoadedOrganization where
  organization : Organization
  children : List Organization

/-- Without the ancestors, which no column holds; `getAncestors` collects them. -/
def findById (id : OrgId) : Service LoadedOrganization := do
  let found ← Prog.query fun db =>
    (db.findOrganization id).map fun organization =>
      LoadedOrganization.mk organization (db.childrenOf id)
  Prog.orThrow found (.notFound "Організацію не знайдено")

/-- `Object.assign(org, dto)`, or nothing when the database refuses the row. -/
def UpdateOrgDto.assign (dto : UpdateOrgDto) (organization : Organization) :
    Option Organization := do
  let name ← (dto.name.over organization.name).filter fun name =>
    name.length ≤ organizationNameLength
  let logoUrl ← dto.logoUrl.over organization.logoUrl
  let bannerUrl ← dto.bannerUrl.over organization.bannerUrl
  return { organization with
    name := name
    description := dto.description.getD organization.description
    logoUrl := logoUrl
    bannerUrl := bannerUrl
    tags := dto.tags.getD organization.tags }

def update (id : OrgId) (dto : UpdateOrgDto) : Service Organization := do
  let loaded ← findById id
  let organization ← Prog.orThrow (UpdateOrgDto.assign dto loaded.organization)
    (.queryFailed "update of table organizations violates a constraint")
  saveOrganizationRow organization
  return organization

/-- `checkLeaderOrAdmin`: a coordinator passes as well. -/
def checkLeaderOrAdmin (organizationId : OrgId) (user : User) : Service Unit :=
  if user.systemRole = .admin then return ()
  else do
    let membership ← Prog.query fun db => db.findMember organizationId user.id
    Prog.throwIf ((membership.any TasksService.isCoordinating) = false)
      (.forbidden "Потрібні права лідера або координатора організації")

/-- `ON DELETE SET NULL` -/
def orphanedPatch : Patch Organization.id Organization.id where
  run organization := { organization with parentOrgId := none }

/-- `ON DELETE SET NULL` -/
def unmanagedPatch : Patch Request.id Request.id where
  run request := { request with managingOrganizationId := none }

/-- `orgRepo.remove(org)`, with what the foreign keys do to the rows that refer to it. -/
def removeOrganizationRow (id : OrgId) : Service Unit :=
  Prog.exec fun db =>
    { db with
      organizations := (db.organizations.delete fun organization => organization.id = id).update
        (fun organization => organization.parentOrgId = some id) orphanedPatch
      members := db.members.delete fun member => member.organizationId = id
      joinRequests := db.joinRequests.delete fun request => request.organizationId = id
      delegations := db.delegations.delete fun delegation => delegation.organizationId = id
      requests := db.requests.update
        (fun request => request.managingOrganizationId = some id) unmanagedPatch }

def delete (id : OrgId) (requester : User) : Service Unit := do
  checkLeaderOrAdmin id requester
  let loaded ← findById id
  Prog.throwIf (loaded.children ≠ [])
    (.forbidden ("Неможливо видалити організацію, яка має підгрупи. " ++
      "Спочатку видаліть або перенесіть їх."))
  removeOrganizationRow id

def createOrgChat (id : OrgId) (requester : User) : Service Organization := do
  checkLeaderOrAdmin id requester
  let loaded ← findById id
  Prog.throwIf (loaded.organization.chatId ≠ none)
    (.conflict "Чат для цієї організації вже існує")
  let members ← Prog.query fun db =>
    db.members.find fun member => member.organizationId = id ∧ member.isActive = true
  let participantIds :=
    if members = [] then [requester.id] else members.map OrganizationMember.userId
  let _organization ← Prog.recover (giveChat loaded.organization participantIds) fun _ =>
    .fail (.internal "Не вдалося створити чат організації")
  let stored ← findById id
  return stored.organization

/-! ## Members -/

def addMember (organizationId : OrgId) (targetUserId : UserId) (role : OrgRole)
    (requester : User) : Service OrganizationMember := do
  checkLeaderOrAdmin organizationId requester
  let existing ← Prog.query fun db => db.findMember organizationId targetUserId
  Prog.throwIf (existing ≠ none) (.conflict "Користувач вже є учасником цієї організації")
  insertMember organizationId targetUserId role

def removeMember (organizationId : OrgId) (targetUserId : UserId) (requester : User) :
    Service Unit := do
  checkLeaderOrAdmin organizationId requester
  Prog.exec fun db =>
    { db with
      members := db.members.delete fun member =>
        member.organizationId = organizationId ∧ member.userId = targetUserId }

def leave (organizationId : OrgId) (user : User) : Service Unit := do
  let found ← Prog.query fun db => db.findMember organizationId user.id
  let membership ← Prog.orThrow found (.notFound "Ви не є учасником цієї організації")
  Prog.onlyIf (membership.orgRole = .leader) do
    let leaders ← Prog.query fun db =>
      db.members.count fun member =>
        member.organizationId = organizationId ∧ member.orgRole = .leader
    Prog.throwIf (leaders ≤ 1)
      (.forbidden "Ви останній лідер. Передайте права або видаліть організацію.")
  Prog.exec fun db =>
    { db with members := db.members.delete fun member => member.id = membership.id }

/-- A new leader is no deputy, whatever the body says. -/
def deputyAfter (role : BodyValue OrgRole) (isDeputy : BodyValue Bool) (old : Bool) :
    Option Bool :=
  if role = .value .leader then some false else isDeputy.over old

/-- The member as `updateMemberRole` saves it, or nothing when the database refuses the row. -/
def withRole (role : BodyValue OrgRole) (isDeputy : BodyValue Bool)
    (member : OrganizationMember) : Option OrganizationMember := do
  let orgRole ← role.over member.orgRole
  let isDeputy ← deputyAfter role isDeputy member.isDeputy
  return { member with orgRole := orgRole, isDeputy := isDeputy }

def updateMemberRole (organizationId : OrgId) (userId : UserId) (role : BodyValue OrgRole)
    (isDeputy : BodyValue Bool) : Service OrganizationMember := do
  let found ← Prog.query fun db => db.findMember organizationId userId
  let member ← Prog.orThrow found (.notFound "Учасника не знайдено")
  let updated ← Prog.orThrow (withRole role isDeputy member)
    (.queryFailed "update of table organization_members violates a constraint")
  Prog.exec fun db => { db with members := db.members.saveAll [updated] }
  return updated

/-! ## Join requests -/

def newJoinRequest (organizationId : OrgId) (userId : UserId) (message : Option String)
    (id : JoinRequestId) : OrganizationJoinRequest where
  id := id
  organizationId := organizationId
  userId := userId
  message := message
  status := .pending
  reviewedById := none
  reviewComment := none
  reviewedAt := none

def createJoinRequest (organizationId : OrgId) (user : User) (message : Option String) :
    Service OrganizationJoinRequest := do
  let _loaded ← findById organizationId
  let existing ← Prog.query fun db => db.findMember organizationId user.id
  Prog.throwIf (existing ≠ none) (.conflict "Ви вже є учасником цієї організації")
  let pending ← Prog.query fun db =>
    db.joinRequests.findOne fun request =>
      request.organizationId = organizationId ∧ request.userId = user.id ∧
        request.status = .pending
  Prog.throwIf (pending ≠ none) (.conflict "Ви вже надіслали запит на вступ")
  Prog.execOr (.queryFailed "insert on table organization_join_requests violates a constraint")
    fun db =>
      if db.hasOrganization organizationId = true ∧ db.hasUser user.id = true then
        some
          ({ db with
              joinRequests :=
                db.joinRequests.append (newJoinRequest organizationId user.id message) },
            newJoinRequest organizationId user.id message db.joinRequests.next)
      else none

/-- The request as `handleJoinRequest` saves it.  A missing comment leaves the column. -/
def reviewed (approve : Bool) (reviewer : User) (comment : Option (Option String)) (now : Time)
    (request : OrganizationJoinRequest) : OrganizationJoinRequest :=
  { request with
    status := if approve then .approved else .rejected
    reviewedById := some reviewer.id
    reviewComment := comment.getD request.reviewComment
    reviewedAt := some now }

/-- `joinRequestRepo.save(request)` -/
def saveJoinRequestRow (request : OrganizationJoinRequest) : Service Unit :=
  Prog.execOr (.queryFailed "update of table organization_join_requests violates a constraint")
    fun db =>
      if request.reviewedById.all db.hasUser = true then
        some ({ db with joinRequests := db.joinRequests.saveAll [request] }, ())
      else none

/-- The request is saved before the member, outside of a transaction. -/
def handleJoinRequest (requestId : JoinRequestId) (approve : Bool) (reviewer : User)
    (comment : Option (Option String)) (now : Time) : Service Unit := do
  let found ← Prog.query fun db => db.findJoinRequest requestId
  let request ← Prog.orThrow found (.notFound "Запит не знайдено")
  Prog.throwIf (request.status ≠ .pending) (.conflict "Запит вже оброблено")
  saveJoinRequestRow (reviewed approve reviewer comment now request)
  if approve = true then do
    let _member ← insertMember request.organizationId request.userId .member
    return ()
  else return ()

/-! ## The tree -/

structure Ancestor where
  id : OrgId
  name : String
  parentOrgId : Option OrgId
  deriving DecidableEq, Repr

/-- The `while` loop, `fuel` rounds of it at most: `none` when they do not suffice. -/
def ancestorsLoop : Nat → Option OrgId → List Ancestor → Service (Option (List Ancestor))
  | 0, _, _ => return none
  | _ + 1, none, ancestors => return some ancestors
  | fuel + 1, some currentParentId, ancestors => do
      let parent ← Prog.query fun db => db.findOrganization currentParentId
      match parent with
      | none => return some ancestors
      | some parent =>
          ancestorsLoop fuel parent.parentOrgId
            (⟨parent.id, parent.name, parent.parentOrgId⟩ :: ancestors)

def getAncestors (fuel : Nat) (parentOrgId : Option OrgId) : Service (Option (List Ancestor)) :=
  ancestorsLoop fuel parentOrgId []

/-- A member with the relation `user`. -/
structure LoadedMember where
  member : OrganizationMember
  user : Option User

/-- An organization with the relations `children` and `members`.  The relation `children` of a
child is not loaded. -/
structure HierarchyOrganization where
  organization : Organization
  children : List Organization
  members : List LoadedMember

def loadHierarchy (db : Db) (organization : Organization) : HierarchyOrganization where
  organization := organization
  children := db.childrenOf organization.id
  members := (db.members.find fun member => member.organizationId = organization.id).map
    fun member => ⟨member, db.findUser member.userId⟩

/-- Where the query of `getHierarchyTree` starts. -/
def hierarchyRoots (db : Db) : Option OrgId → List Organization
  | some rootOrgId => db.organizations.find fun organization => organization.id = rootOrgId
  | none => db.organizations.find fun organization => organization.parentOrgId = none

def getHierarchyTree (rootOrgId : Option OrgId) : Service (List HierarchyOrganization) :=
  Prog.query fun db => (hierarchyRoots db rootOrgId).map (loadHierarchy db)

end OrganizationsService

end VolunteerApi
