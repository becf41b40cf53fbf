import VolunteerApi.Model.OrganizationsController
import VolunteerApi.Programs.Guarded

/-!
# What a call of the organizations checks and writes

For each call the organization, the membership and the join request it saves, and the
rows it deletes, computed from the database before it.
-/

set_option autoImplicit false

namespace VolunteerApi

open Relational Programs

namespace Db

theorem findOrganization_some {db : Db} {id : OrgId} {organization : Organization}
    (found : db.findOrganization id = some organization) :
    organization ∈ db.organizations.rows ∧ organization.id = id := by
  simpa [findOrganization] using Table.findOne_mem found

theorem findOrganization_of_mem {db : Db} {organization : Organization}
    (member : organization ∈ db.organizations.rows) :
    db.findOrganization organization.id = some organization := Table.findOne_key member

theorem hasOrganization_iff {db : Db} {id : OrgId} :
    db.hasOrganization id = true ↔
      ∃ organization ∈ db.organizations.rows, organization.id = id := by
  rw [hasOrganization, Option.isSome_iff_exists]
  constructor
  · rintro ⟨organization, found⟩
    exact ⟨organization, findOrganization_some found⟩
  · rintro ⟨organization, member, rfl⟩
    exact ⟨organization, findOrganization_of_mem member⟩

theorem findMember_some {db : Db} {organizationId : OrgId} {userId : UserId}
    {member : OrganizationMember} (found : db.findMember organizationId userId = some member) :
    member ∈ db.members.rows ∧ member.organizationId = organizationId ∧
      member.userId = userId := by
  simpa [findMember] using Table.findOne_mem found

theorem findMember_of_mem {db : Db} {member : OrganizationMember}
    (stored : member ∈ db.members.rows) :
    db.findMember member.organizationId member.userId = some member := by
  apply Table.findOne_eq_some stored (by simp)
  intro other otherStored hit
  simp only [decide_eq_true_eq] at hit
  exact Table.eq_of_uniq otherStored stored (by simp [OrganizationMember.slot, hit])

theorem findMember_none {db : Db} {organizationId : OrgId} {userId : UserId} :
    db.findMember organizationId userId = none ↔
      ∀ member ∈ db.members.rows, member.organizationId = organizationId →
        member.userId ≠ userId := by
  simp [findMember, Table.findOne_none]

theorem findMember_none_iff_free {db : Db} {organizationId : OrgId} {userId : UserId}
    {orgRole : OrgRole} {n : Nat} :
    db.findMember organizationId userId = none ↔
      ∀ row ∈ db.members.rows, OrganizationMember.slot row ≠ OrganizationMember.slot
        (OrganizationsService.newMember organizationId userId orgRole n) := by
  rw [findMember_none]
  constructor
  · intro absent row stored same
    obtain ⟨sameOrganization, sameUser⟩ := Prod.mk.inj same
    exact absent row stored sameOrganization sameUser
  · intro free row stored sameOrganization sameUser
    exact free row stored (Prod.ext sameOrganization sameUser)

theorem findJoinRequest_some {db : Db} {id : JoinRequestId} {request : OrganizationJoinRequest}
    (found : db.findJoinRequest id = some request) :
    request ∈ db.joinRequests.rows ∧ request.id = id := by
  simpa [findJoinRequest] using Table.findOne_mem found

end Db

/-! ## The checks -/

/-- Whether `checkLeaderOrAdmin` lets the user pass. -/
def coordinates (db : Db) (organizationId : OrgId) (user : User) : Bool :=
  user.systemRole = .admin ∨
    (db.findMember organizationId user.id).any TasksService.isCoordinating = true

/-- Whether `OrganizationRoleGuard` lets the user pass. -/
def activates (requiredRoles : List OrgRole) (path : String) (db : Db)
    (organizationId : OrgId) (user : User) : Bool :=
  user.systemRole = .admin ∨
    (db.findMember organizationId user.id).any (fun membership =>
      OrganizationRoleGuard.standsIn requiredRoles path membership = true ∨
        membership.orgRole ∈ requiredRoles) = true

/-- Whether `insertMember` stores the pair. -/
def insertable (db : Db) (organizationId : OrgId) (userId : UserId) : Bool :=
  db.hasOrganization organizationId = true ∧ db.hasUser userId = true ∧
    db.findMember organizationId userId = none

section Checks

variable {α : Type} {db : Db} {motive : Db → Prop}

theorem leaves_checkLeaderOrAdmin_bind {organizationId : OrgId} {user : User}
    {next : Unit → Service α} (refused : coordinates db organizationId user = false → motive db)
    (passed : coordinates db organizationId user = true → (next ()).Leaves db motive) :
    (Prog.bind (OrganizationsService.checkLeaderOrAdmin organizationId user) next).Leaves
      db motive := by
  unfold OrganizationsService.checkLeaderOrAdmin
  unfold coordinates at refused passed
  by_cases admin : user.systemRole = .admin
  · rw [if_pos admin]
    exact passed (by simp [admin])
  · rw [if_neg admin]
    simp only [Prog.bind_eq, Prog.bind_assoc]
    apply Prog.leaves_query_bind
    apply Prog.leaves_throwIf_bind
    · intro missing
      exact refused (by simp [admin, missing])
    · intro coordinating
      exact passed (by simpa [admin] using coordinating)

theorem leaves_canActivate_bind {requiredRoles : List OrgRole} {path : String}
    {organizationId : OrgId} {user : User} {next : Unit → Service α}
    (refused : activates requiredRoles path db organizationId user = false → motive db)
    (passed : activates requiredRoles path db organizationId user = true →
      (next ()).Leaves db motive) :
    (Prog.bind (OrganizationRoleGuard.canActivate requiredRoles path organizationId user)
      next).Leaves db motive := by
  unfold OrganizationRoleGuard.canActivate
  unfold activates at refused passed
  by_cases admin : user.systemRole = .admin
  · rw [if_pos admin]
    exact passed (by simp [admin])
  · rw [if_neg admin]
    simp only [Prog.bind_eq, Prog.bind_assoc]
    apply Prog.leaves_query_bind
    apply Prog.leaves_orThrow_bind
    · intro missing
      exact refused (by simp [admin, missing])
    · intro membership found
      apply Prog.leaves_throwIf_bind
      · intro neither
        exact refused (by simp [admin, found, neither])
      · intro either
        refine passed ?_
        simp only [admin, found, Option.any_some, decide_eq_true_eq, false_or]
        by_cases standsIn :
            OrganizationRoleGuard.standsIn requiredRoles path membership = true
        · exact Or.inl standsIn
        · right
          by_contra unlisted
          exact either ⟨Bool.eq_false_iff.mpr standsIn, unlisted⟩

theorem leaves_findById_bind {id : OrgId}
    {next : OrganizationsService.LoadedOrganization → Service α}
    (missing : db.findOrganization id = none → motive db)
    (present : ∀ organization, db.findOrganization id = some organization →
      (next ⟨organization, db.childrenOf id⟩).Leaves db motive) :
    (Prog.bind (OrganizationsService.findById id) next).Leaves db motive := by
  simp only [OrganizationsService.findById, Prog.bind_eq, Prog.bind_assoc]
  apply Prog.leaves_query_bind
  apply Prog.leaves_orThrow_bind
  · intro absent
    exact missing (by simpa using absent)
  · intro loaded hit
    obtain ⟨organization, found, rfl⟩ := Option.map_eq_some_iff.mp hit
    exact present organization found

theorem leaves_insertMember_bind {organizationId : OrgId} {userId : UserId} {orgRole : OrgRole}
    {next : OrganizationMember → Service α}
    (refused : insertable db organizationId userId = false → motive db)
    (inserted : insertable db organizationId userId = true → ∀ members,
      db.members.Added
        (OrganizationsService.newMember organizationId userId orgRole db.members.next) members →
      (next (OrganizationsService.newMember organizationId userId orgRole
        db.members.next)).Leaves { db with members := members } motive) :
    (Prog.bind (OrganizationsService.insertMember organizationId userId orgRole) next).Leaves
      db motive := by
  apply Prog.leaves_execOr_bind
  · intro failed
    apply refused
    by_cases linked : db.hasOrganization organizationId = true ∧ db.hasUser userId = true
    · rw [if_pos linked, Option.map_eq_none_iff] at failed
      simp only [insertable, linked, true_and, decide_eq_false_iff_not]
      intro absent
      obtain ⟨members, success⟩ := Table.insert_isSome
        (OrganizationsService.newMember_id organizationId userId orgRole)
        (Db.findMember_none_iff_free.mp absent)
      rw [success] at failed
      cases failed
    · simp only [insertable, decide_eq_false_iff_not]
      intro all
      exact linked ⟨all.1, all.2.1⟩
  · intro result stored
    by_cases linked : db.hasOrganization organizationId = true ∧ db.hasUser userId = true
    · rw [if_pos linked] at stored
      obtain ⟨members, success, rfl⟩ := Option.map_eq_some_iff.mp stored
      refine inserted ?_ members (Table.added_insert success)
      simp only [insertable, linked, true_and, decide_eq_true_eq]
      exact Db.findMember_none_iff_free.mpr (Table.insert_free success)
    · rw [if_neg linked] at stored
      cases stored

theorem leaves_insertMember {organizationId : OrgId} {userId : UserId} {orgRole : OrgRole}
    (refused : insertable db organizationId userId = false → motive db)
    (inserted : insertable db organizationId userId = true → ∀ members,
      db.members.Added
        (OrganizationsService.newMember organizationId userId orgRole db.members.next) members →
      motive { db with members := members }) :
    (OrganizationsService.insertMember organizationId userId orgRole).Leaves db motive := by
  rw [← Prog.bind_ret (OrganizationsService.insertMember organizationId userId orgRole)]
  exact leaves_insertMember_bind refused inserted

end Checks

/-! ## The rows a call saves and deletes -/

structure OrganizationWrites where
  organization : Option Organization := none
  member : Option OrganizationMember := none
  joinRequest : Option OrganizationJoinRequest := none
  deletedOrganization : Organization → Bool := fun _ => false
  deletedMember : OrganizationMember → Bool := fun _ => false
  deletedJoinRequest : OrganizationJoinRequest → Bool := fun _ => false

/-- The database after the writes, as far as they reach. -/
structure OrganizationWrites.Leave (writes : OrganizationWrites) (db after : Db) : Prop where
  users : after.users = db.users
  organizations : db.organizations.Changed writes.deletedOrganization writes.organization
    after.organizations
  members : db.members.Changed writes.deletedMember writes.member after.members
  joinRequests : db.joinRequests.Changed writes.deletedJoinRequest writes.joinRequest
    after.joinRequests

theorem OrganizationWrites.leave_self (db : Db) : OrganizationWrites.Leave {} db db where
  users := rfl
  organizations := Table.changed_self _
  members := Table.changed_self _
  joinRequests := Table.changed_self _

namespace OrganizationsOp

open OrganizationsService

def creatable (db : Db) (dto : CreateOrgDto) : Bool :=
  dto.parentOrgId.all db.hasOrganization = true ∧ dto.name.length ≤ organizationNameLength

theorem parent_of_creatable {db : Db} {dto : CreateOrgDto} {id : OrgId}
    (parented : creatable db dto = true) (named : dto.parentOrgId = some id) :
    db.hasOrganization id = true := by
  have parent := (of_decide_eq_true parented).1
  rwa [named] at parent

/-- Whether the column holds the name of the organization's chat. -/
def chatNamed (name : String) : Bool := ("Чат: " ++ name).length ≤ chatNameLength

/-- Whether the creator becomes a member of the organization that was just stored. -/
def founds (db : Db) (user : User) : Bool :=
  db.hasUser user.id = true ∧ db.findMember db.organizations.next user.id = none

def deletable (db : Db) (id : OrgId) (user : User) : Bool :=
  activates [.leader] "/api/organizations/:id" db id user = true ∧
    coordinates db id user = true ∧ db.hasOrganization id = true ∧ db.childrenOf id = []

/-- The members `leave` counts. -/
def leaders (db : Db) (id : OrgId) : Nat :=
  db.members.count fun member => member.organizationId = id ∧ member.orgRole = .leader

def leavable (db : Db) (id : OrgId) (user : User) : Bool :=
  (db.findMember id user.id).any fun membership =>
    membership.orgRole ≠ .leader ∨ 1 < leaders db id

def joinable (db : Db) (id : OrgId) (user : User) : Bool :=
  db.hasOrganization id = true ∧ db.hasUser user.id = true ∧ db.findMember id user.id = none ∧
    db.joinRequests.findOne (fun request =>
      request.organizationId = id ∧ request.userId = user.id ∧ request.status = .pending) = none

/-- The join request that `handleJoinRequest` gets as far as saving. -/
def reviewable (db : Db) (requestId : JoinRequestId) (reviewer : User) :
    Option OrganizationJoinRequest :=
  (db.findJoinRequest requestId).filter fun request =>
    request.status = .pending ∧ db.hasUser reviewer.id = true

def review (db : Db) (requestId : JoinRequestId) (approve : Bool) (reviewer : User)
    (comment : Option (Option String)) (now : Time) : OrganizationWrites :=
  match reviewable db requestId reviewer with
  | none => {}
  | some request =>
      { joinRequest := some (reviewed approve reviewer comment now request)
        member :=
          if approve = true ∧ insertable db request.organizationId request.userId = true then
            some (newMember request.organizationId request.userId .member db.members.next)
          else none }

def upload (db : Db) (id : OrgId) (filename : Option String) (dto : String → UpdateOrgDto) :
    OrganizationWrites where
  organization := filename.bind fun file =>
    (db.findOrganization id).bind (UpdateOrgDto.assign (dto file))

def writes (db : Db) : OrganizationsOp → OrganizationWrites
  | .create dto user =>
      if creatable db dto = true then
        { organization := some
            { newOrganization dto db.organizations.next with
              chatId :=
                if founds db user = true ∧ chatNamed dto.name = true then some db.chats.next
                else none }
          member :=
            if founds db user = true then
              some (newMember db.organizations.next user.id .leader db.members.next)
            else none }
      else {}
  | .addMember id userId role user =>
      if coordinates db id user = true then
        { member :=
            if insertable db id userId = true then
              some (newMember id userId role db.members.next)
            else none }
      else {}
  | .removeMember id userId user =>
      if coordinates db id user = true then
        { deletedMember := fun member => member.organizationId = id ∧ member.userId = userId }
      else {}
  | .updateMemberRole id userId role isDeputy user =>
      if activates [.leader] "/api/organizations/:id/members/:userId/role" db id user = true then
        { member := (db.findMember id userId).bind (withRole role isDeputy) }
      else {}
  | .update id dto user =>
      if activates [.leader] "/api/organizations/:id" db id user = true then
        { organization := (db.findOrganization id).bind (UpdateOrgDto.assign dto) }
      else {}
  | .delete id user =>
      if deletable db id user = true then
        { deletedOrganization := fun organization => organization.id = id
          deletedMember := fun member => member.organizationId = id
          deletedJoinRequest := fun request => request.organizationId = id }
      else {}
  | .leave id user =>
      if leavable db id user = true then
        { deletedMember := fun member => member.organizationId = id ∧ member.userId = user.id }
      else {}
  | .join id user message =>
      if joinable db id user = true then
        { joinRequest := some (newJoinRequest id user.id message db.joinRequests.next) }
      else {}
  | .approveRequest id requestId user comment now =>
      if activates [.leader, .coordinator]
          "/api/organizations/:id/join-requests/:requestId/approve" db id user = true then
        review db requestId true user comment now
      else {}
  | .rejectRequest id requestId user comment now =>
      if activates [.leader, .coordinator]
          "/api/organizations/:id/join-requests/:requestId/reject" db id user = true then
        review db requestId false user comment now
      else {}
  | .createChat id user =>
      if activates [.leader, .coordinator] "/api/organizations/:id/create-chat" db id user =
          true then
        if coordinates db id user = true then
          { organization :=
              ((db.findOrganization id).filter fun organization =>
                organization.chatId = none ∧ chatNamed organization.name = true).map
                  fun organization =>
                  { organization with chatId := some db.chats.next } }
        else {}
      else {}
  | .uploadLogo id filename user =>
      if activates [.leader] "/api/organizations/:id/upload-logo" db id user = true then
        upload db id filename fun file =>
          { logoUrl := .value (some ("/uploads/organizations/" ++ file)) }
      else {}
  | .uploadBanner id filename user =>
      if activates [.leader] "/api/organizations/:id/upload-banner" db id user = true then
        upload db id filename fun file =>
          { bannerUrl := .value (some ("/uploads/organizations/" ++ file)) }
      else {}

end OrganizationsOp

end VolunteerApi
