import VolunteerApi.Effects.Evolution
import VolunteerApi.Model.OrganizationsController

/-!
# What the calls about organizations touch

`OrganizationsService` writes organizations, memberships and join requests, and a chat it creates
is one of an organization.  A deletion reaches the rows that refer to the organization as well.
-/

set_option autoImplicit false

namespace VolunteerApi

open Relational Programs

def membershipScope : Db.Scope := .ofTables [.organizations, .members, .joinRequests, .chats]

def organizationScope : Db.Scope := .ofTables (.delegations :: .requests :: membershipScope.tables)

structure OrganizationsArea (scope : Db.Scope) (db after : Db) : Prop extends
    Db.Area scope db after where
  chats : ∀ chat ∈ after.chats.rows, chat ∈ db.chats.rows ∨ chat.type = .orgChat

namespace OrganizationsArea

variable {scope : Db.Scope}

theorem refl (db : Db) : OrganizationsArea scope db db where
  toArea := .refl db
  chats _ stored := Or.inl stored

theorem trans (db mid after : Db) (first : OrganizationsArea scope db mid)
    (second : OrganizationsArea scope mid after) : OrganizationsArea scope db after where
  toArea := Db.Area.trans _ _ _ first.toArea second.toArea
  chats := by
    intro chat stored
    rcases second.chats chat stored with before | ofOrganization
    · exact first.chats chat before
    · exact Or.inr ofOrganization

theorem wider {more : Db.Scope} (db after : Db) (area : OrganizationsArea scope db after)
    (included : more.Includes scope) : OrganizationsArea more db after :=
  ⟨Db.Area.wider _ _ area.toArea included, area.chats⟩

theorem of_same {db after : Db} (evolves : db.Evolves after)
    (same : ∀ table ∉ scope.tables, db.Same after table) (users : after.users = db.users)
    (chats : after.chats = db.chats) :
    OrganizationsArea scope db after where
  evolves := evolves
  same := same
  users := users ▸ Db.Area.users_refl _
  chats _ stored := Or.inl (chats ▸ stored)

variable {db : Db}

theorem organizations {organizations : Table Organization.id Organization.id}
    (inside : .organizations ∈ scope.tables) :
    OrganizationsArea scope db { db with organizations := organizations } := by
  refine of_same { Db.Evolves.refl db with } ?_ rfl rfl
  intro table outside
  cases table <;> first | rfl | exact absurd inside outside

theorem members {members : Table OrganizationMember.id OrganizationMember.slot}
    (inside : .members ∈ scope.tables) :
    OrganizationsArea scope db { db with members := members } := by
  refine of_same { Db.Evolves.refl db with } ?_ rfl rfl
  intro table outside
  cases table <;> first | rfl | exact absurd inside outside

theorem joinRequests {joinRequests : Table OrganizationJoinRequest.id OrganizationJoinRequest.id}
    (inside : .joinRequests ∈ scope.tables) :
    OrganizationsArea scope db { db with joinRequests := joinRequests } := by
  refine of_same { Db.Evolves.refl db with } ?_ rfl rfl
  intro table outside
  cases table <;> first | rfl | exact absurd inside outside

end OrganizationsArea

open Prog OrganizationsArea

/-! ## The parts the methods share -/

namespace OrganizationsService

theorem checkLeaderOrAdmin_stays (organizationId : OrgId) (user : User) :
    (checkLeaderOrAdmin organizationId user).Stays (OrganizationsArea membershipScope) := by
  unfold checkLeaderOrAdmin
  split
  · exact stays_ret ()
  · exact (stays_query OrganizationsArea.refl _).bind fun _ => stays_throwIf

theorem findById_stays (id : OrgId) : (findById id).Stays (OrganizationsArea membershipScope) :=
  (stays_query OrganizationsArea.refl _).bind fun _ => stays_orThrow

theorem insertMember_stays (organizationId : OrgId) (userId : UserId) (orgRole : OrgRole) :
    (insertMember organizationId userId orgRole).Stays (OrganizationsArea membershipScope) := by
  refine stays_execOr OrganizationsArea.refl ?_
  intro db result inserted
  split at inserted
  · obtain ⟨members, _, rfl⟩ := Option.map_eq_some_iff.mp inserted
    exact OrganizationsArea.members (by decide)
  · cases inserted

theorem saveOrganizationRow_stays (organization : Organization) :
    (saveOrganizationRow organization).Stays (OrganizationsArea membershipScope) :=
  stays_exec fun _ => OrganizationsArea.organizations (by decide)

theorem createOrgGroupChat_stays (name : String) (participantIds : List UserId)
    (relatedId : Option Nat) :
    (ChatService.createGroupChat name participantIds .orgChat relatedId).Stays
      (OrganizationsArea membershipScope) := by
  refine (stays_query OrganizationsArea.refl _).bind fun participants => ?_
  refine stays_throwIf.bind fun _ => stays_execReturning ?_
  intro db
  have added := Table.added_append db.chats
    (ChatService.newGroupChat name (participants.map User.id) .orgChat relatedId) fun _ => rfl
  refine ⟨⟨{ Db.Evolves.refl db with chats := added.evolves Chat.Becomes.refl }, ?_,
    Db.Area.users_refl _⟩, ?_⟩
  · intro table outside
    cases table <;> first | rfl | exact absurd (by decide) outside
  · intro chat stored
    rcases (added.mem chat).mp stored with before | rfl
    · exact Or.inl before
    · exact Or.inr rfl

theorem giveChat_stays (organization : Organization) (participantIds : List UserId) :
    (giveChat organization participantIds).Stays (OrganizationsArea membershipScope) := by
  refine (createOrgGroupChat_stays _ _ _).bind fun _ => ?_
  exact (saveOrganizationRow_stays _).bind fun _ => stays_ret _

theorem removeOrganizationRow_stays (id : OrgId) :
    (removeOrganizationRow id).Stays (OrganizationsArea organizationScope) := by
  refine stays_exec fun db => of_same { Db.Evolves.refl db with requests := ?_ } ?_ rfl rfl
  · exact Table.evolves_update (by intro _; rfl) _ _ unmanagedPatch (by intro _; rfl)
  · intro table outside
    cases table <;> first | rfl | exact absurd (by decide) outside

/-! ## The methods -/

theorem create_stays (dto : CreateOrgDto) (creator : User) :
    (create dto creator).Stays (OrganizationsArea membershipScope) := by
  have checks : (checkParent dto.parentOrgId).Stays (OrganizationsArea membershipScope) := by
    cases dto.parentOrgId with
    | none => exact stays_ret ()
    | some parent => exact (stays_query OrganizationsArea.refl _).bind fun _ => stays_throwIf
  refine checks.bind fun _ => stays_throwIf.bind fun _ => ?_
  refine (stays_execReturning fun _ => OrganizationsArea.organizations (by decide)).bind fun _ => ?_
  refine (insertMember_stays _ _ _).bind fun _ => ?_
  exact (giveChat_stays _ _).recover fun _ => stays_ret _

theorem update_stays (id : OrgId) (dto : UpdateOrgDto) :
    (update id dto).Stays (OrganizationsArea membershipScope) := by
  refine (findById_stays id).bind fun _ => ?_
  refine stays_orThrow.bind fun _ => ?_
  exact (saveOrganizationRow_stays _).bind fun _ => stays_ret _

theorem delete_stays (id : OrgId) (requester : User) :
    (delete id requester).Stays (OrganizationsArea organizationScope) := by
  have wide {α : Type} {p : Service α} (stays : p.Stays (OrganizationsArea membershipScope)) :
      p.Stays (OrganizationsArea organizationScope) :=
    stays.mono fun _ _ area => area.wider _ _ (.ofTables (by decide))
  refine (wide (checkLeaderOrAdmin_stays _ _)).bind fun _ => ?_
  refine (wide (findById_stays id)).bind fun _ => ?_
  exact stays_throwIf.bind fun _ => removeOrganizationRow_stays id

theorem createOrgChat_stays (id : OrgId) (requester : User) :
    (createOrgChat id requester).Stays (OrganizationsArea membershipScope) := by
  refine (checkLeaderOrAdmin_stays _ _).bind fun _ => ?_
  refine (findById_stays id).bind fun _ => ?_
  refine stays_throwIf.bind fun _ => ?_
  refine (stays_query OrganizationsArea.refl _).bind fun _ => ?_
  refine ((giveChat_stays _ _).recover fun _ => stays_fail _).bind fun _ => ?_
  exact (findById_stays id).bind fun _ => stays_ret _

theorem addMember_stays (organizationId : OrgId) (targetUserId : UserId) (role : OrgRole)
    (requester : User) :
    (addMember organizationId targetUserId role requester).Stays (OrganizationsArea membershipScope) := by
  refine (checkLeaderOrAdmin_stays _ _).bind fun _ => ?_
  refine (stays_query OrganizationsArea.refl _).bind fun _ => ?_
  exact stays_throwIf.bind fun _ => insertMember_stays _ _ _

theorem removeMember_stays (organizationId : OrgId) (targetUserId : UserId) (requester : User) :
    (removeMember organizationId targetUserId requester).Stays (OrganizationsArea membershipScope) :=
  (checkLeaderOrAdmin_stays _ _).bind fun _ => stays_exec fun _ => OrganizationsArea.members (by decide)

theorem leave_stays (organizationId : OrgId) (user : User) :
    (leave organizationId user).Stays (OrganizationsArea membershipScope) := by
  refine (stays_query OrganizationsArea.refl _).bind fun _ => ?_
  refine stays_orThrow.bind fun _ => ?_
  refine Stays.bind (stays_onlyIf ?_) fun _ => stays_exec fun _ => OrganizationsArea.members (by decide)
  exact (stays_query OrganizationsArea.refl _).bind fun _ => stays_throwIf

theorem updateMemberRole_stays (organizationId : OrgId) (userId : UserId)
    (role : BodyValue OrgRole) (isDeputy : BodyValue Bool) :
    (updateMemberRole organizationId userId role isDeputy).Stays (OrganizationsArea membershipScope) := by
  refine (stays_query OrganizationsArea.refl _).bind fun _ => ?_
  refine stays_orThrow.bind fun _ => ?_
  refine stays_orThrow.bind fun _ => ?_
  exact (stays_exec fun _ => OrganizationsArea.members (by decide)).bind fun _ => stays_ret _

theorem createJoinRequest_stays (organizationId : OrgId) (user : User) (message : Option String) :
    (createJoinRequest organizationId user message).Stays (OrganizationsArea membershipScope) := by
  refine (findById_stays _).bind fun _ => ?_
  refine (stays_query OrganizationsArea.refl _).bind fun _ => ?_
  refine stays_throwIf.bind fun _ => ?_
  refine (stays_query OrganizationsArea.refl _).bind fun _ => ?_
  refine stays_throwIf.bind fun _ => ?_
  refine stays_execOr OrganizationsArea.refl ?_
  intro db result inserted
  split at inserted
  · cases inserted
    exact OrganizationsArea.joinRequests (by decide)
  · cases inserted

theorem handleJoinRequest_stays (requestId : JoinRequestId) (approve : Bool) (reviewer : User)
    (comment : Option (Option String)) (now : Time) :
    (handleJoinRequest requestId approve reviewer comment now).Stays (OrganizationsArea membershipScope) := by
  have saves (request : OrganizationJoinRequest) :
      (saveJoinRequestRow request).Stays (OrganizationsArea membershipScope) := by
    refine stays_execOr OrganizationsArea.refl ?_
    intro db result saved
    split at saved
    · cases saved
      exact OrganizationsArea.joinRequests (by decide)
    · cases saved
  refine (stays_query OrganizationsArea.refl _).bind fun _ => ?_
  refine stays_orThrow.bind fun _ => ?_
  refine stays_throwIf.bind fun _ => ?_
  refine (saves _).bind fun _ => ?_
  split
  · exact (insertMember_stays _ _ _).bind fun _ => stays_ret ()
  · exact stays_ret ()

end OrganizationsService

theorem canActivate_stays (requiredRoles : List OrgRole) (path : String) (organizationId : OrgId)
    (user : User) :
    (OrganizationRoleGuard.canActivate requiredRoles path organizationId user).Stays
      (OrganizationsArea membershipScope) := by
  unfold OrganizationRoleGuard.canActivate
  split
  · exact stays_ret ()
  · refine (stays_query OrganizationsArea.refl _).bind fun _ => ?_
    exact stays_orThrow.bind fun _ => stays_throwIf

end VolunteerApi
