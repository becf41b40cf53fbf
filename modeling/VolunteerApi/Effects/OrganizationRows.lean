import VolunteerApi.Effects.OrganizationsOutcomes

/-!
# Which calls save and delete which rows of the organizations
-/

set_option autoImplicit false

namespace VolunteerApi

open Relational Programs

namespace OrganizationsOp

open OrganizationsService

variable {db : Db}

inductive SavesMember (db : Db) : OrganizationsOp → OrganizationMember → Prop
  | founder {dto : CreateOrgDto} {user : User} (parented : creatable db dto = true)
      (founded : founds db user = true) :
      SavesMember db (.create dto user)
        (newMember db.organizations.next user.id .leader db.members.next)
  | added {id : OrgId} {userId : UserId} {role : OrgRole} {user : User}
      (coordinating : coordinates db id user = true) (stored : insertable db id userId = true) :
      SavesMember db (.addMember id userId role user) (newMember id userId role db.members.next)
  | regraded {id : OrgId} {userId : UserId} {role : BodyValue OrgRole}
      {isDeputy : BodyValue Bool} {user : User} {old new : OrganizationMember}
      (activated :
        activates [.leader] "/api/organizations/:id/members/:userId/role" db id user = true)
      (found : db.findMember id userId = some old)
      (updated : withRole role isDeputy old = some new) :
      SavesMember db (.updateMemberRole id userId role isDeputy user) new
  | approved {id : OrgId} {requestId : JoinRequestId} {user : User}
      {comment : Option (Option String)} {now : Time} {request : OrganizationJoinRequest}
      (activated : activates [.leader, .coordinator]
        "/api/organizations/:id/join-requests/:requestId/approve" db id user = true)
      (found : reviewable db requestId user = some request)
      (stored : insertable db request.organizationId request.userId = true) :
      SavesMember db (.approveRequest id requestId user comment now)
        (newMember request.organizationId request.userId .member db.members.next)

theorem review_member {requestId : JoinRequestId} {approve : Bool} {reviewer : User}
    {comment : Option (Option String)} {now : Time} {member : OrganizationMember}
    (saved : (review db requestId approve reviewer comment now).member = some member) :
    approve = true ∧ ∃ request, reviewable db requestId reviewer = some request ∧
      insertable db request.organizationId request.userId = true ∧
      newMember request.organizationId request.userId .member db.members.next = member := by
  unfold review at saved
  cases found : reviewable db requestId reviewer with
  | none => simp [found] at saved
  | some request =>
      rw [found] at saved
      simp only [Option.ite_none_right_eq_some, Option.some.injEq] at saved
      exact ⟨saved.1.1, request, rfl, saved.1.2, saved.2⟩

theorem savesMember_of_writes {op : OrganizationsOp} {member : OrganizationMember}
    (saved : (op.writes db).member = some member) : SavesMember db op member := by
  cases op with
  | create dto user =>
      simp only [writes] at saved
      split at saved
      · simp only [Option.ite_none_right_eq_some, Option.some.injEq] at saved
        obtain ⟨founded, rfl⟩ := saved
        exact .founder ‹_› founded
      · cases saved
  | addMember id userId role user =>
      simp only [writes] at saved
      split at saved
      · simp only [Option.ite_none_right_eq_some, Option.some.injEq] at saved
        obtain ⟨stored, rfl⟩ := saved
        exact .added ‹_› stored
      · cases saved
  | updateMemberRole id userId role isDeputy user =>
      simp only [writes] at saved
      split at saved
      · obtain ⟨old, found, updated⟩ := Option.bind_eq_some_iff.mp saved
        exact .regraded ‹_› found updated
      · cases saved
  | approveRequest id requestId user comment now =>
      simp only [writes] at saved
      split at saved
      · obtain ⟨_, request, found, stored, rfl⟩ := review_member saved
        exact .approved ‹_› found stored
      · cases saved
  | rejectRequest id requestId user comment now =>
      simp only [writes] at saved
      split at saved
      · cases (review_member saved).1
      · cases saved
  | removeMember | update | delete | leave | join | uploadLogo | uploadBanner =>
      simp only [writes, upload] at saved
      split at saved <;> cases saved
  | createChat id user =>
      simp only [writes] at saved
      split at saved
      · split at saved <;> cases saved
      · cases saved

inductive DeletesMember (db : Db) : OrganizationsOp → OrganizationMember → Prop
  | removed {id : OrgId} {userId : UserId} {user : User} {member : OrganizationMember}
      (coordinating : coordinates db id user = true) (here : member.organizationId = id)
      (target : member.userId = userId) : DeletesMember db (.removeMember id userId user) member
  | cascaded {id : OrgId} {user : User} {member : OrganizationMember}
      (gone : deletable db id user = true) (here : member.organizationId = id) :
      DeletesMember db (.delete id user) member
  | left {id : OrgId} {user : User} {member : OrganizationMember}
      (free : leavable db id user = true) (here : member.organizationId = id)
      (self : member.userId = user.id) : DeletesMember db (.leave id user) member

theorem review_deletes (requestId : JoinRequestId) (approve : Bool) (reviewer : User)
    (comment : Option (Option String)) (now : Time) :
    (review db requestId approve reviewer comment now).deletedMember = (fun _ => false) ∧
      (review db requestId approve reviewer comment now).organization = none ∧
      (review db requestId approve reviewer comment now).deletedOrganization =
        (fun _ => false) := by
  unfold review
  cases reviewable db requestId reviewer <;> exact ⟨rfl, rfl, rfl⟩

theorem deletesMember_iff {op : OrganizationsOp} {member : OrganizationMember} :
    (op.writes db).deletedMember member = true ↔ DeletesMember db op member := by
  constructor
  · intro deleted
    cases op with
    | removeMember id userId user =>
        simp only [writes] at deleted
        split at deleted
        · obtain ⟨here, target⟩ := of_decide_eq_true deleted
          exact .removed ‹_› here target
        · cases deleted
    | delete id user =>
        simp only [writes] at deleted
        split at deleted
        · exact .cascaded ‹_› (of_decide_eq_true deleted)
        · cases deleted
    | leave id user =>
        simp only [writes] at deleted
        split at deleted
        · obtain ⟨here, self⟩ := of_decide_eq_true deleted
          exact .left ‹_› here self
        · cases deleted
    | approveRequest id requestId user comment now =>
        simp only [writes] at deleted
        split at deleted
        · rw [(review_deletes requestId true user comment now).1] at deleted
          cases deleted
        · cases deleted
    | rejectRequest id requestId user comment now =>
        simp only [writes] at deleted
        split at deleted
        · rw [(review_deletes requestId false user comment now).1] at deleted
          cases deleted
        · cases deleted
    | create | addMember | updateMemberRole | update | join | uploadLogo | uploadBanner =>
        simp only [writes, upload] at deleted
        split at deleted <;> cases deleted
    | createChat id user =>
        simp only [writes] at deleted
        split at deleted
        · split at deleted <;> cases deleted
        · cases deleted
  · intro deletes
    cases deletes with
    | removed coordinating here target => simp [writes, coordinating, here, target]
    | cascaded gone here => simp [writes, gone, here]
    | left free here self => simp [writes, free, here, self]

/-- The organizations a call saves: a new one, or a stored one in the same place of the tree. -/
inductive SavesOrganization (db : Db) : OrganizationsOp → Organization → Prop
  | created {dto : CreateOrgDto} {user : User} {new : Organization}
      (parented : creatable db dto = true) (fresh : new.id = db.organizations.next)
      (parent : new.parentOrgId = dto.parentOrgId) : SavesOrganization db (.create dto user) new
  | edited {op : OrganizationsOp} {old new : Organization}
      (stored : old ∈ db.organizations.rows) (same : new.id = old.id)
      (parent : new.parentOrgId = old.parentOrgId) : SavesOrganization db op new

theorem edited_of_assign {op : OrganizationsOp} {id : OrgId} {dto : UpdateOrgDto}
    {new : Organization}
    (saved : (db.findOrganization id).bind (UpdateOrgDto.assign dto) = some new) :
    SavesOrganization db op new := by
  obtain ⟨old, found, assigned⟩ := Option.bind_eq_some_iff.mp saved
  obtain ⟨same, parent, _⟩ := assign_id assigned
  exact .edited (Db.findOrganization_some found).1 same parent

theorem savesOrganization_of_writes {op : OrganizationsOp} {new : Organization}
    (saved : (op.writes db).organization = some new) : SavesOrganization db op new := by
  cases op with
  | create dto user =>
      simp only [writes] at saved
      split at saved
      · obtain rfl := Option.some.inj saved
        exact .created ‹_› rfl rfl
      · cases saved
  | update id dto user =>
      simp only [writes] at saved
      split at saved
      · exact edited_of_assign saved
      · cases saved
  | uploadLogo id filename user | uploadBanner id filename user =>
      simp only [writes, upload] at saved
      split at saved
      · obtain ⟨file, _, assigned⟩ := Option.bind_eq_some_iff.mp saved
        exact edited_of_assign assigned
      · cases saved
  | createChat id user =>
      simp only [writes] at saved
      split at saved
      · split at saved
        · obtain ⟨old, found, rfl⟩ := Option.map_eq_some_iff.mp saved
          have stored := Db.findOrganization_some (Option.filter_eq_some_iff.mp found).1
          exact .edited stored.1 rfl rfl
        · cases saved
      · cases saved
  | approveRequest id requestId user comment now =>
      simp only [writes] at saved
      split at saved
      · rw [(review_deletes requestId true user comment now).2.1] at saved
        cases saved
      · cases saved
  | rejectRequest id requestId user comment now =>
      simp only [writes] at saved
      split at saved
      · rw [(review_deletes requestId false user comment now).2.1] at saved
        cases saved
      · cases saved
  | addMember | removeMember | updateMemberRole | delete | leave | join =>
      simp only [writes] at saved
      split at saved <;> cases saved

inductive DeletesOrganization (db : Db) : OrganizationsOp → Organization → Prop
  | deleted {user : User} {organization : Organization}
      (gone : deletable db organization.id user = true) :
      DeletesOrganization db (.delete organization.id user) organization

theorem deletesOrganization_iff {op : OrganizationsOp} {organization : Organization} :
    (op.writes db).deletedOrganization organization = true ↔
      DeletesOrganization db op organization := by
  constructor
  · intro deleted
    cases op with
    | delete id user =>
        simp only [writes] at deleted
        split at deleted
        · obtain rfl := of_decide_eq_true deleted
          exact .deleted ‹_›
        · cases deleted
    | approveRequest id requestId user comment now =>
        simp only [writes] at deleted
        split at deleted
        · rw [(review_deletes requestId true user comment now).2.2] at deleted
          cases deleted
        · cases deleted
    | rejectRequest id requestId user comment now =>
        simp only [writes] at deleted
        split at deleted
        · rw [(review_deletes requestId false user comment now).2.2] at deleted
          cases deleted
        · cases deleted
    | create | addMember | removeMember | updateMemberRole | update | leave | join
    | uploadLogo | uploadBanner =>
        simp only [writes, upload] at deleted
        split at deleted <;> cases deleted
    | createChat id user =>
        simp only [writes] at deleted
        split at deleted
        · split at deleted <;> cases deleted
        · cases deleted
  · intro deletes
    cases deletes with
    | deleted gone => simp [writes, gone]

/-! ## Which organizations are stored afterwards -/

variable {op : OrganizationsOp}

/-- No organization disappears unless it is deleted. -/
theorem hasOrganization_step {id : OrgId} (stored : db.hasOrganization id = true)
    (kept : ∀ organization ∈ db.organizations.rows, organization.id = id →
      ¬ DeletesOrganization db op organization) :
    (op.step db).hasOrganization id = true := by
  obtain ⟨organization, member, same⟩ := Db.hasOrganization_iff.mp stored
  have survives : (op.writes db).deletedOrganization organization = false := by
    rw [Bool.eq_false_iff]
    intro gone
    exact kept organization member same (deletesOrganization_iff.mp gone)
  have changed := (step_leaves db op).organizations
  apply Db.hasOrganization_iff.mpr
  by_cases replaced : ∃ new, (op.writes db).organization = some new ∧ new.id = organization.id
  · obtain ⟨new, saved, here⟩ := replaced
    exact ⟨new, (changed.mem new).mpr (Or.inl saved), here.trans same⟩
  · refine ⟨organization, (changed.mem organization).mpr (Or.inr ⟨member, survives, ?_⟩), same⟩
    intro new saved here
    exact replaced ⟨new, saved, here⟩

/-- No organization appears unless it is created. -/
theorem hasOrganization_of_step {organization : Organization}
    (member : organization ∈ (op.step db).organizations.rows) :
    db.hasOrganization organization.id = true ∨
      ∃ dto user, op = .create dto user ∧ creatable db dto = true ∧
        organization.id = db.organizations.next := by
  rcases ((step_leaves db op).organizations.mem organization).mp member with saved | ⟨old, _⟩
  · cases savesOrganization_of_writes saved with
    | created parented fresh _ => exact Or.inr ⟨_, _, rfl, parented, fresh⟩
    | edited stored same _ =>
        exact Or.inl (Db.hasOrganization_iff.mpr ⟨_, stored, same.symm⟩)
  · exact Or.inl (Db.hasOrganization_iff.mpr ⟨organization, old, rfl⟩)

theorem hasOrganization_same (keeps : ∀ dto user, op ≠ .create dto user)
    (spares : ∀ organization, ¬ DeletesOrganization db op organization) (id : OrgId) :
    (op.step db).hasOrganization id = true ↔ db.hasOrganization id = true := by
  constructor
  · intro stored
    obtain ⟨organization, member, rfl⟩ := Db.hasOrganization_iff.mp stored
    rcases hasOrganization_of_step member with before | ⟨dto, user, same, _⟩
    · exact before
    · exact absurd same (keeps dto user)
  · intro stored
    exact hasOrganization_step stored fun organization _ _ => spares organization

theorem hasOrganization_created {dto : CreateOrgDto} (parented : creatable db dto = true)
    (user : User) :
    (step db (.create dto user)).hasOrganization db.organizations.next = true := by
  have saved : ∃ new, (writes db (.create dto user)).organization = some new ∧
      new.id = db.organizations.next := by
    simp [writes, parented, OrganizationsService.newOrganization]
  obtain ⟨new, written, fresh⟩ := saved
  have stored := ((step_leaves db (.create dto user)).organizations.mem new).mpr (Or.inl written)
  exact Db.hasOrganization_iff.mpr ⟨new, stored, fresh⟩

end OrganizationsOp

end VolunteerApi
