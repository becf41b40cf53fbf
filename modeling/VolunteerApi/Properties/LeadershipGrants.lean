import VolunteerApi.Effects.OrganizationRows
import VolunteerApi.Programs.Runs

/-!
# Who makes somebody a leader, and who deletes an organization

`OrganizationRoleGuard` lets a deputy stand in for a leader, and says that deputies do not
delete the organization or hand over its leadership.  It looks for `delete` and `transfer`
in the path of the route, where they never occur, and `addMember` lets a coordinator give
any role.
-/

set_option autoImplicit false

namespace VolunteerApi

open Relational Programs

def Leads (db : Db) (id : OrgId) (userId : UserId) : Prop :=
  ∃ member ∈ db.members.rows,
    member.organizationId = id ∧ member.userId = userId ∧ member.orgRole = .leader

instance (db : Db) (id : OrgId) (userId : UserId) : Decidable (Leads db id userId) :=
  inferInstanceAs (Decidable (∃ member ∈ db.members.rows,
    member.organizationId = id ∧ member.userId = userId ∧ member.orgRole = .leader))

/-- The call is made by a system admin or by a leader of the organization. -/
def FromAbove (db : Db) (op : OrganizationsOp) (id : OrgId) : Prop :=
  op.caller.systemRole = .admin ∨ Leads db id op.caller.id

def CreatedBy (db : Db) (op : OrganizationsOp) (id : OrgId) (userId : UserId) : Prop :=
  id = db.organizations.next ∧ ∃ dto user, op = .create dto user ∧ user.id = userId

/-- Leadership is granted, and an organization deleted, from above only. -/
structure GuardsLeadership (db : Db) (op : OrganizationsOp) : Prop where
  granted : ∀ id userId, ¬ Leads db id userId → Leads (op.step db) id userId →
    CreatedBy db op id userId ∨ FromAbove db op id
  deleted : ∀ id, db.hasOrganization id = true → (op.step db).hasOrganization id = false →
    FromAbove db op id

/-- The calls that do not let a coordinator or a deputy add or appoint a leader, or delete
the organization. -/
def ActsFromAbove (db : Db) : OrganizationsOp → Prop
  | .addMember id userId role user =>
      role = .leader → coordinates db id user = true → insertable db id userId = true →
        user.systemRole = .admin ∨ Leads db id user.id
  | .updateMemberRole id userId role _ user =>
      role = .value .leader →
        activates [.leader] "/api/organizations/:id/members/:userId/role" db id user = true →
          (∃ member, db.findMember id userId = some member ∧ member.orgRole ≠ .leader) →
            user.systemRole = .admin ∨ Leads db id user.id
  | .delete id user =>
      OrganizationsOp.deletable db id user = true →
        user.systemRole = .admin ∨ Leads db id user.id
  | _ => True

/-! ## One call -/

section Calls

open OrganizationsOp

variable {db : Db}

theorem not_leads_of_findMember_none {id : OrgId} {userId : UserId}
    (absent : db.findMember id userId = none) : ¬ Leads db id userId := by
  rintro ⟨member, stored, here, self, _⟩
  exact Db.findMember_none.mp absent member stored here self

theorem leads_iff_of_findMember {id : OrgId} {userId : UserId} {member : OrganizationMember}
    (found : db.findMember id userId = some member) :
    Leads db id userId ↔ member.orgRole = .leader := by
  obtain ⟨stored, here, self⟩ := Db.findMember_some found
  constructor
  · rintro ⟨other, otherStored, otherHere, otherSelf, leads⟩
    have same : other = member := by
      apply Table.eq_of_uniq otherStored stored
      simp [OrganizationMember.slot, here, self, otherHere, otherSelf]
    exact same ▸ leads
  · intro leads
    exact ⟨member, stored, here, self, leads⟩

theorem leads_of_saved {op : OrganizationsOp} {member : OrganizationMember}
    (saved : (op.writes db).member = some member) (leads : member.orgRole = .leader) :
    Leads (op.step db) member.organizationId member.userId :=
  ⟨member, ((step_leaves db op).members.mem member).mpr (Or.inl saved), rfl, rfl, leads⟩

theorem saved_of_leads {op : OrganizationsOp} {id : OrgId} {userId : UserId}
    (before : ¬ Leads db id userId) (after : Leads (op.step db) id userId) :
    ∃ member, SavesMember db op member ∧ member.organizationId = id ∧
      member.userId = userId ∧ member.orgRole = .leader := by
  obtain ⟨member, stored, here, self, leads⟩ := after
  rcases ((step_leaves db op).members.mem member).mp stored with saved | ⟨old, _⟩
  · exact ⟨member, savesMember_of_writes saved, here, self, leads⟩
  · exact absurd ⟨member, old, here, self, leads⟩ before

theorem withRole_promotes {role : BodyValue OrgRole} {isDeputy : BodyValue Bool}
    {old new : OrganizationMember}
    (updated : OrganizationsService.withRole role isDeputy old = some new)
    (follows : old.orgRole ≠ .leader) (leads : new.orgRole = .leader) :
    role = .value .leader := by
  have given := withRole_orgRole updated
  rw [leads] at given
  cases role with
  | absent => exact absurd (Option.some.inj given) follows
  | value orgRole => exact congrArg BodyValue.value (Option.some.inj given)
  | unreadable => cases given

theorem hasOrganization_deleted {id : OrgId} {user : User}
    (gone : deletable db id user = true) :
    (step db (.delete id user)).hasOrganization id = false := by
  rw [Bool.eq_false_iff]
  intro stored
  obtain ⟨organization, member, same⟩ := Db.hasOrganization_iff.mp stored
  rcases ((step_leaves db (.delete id user)).organizations.mem organization).mp member with
    saved | ⟨_, kept, _⟩
  · simp only [writes] at saved
    split at saved <;> cases saved
  · have deleted : DeletesOrganization db (.delete id user) organization := by
      subst same
      exact .deleted gone
    rw [deletesOrganization_iff.mpr deleted] at kept
    cases kept

theorem guardsLeadership_of_acts {op : OrganizationsOp} (acts : ActsFromAbove db op) :
    GuardsLeadership db op := by
  constructor
  · intro id userId before after
    obtain ⟨member, saves, rfl, rfl, leads⟩ := saved_of_leads before after
    cases saves with
    | founder _ _ => exact Or.inl ⟨rfl, _, _, rfl, rfl⟩
    | added coordinating stored => exact Or.inr (acts leads coordinating stored)
    | regraded activated found updated =>
        obtain ⟨sameOrganization, sameUser⟩ := Prod.mk.inj (withRole_slot updated).2
        obtain ⟨_, here, self⟩ := Db.findMember_some found
        have follows := (leads_iff_of_findMember found).not.mp
          (by rwa [sameOrganization, sameUser, here, self] at before)
        rw [sameOrganization, here]
        exact Or.inr (acts (withRole_promotes updated follows leads) activated
          ⟨_, found, follows⟩)
    | approved _ _ _ => cases leads
  · intro id stored gone
    by_contra below
    have remains : (op.step db).hasOrganization id = true := by
      apply hasOrganization_step stored
      rintro organization _ rfl deletes
      cases deletes with
      | deleted deletable => exact below (acts deletable)
    rw [remains] at gone
    cases gone

theorem acts_of_guardsLeadership {op : OrganizationsOp} (guards : GuardsLeadership db op) :
    ActsFromAbove db op := by
  cases op with
  | addMember id userId role user =>
      intro leader coordinating stored
      have absent := (of_decide_eq_true stored).2.2
      have saved : (writes db (.addMember id userId role user)).member =
          some (OrganizationsService.newMember id userId role db.members.next) := by
        simp [writes, coordinating, stored]
      rcases guards.granted id userId (not_leads_of_findMember_none absent)
        (leads_of_saved saved leader) with ⟨_, _, _, ⟨⟩, _⟩ | above
      exact above
  | updateMemberRole id userId role isDeputy user =>
      rintro rfl activated ⟨member, found, follows⟩
      have saved : (writes db (.updateMemberRole id userId (.value .leader) isDeputy user)).member =
          some { member with orgRole := .leader, isDeputy := false } := by
        simp [writes, activated, found, OrganizationsService.withRole,
          OrganizationsService.deputyAfter, BodyValue.over]
      obtain ⟨_, here, self⟩ := Db.findMember_some found
      have after := leads_of_saved saved rfl
      rw [here, self] at after
      rcases guards.granted id userId ((leads_iff_of_findMember found).not.mpr follows) after with
        ⟨_, _, _, ⟨⟩, _⟩ | above
      exact above
  | delete id user =>
      intro gone
      have stored := (of_decide_eq_true gone).2.2.1
      exact guards.deleted id stored (hasOrganization_deleted gone)
  | create | removeMember | update | leave | join | approveRequest | rejectRequest | createChat
  | uploadLogo | uploadBanner => trivial

/-! ## Every run -/

/-- In a run where leadership is guarded, callers who are no admins and no leaders of an
organization neither delete it nor give it a new leader. -/
theorem always_of_guardsLeadership {start : Db} {ops : List OrganizationsOp} {id : OrgId}
    (below : ∀ op ∈ ops, op.caller.systemRole ≠ .admin ∧ ¬ Leads start id op.caller.id)
    (guarded : Throughout step GuardsLeadership db ops) (stored : db.hasOrganization id = true)
    (old : ∀ userId, Leads db id userId → Leads start id userId) :
    Always step (fun later => later.hasOrganization id = true ∧
      ∀ userId, Leads later id userId → Leads start id userId) db ops := by
  induction ops generalizing db with
  | nil => exact ⟨stored, old⟩
  | cons op rest ih =>
      obtain ⟨guards, later⟩ := guarded
      obtain ⟨notAdmin, notLeader⟩ := below op (by simp)
      have notAbove : ¬ FromAbove db op id :=
        not_or.mpr ⟨notAdmin, fun leads => notLeader (old _ leads)⟩
      refine ⟨⟨stored, old⟩, ih ?_ later ?_ ?_⟩
      · intro other member
        exact below other (List.mem_cons_of_mem op member)
      · by_contra gone
        exact notAbove (guards.deleted id stored (Bool.eq_false_iff.mpr gone))
      · intro userId leads
        by_cases before : Leads db id userId
        · exact old userId before
        · rcases guards.granted id userId before leads with ⟨fresh, _⟩ | above
          · obtain ⟨organization, member, same⟩ := Db.hasOrganization_iff.mp stored
            exact absurd (same.trans fresh) (Table.key_ne_next member)
          · exact absurd above notAbove

end Calls

/-- Leadership is granted and organizations are deleted from above throughout a run exactly
when no coordinator or deputy uses the calls that let them do it; callers who do not lead an
organization then change neither its leaders nor whether it is stored. -/
theorem guardsLeadership_iff (db : Db) (ops : List OrganizationsOp) :
    (Throughout OrganizationsOp.step GuardsLeadership db ops ↔
      Throughout OrganizationsOp.step ActsFromAbove db ops) ∧
    (Throughout OrganizationsOp.step ActsFromAbove db ops → ∀ id,
      db.hasOrganization id = true →
      (∀ op ∈ ops, op.caller.systemRole ≠ .admin ∧ ¬ Leads db id op.caller.id) →
      Always OrganizationsOp.step (fun later => later.hasOrganization id = true ∧
        ∀ userId, Leads later id userId → Leads db id userId) db ops) := by
  have same : Throughout OrganizationsOp.step GuardsLeadership db ops ↔
      Throughout OrganizationsOp.step ActsFromAbove db ops := by
    apply throughout_congr
    intro db op
    exact ⟨acts_of_guardsLeadership, guardsLeadership_of_acts⟩
  refine ⟨same, ?_⟩
  intro acts id stored below
  exact always_of_guardsLeadership below (same.mpr acts) stored fun _ leads => leads

/-- The first volunteer founds an organization and takes the second in as its coordinator;
the second makes the author a leader. -/
def leaderAddedByCoordinator : List OrganizationsOp :=
  [.create { name := "Штаб", description := none, parentOrgId := none, tags := none }
      firstVolunteer,
    .addMember 0 secondVolunteer.id .coordinator firstVolunteer,
    .addMember 0 author.id .leader secondVolunteer]

theorem guardsLeadership_fails :
    ¬ Throughout OrganizationsOp.step GuardsLeadership (exampleBoard .local)
      leaderAddedByCoordinator := by
  intro guarded
  have guards := throughout_iff.mp guarded (leaderAddedByCoordinator.take 2)
    (.addMember 0 author.id .leader secondVolunteer) [] rfl
  rcases guards.granted 0 author.id (by decide +kernel) (by decide +kernel) with
    ⟨_, _, _, ⟨⟩, _⟩ | admin | leads
  · cases admin
  · exact absurd leads (by decide +kernel)

end VolunteerApi
