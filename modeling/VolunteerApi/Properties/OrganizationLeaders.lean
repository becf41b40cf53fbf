import VolunteerApi.Effects.OrganizationRows

/-!
# Every organization keeps a leader

`leave` refuses the last leader of an organization, with the text that he should hand
over his rights first.  `removeMember` and `updateMemberRole` do not count: a leader or
a coordinator may remove or demote the last one.
-/

set_option autoImplicit false

namespace VolunteerApi

open Relational Programs

def Led (db : Db) (id : OrgId) : Prop :=
  ∃ member ∈ db.members.rows, member.organizationId = id ∧ member.orgRole = .leader

def EveryOrganizationLed (db : Db) : Prop :=
  ∀ organization ∈ db.organizations.rows, Led db organization.id

/-- The foreign key of the memberships. -/
def MembersHoused (db : Db) : Prop :=
  ∀ member ∈ db.members.rows, db.hasOrganization member.organizationId = true

/-- Somebody else leads the organization. -/
def OtherLeader (db : Db) (id : OrgId) (userId : UserId) : Prop :=
  ∃ member ∈ db.members.rows,
    member.organizationId = id ∧ member.orgRole = .leader ∧ member.userId ≠ userId

/-- The user leads the organization, and nobody else does. -/
def LastLeader (db : Db) (id : OrgId) (userId : UserId) : Prop :=
  (∃ member ∈ db.members.rows,
    member.organizationId = id ∧ member.orgRole = .leader ∧ member.userId = userId) ∧
    ¬ OtherLeader db id userId

/-- The calls that leave a leader: a stored user founds the organization, and the last
leader is neither removed nor given another role. -/
def LeavesLeader (db : Db) : OrganizationsOp → Prop
  | .create dto user => OrganizationsOp.creatable db dto = true → db.hasUser user.id = true
  | .removeMember id userId user =>
      coordinates db id user = true → ¬ LastLeader db id userId
  | .updateMemberRole id userId role isDeputy user =>
      activates [.leader] "/api/organizations/:id/members/:userId/role" db id user = true →
        (∃ given, role = .value given ∧ given ≠ .leader) → isDeputy ≠ .unreadable →
          ¬ LastLeader db id userId
  | _ => True

/-! ## The foreign key -/

namespace OrganizationsOp

variable {db : Db} {op : OrganizationsOp}

theorem membersHoused_step (housed : MembersHoused db) : MembersHoused (op.step db) := by
  intro member stored
  rcases ((step_leaves db op).members.mem member).mp stored with saved | ⟨old, kept, _⟩
  · cases savesMember_of_writes saved with
    | founder parented founded =>
        exact hasOrganization_created parented _
    | added _ insertion =>
        refine hasOrganization_step (of_decide_eq_true insertion).1 ?_
        intro organization _ _ deletes
        cases deletes
    | regraded _ found updated =>
        obtain ⟨before, _, _⟩ := Db.findMember_some found
        refine hasOrganization_step ?_ ?_
        · rw [(Prod.mk.inj (withRole_slot updated).2).1]
          exact housed _ before
        · intro organization _ _ deletes
          cases deletes
    | approved _ _ insertion =>
        refine hasOrganization_step (of_decide_eq_true insertion).1 ?_
        intro organization _ _ deletes
        cases deletes
  · refine hasOrganization_step (housed member old) ?_
    intro organization _ same deletes
    cases deletes with
    | deleted gone =>
        -- the delete cascades to the members of the organization
        have deleted := deletesMember_iff.mpr (DeletesMember.cascaded gone same.symm)
        rw [kept] at deleted
        cases deleted

end OrganizationsOp

/-! ## One call -/

section Calls

open OrganizationsOp

variable {db : Db}

theorem everyOrganizationLed_iff_led :
    EveryOrganizationLed db ↔ ∀ id, db.hasOrganization id = true → Led db id := by
  constructor
  · intro every id stored
    obtain ⟨organization, member, rfl⟩ := Db.hasOrganization_iff.mp stored
    exact every organization member
  · intro every organization member
    exact every organization.id (Db.hasOrganization_iff.mpr ⟨organization, member, rfl⟩)

/-- Without a deletion, an organization keeps its leader unless his row is saved. -/
theorem led_step {op : OrganizationsOp} {id : OrgId}
    (kept : ∀ member, ¬ DeletesMember db op member)
    (same : ∀ old ∈ db.members.rows, ∀ new, SavesMember db op new → new.id = old.id →
      old.orgRole = .leader → new.organizationId = old.organizationId ∧ new.orgRole = .leader)
    (led : Led db id) : Led (op.step db) id := by
  obtain ⟨old, stored, here, leads⟩ := led
  have changed := (step_leaves db op).members
  by_cases replaced : ∃ new, (op.writes db).member = some new ∧ new.id = old.id
  · obtain ⟨new, saved, sameId⟩ := replaced
    obtain ⟨sameHouse, newLeads⟩ := same old stored new (savesMember_of_writes saved) sameId leads
    exact ⟨new, (changed.mem new).mpr (Or.inl saved), sameHouse.trans here, newLeads⟩
  · refine ⟨old, (changed.mem old).mpr (Or.inr ⟨stored, ?_, ?_⟩), here, leads⟩
    · rw [Bool.eq_false_iff]
      intro gone
      exact kept old (deletesMember_iff.mp gone)
    · intro new saved sameId
      exact replaced ⟨new, saved, sameId⟩

theorem newMember_ne {old : OrganizationMember} (stored : old ∈ db.members.rows)
    (id : OrgId) (userId : UserId) (role : OrgRole) :
    (OrganizationsService.newMember id userId role db.members.next).id ≠ old.id :=
  (Table.key_ne_next stored).symm

theorem everyOrganizationLed_kept {op : OrganizationsOp} (led : EveryOrganizationLed db)
    (keeps : ∀ dto user, op ≠ .create dto user)
    (spares : ∀ organization, ¬ DeletesOrganization db op organization)
    (kept : ∀ member, ¬ DeletesMember db op member)
    (same : ∀ old ∈ db.members.rows, ∀ new, SavesMember db op new → new.id = old.id →
      old.orgRole = .leader → new.organizationId = old.organizationId ∧ new.orgRole = .leader) :
    EveryOrganizationLed (op.step db) := by
  rw [everyOrganizationLed_iff_led] at led ⊢
  intro id stored
  exact led_step kept same (led id ((hasOrganization_same keeps spares id).mp stored))

/-- A call that takes one member out of the leaders, and does nothing else to them. -/
theorem everyOrganizationLed_without_iff {op : OrganizationsOp} (housed : MembersHoused db)
    (led : EveryOrganizationLed db) (keeps : ∀ dto user, op ≠ .create dto user)
    (spares : ∀ organization, ¬ DeletesOrganization db op organization)
    {id : OrgId} {userId : UserId}
    (leaders : ∀ member, member.orgRole = .leader → (member ∈ (op.step db).members.rows ↔
      member ∈ db.members.rows ∧ ¬ (member.organizationId = id ∧ member.userId = userId))) :
    EveryOrganizationLed (op.step db) ↔ ¬ LastLeader db id userId := by
  rw [everyOrganizationLed_iff_led] at led ⊢
  constructor
  · rintro every ⟨⟨last, stored, rfl, _, rfl⟩, alone⟩
    obtain ⟨other, remains, here, leads⟩ := every last.organizationId
      ((hasOrganization_same keeps spares _).mpr (housed last stored))
    obtain ⟨otherStored, different⟩ := (leaders other leads).mp remains
    exact alone ⟨other, otherStored, here, leads, fun sameUser => different ⟨here, sameUser⟩⟩
  · intro notLast organizationId stored
    obtain ⟨leader, member, here, leads⟩ :=
      led organizationId ((hasOrganization_same keeps spares _).mp stored)
    by_cases target : leader.organizationId = id ∧ leader.userId = userId
    · obtain ⟨sameOrganization, sameUser⟩ := target
      have others : OtherLeader db id userId := by
        by_contra alone
        exact notLast ⟨⟨leader, member, sameOrganization, leads, sameUser⟩, alone⟩
      obtain ⟨other, otherMember, otherHere, otherLeads, different⟩ := others
      refine ⟨other, (leaders other otherLeads).mpr ⟨otherMember, ?_⟩, ?_, otherLeads⟩
      · exact fun both => different both.2
      · rw [otherHere, ← sameOrganization, here]
    · exact ⟨leader, (leaders leader leads).mpr ⟨member, target⟩, here, leads⟩

/-- In a new organization only its founder is a member. -/
theorem founds_of_stored (housed : MembersHoused db) {user : User}
    (stored : db.hasUser user.id = true) : founds db user = true := by
  simp only [founds, stored, true_and, decide_eq_true_eq, Db.findMember_none]
  intro member memberStored inside
  obtain ⟨organization, organizationStored, same⟩ :=
    Db.hasOrganization_iff.mp (housed member memberStored)
  exact absurd (same.trans inside) (Table.key_ne_next organizationStored)

theorem everyOrganizationLed_create_iff (housed : MembersHoused db)
    (led : EveryOrganizationLed db) (dto : CreateOrgDto) (user : User) :
    EveryOrganizationLed (step db (.create dto user)) ↔
      LeavesLeader db (.create dto user) := by
  have changed := (step_leaves db (.create dto user)).members
  constructor
  · intro every parented
    obtain ⟨leader, stored, inside, _⟩ := everyOrganizationLed_iff_led.mp every
      db.organizations.next (hasOrganization_created parented user)
    rcases (changed.mem leader).mp stored with saved | ⟨old, _⟩
    · cases savesMember_of_writes saved with
      | founder _ founded => exact (of_decide_eq_true founded).1
    · obtain ⟨organization, organizationStored, same⟩ :=
        Db.hasOrganization_iff.mp (housed leader old)
      exact absurd (same.trans inside) (Table.key_ne_next organizationStored)
  · intro stores organization member
    rcases hasOrganization_of_step member with before | ⟨_, _, ⟨⟩, parented, fresh⟩
    · apply led_step
      · intro _ deletes
        cases deletes
      · intro old stored new saves same
        cases saves with
        | founder _ _ => exact absurd same (newMember_ne stored _ _ _)
      · exact everyOrganizationLed_iff_led.mp led organization.id before
    · have founded := founds_of_stored housed (stores parented)
      refine ⟨OrganizationsService.newMember db.organizations.next user.id .leader db.members.next,
        (changed.mem _).mpr (Or.inl ?_), fresh.symm, rfl⟩
      simp only [writes, parented, founded, if_true]

theorem everyOrganizationLed_removeMember_iff (housed : MembersHoused db)
    (led : EveryOrganizationLed db) (id : OrgId) (userId : UserId) (user : User) :
    EveryOrganizationLed (step db (.removeMember id userId user)) ↔
      LeavesLeader db (.removeMember id userId user) := by
  have spares : ∀ organization,
      ¬ DeletesOrganization db (.removeMember id userId user) organization := by
    intro organization deletes
    cases deletes
  cases coordinating : coordinates db id user with
  | false =>
      refine iff_of_true ?_ (by simp [LeavesLeader, coordinating])
      apply everyOrganizationLed_kept led (by simp) spares
      · intro member deletes
        cases deletes with
        | removed passes _ _ => simp [coordinating] at passes
      · intro _ _ _ saves
        cases saves
  | true =>
      have cond : LeavesLeader db (.removeMember id userId user) ↔ ¬ LastLeader db id userId := by
        simp [LeavesLeader, coordinating]
      rw [cond]
      apply everyOrganizationLed_without_iff housed led (by simp) spares
      intro member _
      rw [(step_leaves db (.removeMember id userId user)).members.mem]
      simp [writes, coordinating]

theorem not_lastLeader_of_leavable {id : OrgId} {user : User}
    (free : leavable db id user = true) : ¬ LastLeader db id user.id := by
  rintro ⟨⟨last, stored, rfl, leads, sameUser⟩, alone⟩
  have found := Db.findMember_of_mem stored
  rw [sameUser] at found
  have several : 1 < leaders db last.organizationId := by
    simpa [leavable, found, leads] using free
  obtain ⟨other, otherStored, hit, different⟩ :=
    Table.exists_other_of_one_lt_count several last
  obtain ⟨here, otherLeads⟩ := of_decide_eq_true hit
  refine alone ⟨other, otherStored, here, otherLeads, ?_⟩
  intro otherUser
  apply different
  exact Table.eq_of_uniq otherStored stored (Prod.ext here (otherUser.trans sameUser.symm))

theorem everyOrganizationLed_leave (housed : MembersHoused db) (led : EveryOrganizationLed db)
    (id : OrgId) (user : User) : EveryOrganizationLed (step db (.leave id user)) := by
  have spares : ∀ organization, ¬ DeletesOrganization db (.leave id user) organization := by
    intro organization deletes
    cases deletes
  cases free : leavable db id user with
  | false =>
      apply everyOrganizationLed_kept led (by simp) spares
      · intro member deletes
        cases deletes with
        | left passes _ _ => simp [free] at passes
      · intro _ _ _ saves
        cases saves
  | true =>
      apply (everyOrganizationLed_without_iff housed led (by simp) spares ?_).mpr
        (not_lastLeader_of_leavable free)
      intro member _
      rw [(step_leaves db (.leave id user)).members.mem]
      simp [writes, free]

/-- The member a call of `updateMemberRole` takes the role `LEADER` from. -/
def Demotes (db : Db) (id : OrgId) (userId : UserId) (role : BodyValue OrgRole)
    (isDeputy : BodyValue Bool) (user : User) (old new : OrganizationMember) : Prop :=
  activates [.leader] "/api/organizations/:id/members/:userId/role" db id user = true ∧
    db.findMember id userId = some old ∧
    OrganizationsService.withRole role isDeputy old = some new ∧
    old.orgRole = .leader ∧ new.orgRole ≠ .leader

theorem withRole_demotes_iff {role : BodyValue OrgRole} {isDeputy : BodyValue Bool}
    {old : OrganizationMember} (leads : old.orgRole = .leader) :
    (∃ new, OrganizationsService.withRole role isDeputy old = some new ∧
        new.orgRole ≠ .leader) ↔
      (∃ given, role = .value given ∧ given ≠ .leader) ∧ isDeputy ≠ .unreadable := by
  cases role with
  | absent =>
      apply iff_of_false
      · rintro ⟨new, updated, demotes⟩
        exact demotes ((Option.some.inj (withRole_orgRole updated)).symm.trans leads)
      · rintro ⟨⟨given, ⟨⟩, _⟩, _⟩
  | unreadable => simp [OrganizationsService.withRole, BodyValue.over]
  | value given =>
      cases isDeputy <;> cases given <;>
        simp [OrganizationsService.withRole, OrganizationsService.deputyAfter, BodyValue.over]

theorem everyOrganizationLed_updateMemberRole_iff (housed : MembersHoused db)
    (led : EveryOrganizationLed db) (id : OrgId) (userId : UserId) (role : BodyValue OrgRole)
    (isDeputy : BodyValue Bool) (user : User) :
    EveryOrganizationLed (step db (.updateMemberRole id userId role isDeputy user)) ↔
      LeavesLeader db (.updateMemberRole id userId role isDeputy user) := by
  have spares : ∀ organization, ¬ DeletesOrganization db
      (.updateMemberRole id userId role isDeputy user) organization := by
    intro organization deletes
    cases deletes
  by_cases demoted : ∃ old new, Demotes db id userId role isDeputy user old new
  · obtain ⟨old, new, activated, found, updated, leads, demotes⟩ := demoted
    obtain ⟨given, readable⟩ := (withRole_demotes_iff leads).mp ⟨new, updated, demotes⟩
    have cond : LeavesLeader db (.updateMemberRole id userId role isDeputy user) ↔
        ¬ LastLeader db id userId := by
      simp only [LeavesLeader, activated, given, readable, ne_eq, not_false_eq_true,
        forall_const]
    obtain ⟨stored, sameOrganization, sameUser⟩ := Db.findMember_some found
    rw [cond]
    apply everyOrganizationLed_without_iff housed led (by simp) spares
    intro member memberLeads
    rw [(step_leaves db (.updateMemberRole id userId role isDeputy user)).members.mem]
    simp only [writes, activated, if_true, found, Option.bind_some, updated, Option.some.injEq,
      true_and, forall_eq']
    constructor
    · rintro (rfl | ⟨memberStored, other⟩)
      · exact absurd memberLeads demotes
      · refine ⟨memberStored, ?_⟩
        rintro ⟨here, self⟩
        apply other
        rw [(withRole_slot updated).1]
        apply congrArg OrganizationMember.id
        apply Table.eq_of_uniq stored memberStored
        simp [OrganizationMember.slot, here, self, sameOrganization, sameUser]
    · rintro ⟨memberStored, other⟩
      refine Or.inr ⟨memberStored, ?_⟩
      intro same
      have self := Table.eq_of_key memberStored stored
        (same.symm.trans (withRole_slot updated).1)
      rw [self] at other
      exact other ⟨sameOrganization, sameUser⟩
  · apply iff_of_true
    · apply everyOrganizationLed_kept led (by simp) spares
      · intro member deletes
        cases deletes
      · intro old stored new saves same leads
        cases saves with
        | regraded activated found updated =>
            obtain ⟨sameId, sameSlot⟩ := withRole_slot updated
            have here := Table.eq_of_key (Db.findMember_some found).1 stored
              (sameId.symm.trans same)
            subst here
            refine ⟨(Prod.mk.inj sameSlot).1, ?_⟩
            by_contra demotes
            exact demoted ⟨_, _, activated, found, updated, leads, demotes⟩
    · intro activated given readable last
      obtain ⟨⟨old, stored, rfl, leads, rfl⟩, _⟩ := last
      obtain ⟨new, updated, demotes⟩ := (withRole_demotes_iff leads).mpr ⟨given, readable⟩
      exact demoted ⟨old, new, activated, Db.findMember_of_mem stored, updated, leads, demotes⟩

theorem everyOrganizationLed_delete (led : EveryOrganizationLed db) (id : OrgId) (user : User) :
    EveryOrganizationLed (step db (.delete id user)) := by
  intro organization member
  rcases ((step_leaves db (.delete id user)).organizations.mem organization).mp member with
    saved | ⟨old, kept, _⟩
  · cases savesOrganization_of_writes saved with
    | edited stored same _ =>
        simp only [writes] at saved
        split at saved <;> cases saved
  · obtain ⟨leader, stored, here, leads⟩ := led organization old
    refine ⟨leader, ((step_leaves db (.delete id user)).members.mem leader).mpr ?_, here, leads⟩
    refine Or.inr ⟨stored, ?_, ?_⟩
    · rw [Bool.eq_false_iff]
      intro deleted
      cases deletesMember_iff.mp deleted with
      | cascaded gone same =>
          obtain rfl := here.symm.trans same
          have deletes := deletesOrganization_iff.mpr (DeletesOrganization.deleted gone)
          rw [kept] at deletes
          cases deletes
    · intro new savedMember
      cases savesMember_of_writes savedMember

theorem everyOrganizationLed_step_iff (housed : MembersHoused db)
    (led : EveryOrganizationLed db) (op : OrganizationsOp) :
    EveryOrganizationLed (op.step db) ↔ LeavesLeader db op := by
  cases op with
  | create dto user => exact everyOrganizationLed_create_iff housed led dto user
  | removeMember id userId user =>
      exact everyOrganizationLed_removeMember_iff housed led id userId user
  | updateMemberRole id userId role isDeputy user =>
      exact everyOrganizationLed_updateMemberRole_iff housed led id userId role isDeputy user
  | leave id user => exact iff_of_true (everyOrganizationLed_leave housed led id user) trivial
  | delete id user => exact iff_of_true (everyOrganizationLed_delete led id user) trivial
  | addMember id userId role user =>
      refine iff_of_true (everyOrganizationLed_kept led (by simp) ?_ ?_ ?_) trivial
      · intro organization deletes
        cases deletes
      · intro member deletes
        cases deletes
      · intro old stored new saves same
        cases saves with
        | added _ _ => exact absurd same (newMember_ne stored _ _ _)
  | approveRequest id requestId user comment now =>
      refine iff_of_true (everyOrganizationLed_kept led (by simp) ?_ ?_ ?_) trivial
      · intro organization deletes
        cases deletes
      · intro member deletes
        cases deletes
      · intro old stored new saves same
        cases saves with
        | approved _ _ _ => exact absurd same (newMember_ne stored _ _ _)
  | rejectRequest | update | join | createChat | uploadLogo | uploadBanner =>
      refine iff_of_true (everyOrganizationLed_kept led (by simp) ?_ ?_ ?_) trivial
      · intro organization deletes
        cases deletes
      · intro member deletes
        cases deletes
      · intro old _ new saves
        cases saves

end Calls

/-! ## Every run -/

/-- All organizations have a leader throughout a run exactly when every call of it leaves
one. -/
theorem everyOrganizationLed_iff {db : Db} (housed : MembersHoused db)
    (start : EveryOrganizationLed db) (ops : List OrganizationsOp) :
    Always OrganizationsOp.step EveryOrganizationLed db ops ↔
      Throughout OrganizationsOp.step LeavesLeader db ops := by
  apply always_iff_throughout (I := MembersHoused) (A := fun _ => True)
  · intro db op housed _
    exact OrganizationsOp.membersHoused_step housed
  · intro db op housed _ led
    exact everyOrganizationLed_step_iff housed led op
  · exact housed
  · exact start
  · exact fun _ _ => trivial

/-- The first volunteer founds an organization and removes herself. -/
def foundedAndAbandoned : List OrganizationsOp :=
  [.create { name := "Штаб", description := none, parentOrgId := none, tags := none }
      firstVolunteer,
    .removeMember 0 firstVolunteer.id firstVolunteer]

theorem everyOrganizationLed_board (level : ClearanceLevel) :
    MembersHoused (exampleBoard level) ∧ EveryOrganizationLed (exampleBoard level) := by
  constructor
  · intro member stored
    cases stored
  · intro organization stored
    cases stored

theorem everyOrganizationLed_iff_witness :
    Always OrganizationsOp.step EveryOrganizationLed (exampleBoard .local) foundedAndAbandoned ↔
      Throughout OrganizationsOp.step LeavesLeader (exampleBoard .local) foundedAndAbandoned :=
  everyOrganizationLed_iff (everyOrganizationLed_board .local).1
    (everyOrganizationLed_board .local).2 foundedAndAbandoned

/-- Afterwards the organization is stored and has no member left. -/
theorem everyOrganizationLed_fails :
    MembersHoused (exampleBoard .local) ∧ EveryOrganizationLed (exampleBoard .local) ∧
      ¬ Always OrganizationsOp.step EveryOrganizationLed (exampleBoard .local)
        foundedAndAbandoned := by
  obtain ⟨housed, start⟩ := everyOrganizationLed_board .local
  refine ⟨housed, start, ?_⟩
  intro always
  have abandoned :
      (execute OrganizationsOp.step (exampleBoard .local) foundedAndAbandoned).members.rows = [] ∧
        (execute OrganizationsOp.step (exampleBoard .local)
          foundedAndAbandoned).organizations.rows ≠ [] := by
    decide +kernel
  obtain ⟨organization, stored⟩ := List.exists_mem_of_ne_nil _ abandoned.2
  obtain ⟨leader, member, _⟩ := always_end always organization stored
  rw [abandoned.1] at member
  cases member

end VolunteerApi
