import VolunteerApi.Effects.OrganizationsOutcomes
import VolunteerApi.Programs.Runs

/-!
# Who reviews the join requests of an organization

The guard of the two routes looks up the caller's membership in the organization of the
path.  `handleJoinRequest` looks up the join request by its own number only, so the
request may belong to any other organization.
-/

set_option autoImplicit false

namespace VolunteerApi

open Relational Programs

/-- A `LEADER`, a `COORDINATOR` or a deputy of the organization. -/
def Reviews (db : Db) (id : OrgId) (user : User) : Prop :=
  ∃ member ∈ db.members.rows, member.organizationId = id ∧ member.userId = user.id ∧
    (member.orgRole = .leader ∨ member.orgRole = .coordinator ∨ member.isDeputy = true)

instance (db : Db) (id : OrgId) (user : User) : Decidable (Reviews db id user) :=
  inferInstanceAs (Decidable (∃ member ∈ db.members.rows,
    member.organizationId = id ∧ member.userId = user.id ∧
      (member.orgRole = .leader ∨ member.orgRole = .coordinator ∨ member.isDeputy = true)))

/-- The join requests of the organization are as they were, and nobody was taken in. -/
structure TenantKept (db after : Db) (id : OrgId) : Prop where
  joinRequests : ∀ request, request.organizationId = id →
    (request ∈ after.joinRequests.rows ↔ request ∈ db.joinRequests.rows)
  members : ∀ member ∈ after.members.rows, member.organizationId = id → member ∈ db.members.rows

/-- The call keeps every organization where the caller has no say. -/
def IsolatesTenants (db : Db) (op : OrganizationsOp) : Prop :=
  ∀ id, op.caller.systemRole ≠ .admin → ¬ Reviews db id op.caller →
    TenantKept db (op.step db) id

def reviewCall (approve : Bool) (id : OrgId) (requestId : JoinRequestId) (user : User)
    (comment : Option (Option String)) (now : Time) : OrganizationsOp :=
  if approve then .approveRequest id requestId user comment now
  else .rejectRequest id requestId user comment now

/-- Who has a say in the organization of the path has one in that of the join request. -/
def SameTenant (db : Db) (id : OrgId) (requestId : JoinRequestId) (user : User) : Prop :=
  user.systemRole ≠ .admin → Reviews db id user →
    ∀ request, OrganizationsOp.reviewable db requestId user = some request →
      Reviews db request.organizationId user

section Calls

open OrganizationsOp OrganizationsService

variable {db after : Db}

/-- The guard of a route that leaders and coordinators may call. -/
theorem activates_iff_reviews {path : String} (deletes : includes path "delete" = false)
    (transfers : includes path "transfer" = false) (id : OrgId) (user : User) :
    activates [.leader, .coordinator] path db id user = true ↔
      user.systemRole = .admin ∨ Reviews db id user := by
  have listed : ∀ member : OrganizationMember,
      (OrganizationRoleGuard.standsIn [.leader, .coordinator] path member = true ∨
        member.orgRole ∈ [OrgRole.leader, .coordinator]) ↔
      (member.orgRole = .leader ∨ member.orgRole = .coordinator ∨ member.isDeputy = true) := by
    intro member
    simp only [OrganizationRoleGuard.standsIn, deletes, transfers, List.mem_cons,
      List.not_mem_nil, or_false, and_true, decide_eq_true_eq, true_or, true_and]
    tauto
  simp only [activates, decide_eq_true_eq]
  apply or_congr Iff.rfl
  rw [Option.any_eq_true]
  constructor
  · rintro ⟨member, found, passes⟩
    obtain ⟨stored, here, self⟩ := Db.findMember_some found
    exact ⟨member, stored, here, self, (listed member).mp (of_decide_eq_true passes)⟩
  · rintro ⟨member, stored, rfl, self, passes⟩
    rw [← self]
    exact ⟨member, Db.findMember_of_mem stored, decide_eq_true ((listed member).mpr passes)⟩

theorem reviewCall_writes (db : Db) (approve : Bool) (id : OrgId) (requestId : JoinRequestId)
    (user : User) (comment : Option (Option String)) (now : Time) :
    (user.systemRole = .admin ∨ Reviews db id user) ∧
        (reviewCall approve id requestId user comment now).writes db =
          review db requestId approve user comment now ∨
      ¬ (user.systemRole = .admin ∨ Reviews db id user) ∧
        (reviewCall approve id requestId user comment now).writes db = {} := by
  by_cases passes : user.systemRole = .admin ∨ Reviews db id user
  · refine Or.inl ⟨passes, ?_⟩
    cases approve with
    | true => exact if_pos ((activates_iff_reviews (by decide) (by decide) id user).mpr passes)
    | false => exact if_pos ((activates_iff_reviews (by decide) (by decide) id user).mpr passes)
  · refine Or.inr ⟨passes, ?_⟩
    cases approve with
    | true => exact if_neg ((activates_iff_reviews (by decide) (by decide) id user).not.mpr passes)
    | false =>
        exact if_neg ((activates_iff_reviews (by decide) (by decide) id user).not.mpr passes)

theorem tenantKept_of_leave_nothing (left : OrganizationWrites.Leave {} db after) (id : OrgId) :
    TenantKept db after id := by
  constructor
  · intro request _
    rw [left.joinRequests.mem]
    simp
  · intro member stored _
    simpa [left.members.mem] using stored

/-- A review changes the organization of the join request, and no other. -/
theorem tenantKept_review_iff {requestId : JoinRequestId} {approve : Bool} {reviewer : User}
    {comment : Option (Option String)} {now : Time}
    (left : (review db requestId approve reviewer comment now).Leave db after) (id : OrgId) :
    TenantKept db after id ↔ ∀ request,
      reviewable db requestId reviewer = some request → request.organizationId ≠ id := by
  cases found : reviewable db requestId reviewer with
  | none =>
      rw [review, found] at left
      exact iff_of_true (tenantKept_of_leave_nothing left id) (by simp)
  | some request =>
      have joinRequests := left.joinRequests
      have members := left.members
      simp only [review, found] at joinRequests members
      obtain ⟨stored, passes⟩ := Option.filter_eq_some_iff.mp found
      obtain ⟨member, _⟩ := Db.findJoinRequest_some stored
      simp only [Option.some.injEq, forall_eq']
      constructor
      · intro kept here
        rcases (joinRequests.mem request).mp ((kept.joinRequests request here).mpr member) with
          saved | ⟨_, _, other⟩
        · exact reviewed_ne (of_decide_eq_true passes).1 _ _ _ _ (Option.some.inj saved)
        · exact other _ rfl rfl
      · intro elsewhere
        constructor
        · intro row inside
          rw [joinRequests.mem]
          constructor
          · rintro (saved | ⟨rowStored, _⟩)
            · obtain rfl := Option.some.inj saved
              exact absurd inside elsewhere
            · exact rowStored
          · intro rowStored
            refine Or.inr ⟨rowStored, rfl, ?_⟩
            rintro _ ⟨⟩ same
            have here := Table.eq_of_key member rowStored same
            rw [← here] at inside
            exact elsewhere inside
        · intro row rowStored inside
          rcases (members.mem row).mp rowStored with saved | ⟨before, _⟩
          · simp only [Option.ite_none_right_eq_some, Option.some.injEq] at saved
            obtain ⟨_, rfl⟩ := saved
            exact absurd inside elsewhere
          · exact before

end Calls

theorem reviewCall_caller (approve : Bool) (id : OrgId) (requestId : JoinRequestId) (user : User)
    (comment : Option (Option String)) (now : Time) :
    (reviewCall approve id requestId user comment now).caller = user := by
  cases approve <;> rfl

/-- A call of the two routes keeps every organization where the caller has no say exactly
when, wherever the path lets him pass, he has a say in the organization of the join request. -/
theorem isolatesTenants_iff (db : Db) (approve : Bool) (id : OrgId) (requestId : JoinRequestId)
    (user : User) (comment : Option (Option String)) (now : Time) :
    IsolatesTenants db (reviewCall approve id requestId user comment now) ↔
      SameTenant db id requestId user := by
  have left := OrganizationsOp.step_leaves db (reviewCall approve id requestId user comment now)
  unfold IsolatesTenants
  rw [reviewCall_caller]
  rcases reviewCall_writes db approve id requestId user comment now with
    ⟨passes, written⟩ | ⟨refused, written⟩
  · rw [written] at left
    constructor
    · intro isolates notAdmin _ request found
      by_contra noSay
      exact (tenantKept_review_iff left request.organizationId).mp
        (isolates request.organizationId notAdmin noSay) request found rfl
    · intro same other notAdmin noSay
      apply (tenantKept_review_iff left other).mpr
      rintro request found rfl
      exact noSay (same notAdmin (passes.resolve_left notAdmin) request found)
  · rw [written] at left
    apply iff_of_true
    · intro other _ _
      exact tenantKept_of_leave_nothing left other
    · intro _ reviews
      exact absurd (Or.inr reviews) refused

/-- Two volunteers found an organization each, and the author asks to join the second one. -/
def twoTenants : Db :=
  execute OrganizationsOp.step (exampleBoard .local)
    [.create { name := "Штаб", description := none, parentOrgId := none, tags := none }
        firstVolunteer,
      .create { name := "Склад", description := none, parentOrgId := none, tags := none }
        secondVolunteer,
      .join 1 author none]

/-- The leader of the first organization takes the author into the second one. -/
theorem isolatesTenants_fails :
    ¬ IsolatesTenants twoTenants (reviewCall true 0 0 firstVolunteer none 5) := by
  intro isolates
  have kept := isolates 1 (by decide) (by decide +kernel)
  have joined : ∃ member ∈ (OrganizationsOp.step twoTenants
      (reviewCall true 0 0 firstVolunteer none 5)).members.rows,
      member.organizationId = 1 ∧ member ∉ twoTenants.members.rows := by
    decide +kernel
  obtain ⟨member, stored, inside, outside⟩ := joined
  exact outside (kept.members member stored inside)

end VolunteerApi
