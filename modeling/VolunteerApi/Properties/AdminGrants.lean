import VolunteerApi.Effects.TrustEffects

/-!
# `FRONTLINE` granted by an admin

`frontlineGrantedByAdmin` goes with `FRONTLINE` only, and a recalculation leaves a
user with both alone.  Whatever happens to vouches, vouchers and email addresses, the
user keeps the level and the assignments until an admin sets the level again.
-/

set_option autoImplicit false

namespace VolunteerApi

open Relational Programs
open UsersService AuthService

/-- Whoever carries the flag has the level. -/
def GrantsFrontline (db : Db) : Prop :=
  ∀ user ∈ db.users.rows, user.frontlineGrantedByAdmin = true → user.clearanceLevel = .frontline

theorem grants_of_update {db after : Db} {wanted : User → Bool} {patch : Patch User.id User.email}
    (grants : GrantsFrontline db) (users : after.users = db.users.update wanted patch)
    (kept : ∀ user, (user.frontlineGrantedByAdmin = true → user.clearanceLevel = .frontline) →
      (patch.run user).frontlineGrantedByAdmin = true →
        (patch.run user).clearanceLevel = .frontline) : GrantsFrontline after := by
  intro row member
  rw [users] at member
  obtain ⟨old, oldMember, rfl⟩ := (Table.mem_update _ _ _ _).mp member
  split
  · exact kept old (grants old oldMember)
  · exact grants old oldMember

theorem grants_of_insert {db : Db} {build : Nat → User} {built : ∀ n, (build n).id = n}
    {users : Table User.id User.email} (grants : GrantsFrontline db)
    (inserted : db.users.insert build built = some users)
    (ungranted : ∀ n, (build n).frontlineGrantedByAdmin = false) :
    GrantsFrontline { db with users := users } := by
  intro row member flag
  rcases ((Table.added_insert inserted).mem row).mp member with old | rfl
  · exact grants row old flag
  · rw [ungranted] at flag
    cases flag

theorem grants_recalculatedAll {required : Nat} {db : Db} (grants : GrantsFrontline db)
    (ids : List UserId) : GrantsFrontline (ids.foldl (recalculated required) db) := by
  refine grants_of_update grants (recalculatedAll_users required ids db) ?_
  intro user before flag
  have same : (settledPatch required db.activeVouches).run user = user := by
    have granted : user.frontlineGrantedByAdmin = true := by
      simpa [settledPatch] using flag
    exact settled_of_granted ⟨granted, before granted⟩
  rw [same] at flag ⊢
  exact before flag

theorem grants_kept {required : Nat} {db after : Db} {op : ApiOp}
    (effect : TrustEffect required db op after) (grants : GrantsFrontline db) :
    GrantsFrontline after := by
  cases effect with
  | unchanged op => exact grants
  | tasks op _ people | requests op _ people =>
      intro row member flag
      obtain ⟨old, oldMember, same⟩ := people.origin row member
      rw [same.level]
      exact grants old oldMember (same.granted ▸ flag)
  | edited op userId patch mild =>
      refine grants_of_update grants rfl ?_
      intro user before flag
      rw [(mild user).level]
      exact before ((mild user).granted ▸ flag)
  | unblocked targetId user => exact grants_of_update grants rfl fun _ before => before
  | cleared targetId newLevel user admin stored =>
      refine grants_of_update grants rfl ?_
      intro _ _ flag
      exact of_decide_eq_true flag
  | created dto user users inserted => exact grants_of_insert grants inserted fun _ => rfl
  | registered dto token now users inserted =>
      exact grants_of_insert grants inserted fun _ => rfl
  | verified met token now user verifying =>
      exact grants_of_update grants rfl fun _ before => before
  | vouched voucheeId user _ vouching vouched =>
      obtain ⟨vouches, inserted, rfl⟩ := vouched
      have mid : GrantsFrontline { db with vouches := vouches } := grants
      exact grants_recalculatedAll mid [voucheeId]
  | restored vouchId user vouch restoring =>
      have mid : GrantsFrontline (restored db vouchId) := grants
      exact grants_recalculatedAll mid [vouch.voucheeId]
  | revoked vouchId user vouch admin found =>
      have mid : GrantsFrontline (revoked db vouchId) := grants
      exact grants_recalculatedAll mid [vouch.voucheeId]
  | blocked targetId user now admin =>
      have mid : GrantsFrontline (blocked db targetId now) :=
        grants_of_update grants rfl fun _ before => before
      exact grants_recalculatedAll mid _
  | recalculated userId => exact grants_recalculatedAll grants [userId]

/-! ## A granted level stands -/

/-- Calls that are no new decision about the user's level. -/
def LeavesGrant (userId : UserId) : ApiOp → Prop
  | .users (.updateClearance targetId _ _) => targetId ≠ userId
  | .users _ => True
  | .auth _ => True
  | _ => False

/-- The user carries the flag and the level. -/
def HoldsGrant (db : Db) (userId : UserId) : Prop :=
  ∃ user ∈ db.users.rows, user.id = userId ∧ user.frontlineGrantedByAdmin = true ∧
    user.clearanceLevel = .frontline

/-- The user still has the level, and every assignment they had before is as it was. -/
structure GrantStands (userId : UserId) (before db : Db) : Prop where
  level : ∃ user ∈ db.users.rows, user.id = userId ∧ user.clearanceLevel = .frontline
  assignments : ∀ assignment ∈ before.assignments.rows, assignment.userId = userId →
    assignment ∈ db.assignments.rows

/-- What a step keeps of a grant. -/
structure GrantKept (userId : UserId) (before after : Db) : Prop where
  granted : HoldsGrant after userId
  assignments : ∀ assignment ∈ before.assignments.rows, assignment.userId = userId →
    assignment ∈ after.assignments.rows

/-- The step began with a change that touches no assignment. -/
theorem GrantKept.since {userId : UserId} {db mid after : Db} (kept : GrantKept userId mid after)
    (same : mid.assignments = db.assignments) : GrantKept userId db after := by
  refine ⟨kept.granted, ?_⟩
  intro assignment member owner
  exact kept.assignments assignment (same ▸ member) owner

theorem granted_of_update {db after : Db} {userId : UserId} {wanted : User → Bool}
    {patch : Patch User.id User.email} (granted : HoldsGrant db userId)
    (users : after.users = db.users.update wanted patch)
    (kept : ∀ user, user.id = userId → wanted user = true →
      (patch.run user).frontlineGrantedByAdmin = user.frontlineGrantedByAdmin ∧
        (patch.run user).clearanceLevel = user.clearanceLevel) : HoldsGrant after userId := by
  obtain ⟨user, member, same, flag, level⟩ := granted
  have image := Table.image_mem_update wanted patch member
  rw [← users] at image
  by_cases hit : wanted user = true
  · rw [if_pos hit] at image
    obtain ⟨sameFlag, sameLevel⟩ := kept user same hit
    exact ⟨_, image, (patch.key_run user).trans same, sameFlag.trans flag,
      sameLevel.trans level⟩
  · rw [if_neg hit] at image
    exact ⟨user, image, same, flag, level⟩

theorem granted_of_insert {db : Db} {build : Nat → User} {built : ∀ n, (build n).id = n}
    {users : Table User.id User.email} {userId : UserId} (granted : HoldsGrant db userId)
    (inserted : db.users.insert build built = some users) :
    HoldsGrant { db with users := users } userId := by
  obtain ⟨user, member, rest⟩ := granted
  exact ⟨user, ((Table.added_insert inserted).mem user).mpr (Or.inl member), rest⟩

theorem grantKept_recalculated {required : Nat} {db : Db} {userId : UserId}
    (granted : HoldsGrant db userId) (id : UserId) :
    GrantKept userId db (recalculated required db id) := by
  by_cases here : id = userId
  · have exempt : recalculated required db id = db := by
      obtain ⟨user, member, same, grant⟩ := granted
      apply recalculated_of_granted
      intro other otherMember otherSame
      rw [Table.eq_of_key otherMember member (otherSame.trans (here.trans same.symm))]
      exact grant
    rw [exempt]
    exact ⟨granted, fun _ member _ => member⟩
  · refine ⟨granted_of_update granted (recalculated_users required db id) ?_, ?_⟩
    · intro user same hit
      exact absurd ((of_decide_eq_true hit).symm.trans same) here
    · intro assignment member owner
      exact recalculated_kept member (fun same => here (same.symm.trans owner))

theorem grantKept_recalculatedAll {required : Nat} {db : Db} {userId : UserId}
    (granted : HoldsGrant db userId) (ids : List UserId) :
    GrantKept userId db (ids.foldl (recalculated required) db) := by
  induction ids generalizing db with
  | nil => exact ⟨granted, fun _ member _ => member⟩
  | cons id rest ih =>
      have first : GrantKept userId db (recalculated required db id) :=
        grantKept_recalculated granted id
      have later := ih first.granted
      refine ⟨later.granted, ?_⟩
      intro assignment member owner
      exact later.assignments assignment (first.assignments assignment member owner) owner

theorem grantKept_of_effect {required : Nat} {db after : Db} {op : ApiOp} {userId : UserId}
    (effect : TrustEffect required db op after) (leaves : LeavesGrant userId op)
    (granted : HoldsGrant db userId) : GrantKept userId db after := by
  cases effect with
  | unchanged op => exact ⟨granted, fun _ member _ => member⟩
  | tasks op _ people | requests op _ people => exact leaves.elim
  | edited op id patch mild =>
      refine ⟨granted_of_update granted rfl ?_, fun _ member _ => member⟩
      intro user _ _
      exact ⟨(mild user).granted, (mild user).level⟩
  | unblocked targetId user =>
      exact ⟨granted_of_update granted rfl fun _ _ _ => ⟨rfl, rfl⟩, fun _ member _ => member⟩
  | cleared targetId newLevel user admin stored =>
      refine ⟨granted_of_update granted rfl ?_, fun _ member _ => member⟩
      intro user same hit
      exact absurd ((of_decide_eq_true hit).symm.trans same) leaves
  | created dto user users inserted =>
      exact ⟨granted_of_insert granted inserted, fun _ member _ => member⟩
  | registered dto token now users inserted =>
      exact ⟨granted_of_insert granted inserted, fun _ member _ => member⟩
  | verified met token now user verifying =>
      exact ⟨granted_of_update granted rfl fun _ _ _ => ⟨rfl, rfl⟩, fun _ member _ => member⟩
  | vouched voucheeId user _ vouching vouched =>
      obtain ⟨vouches, inserted, rfl⟩ := vouched
      have mid : HoldsGrant { db with vouches := vouches } userId := granted
      exact (grantKept_recalculated mid voucheeId).since rfl
  | restored vouchId user vouch restoring =>
      have mid : HoldsGrant (restored db vouchId) userId := granted
      exact (grantKept_recalculated mid vouch.voucheeId).since rfl
  | revoked vouchId user vouch admin found =>
      have mid : HoldsGrant (revoked db vouchId) userId := granted
      exact (grantKept_recalculated mid vouch.voucheeId).since rfl
  | blocked targetId user now admin =>
      have mid : HoldsGrant (blocked db targetId now) userId :=
        granted_of_update granted rfl fun _ _ _ => ⟨rfl, rfl⟩
      exact (grantKept_recalculatedAll mid _).since rfl
  | recalculated id => exact grantKept_recalculated granted id

theorem granted_of_updateClearance {required : Nat} {db : Db} {targetId : UserId} {admin : User}
    (succeeded : ((UsersOp.updateClearance targetId .frontline admin).run required db).1.succeeded =
      true) :
    HoldsGrant (UsersOp.step required db (.updateClearance targetId .frontline admin))
      targetId := by
  rcases (updateClearance_guarded targetId .frontline admin db).cases with
    ⟨error, failed⟩ | ⟨_, after, ran, ⟨_, stored⟩, rfl⟩
  · have outcome : ((UsersOp.updateClearance targetId .frontline admin).run required db).1 =
        .error error := congrArg (fun finished => (ended finished).1) failed
    rw [outcome] at succeeded
    cases succeeded
  · have stepped : UsersOp.step required db (.updateClearance targetId .frontline admin) =
        withUser db targetId (clearancePatch .frontline) := congrArg Prod.snd ran
    obtain ⟨user, found⟩ := Option.ne_none_iff_exists'.mp stored
    obtain ⟨member, same⟩ := Db.findUser_some found
    have image := Table.image_mem_update (fun row : User => row.id = targetId)
      (clearancePatch .frontline) member
    rw [if_pos (decide_eq_true same)] at image
    rw [stepped]
    exact ⟨_, image, same, rfl, rfl⟩

theorem grantStands_run {required : Nat} {userId : UserId} {before db : Db}
    (granted : HoldsGrant db userId)
    (assignments : ∀ assignment ∈ before.assignments.rows, assignment.userId = userId →
      assignment ∈ db.assignments.rows)
    {later : List ApiOp} (leaves : ∀ op ∈ later, LeavesGrant userId op) :
    Always (ApiOp.step required) (GrantStands userId before) db later := by
  induction later generalizing db with
  | nil =>
      obtain ⟨user, member, same, _, level⟩ := granted
      exact ⟨⟨user, member, same, level⟩, assignments⟩
  | cons op rest ih =>
      have kept := grantKept_of_effect (ApiOp.trustEffect required db op)
        (leaves op (List.mem_cons_self)) granted
      refine ⟨?_, ih kept.granted ?_ fun other member => leaves other (by simp [member])⟩
      · obtain ⟨user, member, same, _, level⟩ := granted
        exact ⟨⟨user, member, same, level⟩, assignments⟩
      · intro assignment member owner
        exact kept.assignments assignment (assignments assignment member owner) owner

/-- In every run of all services the flag goes with `FRONTLINE`; and once an admin has
granted `FRONTLINE`, no calls of the users and auth services take it or an assignment from
the user, unless an admin sets the user's level again. -/
theorem adminGrant_stands {required : Nat} {db : Db} (grants : GrantsFrontline db)
    (ops : List ApiOp) :
    Always (ApiOp.step required) GrantsFrontline db ops ∧
      ∀ targetId admin later,
        ((UsersOp.updateClearance targetId .frontline admin).run required
          (execute (ApiOp.step required) db ops)).1.succeeded = true →
        (∀ op ∈ later, LeavesGrant targetId op) →
        Always (ApiOp.step required)
          (GrantStands targetId
            (UsersOp.step required (execute (ApiOp.step required) db ops)
              (.updateClearance targetId .frontline admin)))
          (UsersOp.step required (execute (ApiOp.step required) db ops)
            (.updateClearance targetId .frontline admin)) later := by
  constructor
  · refine always_of_invariant ?_ grants ops
    intro db op grants
    exact grants_kept (ApiOp.trustEffect required db op) grants
  · intro targetId admin later succeeded leaves
    exact grantStands_run (granted_of_updateClearance succeeded) (fun _ member _ => member) leaves

/-- A volunteer is granted `FRONTLINE`; an admin who vouched for them is blocked. -/
theorem adminGrant_stands_witness :
    Always (ApiOp.step 3)
      (GrantStands 1 (UsersOp.step 3 (exampleBoard .frontline)
        (.updateClearance 1 .frontline firstAdmin)))
      (UsersOp.step 3 (exampleBoard .frontline) (.updateClearance 1 .frontline firstAdmin))
      [.users (.vouchForUser 1 secondAdmin), .users (.blockUser 4 firstAdmin 0)] := by
  have grants : GrantsFrontline (exampleBoard .frontline) := by
    unfold GrantsFrontline
    decide
  refine (adminGrant_stands grants []).2 1 firstAdmin _ (by decide +kernel) ?_
  simp [LeavesGrant]

end VolunteerApi
