import VolunteerApi.Effects.TrustEffects

/-!
# Clearance levels as a function of vouches and of the email flag

As long as no admin sets a level, the stored level is a cached value: it should
follow the active vouches and the email flag of the user.  Every change of a vouch
recalculates the users it concerns.  `verifyEmail` changes the flag and does not.
-/

set_option autoImplicit false

namespace VolunteerApi

open Relational Programs
open UsersService AuthService

def levelOf (required count : Nat) (isEmailVerified : Bool) : ClearanceLevel :=
  if required ≤ count ∧ isEmailVerified = true then .frontline
  else if 1 ≤ count then .international
  else .local

theorem clearanceFor_eq {required : Nat} (positive : 1 ≤ required) (count : Nat)
    (isEmailVerified : Bool) :
    clearanceFor required count isEmailVerified = levelOf required count isEmailVerified := by
  unfold clearanceFor levelOf
  by_cases enough : required ≤ count
  · have one : 1 ≤ count := Nat.le_trans positive enough
    simp [enough, one]
  · simp [enough]

/-- Every stored level is the one the active vouches and the email flag give. -/
def LevelsRight (required : Nat) (db : Db) : Prop :=
  ∀ user ∈ db.users.rows,
    user.clearanceLevel = levelOf required (db.activeVouches user.id) user.isEmailVerified

/-- No level was granted, and every vouch is for a stored user. -/
structure Automatic (db : Db) : Prop where
  ungranted : ∀ user ∈ db.users.rows, user.frontlineGrantedByAdmin = false
  vouchees : ∀ vouch ∈ db.vouches.rows, ∃ user ∈ db.users.rows, user.id = vouch.voucheeId

/-- The calls that do not set a level by an admin's hand. -/
def NoLevelSet : ApiOp → Prop
  | .users (.updateClearance _ _ _) => False
  | .users (.createUser _ _) => False
  | _ => True

/-- A verification comes before the vouches that would make it count. -/
def VerifiedInTime (required : Nat) (db : Db) : ApiOp → Prop
  | .auth (.verifyEmail met token now) =>
      ∀ user, Verifying db met token now user →
        user.isEmailVerified = true ∨ db.activeVouches user.id < required
  | _ => True

/-! ## The invariant under the other steps -/

theorem automatic_of_origin {db after : Db} (automatic : Automatic db)
    (vouches : ∀ vouch ∈ after.vouches.rows,
      ∃ user ∈ db.users.rows, user.id = vouch.voucheeId)
    (origin : ∀ row ∈ after.users.rows, ∃ old ∈ db.users.rows,
      row.frontlineGrantedByAdmin = old.frontlineGrantedByAdmin)
    (kept : ∀ old ∈ db.users.rows, ∃ row ∈ after.users.rows, row.id = old.id) :
    Automatic after := by
  refine ⟨?_, ?_⟩
  · intro row member
    obtain ⟨old, oldMember, same⟩ := origin row member
    rw [same]
    exact automatic.ungranted old oldMember
  · intro vouch member
    obtain ⟨old, oldMember, sameId⟩ := vouches vouch member
    obtain ⟨row, rowMember, rowId⟩ := kept old oldMember
    exact ⟨row, rowMember, rowId.trans sameId⟩

theorem automatic_of_update {db after : Db} {wanted : User → Bool}
    {patch : Patch User.id User.email} (automatic : Automatic db)
    (vouches : ∀ vouch ∈ after.vouches.rows,
      ∃ user ∈ db.users.rows, user.id = vouch.voucheeId)
    (users : after.users = db.users.update wanted patch)
    (ungranting : ∀ user, (patch.run user).frontlineGrantedByAdmin =
      user.frontlineGrantedByAdmin) : Automatic after := by
  refine automatic_of_origin automatic vouches ?_ ?_
  · intro row member
    rw [users] at member
    obtain ⟨old, oldMember, rfl⟩ := (Table.mem_update _ _ _ _).mp member
    refine ⟨old, oldMember, ?_⟩
    split
    · exact ungranting old
    · rfl
  · intro old member
    rw [users]
    exact Table.survives_update wanted patch member

theorem automatic_recalculatedAll {required : Nat} {db : Db} (automatic : Automatic db)
    (ids : List UserId) : Automatic (ids.foldl (recalculated required) db) := by
  refine automatic_of_update automatic ?_ (recalculatedAll_users required ids db) ?_
  · rw [recalculatedAll_vouches]
    exact automatic.vouchees
  · intro user
    exact settled_granted _ _ user

theorem stored_of_findUser {db : Db} {userId : UserId} (found : db.findUser userId ≠ none) :
    ∃ user ∈ db.users.rows, user.id = userId := by
  obtain ⟨user, hit⟩ := Option.ne_none_iff_exists'.mp found
  obtain ⟨member, same⟩ := Db.findUser_some hit
  exact ⟨user, member, same⟩

/-! The database a recalculation begins with. -/

theorem automatic_inserted {db : Db} (automatic : Automatic db) {voucheeId : UserId}
    {voucher : User} (stored : db.findUser voucheeId ≠ none)
    {vouches : Table TrustVouch.id TrustVouch.slot}
    (inserted : db.vouches.insert (newVouch voucheeId voucher) = some vouches) :
    Automatic { db with vouches := vouches } := by
  refine ⟨automatic.ungranted, ?_⟩
  intro vouch member
  rcases ((Table.added_insert inserted).mem vouch).mp member with old | rfl
  · exact automatic.vouchees vouch old
  · exact stored_of_findUser stored

theorem vouchees_update {db : Db} (automatic : Automatic db) (wanted : TrustVouch → Bool)
    (patch : Patch TrustVouch.id TrustVouch.slot) :
    ∀ vouch ∈ (db.vouches.update wanted patch).rows,
      ∃ user ∈ db.users.rows, user.id = vouch.voucheeId := by
  intro vouch member
  obtain ⟨old, oldMember, rfl⟩ := (Table.mem_update _ _ _ _).mp member
  obtain ⟨user, userMember, same⟩ := automatic.vouchees old oldMember
  refine ⟨user, userMember, same.trans ?_⟩
  split
  · exact congrArg Prod.fst (patch.uniq_run old).symm
  · rfl

theorem automatic_restored {db : Db} (automatic : Automatic db) (vouchId : VouchId) :
    Automatic (restored db vouchId) :=
  ⟨automatic.ungranted, vouchees_update automatic _ _⟩

theorem automatic_revoked {db : Db} (automatic : Automatic db) (vouchId : VouchId) :
    Automatic (revoked db vouchId) := by
  refine ⟨automatic.ungranted, ?_⟩
  intro vouch member
  exact automatic.vouchees vouch ((Table.mem_delete _ _ _).mp member).1

theorem automatic_blocked {db : Db} (automatic : Automatic db) (targetId : UserId) (now : Time) :
    Automatic (blocked db targetId now) :=
  automatic_of_update automatic (vouchees_update automatic _ _) rfl fun _ => rfl

theorem automatic_kept {required : Nat} {db after : Db} {op : ApiOp}
    (effect : TrustEffect required db op after) (noSet : NoLevelSet op)
    (automatic : Automatic db) : Automatic after := by
  cases effect with
  | unchanged op => exact automatic
  | tasks op _ people | requests op _ people =>
      refine automatic_of_origin automatic ?_ ?_ ?_
      · rw [people.vouches]
        exact automatic.vouchees
      · intro row member
        obtain ⟨old, oldMember, same⟩ := people.origin row member
        exact ⟨old, oldMember, same.granted⟩
      · intro old member
        obtain ⟨row, rowMember, same⟩ := people.kept old member
        exact ⟨row, rowMember, same.id⟩
  | edited op userId patch mild =>
      exact automatic_of_update automatic automatic.vouchees rfl fun user => (mild user).granted
  | unblocked targetId user =>
      exact automatic_of_update automatic automatic.vouchees rfl fun _ => rfl
  | cleared targetId newLevel user admin stored => exact noSet.elim
  | created dto user users inserted => exact noSet.elim
  | verified met token now user verifying =>
      exact automatic_of_update automatic automatic.vouchees rfl fun _ => rfl
  | registered dto token now users inserted =>
      have added := Table.added_insert inserted
      refine ⟨?_, ?_⟩
      · intro row member
        rcases (added.mem row).mp member with old | rfl
        · exact automatic.ungranted row old
        · rfl
      · intro vouch member
        obtain ⟨user, userMember, same⟩ := automatic.vouchees vouch member
        exact ⟨user, (added.mem user).mpr (Or.inl userMember), same⟩
  | vouched voucheeId user _ vouching vouched =>
      obtain ⟨vouches, inserted, rfl⟩ := vouched
      have mid := automatic_inserted automatic vouching.stored inserted
      exact automatic_recalculatedAll mid [voucheeId]
  | restored vouchId user vouch restoring =>
      exact automatic_recalculatedAll (automatic_restored automatic vouchId) [vouch.voucheeId]
  | revoked vouchId user vouch admin found =>
      exact automatic_recalculatedAll (automatic_revoked automatic vouchId) [vouch.voucheeId]
  | blocked targetId user now admin =>
      exact automatic_recalculatedAll (automatic_blocked automatic targetId now) _
  | recalculated userId => exact automatic_recalculatedAll automatic [userId]

/-! ## Levels under one step -/

/-- A recalculation puts the levels of the listed users right. -/
theorem levels_recalculatedAll {required : Nat} {mid : Db} (positive : 1 ≤ required)
    (automatic : Automatic mid) (ids : List UserId)
    (others : ∀ user ∈ mid.users.rows, user.id ∉ ids →
      user.clearanceLevel = levelOf required (mid.activeVouches user.id) user.isEmailVerified) :
    LevelsRight required (ids.foldl (recalculated required) mid) := by
  intro row member
  have active : (ids.foldl (recalculated required) mid).activeVouches = mid.activeVouches := by
    funext userId
    simp [Db.activeVouches]
  rw [recalculatedAll_users] at member
  obtain ⟨old, oldMember, rfl⟩ := (Table.mem_update _ _ _ _).mp member
  rw [active]
  by_cases listed : old.id ∈ ids
  · have ungranted := automatic.ungranted old oldMember
    simp only [decide_eq_true listed, if_true, settledPatch, settled_id, settled_isEmailVerified]
    rw [settled_level (by simp [ungranted]), clearanceFor_eq positive]
  · simp only [decide_eq_false listed, Bool.false_eq_true, if_false]
    exact others old oldMember listed

/-- Levels stay right while neither they nor what they rest on changes. -/
theorem levels_of_origin {required : Nat} {db after : Db} (right : LevelsRight required db)
    (vouches : after.vouches = db.vouches)
    (origin : ∀ row ∈ after.users.rows, ∃ old ∈ db.users.rows, row.id = old.id ∧
      row.clearanceLevel = old.clearanceLevel ∧ row.isEmailVerified = old.isEmailVerified) :
    LevelsRight required after := by
  intro row member
  obtain ⟨old, oldMember, sameId, sameLevel, sameFlag⟩ := origin row member
  have active : after.activeVouches = db.activeVouches := by
    funext userId
    simp [Db.activeVouches, vouches]
  rw [sameId, sameLevel, sameFlag, active]
  exact right old oldMember

theorem levels_of_update {required : Nat} {db : Db} (right : LevelsRight required db)
    {userId : UserId} {patch : Patch User.id User.email}
    (mild : ∀ user, (patch.run user).clearanceLevel = user.clearanceLevel ∧
      (patch.run user).isEmailVerified = user.isEmailVerified) :
    LevelsRight required (withUser db userId patch) := by
  refine levels_of_origin right rfl ?_
  intro row member
  obtain ⟨old, oldMember, rfl⟩ := (Table.mem_update _ _ _ _).mp member
  refine ⟨old, oldMember, ?_⟩
  split
  · exact ⟨patch.key_run old, mild old⟩
  · exact ⟨rfl, rfl, rfl⟩

theorem vouchee_apart {db : Db} {vouchId : VouchId} {vouch : TrustVouch} {userId : UserId}
    (found : db.findVouch vouchId = some vouch) (unlisted : userId ∉ [vouch.voucheeId]) :
    ∀ stored ∈ db.vouches.rows, stored.id = vouchId → stored.voucheeId ≠ userId := by
  intro stored member same vouchee
  rw [Db.eq_of_findVouch found member same] at vouchee
  simp [vouchee] at unlisted

theorem levels_kept {required : Nat} {db after : Db} {op : ApiOp} (positive : 1 ≤ required)
    (effect : TrustEffect required db op after) (noSet : NoLevelSet op)
    (automatic : Automatic db) (right : LevelsRight required db)
    (inTime : VerifiedInTime required db op) : LevelsRight required after := by
  cases effect with
  | unchanged op => exact right
  | tasks op _ people | requests op _ people =>
      refine levels_of_origin right people.vouches ?_
      intro row member
      obtain ⟨old, oldMember, same⟩ := people.origin row member
      exact ⟨old, oldMember, same.id, same.level, same.verified⟩
  | edited op userId patch mild =>
      exact levels_of_update right fun user => ⟨(mild user).level, (mild user).verified⟩
  | unblocked targetId user => exact levels_of_update right fun _ => ⟨rfl, rfl⟩
  | cleared targetId newLevel user admin stored => exact noSet.elim
  | created dto user users inserted => exact noSet.elim
  | registered dto token now users inserted =>
      intro row member
      rcases ((Table.added_insert inserted).mem row).mp member with old | rfl
      · exact right row old
      · have unknown : db.activeVouches db.users.next = 0 := by
          apply Table.count_eq_zero.mpr
          intro vouch vouchMember
          obtain ⟨user, userMember, same⟩ := automatic.vouchees vouch vouchMember
          have fresh := Table.key_ne_next userMember
          rw [same] at fresh
          simp [fresh]
        change ClearanceLevel.local = levelOf required (db.activeVouches db.users.next) false
        simp [levelOf, unknown]
  | verified met token now user verifying =>
      intro row member
      obtain ⟨old, oldMember, rfl⟩ := (Table.mem_update _ _ _ _).mp member
      by_cases here : old.id = user.id
      · have same : old = user := by
          have found := findByVerificationToken_some verifying.found
          exact Table.eq_of_key oldMember found.1 here
        subst same
        rw [if_pos (decide_eq_true here)]
        change old.clearanceLevel = levelOf required (db.activeVouches old.id) true
        rw [right old oldMember]
        rcases inTime old verifying with already | early
        · rw [already]
        · simp [levelOf, Nat.not_le.mpr early]
      · rw [if_neg (by simpa using here)]
        exact right old oldMember
  | vouched voucheeId user _ vouching vouched =>
      obtain ⟨vouches, inserted, rfl⟩ := vouched
      have mid := automatic_inserted automatic vouching.stored inserted
      refine levels_recalculatedAll positive mid [voucheeId] ?_
      intro other member unlisted
      have apart : voucheeId ≠ other.id := by
        intro same
        simp [same] at unlisted
      rw [activeVouches_inserted inserted, if_neg apart]
      exact right other member
  | restored vouchId user vouch restoring =>
      refine levels_recalculatedAll positive (automatic_restored automatic vouchId)
        [vouch.voucheeId] ?_
      intro other member unlisted
      rw [activeVouches_restored, supportWith_other (vouchee_apart restoring.found unlisted)]
      exact right other member
  | revoked vouchId user vouch admin found =>
      refine levels_recalculatedAll positive (automatic_revoked automatic vouchId)
        [vouch.voucheeId] ?_
      intro other member unlisted
      rw [activeVouches_revoked, supportWithout_other (vouchee_apart found unlisted)]
      exact right other member
  | blocked targetId user now admin =>
      refine levels_recalculatedAll positive (automatic_blocked automatic targetId now) _ ?_
      intro other member unlisted
      obtain ⟨old, oldMember, rfl⟩ := (Table.mem_update _ _ _ _).mp member
      rw [blockedPatch_ite] at unlisted ⊢
      change old.id ∉ _ at unlisted
      change old.clearanceLevel =
        levelOf required ((blocked db targetId now).activeVouches old.id) old.isEmailVerified
      have apart : ∀ vouch ∈ db.vouches.rows, vouch.voucherId = targetId →
          vouch.voucheeId ≠ old.id := by
        intro vouch vouchMember given same
        exact unlisted (same ▸ affectedBy_of_vouch vouchMember given)
      rw [activeVouches_blocked, supportBy_other apart]
      exact right old oldMember
  | recalculated userId =>
      refine levels_recalculatedAll positive automatic [userId] ?_
      intro other member _
      exact right other member

/-- A verification that comes too late leaves a level behind. -/
theorem inTime_of_levels {required : Nat} {db : Db} {op : ApiOp} (positive : 1 ≤ required)
    (right : LevelsRight required db) (after : LevelsRight required (op.step required db)) :
    VerifiedInTime required db op := by
  cases op with
  | auth op =>
      cases op with
      | verifyEmail met token now =>
          intro user verifying
          rw [verifyEmail_step verifying] at after
          obtain ⟨member, _⟩ := findByVerificationToken_some verifying.found
          have image := Table.image_mem_update (fun row : User => row.id = user.id)
            verifiedPatch member
          rw [if_pos (decide_eq_true rfl)] at image
          have stored := right user member
          have later : user.clearanceLevel = levelOf required (db.activeVouches user.id) true :=
            after _ image
          by_contra late
          simp only [not_or, Bool.not_eq_true, Nat.not_lt] at late
          rw [later, late.1] at stored
          have one : 1 ≤ db.activeVouches user.id := Nat.le_trans positive late.2
          simp [levelOf, late.2, one] at stored
      | register dto token now => trivial
      | resendVerificationEmail userId token now => trivial
  | tasks op => trivial
  | users op => trivial
  | requests op => trivial

/-- In every run in which no admin sets a level, every stored level is the one the
vouches and the email flag give exactly when no user with enough vouches has the
email verified afterwards. -/
theorem levelsRight_iff {required : Nat} (positive : 1 ≤ required) {db : Db}
    (automatic : Automatic db) (right : LevelsRight required db) {ops : List ApiOp}
    (noSet : ∀ op ∈ ops, NoLevelSet op) :
    Always (ApiOp.step required) (LevelsRight required) db ops ↔
      Throughout (ApiOp.step required) (VerifiedInTime required) db ops := by
  refine always_iff_throughout ?_ ?_ automatic right noSet
  · intro db op automatic allowed
    exact automatic_kept (ApiOp.trustEffect required db op) allowed automatic
  · intro db op automatic allowed right
    constructor
    · exact inTime_of_levels positive right
    · exact levels_kept positive (ApiOp.trustEffect required db op) allowed automatic right

/-- A volunteer registers, an admin vouches for them, and only then do they open the
link in the letter. -/
def lateVerification : List ApiOp :=
  [.auth (.register { email := "new@example.org", fullName := "New", systemRole := none } "uuid" 0),
   .users (.vouchForUser 5 firstAdmin),
   .auth (.verifyEmail OrderBy.asStored (some "uuid") 1)]

theorem exampleBoard_automatic : Automatic (exampleBoard .local) := by
  refine ⟨?_, ?_⟩
  · decide
  · intro vouch member
    cases member

theorem exampleBoard_levelsRight : LevelsRight 1 (exampleBoard .local) := by
  intro user member
  revert user
  decide

theorem lateVerification_noSet : ∀ op ∈ lateVerification, NoLevelSet op := by
  simp [lateVerification, NoLevelSet]

theorem levelsRight_iff_witness :
    Always (ApiOp.step 1) (LevelsRight 1) (exampleBoard .local) lateVerification ↔
      Throughout (ApiOp.step 1) (VerifiedInTime 1) (exampleBoard .local) lateVerification :=
  levelsRight_iff (by decide) exampleBoard_automatic exampleBoard_levelsRight
    lateVerification_noSet

theorem levelsRight_fails :
    Automatic (exampleBoard .local) ∧ LevelsRight 1 (exampleBoard .local) ∧
      (∀ op ∈ lateVerification, NoLevelSet op) ∧
      ¬ Always (ApiOp.step 1) (LevelsRight 1) (exampleBoard .local) lateVerification := by
  refine ⟨exampleBoard_automatic, exampleBoard_levelsRight, lateVerification_noSet, ?_⟩
  intro all
  have last := always_end all
  have stale : ∃ user ∈ (execute (ApiOp.step 1) (exampleBoard .local) lateVerification).users.rows,
      user.clearanceLevel ≠ levelOf 1
        ((execute (ApiOp.step 1) (exampleBoard .local) lateVerification).activeVouches user.id)
        user.isEmailVerified := by
    decide +kernel
  obtain ⟨user, member, differs⟩ := stale
  exact differs (last user member)

end VolunteerApi
