import VolunteerApi.Effects.TrustEffects

/-!
# Which way a call moves a clearance level

A vouch that is given or restored should not lower a level, one that is suspended
or revoked should not raise it.  Both hold as long as the stored level is not one
that a recalculation would not have given: a level set by an admin at creation, a
level set below what the vouches give, or one left behind by a late verification.
-/

set_option autoImplicit false

namespace VolunteerApi

open Relational Programs
open UsersService AuthService

/-- The rank of the user's level before and after is related by `R`. -/
def LevelMoves (R : Nat → Nat → Prop) (db after : Db) (userId : UserId) : Prop :=
  ∀ before ∈ db.users.rows, before.id = userId → ∀ later ∈ after.users.rows, later.id = userId →
    R before.clearanceLevel.rank later.clearanceLevel.rank

abbrev NotLowered := LevelMoves (· ≤ ·)
abbrev NotRaised := LevelMoves (· ≥ ·)

/-- Giving and restoring a vouch does not lower the level of the vouchee; blocking the
voucher and revoking a vouch does not raise it. -/
def LevelsOrdered (required : Nat) (db : Db) : ApiOp → Prop
  | .users (.vouchForUser voucheeId user) =>
      NotLowered db (ApiOp.step required db (.users (.vouchForUser voucheeId user))) voucheeId
  | .users (.restoreVouch vouchId user) =>
      ∀ vouch ∈ db.vouches.rows, vouch.id = vouchId →
        NotLowered db (ApiOp.step required db (.users (.restoreVouch vouchId user)))
          vouch.voucheeId
  | .users (.blockUser targetId user now) =>
      ∀ vouch ∈ db.vouches.rows, vouch.voucherId = targetId →
        NotRaised db (ApiOp.step required db (.users (.blockUser targetId user now)))
          vouch.voucheeId
  | .users (.revokeVouchPermanently vouchId user) =>
      ∀ vouch ∈ db.vouches.rows, vouch.id = vouchId →
        NotRaised db (ApiOp.step required db (.users (.revokeVouchPermanently vouchId user)))
          vouch.voucheeId
  | _ => True

/-- A stored `FRONTLINE` is granted, or `count` vouches and the email flag give it. -/
def FrontlineHolds (required count : Nat) (user : User) : Prop :=
  user.clearanceLevel = .frontline →
    user.frontlineGrantedByAdmin = true ∨ (required ≤ count ∧ user.isEmailVerified = true)

/-- The stored level is not below the one that `count` vouches and the email flag give. -/
def NotBehind (required count : Nat) (user : User) : Prop :=
  (required ≤ count ∨ 1 ≤ count → user.clearanceLevel ≠ .local) ∧
    (required ≤ count → user.isEmailVerified = true → user.clearanceLevel = .frontline)

/-- Calls that pass their checks meet users whose level fits the vouches that are there
once the call has changed them. -/
def LevelsFit (required : Nat) (db : Db) : ApiOp → Prop
  | .users (.vouchForUser voucheeId user) =>
      Vouching db voucheeId user →
        ∀ vouchee ∈ db.users.rows, vouchee.id = voucheeId →
          FrontlineHolds required (db.activeVouches voucheeId + 1) vouchee
  | .users (.restoreVouch vouchId user) =>
      ∀ vouch, Restoring db vouchId user vouch →
        ∀ vouchee ∈ db.users.rows, vouchee.id = vouch.voucheeId →
          FrontlineHolds required (supportWith db vouch.voucheeId vouchId) vouchee
  | .users (.blockUser targetId user _) =>
      user.systemRole = .admin →
        ∀ vouch ∈ db.vouches.rows, vouch.voucherId = targetId →
          ∀ vouchee ∈ db.users.rows, vouchee.id = vouch.voucheeId →
            NotBehind required (supportBy db vouch.voucheeId targetId) vouchee
  | .users (.revokeVouchPermanently vouchId user) =>
      user.systemRole = .admin →
        ∀ vouch, db.findVouch vouchId = some vouch →
          ∀ vouchee ∈ db.users.rows, vouchee.id = vouch.voucheeId →
            NotBehind required (supportWithout db vouch.voucheeId vouchId) vouchee
  | _ => True

/-! ## One recalculation -/

theorem clearanceFor_eq_frontline {required count : Nat} {isEmailVerified : Bool} :
    clearanceFor required count isEmailVerified = .frontline ↔
      required ≤ count ∧ isEmailVerified = true := by
  unfold clearanceFor
  by_cases reached : count ≥ required ∧ isEmailVerified = true
  · rw [if_pos reached]
    exact iff_of_true rfl reached
  · rw [if_neg reached]
    refine iff_of_false ?_ reached
    split <;> [simp; (split <;> simp)]

theorem clearanceFor_eq_local {required count : Nat} {isEmailVerified : Bool} :
    clearanceFor required count isEmailVerified = .local ↔ ¬ (required ≤ count ∨ 1 ≤ count) := by
  unfold clearanceFor
  by_cases enough : required ≤ count
  · cases isEmailVerified <;> simp [enough]
  · by_cases one : 1 ≤ count
    · simp [enough, one]
    · simp [enough, one]

theorem rank_le_local {level : ClearanceLevel} :
    level.rank ≤ ClearanceLevel.local.rank ↔ level = .local := by
  cases level <;> decide

theorem rank_le_international {level : ClearanceLevel} :
    level.rank ≤ ClearanceLevel.international.rank ↔ level ≠ .frontline := by
  cases level <;> decide

theorem international_le_rank {level : ClearanceLevel} :
    ClearanceLevel.international.rank ≤ level.rank ↔ level ≠ .local := by
  cases level <;> decide

theorem frontline_le_rank {level : ClearanceLevel} :
    ClearanceLevel.frontline.rank ≤ level.rank ↔ level = .frontline := by
  cases level <;> decide

theorem rank_le_frontline (level : ClearanceLevel) :
    level.rank ≤ ClearanceLevel.frontline.rank := by
  cases level <;> decide

theorem settled_not_lowered {required count : Nat} {user : User} (one : 1 ≤ count) :
    user.clearanceLevel.rank ≤ (settled required count user).clearanceLevel.rank ↔
      FrontlineHolds required count user := by
  by_cases granted : user.frontlineGrantedByAdmin = true ∧ user.clearanceLevel = .frontline
  · rw [settled_of_granted granted]
    simp [FrontlineHolds, granted.1]
  · rw [settled_level granted]
    cases level : user.clearanceLevel with
    | «local» => simp [FrontlineHolds, level, ClearanceLevel.rank]
    | international =>
        rw [international_le_rank, ne_eq, clearanceFor_eq_local]
        simp [FrontlineHolds, level, one]
    | frontline =>
        have ungranted : ¬ user.frontlineGrantedByAdmin = true := fun flag => granted ⟨flag, level⟩
        rw [frontline_le_rank, clearanceFor_eq_frontline]
        simp [FrontlineHolds, level, ungranted]

theorem settled_not_raised {required count : Nat} {user : User} :
    user.clearanceLevel.rank ≥ (settled required count user).clearanceLevel.rank ↔
      NotBehind required count user := by
  by_cases granted : user.frontlineGrantedByAdmin = true ∧ user.clearanceLevel = .frontline
  · rw [settled_of_granted granted]
    simp [NotBehind, granted.2]
  · rw [settled_level granted, ge_iff_le]
    cases level : user.clearanceLevel with
    | «local» =>
        rw [rank_le_local, clearanceFor_eq_local]
        simp only [NotBehind, level, ne_eq, not_true_eq_false, imp_false, reduceCtorEq]
        constructor
        · intro tooFew
          exact ⟨tooFew, fun enough => absurd (Or.inl enough) tooFew⟩
        · exact And.left
    | international =>
        rw [rank_le_international, ne_eq, clearanceFor_eq_frontline]
        simp [NotBehind, level]
    | frontline =>
        refine iff_of_true (rank_le_frontline _) ?_
        simp [NotBehind, level]

/-- The level after a recalculation depends on trust alone, not on the rest of the row. -/
theorem settled_level_congr {required count : Nat} {left right : User}
    (level : left.clearanceLevel = right.clearanceLevel)
    (granted : left.frontlineGrantedByAdmin = right.frontlineGrantedByAdmin)
    (verified : left.isEmailVerified = right.isEmailVerified) :
    (settled required count left).clearanceLevel =
      (settled required count right).clearanceLevel := by
  by_cases exempt : left.frontlineGrantedByAdmin = true ∧ left.clearanceLevel = .frontline
  · have exemptRight := exempt
    rw [level, granted] at exemptRight
    rw [settled_of_granted exempt, settled_of_granted exemptRight, level]
  · have freeRight := exempt
    rw [level, granted] at freeRight
    rw [settled_level exempt, settled_level freeRight, verified]

/-! ## One call -/

theorem levelMoves_refl {R : Nat → Nat → Prop} (refl : ∀ n, R n n) (db : Db) (userId : UserId) :
    LevelMoves R db db userId := by
  intro before member same later laterMember laterSame
  rw [Table.eq_of_key laterMember member (laterSame.trans same.symm)]
  exact refl _

theorem notLowered_refl (db : Db) (userId : UserId) : NotLowered db db userId :=
  levelMoves_refl Nat.le_refl db userId

theorem notRaised_refl (db : Db) (userId : UserId) : NotRaised db db userId := by
  apply levelMoves_refl
  exact Nat.le_refl

theorem recalculatedAll_row {required : Nat} {db mid : Db} {ids : List UserId} {userId : UserId}
    (listed : userId ∈ ids) {wanted : User → Bool}
    (users : mid.users = db.users.update wanted (blockedPatch true)) {before : User}
    (member : before ∈ db.users.rows) (same : before.id = userId) :
    ∃ later ∈ (ids.foldl (recalculated required) mid).users.rows, later.id = userId ∧
      later.clearanceLevel =
        (settled required (mid.activeVouches userId) before).clearanceLevel := by
  have image := Table.image_mem_update wanted (blockedPatch true) member
  rw [← users, blockedPatch_ite] at image
  have settledImage := Table.image_mem_update (fun user : User => user.id ∈ ids)
    (settledPatch required mid.activeVouches) image
  rw [← recalculatedAll_users, if_pos (decide_eq_true (same ▸ listed))] at settledImage
  refine ⟨_, settledImage, ?_, ?_⟩
  · exact (settled_id _ _ _).trans same
  · rw [← same]
    exact settled_level_congr rfl rfl rfl

theorem levelMoves_recalculatedAll {R : Nat → Nat → Prop} {required : Nat} {db mid : Db}
    {ids : List UserId} {userId : UserId} (listed : userId ∈ ids) {wanted : User → Bool}
    (users : mid.users = db.users.update wanted (blockedPatch true)) :
    LevelMoves R db (ids.foldl (recalculated required) mid) userId ↔
      ∀ before ∈ db.users.rows, before.id = userId →
        R before.clearanceLevel.rank
          (settled required (mid.activeVouches userId) before).clearanceLevel.rank := by
  constructor
  · intro moves before member same
    obtain ⟨later, laterMember, laterSame, level⟩ := recalculatedAll_row listed users member same
    rw [← level]
    exact moves before member same later laterMember laterSame
  · intro related before member same later laterMember laterSame
    obtain ⟨row, rowMember, rowSame, level⟩ := recalculatedAll_row listed users member same
    rw [Table.eq_of_key laterMember rowMember (laterSame.trans rowSame.symm), level]
    exact related before member same

theorem levelMoves_recalculated {R : Nat → Nat → Prop} {required : Nat} {db mid : Db}
    {userId : UserId} (users : mid.users = db.users) :
    LevelMoves R db (recalculated required mid userId) userId ↔
      ∀ before ∈ db.users.rows, before.id = userId →
        R before.clearanceLevel.rank
          (settled required (mid.activeVouches userId) before).clearanceLevel.rank := by
  have untouched : mid.users = db.users.update (fun _ => false) (blockedPatch true) := by
    rw [users, Table.update_none]
  exact levelMoves_recalculatedAll (List.mem_singleton_self userId) untouched

theorem vouch_ordered_iff (required : Nat) (db : Db) (voucheeId : UserId) (user : User) :
    LevelsOrdered required db (.users (.vouchForUser voucheeId user)) ↔
      LevelsFit required db (.users (.vouchForUser voucheeId user)) := by
  by_cases vouching : Vouching db voucheeId user
  · obtain ⟨_, after, ran, vouches, inserted, rfl⟩ :=
      @vouchForUser_run required db voucheeId user vouching
    have stepped : ApiOp.step required db (.users (.vouchForUser voucheeId user)) =
        recalculated required { db with vouches := vouches } voucheeId := congrArg Prod.snd ran
    simp only [LevelsOrdered, LevelsFit, stepped, vouching, true_implies]
    have users : { db with vouches := vouches }.users = db.users := rfl
    rw [NotLowered, levelMoves_recalculated users, activeVouches_inserted inserted, if_pos rfl]
    refine forall₃_congr fun vouchee _ _ => ?_
    exact settled_not_lowered (Nat.le_add_left 1 _)
  · have stepped : ApiOp.step required db (.users (.vouchForUser voucheeId user)) = db := by
      apply Prog.Guarded.refused (vouchForUser_guarded required voucheeId user db)
      intro _ _ passed
      exact vouching passed.1
    simp only [LevelsOrdered, LevelsFit, stepped, vouching, false_implies, iff_true]
    exact notLowered_refl db voucheeId

theorem forall_vouch_iff {db : Db} {vouchId : VouchId} {vouch : TrustVouch}
    (found : db.findVouch vouchId = some vouch) {P : TrustVouch → Prop} :
    (∀ other ∈ db.vouches.rows, other.id = vouchId → P other) ↔ P vouch := by
  constructor
  · intro all
    obtain ⟨member, same⟩ := Db.findVouch_some found
    exact all vouch member same
  · intro holds other member same
    rw [Db.eq_of_findVouch found member same]
    exact holds

theorem restore_ordered_iff (required : Nat) (db : Db) (vouchId : VouchId) (user : User) :
    LevelsOrdered required db (.users (.restoreVouch vouchId user)) ↔
      LevelsFit required db (.users (.restoreVouch vouchId user)) := by
  by_cases passed : ∃ vouch, Restoring db vouchId user vouch
  · obtain ⟨vouch, restoring⟩ := passed
    obtain ⟨member, sameId⟩ := Db.findVouch_some restoring.found
    have stepped : ApiOp.step required db (.users (.restoreVouch vouchId user)) =
        recalculated required (restored db vouchId) vouch.voucheeId :=
      congrArg Prod.snd (restoreVouch_run restoring)
    have one : 1 ≤ supportWith db vouch.voucheeId vouchId :=
      Table.count_pos member (by simp [sameId])
    have ordered : NotLowered db (recalculated required (restored db vouchId) vouch.voucheeId)
        vouch.voucheeId ↔ ∀ vouchee ∈ db.users.rows, vouchee.id = vouch.voucheeId →
          FrontlineHolds required (supportWith db vouch.voucheeId vouchId) vouchee := by
      have users : (restored db vouchId).users = db.users := rfl
      rw [NotLowered, levelMoves_recalculated users, activeVouches_restored]
      exact forall₃_congr fun vouchee _ _ => settled_not_lowered one
    simp only [LevelsOrdered, LevelsFit, stepped]
    rw [forall_vouch_iff restoring.found, ordered]
    constructor
    · intro fits other otherRestoring
      rw [Option.some.inj (otherRestoring.found.symm.trans restoring.found)]
      exact fits
    · intro all
      exact all vouch restoring
  · have stepped : ApiOp.step required db (.users (.restoreVouch vouchId user)) = db := by
      apply Prog.Guarded.refused (restoreVouch_guarded required vouchId user db)
      intro _ _ post
      obtain ⟨vouch, restoring, _⟩ := post
      exact passed ⟨vouch, restoring⟩
    simp only [LevelsOrdered, LevelsFit, stepped]
    refine iff_of_true ?_ ?_
    · intro vouch _ _
      exact notLowered_refl db vouch.voucheeId
    · intro vouch restoring
      exact absurd ⟨vouch, restoring⟩ passed

theorem revoke_ordered_iff (required : Nat) (db : Db) (vouchId : VouchId) (user : User) :
    LevelsOrdered required db (.users (.revokeVouchPermanently vouchId user)) ↔
      LevelsFit required db (.users (.revokeVouchPermanently vouchId user)) := by
  by_cases passed : user.systemRole = .admin ∧ ∃ vouch, db.findVouch vouchId = some vouch
  · obtain ⟨admin, vouch, found⟩ := passed
    have stepped : ApiOp.step required db (.users (.revokeVouchPermanently vouchId user)) =
        recalculated required (revoked db vouchId) vouch.voucheeId :=
      congrArg Prod.snd (revokeVouchPermanently_run admin found)
    have ordered : NotRaised db (recalculated required (revoked db vouchId) vouch.voucheeId)
        vouch.voucheeId ↔ ∀ vouchee ∈ db.users.rows, vouchee.id = vouch.voucheeId →
          NotBehind required (supportWithout db vouch.voucheeId vouchId) vouchee := by
      have users : (revoked db vouchId).users = db.users := rfl
      rw [NotRaised, levelMoves_recalculated users, activeVouches_revoked]
      exact forall₃_congr fun vouchee _ _ => settled_not_raised
    simp only [LevelsOrdered, LevelsFit, stepped, admin, true_implies]
    rw [forall_vouch_iff found, ordered]
    constructor
    · intro fits other otherFound
      rw [Option.some.inj (otherFound.symm.trans found)]
      exact fits
    · intro all
      exact all vouch found
  · have stepped : ApiOp.step required db (.users (.revokeVouchPermanently vouchId user)) = db := by
      apply Prog.Guarded.refused (revokeVouchPermanently_guarded required vouchId user db)
      intro _ _ post
      obtain ⟨vouch, ⟨admin, found⟩, _⟩ := post
      exact passed ⟨admin, vouch, found⟩
    simp only [LevelsOrdered, LevelsFit, stepped]
    refine iff_of_true ?_ ?_
    · intro vouch _ _
      exact notRaised_refl db vouch.voucheeId
    · intro admin vouch found
      exact absurd ⟨admin, vouch, found⟩ passed

theorem block_ordered_iff (required : Nat) (db : Db) (targetId : UserId) (user : User)
    (now : Time) :
    LevelsOrdered required db (.users (.blockUser targetId user now)) ↔
      LevelsFit required db (.users (.blockUser targetId user now)) := by
  by_cases admin : user.systemRole = .admin
  · have stepped : ApiOp.step required db (.users (.blockUser targetId user now)) =
        (affectedBy (blocked db targetId now) targetId).foldl (recalculated required)
          (blocked db targetId now) := congrArg Prod.snd (blockUser_run admin now)
    simp only [LevelsOrdered, LevelsFit, stepped, admin, true_implies]
    refine forall₃_congr fun vouch member given => ?_
    rw [NotRaised, levelMoves_recalculatedAll (affectedBy_of_vouch member given) rfl,
      activeVouches_blocked]
    exact forall₃_congr fun vouchee _ _ => settled_not_raised
  · have stepped : ApiOp.step required db (.users (.blockUser targetId user now)) = db := by
      apply Prog.Guarded.refused (blockUser_guarded required targetId user now db)
      intro _ _ passed
      exact admin passed.1
    simp only [LevelsOrdered, LevelsFit, stepped, admin, false_implies, iff_true]
    intro vouch _ _
    exact notRaised_refl db vouch.voucheeId

theorem levelsOrdered_step_iff (required : Nat) (db : Db) (op : ApiOp) :
    LevelsOrdered required db op ↔ LevelsFit required db op := by
  cases op with
  | users op =>
      cases op with
      | vouchForUser voucheeId user => exact vouch_ordered_iff required db voucheeId user
      | restoreVouch vouchId user => exact restore_ordered_iff required db vouchId user
      | revokeVouchPermanently vouchId user => exact revoke_ordered_iff required db vouchId user
      | blockUser targetId user now => exact block_ordered_iff required db targetId user now
      | _ => exact Iff.rfl
  | tasks op => exact Iff.rfl
  | requests op => exact Iff.rfl
  | auth op => exact Iff.rfl

/-- In every run of all services, from any database, the vouch operations move levels
the way they should exactly when they meet only levels that fit the vouches. -/
theorem levelsOrdered_iff (required : Nat) (db : Db) (ops : List ApiOp) :
    Throughout (ApiOp.step required) (LevelsOrdered required) db ops ↔
      Throughout (ApiOp.step required) (LevelsFit required) db ops :=
  throughout_congr (levelsOrdered_step_iff required) db ops

/-- An admin creates a volunteer with `FRONTLINE` and vouches for them. -/
def createdWithFrontline : List ApiOp :=
  [.users (.createUser ⟨"new@example.org", "New", .volunteer, some .frontline, none⟩ firstAdmin),
   .users (.vouchForUser 5 firstAdmin)]

theorem levelsOrdered_fails :
    ¬ Throughout (ApiOp.step 3) (LevelsOrdered 3) (exampleBoard .local) createdWithFrontline := by
  rintro ⟨_, ordered, _⟩
  revert ordered
  unfold LevelsOrdered NotLowered LevelMoves
  decide +kernel

end VolunteerApi
