import VolunteerApi.Effects.TrustEffects

/-!
# The bonus of a higher level

`recalculateClearance` adds five points for `INTERNATIONAL` and ten for `FRONTLINE` to a score
that arrives as text, so the digits of the bonus go behind the two decimals of the score.  The
bonus is that of the new level, whether the user rose to it or fell.
-/

set_option autoImplicit false

namespace VolunteerApi

open Relational Programs
open UsersService

/-- The score that a change of the level should leave, in hundredths. -/
def creditedScore (old new : ClearanceLevel) (score : Nat) : Nat :=
  if old.rank < new.rank then min 10000 (score + 100 * bonusOf new) else score

/-- The recalculation credits the user with the bonus of the level it raises the user to. -/
def CreditsLevel (required : Nat) (db : Db) (user : User) : Prop :=
  ∃ later ∈ (UsersOp.run required db (.recalculateClearance user.id)).2.users.rows,
    later.id = user.id ∧
      later.trustScore = creditedScore user.clearanceLevel later.clearanceLevel user.trustScore

/-- The score is so high that the appended digits do what the bonus should do. -/
def ScoreAllows (score : Nat) (old : ClearanceLevel) : ClearanceLevel → Prop
  | .local => score ≤ 10000
  | .international => if old = .local then 9999 ≤ score else score = 10000
  | .frontline => 10000 ≤ score

/-- The recalculation finds the level that the vouches give, or one that an admin granted. -/
def LevelStays (required : Nat) (db : Db) (user : User) : Prop :=
  user.frontlineGrantedByAdmin = true ∧ user.clearanceLevel = .frontline ∨
    user.clearanceLevel =
      clearanceFor required (db.activeVouches user.id) user.isEmailVerified

/-! ## Appended digits -/

/-- Five points become half a hundredth, which is rounded up to a whole one. -/
@[simp] theorem appendedScore_international (score : Nat) : appendedScore score 5 = score + 1 := by
  have places : Nat.pow 10 (Nat.toDigits 10 5).length = 10 := by decide
  simp only [appendedScore, places]
  omega

/-- Ten points become a tenth of a hundredth, which is rounded away. -/
@[simp] theorem appendedScore_frontline (score : Nat) : appendedScore score 10 = score := by
  have places : Nat.pow 10 (Nat.toDigits 10 10).length = 100 := by decide
  simp only [appendedScore, places]
  omega

@[simp] theorem appendedScore_local (score : Nat) : appendedScore score 0 = score := by
  have places : Nat.pow 10 (Nat.toDigits 10 0).length = 10 := by decide
  simp only [appendedScore, places]
  omega

theorem recalculatedScore_eq_iff {old new : ClearanceLevel} (changed : old ≠ new) (score : Nat) :
    recalculatedScore score new = creditedScore old new score ↔ ScoreAllows score old new := by
  cases new with
  | «local» =>
      have fell : ¬ old.rank < ClearanceLevel.local.rank := Nat.not_lt_zero _
      simp only [recalculatedScore, bonusOf, appendedScore_local, creditedScore, if_neg fell,
        ScoreAllows]
      omega
  | international =>
      cases old with
      | «local» =>
          have rose : ClearanceLevel.local.rank < ClearanceLevel.international.rank := by decide
          simp only [recalculatedScore, bonusOf, appendedScore_international, creditedScore,
            if_pos rose, ScoreAllows, if_true]
          omega
      | international => exact absurd rfl changed
      | frontline =>
          have fell : ¬ ClearanceLevel.frontline.rank < ClearanceLevel.international.rank := by
            decide
          simp only [recalculatedScore, bonusOf, appendedScore_international, creditedScore,
            if_neg fell, ScoreAllows, reduceCtorEq, if_false]
          omega
  | frontline =>
      have rose : old.rank < ClearanceLevel.frontline.rank := by
        cases old with
        | «local» => decide
        | international => decide
        | frontline => exact absurd rfl changed
      simp only [recalculatedScore, bonusOf, appendedScore_frontline, creditedScore, if_pos rose,
        ScoreAllows]
      omega

/-! ## The recalculation -/

theorem settled_of_stays {required : Nat} {db : Db} {user : User}
    (stays : LevelStays required db user) :
    settled required (db.activeVouches user.id) user = user := by
  rcases stays with granted | level
  · exact settled_of_granted granted
  · unfold settled
    split
    · rfl
    · exact if_neg (not_not.mpr level)

theorem settled_of_changes {required : Nat} {db : Db} {user : User}
    (changes : ¬ LevelStays required db user) :
    settled required (db.activeVouches user.id) user =
      (recalculatedPatch
        (clearanceFor required (db.activeVouches user.id) user.isEmailVerified)
        (recalculatedScore user.trustScore
          (clearanceFor required (db.activeVouches user.id) user.isEmailVerified))).run user := by
  obtain ⟨notGranted, changed⟩ := not_or.mp changes
  rw [settled, if_neg notGranted, if_pos changed]

theorem creditsLevel_settled {required : Nat} {db : Db} {user : User}
    (stored : user ∈ db.users.rows) :
    CreditsLevel required db user ↔
      (settled required (db.activeVouches user.id) user).trustScore =
        creditedScore user.clearanceLevel
          (settled required (db.activeVouches user.id) user).clearanceLevel user.trustScore := by
  have replaced := Table.replaced_update_key (settledPatch required db.activeVouches) stored
  rw [CreditsLevel, UsersOp.run_recalculateClearance, recalculated_users]
  constructor
  · rintro ⟨later, member, same, credited⟩
    rw [replaced.eq_new member same] at credited
    exact credited
  · intro credited
    exact ⟨_, replaced.new_mem, replaced.sameKey, credited⟩

/-- A recalculation credits the user with the bonus of the level, exactly if it does not change
the level or the score is so high that the appended digits do the same. -/
theorem creditsLevel_iff {required : Nat} {db : Db} {user : User}
    (stored : user ∈ db.users.rows) :
    CreditsLevel required db user ↔
      LevelStays required db user ∨
        ScoreAllows user.trustScore user.clearanceLevel
          (clearanceFor required (db.activeVouches user.id) user.isEmailVerified) := by
  rw [creditsLevel_settled stored]
  by_cases stays : LevelStays required db user
  · rw [settled_of_stays stays]
    exact iff_of_true (if_neg (Nat.lt_irrefl _)).symm (Or.inl stays)
  · rw [settled_of_changes stays, or_iff_right stays]
    exact recalculatedScore_eq_iff (not_or.mp stays).2 user.trustScore

/-- Ten points, and a first vouch. -/
def vouchedBoard : Db :=
  { exampleBoard .local with
    vouches :=
      { rows := [newVouch 1 firstAdmin 0]
        next := 1
        below := by decide
        keys := by decide
        slots := by decide } }

theorem firstVolunteer_stored : firstVolunteer ∈ vouchedBoard.users.rows := by
  simp [vouchedBoard, exampleBoard]

theorem creditsLevel_iff_witness :
    CreditsLevel 3 vouchedBoard firstVolunteer ↔
      LevelStays 3 vouchedBoard firstVolunteer ∨
        ScoreAllows 1000 .local .international :=
  creditsLevel_iff firstVolunteer_stored

/-- The score is 10.01 and not 15. -/
theorem creditsLevel_fails :
    firstVolunteer ∈ vouchedBoard.users.rows ∧ ¬ CreditsLevel 3 vouchedBoard firstVolunteer := by
  refine ⟨firstVolunteer_stored, ?_⟩
  rw [creditsLevel_settled firstVolunteer_stored]
  decide +kernel

end VolunteerApi
