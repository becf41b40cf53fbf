import VolunteerApi.Effects.TrustEffects

/-!
# Losing `FRONTLINE`

A recalculation that takes `FRONTLINE` from a user withdraws the user's assignments
first, whichever call it belongs to.  `updateClearance` takes the level as well, and
leaves the assignments to the user.
-/

set_option autoImplicit false

namespace VolunteerApi

open Relational Programs
open UsersService AuthService

/-- The user is `ASSIGNED`, `EN_ROUTE` or `ON_SITE` on no task. -/
def Unassigned (db : Db) (userId : UserId) : Prop :=
  ∀ assignment ∈ db.assignments.rows, assignment.userId = userId →
    isWithdrawable assignment = false

/-- Whoever has `FRONTLINE` before and a lower level afterwards has no task left. -/
def LossFrees (db after : Db) : Prop :=
  ∀ before ∈ db.users.rows, before.clearanceLevel = .frontline →
    ∀ later ∈ after.users.rows, later.id = before.id →
      later.clearanceLevel.rank < before.clearanceLevel.rank → Unassigned after before.id

def FreedOnLoss (required : Nat) (db : Db) (op : ApiOp) : Prop :=
  LossFrees db (op.step required db)

/-- An `updateClearance` that passes its checks takes `FRONTLINE` only from users who
have no task to be withdrawn from. -/
def DemotesUnassigned (db : Db) : ApiOp → Prop
  | .users (.updateClearance targetId newLevel admin) =>
      admin.systemRole = .admin → newLevel ≠ .frontline →
        ∀ user ∈ db.users.rows, user.id = targetId → user.clearanceLevel = .frontline →
          Unassigned db targetId
  | _ => True

/-! ## Recalculations -/

/-- Users stay, users without a task stay so, and whoever loses `FRONTLINE` is freed. -/
structure OnlyFrees (db after : Db) : Prop where
  stored : ∀ before ∈ db.users.rows, ∃ later ∈ after.users.rows, later.id = before.id
  unassigned : ∀ userId, Unassigned db userId → Unassigned after userId
  frees : LossFrees db after

theorem lossFrees_of_levels {db after : Db}
    (levels : ∀ later ∈ after.users.rows, ∀ before ∈ db.users.rows, later.id = before.id →
      later.clearanceLevel = before.clearanceLevel) : LossFrees db after := by
  intro before member _ later laterMember same lower
  rw [levels later laterMember before member same] at lower
  exact absurd lower (Nat.lt_irrefl _)

theorem lossFrees_refl (db : Db) : LossFrees db db := by
  apply lossFrees_of_levels
  intro later laterMember before member same
  rw [Table.eq_of_key laterMember member same]

theorem frontline_of_not_lower {level : ClearanceLevel}
    (notLower : ¬ level.rank < ClearanceLevel.frontline.rank) : level = .frontline := by
  cases level <;> simp_all [ClearanceLevel.rank]

theorem OnlyFrees.refl (db : Db) : OnlyFrees db db := by
  refine ⟨?_, fun _ free => free, lossFrees_refl db⟩
  intro before member
  exact ⟨before, member, rfl⟩

theorem OnlyFrees.trans {db mid after : Db} (first : OnlyFrees db mid)
    (second : OnlyFrees mid after) : OnlyFrees db after := by
  refine ⟨?_, ?_, ?_⟩
  · intro before member
    obtain ⟨middle, middleMember, same⟩ := first.stored before member
    obtain ⟨later, laterMember, sameLater⟩ := second.stored middle middleMember
    exact ⟨later, laterMember, sameLater.trans same⟩
  · intro userId free
    exact second.unassigned userId (first.unassigned userId free)
  · intro before member level later laterMember same lower
    obtain ⟨middle, middleMember, sameMiddle⟩ := first.stored before member
    -- the level is lost in the first half or in the second
    by_cases lost : middle.clearanceLevel.rank < before.clearanceLevel.rank
    · exact second.unassigned before.id
        (first.frees before member level middle middleMember sameMiddle lost)
    · rw [level] at lost
      have kept : middle.clearanceLevel = .frontline := frontline_of_not_lower lost
      rw [level] at lower
      rw [← sameMiddle]
      apply second.frees middle middleMember kept later laterMember (same.trans sameMiddle.symm)
      rwa [kept]

theorem Unassigned.autoWithdrawn {affected : UserId → Prop} {db after : Db} {userId : UserId}
    (free : Unassigned db userId) (effect : AutoWithdrawn affected db after) :
    Unassigned after userId := by
  intro row member owner
  rcases effect.assignments row member with same | ⟨old, _, rfl, _, _⟩
  · exact free row same owner
  · simp [isWithdrawable, TasksService.withdrawnPatch]

theorem unassigned_withdrawnFrom (db : Db) (userId : UserId) :
    Unassigned (withdrawnFrom db userId) userId := by
  intro row member owner
  obtain ⟨old, _, rfl⟩ := (Table.mem_update _ _ _ _).mp member
  by_cases hit : old.userId = userId ∧ isWithdrawable old = true
  · rw [if_pos (decide_eq_true hit)]
    simp [isWithdrawable, TasksService.withdrawnPatch]
  · rw [if_neg (by simpa using hit)] at owner ⊢
    simpa [owner] using hit

theorem recalculated_lossFrees (required : Nat) (db : Db) (userId : UserId) :
    LossFrees db (recalculated required db userId) := by
  unfold recalculated
  cases found : db.findUser userId with
  | none => exact lossFrees_refl db
  | some user =>
      obtain ⟨userMember, sameId⟩ := Db.findUser_some found
      dsimp only
      split
      · exact lossFrees_refl db
      · split
        · intro before member level later laterMember same lower
          by_cases here : before.id = userId
          · have one : before = user := Table.eq_of_key member userMember (here.trans sameId.symm)
            rw [if_pos (one ▸ level), here]
            exact unassigned_withdrawnFrom db userId
          · have users : (if user.clearanceLevel = .frontline then withdrawnFrom db userId
                else db).users = db.users := by
              split <;> rfl
            simp only [withUser, users] at laterMember
            obtain ⟨old, oldMember, rfl⟩ := (Table.mem_update _ _ _ _).mp laterMember
            by_cases hit : old.id = userId
            · rw [if_pos (decide_eq_true hit)] at same
              exact absurd (same.symm.trans hit) here
            · rw [if_neg (by simpa using hit)] at same lower
              rw [Table.eq_of_key oldMember member same] at lower
              exact absurd lower (Nat.lt_irrefl _)
        · exact lossFrees_refl db

theorem recalculated_onlyFrees (required : Nat) (db : Db) (userId : UserId) :
    OnlyFrees db (recalculated required db userId) := by
  refine ⟨?_, ?_, recalculated_lossFrees required db userId⟩
  · intro before member
    rw [recalculated_users]
    exact Table.survives_update _ _ member
  · intro other free
    exact free.autoWithdrawn (recalculated_effect required db userId)

theorem recalculatedAll_onlyFrees (required : Nat) (ids : List UserId) (db : Db) :
    OnlyFrees db (ids.foldl (recalculated required) db) := by
  induction ids generalizing db with
  | nil => exact .refl db
  | cons id rest ih =>
      exact (recalculated_onlyFrees required db id).trans (ih (recalculated required db id))

theorem recalculatedAll_lossFrees {required : Nat} {db mid : Db} {wanted : User → Bool}
    {blocked : Bool} (users : mid.users = db.users.update wanted (blockedPatch blocked))
    (ids : List UserId) : LossFrees db (ids.foldl (recalculated required) mid) := by
  intro before member level later laterMember same lower
  have image := Table.image_mem_update wanted (blockedPatch blocked) member
  rw [← users, blockedPatch_ite] at image
  have frees := (recalculatedAll_onlyFrees required ids mid).frees _ image
  exact frees level later laterMember same lower

theorem recalculatedAll_frees {required : Nat} {db mid : Db} (users : mid.users = db.users)
    (ids : List UserId) : LossFrees db (ids.foldl (recalculated required) mid) := by
  have untouched : mid.users = db.users.update (fun _ => false) (blockedPatch true) := by
    rw [users, Table.update_none]
  exact recalculatedAll_lossFrees untouched ids

/-! ## Every call -/

theorem lossFrees_of_people {db after : Db} (people : SamePeople db after) :
    LossFrees db after := by
  apply lossFrees_of_levels
  intro later laterMember before member same
  obtain ⟨old, oldMember, trust⟩ := people.origin later laterMember
  rw [trust.level, Table.eq_of_key oldMember member (trust.id.symm.trans same)]

theorem lossFrees_of_patch {db : Db} (userId : UserId) {patch : Patch User.id User.email}
    (sameLevel : ∀ user, (patch.run user).clearanceLevel = user.clearanceLevel) :
    LossFrees db (withUser db userId patch) := by
  apply lossFrees_of_levels
  intro later laterMember before member same
  obtain ⟨old, oldMember, rfl⟩ := (Table.mem_update _ _ _ _).mp laterMember
  split at same
  · rw [if_pos (by assumption), sameLevel]
    rw [Table.eq_of_key oldMember member ((patch.key_run old).symm.trans same)]
  · rw [if_neg (by assumption), Table.eq_of_key oldMember member same]

theorem lossFrees_of_insert {db : Db} {build : Nat → User} {built : ∀ n, (build n).id = n}
    {users : Table User.id User.email} (inserted : db.users.insert build built = some users) :
    LossFrees db { db with users := users } := by
  apply lossFrees_of_levels
  intro later laterMember before member same
  have kept : before ∈ users.rows := ((Table.added_insert inserted).mem before).mpr (Or.inl member)
  rw [Table.eq_of_key laterMember kept same]

theorem demoted_lossFrees {db : Db} {targetId : UserId} {newLevel : ClearanceLevel}
    (free : newLevel ≠ .frontline → ∀ user ∈ db.users.rows, user.id = targetId →
      user.clearanceLevel = .frontline → Unassigned db targetId) :
    LossFrees db (withUser db targetId (clearancePatch newLevel)) := by
  intro before member level later laterMember same lower
  obtain ⟨old, oldMember, rfl⟩ := (Table.mem_update _ _ _ _).mp laterMember
  by_cases hit : old.id = targetId
  · rw [if_pos (decide_eq_true hit)] at same lower
    have one : old = before := Table.eq_of_key oldMember member same
    have target : before.id = targetId := one ▸ hit
    have demoted : newLevel ≠ .frontline := by
      rintro rfl
      rw [level] at lower
      exact absurd lower (Nat.lt_irrefl _)
    rw [target]
    exact free demoted before member target level
  · rw [if_neg (by simpa using hit)] at same lower
    rw [Table.eq_of_key oldMember member same] at lower
    exact absurd lower (Nat.lt_irrefl _)

theorem lossFrees_of_effect {required : Nat} {db after : Db} {op : ApiOp}
    (effect : TrustEffect required db op after) (allowed : DemotesUnassigned db op) :
    LossFrees db after := by
  cases effect with
  | unchanged op => exact lossFrees_refl db
  | tasks op _ people | requests op _ people => exact lossFrees_of_people people
  | edited op userId patch mild => exact lossFrees_of_patch userId fun user => (mild user).level
  | unblocked targetId user => exact lossFrees_of_patch targetId fun _ => rfl
  | cleared targetId newLevel user admin stored => exact demoted_lossFrees (allowed admin)
  | created dto user users inserted => exact lossFrees_of_insert inserted
  | registered dto token now users inserted => exact lossFrees_of_insert inserted
  | verified met token now user verifying => exact lossFrees_of_patch user.id fun _ => rfl
  | vouched voucheeId user _ vouching vouched =>
      obtain ⟨vouches, inserted, rfl⟩ := vouched
      have users : { db with vouches := vouches }.users = db.users := rfl
      exact recalculatedAll_frees users [voucheeId]
  | restored vouchId user vouch restoring =>
      have users : (restored db vouchId).users = db.users := rfl
      exact recalculatedAll_frees users [vouch.voucheeId]
  | revoked vouchId user vouch admin found =>
      have users : (revoked db vouchId).users = db.users := rfl
      exact recalculatedAll_frees users [vouch.voucheeId]
  | blocked targetId user now admin =>
      have users : (blocked db targetId now).users =
          db.users.update (fun user => user.id = targetId) (blockedPatch true) := rfl
      exact recalculatedAll_lossFrees users _
  | recalculated userId => exact recalculated_lossFrees required db userId

theorem updateClearance_step {required : Nat} {db : Db} {targetId : UserId}
    (newLevel : ClearanceLevel) {admin user : User} (isAdmin : admin.systemRole = .admin)
    (found : db.findUser targetId = some user) :
    ApiOp.step required db (.users (.updateClearance targetId newLevel admin)) =
      withUser db targetId (clearancePatch newLevel) := by
  have ran : (updateClearance targetId newLevel admin).run db =
      (.ok (), withUser db targetId (clearancePatch newLevel)) := by
    simp only [updateClearance, Prog.bind_eq, Prog.run_throwIf_bind, isAdmin, ne_eq,
      not_true_eq_false, if_false, Prog.run_query_bind, found, Prog.run_orThrow_bind]
    rfl
  exact congrArg Prod.snd ran

/-- A demotion changes no assignment, so whoever it frees had none before. -/
theorem unassigned_of_demoted {required : Nat} {db : Db} {targetId : UserId}
    {newLevel : ClearanceLevel} {admin user : User}
    (freed : FreedOnLoss required db (.users (.updateClearance targetId newLevel admin)))
    (isAdmin : admin.systemRole = .admin) (demoted : newLevel ≠ .frontline)
    (member : user ∈ db.users.rows) (target : user.id = targetId)
    (level : user.clearanceLevel = .frontline) : Unassigned db targetId := by
  have found : db.findUser targetId = some user := target ▸ Db.findUser_of_mem member
  rw [FreedOnLoss, updateClearance_step newLevel isAdmin found] at freed
  have image := Table.image_mem_update (fun row : User => row.id = targetId)
    (clearancePatch newLevel) member
  rw [if_pos (decide_eq_true target)] at image
  have lower : newLevel.rank < user.clearanceLevel.rank := by
    rw [level]
    by_contra notLower
    exact demoted (frontline_of_not_lower notLower)
  have free := freed user member level _ image rfl lower
  rwa [target] at free

theorem freedOnLoss_step_iff (required : Nat) (db : Db) (op : ApiOp) :
    FreedOnLoss required db op ↔ DemotesUnassigned db op := by
  constructor
  · intro freed
    cases op with
    | users op =>
        cases op with
        | updateClearance targetId newLevel admin =>
            intro isAdmin demoted user member target level
            exact unassigned_of_demoted freed isAdmin demoted member target level
        | _ => trivial
    | tasks op => trivial
    | requests op => trivial
    | auth op => trivial
  · exact lossFrees_of_effect (ApiOp.trustEffect required db op)

/-- In every run of all services, from any database, users who lose `FRONTLINE` are freed
of their tasks exactly when no `updateClearance` takes the level from a user who has some. -/
theorem freedOnLoss_iff (required : Nat) (db : Db) (ops : List ApiOp) :
    Throughout (ApiOp.step required) (FreedOnLoss required) db ops ↔
      Throughout (ApiOp.step required) DemotesUnassigned db ops :=
  throughout_congr (freedOnLoss_step_iff required) db ops

/-- An admin grants `FRONTLINE` to a volunteer, who takes a task of that level, and takes
the level back. -/
def demotedOnTask : List ApiOp :=
  [.users (.updateClearance 1 .frontline firstAdmin),
   .tasks (.assignVolunteer 0 ⟨none⟩ { firstVolunteer with
    clearanceLevel := .frontline, frontlineGrantedByAdmin := true } 0),
   .users (.updateClearance 1 .local firstAdmin)]

theorem freedOnLoss_fails :
    ¬ Throughout (ApiOp.step 3) (FreedOnLoss 3) (exampleBoard .frontline) demotedOnTask := by
  rintro ⟨_, _, freed, _⟩
  revert freed
  unfold FreedOnLoss LossFrees Unassigned
  decide +kernel

end VolunteerApi
