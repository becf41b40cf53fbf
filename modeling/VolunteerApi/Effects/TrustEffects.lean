import VolunteerApi.Effects.RequestsOutcomes
import VolunteerApi.Effects.UsersOutcomes
import VolunteerApi.Model.AuthService

/-!
# What a call can do to users and vouches

`recalculateClearance` changes one row, as a function of the row and of the number of
active vouches alone; recalculating a list of users is one update.  `TrustEffect`
lists every change of a user or a vouch, with the checks the call passed.
-/

set_option autoImplicit false

namespace VolunteerApi

open Relational Programs

namespace UsersService

/-! ## One recalculation, row by row -/

/-- What a recalculation makes of a user with `count` active vouches. -/
def settled (required count : Nat) (user : User) : User :=
  if user.frontlineGrantedByAdmin = true ∧ user.clearanceLevel = .frontline then user
  else if user.clearanceLevel ≠ clearanceFor required count user.isEmailVerified then
    (recalculatedPatch (clearanceFor required count user.isEmailVerified)
      (recalculatedScore user.trustScore
        (clearanceFor required count user.isEmailVerified))).run user
  else user

section Settled

variable (required count : Nat) (user : User)

@[simp] theorem settled_id : (settled required count user).id = user.id := by
  unfold settled
  split <;> [rfl; (split <;> rfl)]

@[simp] theorem settled_email : (settled required count user).email = user.email := by
  unfold settled
  split <;> [rfl; (split <;> rfl)]

@[simp] theorem settled_isBlocked : (settled required count user).isBlocked = user.isBlocked := by
  unfold settled
  split <;> [rfl; (split <;> rfl)]

@[simp] theorem settled_isEmailVerified :
    (settled required count user).isEmailVerified = user.isEmailVerified := by
  unfold settled
  split <;> [rfl; (split <;> rfl)]

@[simp] theorem settled_granted :
    (settled required count user).frontlineGrantedByAdmin = user.frontlineGrantedByAdmin := by
  unfold settled
  split <;> [rfl; (split <;> rfl)]

end Settled

variable {required count : Nat} {user : User}

theorem settled_of_granted
    (granted : user.frontlineGrantedByAdmin = true ∧ user.clearanceLevel = .frontline) :
    settled required count user = user := if_pos granted

/-- A level nobody granted becomes the level the vouches give. -/
theorem settled_level
    (free : ¬ (user.frontlineGrantedByAdmin = true ∧ user.clearanceLevel = .frontline)) :
    (settled required count user).clearanceLevel =
      clearanceFor required count user.isEmailVerified := by
  rw [settled, if_neg free]
  by_cases changed : user.clearanceLevel ≠ clearanceFor required count user.isEmailVerified
  · rw [if_pos changed]
    rfl
  · rw [if_neg changed]
    exact not_not.mp changed

theorem settled_settled (required count : Nat) (user : User) :
    settled required count (settled required count user) = settled required count user := by
  by_cases granted : user.frontlineGrantedByAdmin = true ∧ user.clearanceLevel = .frontline
  · rw [settled_of_granted granted, settled_of_granted granted]
  · have level : (settled required count user).clearanceLevel = _ := settled_level granted
    conv_lhs => rw [settled]
    split
    · rfl
    · rw [if_neg (by simp [level])]

/-- `count` gives the active vouches of each user. -/
def settledPatch (required : Nat) (count : UserId → Nat) : Patch User.id User.email where
  run user := settled required (count user.id) user
  key_run user := settled_id _ _ user
  uniq_run user := settled_email _ _ user

theorem recalculated_users (required : Nat) (db : Db) (userId : UserId) :
    (recalculated required db userId).users =
      db.users.update (fun user => user.id = userId) (settledPatch required db.activeVouches) := by
  have only : ∀ {found : User}, db.findUser userId = some found →
      ∀ row ∈ db.users.rows, decide (row.id = userId) = true → row = found := by
    intro found hit row member same
    obtain ⟨foundMember, foundId⟩ := Db.findUser_some hit
    exact Table.eq_of_key member foundMember ((of_decide_eq_true same).trans foundId.symm)
  unfold recalculated
  cases hit : db.findUser userId with
  | none =>
      refine (Table.update_eq_self ?_).symm
      intro row member same
      have missed := Table.findOne_none.mp hit row member
      rw [same] at missed
      cases missed
  | some user =>
      dsimp only
      by_cases granted : user.frontlineGrantedByAdmin = true ∧ user.clearanceLevel = .frontline
      · rw [if_pos granted]
        refine (Table.update_eq_self ?_).symm
        intro row member same
        rw [only hit row member same]
        exact settled_of_granted granted
      · rw [if_neg granted]
        by_cases changed : user.clearanceLevel ≠
            clearanceFor required (db.activeVouches userId) user.isEmailVerified
        · rw [if_pos changed]
          have users : (if user.clearanceLevel = .frontline then withdrawnFrom db userId
              else db).users = db.users := by
            split <;> rfl
          simp only [withUser, users]
          apply Table.update_patch_congr
          intro row member same
          rw [only hit row member same]
          simp only [settledPatch, (Db.findUser_some hit).2, settled, if_neg granted,
            if_pos changed]
        · rw [if_neg changed]
          refine (Table.update_eq_self ?_).symm
          intro row member same
          rw [only hit row member same]
          simp only [settledPatch, (Db.findUser_some hit).2, settled, if_neg granted,
            if_neg changed]

@[simp] theorem recalculated_vouches (required : Nat) (db : Db) (userId : UserId) :
    (recalculated required db userId).vouches = db.vouches := by
  unfold recalculated
  split
  · rfl
  · split
    · rfl
    · split
      · split <;> rfl
      · rfl

@[simp] theorem recalculated_activeVouches (required : Nat) (db : Db) (userId : UserId) :
    (recalculated required db userId).activeVouches = db.activeVouches := by
  funext other
  simp [Db.activeVouches]

@[simp] theorem recalculatedAll_vouches (required : Nat) (ids : List UserId) (db : Db) :
    (ids.foldl (recalculated required) db).vouches = db.vouches := by
  induction ids generalizing db with
  | nil => rfl
  | cons id rest ih =>
      rw [List.foldl_cons, ih]
      exact recalculated_vouches required db id

/-- Recalculating one user after the other is one update: no recalculation changes a vouch. -/
theorem recalculatedAll_users (required : Nat) (ids : List UserId) (db : Db) :
    (ids.foldl (recalculated required) db).users =
      db.users.update (fun user => user.id ∈ ids) (settledPatch required db.activeVouches) := by
  rw [← Table.foldl_update_key]
  · induction ids generalizing db with
    | nil => rfl
    | cons id rest ih =>
        rw [List.foldl_cons, ih, recalculated_activeVouches, recalculated_users]
        rfl
  · intro user
    simp only [settledPatch, settled_id]
    exact settled_settled required _ user

/-! ## The active vouches after a change -/

theorem activeVouches_inserted {db : Db} {voucheeId : UserId} {voucher : User}
    {vouches : Table TrustVouch.id TrustVouch.slot}
    (inserted : db.vouches.insert (newVouch voucheeId voucher) = some vouches) (userId : UserId) :
    { db with vouches := vouches }.activeVouches userId =
      db.activeVouches userId + if voucheeId = userId then 1 else 0 := by
  unfold Db.activeVouches
  rw [Table.count_insert inserted]
  simp [newVouch]

/-- The vouches for a user that are active, or the one being restored. -/
def supportWith (db : Db) (userId : UserId) (vouchId : VouchId) : Nat :=
  db.vouches.count fun vouch =>
    vouch.voucheeId = userId ∧ (vouch.isSuspended = false ∨ vouch.id = vouchId)

theorem activeVouches_restored (db : Db) (vouchId : VouchId) (userId : UserId) :
    (restored db vouchId).activeVouches userId = supportWith db userId vouchId := by
  unfold Db.activeVouches restored supportWith
  rw [Table.count_update]
  apply Table.count_congr
  intro vouch _
  by_cases hit : vouch.id = vouchId
  · simp [hit, restoredPatch]
  · simp [hit]

/-- The vouches for a user that are active, without the one being revoked. -/
def supportWithout (db : Db) (userId : UserId) (vouchId : VouchId) : Nat :=
  db.vouches.count fun vouch =>
    vouch.voucheeId = userId ∧ vouch.isSuspended = false ∧ vouch.id ≠ vouchId

theorem activeVouches_revoked (db : Db) (vouchId : VouchId) (userId : UserId) :
    (revoked db vouchId).activeVouches userId = supportWithout db userId vouchId := by
  unfold Db.activeVouches revoked supportWithout
  rw [Table.count_delete]
  apply Table.count_congr
  intro vouch _
  simp [Bool.and_assoc]

/-- The vouches for a user that are active and not given by the user being blocked. -/
def supportBy (db : Db) (userId blockedId : UserId) : Nat :=
  db.vouches.count fun vouch =>
    vouch.voucheeId = userId ∧ vouch.isSuspended = false ∧ vouch.voucherId ≠ blockedId

theorem activeVouches_blocked (db : Db) (blockedId : UserId) (now : Time) (userId : UserId) :
    (blocked db blockedId now).activeVouches userId = supportBy db userId blockedId := by
  unfold Db.activeVouches blocked supportBy
  rw [Table.count_update]
  apply Table.count_congr
  intro vouch _
  by_cases hit : vouch.voucherId = blockedId
  · cases suspended : vouch.isSuspended <;> simp [hit, suspended, suspendedPatch]
  · simp [hit]

/-! Nothing changes for a user that no changed vouch is for. -/

theorem supportWith_other {db : Db} {userId : UserId} {vouchId : VouchId}
    (other : ∀ vouch ∈ db.vouches.rows, vouch.id = vouchId → vouch.voucheeId ≠ userId) :
    supportWith db userId vouchId = db.activeVouches userId := by
  apply Table.count_congr
  intro vouch member
  by_cases hit : vouch.id = vouchId
  · simp [other vouch member hit]
  · simp [hit]

theorem supportWithout_other {db : Db} {userId : UserId} {vouchId : VouchId}
    (other : ∀ vouch ∈ db.vouches.rows, vouch.id = vouchId → vouch.voucheeId ≠ userId) :
    supportWithout db userId vouchId = db.activeVouches userId := by
  apply Table.count_congr
  intro vouch member
  by_cases hit : vouch.id = vouchId
  · simp [other vouch member hit]
  · simp [hit]

theorem supportBy_other {db : Db} {userId blockedId : UserId}
    (other : ∀ vouch ∈ db.vouches.rows, vouch.voucherId = blockedId → vouch.voucheeId ≠ userId) :
    supportBy db userId blockedId = db.activeVouches userId := by
  apply Table.count_congr
  intro vouch member
  by_cases hit : vouch.voucherId = blockedId
  · simp [other vouch member hit]
  · simp [hit]

/-- Blocking recalculates everybody the blocked user vouched for. -/
theorem affectedBy_of_vouch {db : Db} {targetId : UserId} {now : Time} {vouch : TrustVouch}
    (member : vouch ∈ db.vouches.rows) (given : vouch.voucherId = targetId) :
    vouch.voucheeId ∈ affectedBy (blocked db targetId now) targetId := by
  have image := Table.image_mem_update
    (fun vouch : TrustVouch => vouch.voucherId = targetId ∧ vouch.isSuspended = false)
    (suspendedPatch now) member
  refine List.mem_map.mpr ⟨_, (Table.mem_find _ _ _).mpr ⟨image, ?_⟩, ?_⟩
  · split <;> exact decide_eq_true given
  · split <;> rfl

/-- Blocking or unblocking changes one column, of the rows it finds. -/
theorem blockedPatch_ite (hit isBlocked : Bool) (row : User) :
    (if hit = true then (blockedPatch isBlocked).run row else row) =
      { row with isBlocked := if hit = true then isBlocked else row.isBlocked } := by
  cases hit <;> rfl

/-! ## Assignments under a recalculation -/

/-- The assignments of everybody else stay as they are. -/
theorem recalculated_kept {required : Nat} {db : Db} {userId : UserId}
    {assignment : TaskAssignment} (member : assignment ∈ db.assignments.rows)
    (other : assignment.userId ≠ userId) :
    assignment ∈ (recalculated required db userId).assignments.rows := by
  have kept : assignment ∈ (withdrawnFrom db userId).assignments.rows := by
    have image := Table.image_mem_update
      (fun row : TaskAssignment => row.userId = userId ∧ isWithdrawable row = true)
      TasksService.withdrawnPatch member
    rwa [if_neg (by simp [other])] at image
  unfold recalculated
  split
  · exact member
  · split
    · exact member
    · split
      · split
        · exact kept
        · exact member
      · exact member

/-- Nothing at all happens to a user whose level was granted. -/
theorem recalculated_of_granted {required : Nat} {db : Db} {userId : UserId}
    (granted : ∀ user ∈ db.users.rows, user.id = userId →
      user.frontlineGrantedByAdmin = true ∧ user.clearanceLevel = .frontline) :
    recalculated required db userId = db := by
  unfold recalculated
  cases found : db.findUser userId with
  | none => rfl
  | some user =>
      obtain ⟨member, same⟩ := Db.findUser_some found
      exact if_pos (granted user member same)

end UsersService

open UsersService

/-! ## Every operation -/

/-- Neither the trust in the user nor what it rests on changed. -/
structure SameTrust (old new : User) : Prop where
  id : new.id = old.id
  level : new.clearanceLevel = old.clearanceLevel
  granted : new.frontlineGrantedByAdmin = old.frontlineGrantedByAdmin
  verified : new.isEmailVerified = old.isEmailVerified
  blocked : new.isBlocked = old.isBlocked

theorem SameTrust.refl (user : User) : SameTrust user user := ⟨rfl, rfl, rfl, rfl, rfl⟩

/-- The same users are trusted alike, on the same vouches. -/
structure SamePeople (db after : Db) : Prop where
  vouches : after.vouches = db.vouches
  origin : ∀ row ∈ after.users.rows, ∃ old ∈ db.users.rows, SameTrust old row
  kept : ∀ old ∈ db.users.rows, ∃ row ∈ after.users.rows, SameTrust old row

namespace SamePeople

theorem of_same {db after : Db} (vouches : after.vouches = db.vouches)
    (users : after.users = db.users) : SamePeople db after := by
  refine ⟨vouches, ?_, ?_⟩
  · intro row member
    exact ⟨row, users ▸ member, .refl row⟩
  · intro old member
    exact ⟨old, users ▸ member, .refl old⟩

theorem of_update {db after : Db} {wanted : User → Bool} {patch : Patch User.id User.email}
    (vouches : after.vouches = db.vouches) (users : after.users = db.users.update wanted patch)
    (mild : ∀ user, SameTrust user (patch.run user)) : SamePeople db after := by
  refine ⟨vouches, ?_, ?_⟩
  · intro row member
    rw [users] at member
    obtain ⟨old, oldMember, rfl⟩ := (Table.mem_update _ _ _ _).mp member
    refine ⟨old, oldMember, ?_⟩
    split
    · exact mild old
    · exact .refl old
  · intro old member
    refine ⟨_, users ▸ Table.image_mem_update wanted patch member, ?_⟩
    split
    · exact mild old
    · exact .refl old

end SamePeople

theorem people_of_guarded {α : Type} {db : Db} {program : Service α} {Post : α → Db → Prop}
    (guarded : program.Guarded db Post)
    (people : ∀ value after, Post value after → SamePeople db after) :
    SamePeople db (program.run db).2 := by
  exact Prog.Guarded.after (motive := SamePeople db) guarded (.of_same rfl rfl) people

theorem confirmed_people (db : Db) (task : Task) :
    SamePeople db (TasksService.confirmed db task) := by
  have mild : ∀ user, SameTrust user (TasksService.boostedPatch.run user) := by
    intro user
    constructor <;> simp only [TasksService.boostedPatch]
  by_cases some : (db.assignmentsOf task.id).map TaskAssignment.userId ≠ []
  · exact .of_update rfl (if_pos some) mild
  · exact .of_same rfl (if_neg some)

open TasksService in
/-- Calls of `TasksService` change trust scores at most. -/
theorem TasksOp.people (required : Nat) (db : Db) (op : TasksOp) :
    SamePeople db (op.step required db) := by
  cases op with
  | create requestId dto user =>
      apply people_of_guarded (create_guarded requestId dto user db)
      intro _ _ post
      obtain ⟨_, rfl⟩ := post
      exact .of_same rfl rfl
  | update taskId dto user =>
      apply people_of_guarded (update_guarded taskId dto user db)
      intro _ _ post
      obtain ⟨_, _, _, rfl⟩ := post
      exact .of_same rfl rfl
  | deleteTask taskId user now =>
      apply people_of_guarded (deleteTask_guarded taskId user now db)
      intro _ _ post
      obtain ⟨_, _, _, rfl⟩ := post
      exact .of_same rfl rfl
  | assignVolunteer taskId dto user now =>
      have commits := assignVolunteer_commits required taskId dto user now db
      refine commits.after (motive := SamePeople db) (.of_same rfl rfl) ?_
      intro _ _ post
      obtain ⟨_, _, _, _, _, _, _, _, rfl⟩ := post
      exact .of_same rfl rfl
  | withdrawAssignment taskId user =>
      apply people_of_guarded (withdrawAssignment_guarded taskId user db)
      intro _ _ post
      obtain ⟨_, _, _, rfl⟩ := post
      unfold withdrawn
      split <;> exact .of_same rfl rfl
  | updateAssignmentStatus taskId newStatus user =>
      apply people_of_guarded (updateAssignmentStatus_guarded taskId newStatus user db)
      intro _ _ post
      obtain ⟨_, _, _, _, _, rfl⟩ := post
      exact .of_same rfl rfl
  | completeTask taskId user now =>
      apply people_of_guarded (completeTask_guarded taskId user now db)
      intro _ _ post
      obtain ⟨_, _, _, _, rfl⟩ := post
      exact .of_same rfl rfl
  | returnToProgress taskId user now =>
      apply people_of_guarded (returnToProgress_guarded taskId user now db)
      intro _ _ post
      obtain ⟨_, _, _, rfl⟩ := post
      exact .of_same rfl rfl
  | confirmTaskCompletion taskId user now =>
      apply people_of_guarded (confirmTaskCompletion_guarded taskId user now db)
      intro _ _ post
      obtain ⟨task, _, _, _, _, _, rfl⟩ := post
      exact confirmed_people db task
  | rejectTask taskId user =>
      apply people_of_guarded (rejectTask_guarded taskId user db)
      intro _ _ post
      obtain ⟨_, _, _, rfl⟩ := post
      exact .of_same rfl rfl
  | updateTaskStatusAdmin taskId status user =>
      apply people_of_guarded (updateTaskStatusAdmin_guarded taskId status user db)
      intro _ _ post
      obtain ⟨_, _, _, rfl⟩ := post
      exact .of_same rfl rfl
  | cancelTask taskId user =>
      apply people_of_guarded (cancelTask_guarded taskId user db)
      intro _ _ post
      obtain ⟨_, _, rfl⟩ := post
      exact .of_same rfl rfl
  | renewTask taskId user =>
      apply people_of_guarded (renewTask_guarded taskId user db)
      intro _ _ post
      obtain ⟨_, _, _, _, _, _, rfl⟩ := post
      exact .of_same rfl rfl
  | delegateTask taskId dto user now =>
      apply people_of_guarded (delegateTask_guarded taskId dto user now db)
      intro _ _ post
      obtain ⟨_, rfl⟩ := post
      obtain ⟨delegations, same⟩ := upserted_eq taskId dto user now db
      rw [same]
      exact .of_same rfl rfl
  | acceptDelegation taskId organizationId user =>
      apply people_of_guarded (acceptDelegation_guarded taskId organizationId user db)
      intro _ _ post
      obtain ⟨_, request, _, rfl⟩ := post
      cases request <;> exact .of_same rfl rfl
  | unacceptDelegation taskId organizationId user =>
      apply people_of_guarded (unacceptDelegation_guarded taskId organizationId user db)
      intro _ _ post
      obtain ⟨_, _, rfl⟩ := post
      exact .of_same rfl rfl
  | declineDelegation taskId organizationId user =>
      apply people_of_guarded (declineDelegation_guarded taskId organizationId user db)
      intro _ _ post
      obtain ⟨_, _, rfl⟩ := post
      exact .of_same rfl rfl

theorem RequestsOp.people (db : Db) (op : RequestsOp) : SamePeople db (op.run db).2 := by
  have effect := RequestsOp.effect db op
  generalize (op.run db).2 = after at effect
  cases effect <;> exact .of_same rfl rfl

namespace AuthService

theorem register_guarded (dto : RegisterDto) (token : String) (now : Time) (db : Db) :
    (register dto token now).Guarded db fun _ after =>
      ∃ users, db.users.insert (newUser dto token now) = some users ∧
        after = { db with users := users } := by
  refine Prog.guarded_query_bind (Prog.guarded_throwIf_bind ?_)
  intro _
  apply Prog.guarded_throwIf_bind
  intro _
  unfold Prog.Guarded
  rw [Prog.run_execOr]
  cases inserted : db.users.insert (newUser dto token now) with
  | none => rfl
  | some users => exact ⟨users, rfl, rfl⟩

theorem findByVerificationToken_some {db : Db} {met : OrderBy fun _ _ : User => True}
    {token : Option String} {user : User}
    (found : db.findByVerificationToken met token = some user) :
    user ∈ db.users.rows ∧ (token = none ∨ user.emailVerificationToken = token) := by
  obtain ⟨stored, hit⟩ := (Table.mem_find _ _ _).mp (OrderBy.mem_of_first found)
  exact ⟨stored, of_decide_eq_true hit⟩

/-- The user a verification is for: the token is theirs and has not expired. -/
structure Verifying (db : Db) (met : OrderBy fun _ _ : User => True) (token : Option String)
    (now : Time) (user : User) : Prop where
  found : db.findByVerificationToken met token = some user
  inTime : tokenExpired user now = false

theorem verifyEmail_guarded (met : OrderBy fun _ _ : User => True) (token : Option String)
    (now : Time) (db : Db) :
    (verifyEmail met token now).Guarded db fun _ after =>
      ∃ user, Verifying db met token now user ∧ after = withUser db user.id verifiedPatch := by
  refine Prog.guarded_query_bind (Prog.guarded_orThrow_bind ?_)
  intro user found
  apply Prog.guarded_throwIf_bind
  intro inTime
  exact Prog.guarded_of_run _ _ rfl ⟨user, ⟨found, by simpa using inTime⟩, rfl⟩

theorem verifyEmail_step {required : Nat} {db : Db} {met : OrderBy fun _ _ : User => True}
    {token : Option String} {now : Time} {user : User}
    (verifying : Verifying db met token now user) :
    ApiOp.step required db (.auth (.verifyEmail met token now)) =
      withUser db user.id verifiedPatch := by
  have ran : (verifyEmail met token now).run db = (.ok (), withUser db user.id verifiedPatch) := by
    simp only [verifyEmail, Prog.bind_eq, Prog.run_query_bind, verifying.found,
      Prog.run_orThrow_bind, Prog.run_throwIf_bind, verifying.inTime, Bool.false_eq_true, if_false]
    rfl
  exact congrArg Prod.snd ran

theorem resendVerificationEmail_guarded (userId : UserId) (token : String) (now : Time) (db : Db) :
    (resendVerificationEmail userId token now).Guarded db fun _ after =>
      after = withUser db userId (tokenPatch token now) := by
  refine Prog.guarded_query_bind (Prog.guarded_orThrow_bind ?_)
  intro user found
  apply Prog.guarded_throwIf_bind
  intro _
  rw [(Db.findUser_some found).2]
  exact Prog.guarded_of_run _ _ rfl rfl

end AuthService

open AuthService

inductive TrustEffect (required : Nat) (db : Db) : ApiOp → Db → Prop
  | unchanged (op : ApiOp) : TrustEffect required db op db
  | tasks (op : TasksOp) (after : Db) (people : SamePeople db after) :
      TrustEffect required db (.tasks op) after
  | requests (op : RequestsOp) (after : Db) (people : SamePeople db after) :
      TrustEffect required db (.requests op) after
  | edited (op : ApiOp) (userId : UserId) (patch : Patch User.id User.email)
      (mild : ∀ user, SameTrust user (patch.run user)) :
      TrustEffect required db op (withUser db userId patch)
  | unblocked (targetId : UserId) (user : User) :
      TrustEffect required db (.users (.unblockUser targetId user))
        (withUser db targetId (blockedPatch false))
  | cleared (targetId : UserId) (newLevel : ClearanceLevel) (user : User)
      (admin : user.systemRole = .admin) (stored : db.findUser targetId ≠ none) :
      TrustEffect required db (.users (.updateClearance targetId newLevel user))
        (withUser db targetId (clearancePatch newLevel))
  | created (dto : AdminCreateUserDto) (user : User) (users : Table User.id User.email)
      (inserted : db.users.insert (UsersService.newUser dto) = some users) :
      TrustEffect required db (.users (.createUser dto user)) { db with users := users }
  | registered (dto : RegisterDto) (token : String) (now : Time)
      (users : Table User.id User.email)
      (inserted : db.users.insert (AuthService.newUser dto token now) = some users) :
      TrustEffect required db (.auth (.register dto token now)) { db with users := users }
  | verified (met : OrderBy fun _ _ : User => True) (token : Option String) (now : Time)
      (user : User) (verifying : Verifying db met token now user) :
      TrustEffect required db (.auth (.verifyEmail met token now))
        (withUser db user.id verifiedPatch)
  | vouched (voucheeId : UserId) (user : User) (after : Db)
      (vouching : Vouching db voucheeId user) (vouched : Vouched required db voucheeId user after) :
      TrustEffect required db (.users (.vouchForUser voucheeId user)) after
  | restored (vouchId : VouchId) (user : User) (vouch : TrustVouch)
      (restoring : Restoring db vouchId user vouch) :
      TrustEffect required db (.users (.restoreVouch vouchId user))
        (recalculated required (restored db vouchId) vouch.voucheeId)
  | revoked (vouchId : VouchId) (user : User) (vouch : TrustVouch)
      (admin : user.systemRole = .admin) (found : db.findVouch vouchId = some vouch) :
      TrustEffect required db (.users (.revokeVouchPermanently vouchId user))
        (recalculated required (revoked db vouchId) vouch.voucheeId)
  | blocked (targetId : UserId) (user : User) (now : Time) (admin : user.systemRole = .admin) :
      TrustEffect required db (.users (.blockUser targetId user now))
        ((affectedBy (blocked db targetId now) targetId).foldl (recalculated required)
          (blocked db targetId now))
  | recalculated (userId : UserId) :
      TrustEffect required db (.users (.recalculateClearance userId))
        (recalculated required db userId)

theorem TrustEffect.of_guarded {required : Nat} {α : Type} {db : Db} {program : Service α}
    {Post : α → Db → Prop} {op : ApiOp} (guarded : program.Guarded db Post)
    (effect : ∀ value after, Post value after → TrustEffect required db op after) :
    TrustEffect required db op (program.run db).2 := by
  exact Prog.Guarded.after (motive := TrustEffect required db op) guarded (.unchanged op) effect

theorem UsersOp.trustEffect (required : Nat) (db : Db) (op : UsersOp) :
    TrustEffect required db (.users op) (op.step required db) := by
  cases op with
  | updateProfile targetId dto user =>
      apply TrustEffect.of_guarded (updateProfile_guarded targetId dto user db)
      intro _ _ post
      obtain rfl := post
      exact .edited _ targetId _ fun _ => ⟨rfl, rfl, rfl, rfl, rfl⟩
  | updateAvatar userId avatarUrl =>
      apply TrustEffect.of_guarded (updateAvatar_guarded userId avatarUrl db)
      intro _ _ post
      obtain rfl := post
      exact .edited _ userId _ fun _ => ⟨rfl, rfl, rfl, rfl, rfl⟩
  | blockUser targetId user now =>
      apply TrustEffect.of_guarded (blockUser_guarded required targetId user now db)
      intro _ _ post
      obtain ⟨admin, rfl⟩ := post
      exact .blocked targetId user now admin
  | unblockUser targetId user =>
      apply TrustEffect.of_guarded (unblockUser_guarded targetId user db)
      intro _ _ post
      obtain rfl := post
      exact .unblocked targetId user
  | changeRole targetId newRole user =>
      apply TrustEffect.of_guarded (changeRole_guarded targetId newRole user db)
      intro _ _ post
      obtain rfl := post
      exact .edited _ targetId _ fun _ => ⟨rfl, rfl, rfl, rfl, rfl⟩
  | updateClearance targetId newLevel user =>
      apply TrustEffect.of_guarded (updateClearance_guarded targetId newLevel user db)
      intro _ _ post
      obtain ⟨⟨admin, stored⟩, rfl⟩ := post
      exact .cleared targetId newLevel user admin stored
  | createUser dto user =>
      apply TrustEffect.of_guarded (createUser_guarded dto user db)
      intro _ _ post
      obtain ⟨_, users, inserted, rfl⟩ := post
      exact .created dto user users inserted
  | vouchForUser voucheeId user =>
      apply TrustEffect.of_guarded (vouchForUser_guarded required voucheeId user db)
      rintro _ after ⟨vouching, vouched⟩
      exact .vouched voucheeId user after vouching vouched
  | recalculateClearance userId =>
      rw [UsersOp.step, UsersOp.run_recalculateClearance]
      exact .recalculated userId
  | restoreVouch vouchId user =>
      apply TrustEffect.of_guarded (restoreVouch_guarded required vouchId user db)
      intro _ _ post
      obtain ⟨vouch, restoring, rfl⟩ := post
      exact .restored vouchId user vouch restoring
  | revokeVouchPermanently vouchId user =>
      apply TrustEffect.of_guarded (revokeVouchPermanently_guarded required vouchId user db)
      intro _ _ post
      obtain ⟨vouch, ⟨admin, found⟩, rfl⟩ := post
      exact .revoked vouchId user vouch admin found

theorem AuthOp.trustEffect (required : Nat) (db : Db) (op : AuthOp) :
    TrustEffect required db (.auth op) (op.run db).2 := by
  cases op with
  | register dto token now =>
      apply TrustEffect.of_guarded (register_guarded dto token now db)
      intro _ _ post
      obtain ⟨users, inserted, rfl⟩ := post
      exact .registered dto token now users inserted
  | verifyEmail met token now =>
      apply TrustEffect.of_guarded (verifyEmail_guarded met token now db)
      intro _ _ post
      obtain ⟨user, verifying, rfl⟩ := post
      exact .verified met token now user verifying
  | resendVerificationEmail userId token now =>
      apply TrustEffect.of_guarded (resendVerificationEmail_guarded userId token now db)
      intro _ _ post
      obtain rfl := post
      exact .edited _ userId _ fun _ => ⟨rfl, rfl, rfl, rfl, rfl⟩

theorem ApiOp.trustEffect (required : Nat) (db : Db) (op : ApiOp) :
    TrustEffect required db op (op.step required db) := by
  cases op with
  | tasks op => exact .tasks op _ (TasksOp.people required db op)
  | requests op => exact .requests op _ (RequestsOp.people db op)
  | users op => exact UsersOp.trustEffect required db op
  | auth op => exact AuthOp.trustEffect required db op

end VolunteerApi
