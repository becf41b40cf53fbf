import VolunteerApi.Effects.TasksOutcomes

/-!
# What each `UsersService` method leaves behind

One lemma for each method, as for the tasks.  `recalculateClearance` is the only
one that reaches the board: it withdraws the assignments of a user who loses
`FRONTLINE`.
-/

set_option autoImplicit false

namespace VolunteerApi

open Relational Programs

namespace UsersService

def withdrawnFrom (db : Db) (userId : UserId) : Db :=
  { db with
    assignments := db.assignments.update
      (fun assignment => assignment.userId = userId ∧ isWithdrawable assignment = true)
      TasksService.withdrawnPatch }

theorem withdrawFromActiveTasks_run (userId : UserId) (db : Db) :
    (withdrawFromActiveTasks userId).run db = (.ok (), withdrawnFrom db userId) := by
  have folded : ∀ (held : List TaskAssignment) (start : Db),
      held.foldl (fun current assignment => TasksService.markedWithdrawn current assignment.id)
          start =
        { start with
          assignments := held.foldl (fun current copy =>
            current.update (fun row => row.id = copy.id) TasksService.withdrawnPatch)
            start.assignments } := by
    intro held
    induction held with
    | nil => intro start; rfl
    | cons copy rest ih => intro start; exact ih _
  rw [withdrawFromActiveTasks, Prog.bind_eq, Prog.run_query_bind,
    Prog.run_forEach (fun current assignment =>
      TasksService.markedWithdrawn current assignment.id) fun _ _ => rfl, folded,
    Table.foldl_update_find TasksService.withdrawnPatch fun _ => rfl]
  rfl

def withUser (db : Db) (id : UserId) (patch : Patch User.id User.email) : Db :=
  { db with users := db.users.update (fun user => user.id = id) patch }

def recalculated (required : Nat) (db : Db) (userId : UserId) : Db :=
  match db.findUser userId with
  | none => db
  | some user =>
      if user.frontlineGrantedByAdmin = true ∧ user.clearanceLevel = .frontline then db
      else if user.clearanceLevel ≠
          clearanceFor required (db.activeVouches userId) user.isEmailVerified then
        withUser (if user.clearanceLevel = .frontline then withdrawnFrom db userId else db) userId
          (recalculatedPatch
            (clearanceFor required (db.activeVouches userId) user.isEmailVerified)
            (recalculatedScore user.trustScore
              (clearanceFor required (db.activeVouches userId) user.isEmailVerified)))
      else db

theorem recalculateClearance_run (required : Nat) (userId : UserId) (db : Db) :
    (recalculateClearance required userId).run db = (.ok (), recalculated required db userId) := by
  rw [recalculateClearance, Prog.bind_eq, Prog.run_query_bind, Prog.bind_eq, Prog.run_query_bind]
  unfold recalculated
  cases db.findUser userId with
  | none => rfl
  | some user =>
      dsimp only
      by_cases granted : user.frontlineGrantedByAdmin = true ∧ user.clearanceLevel = .frontline
      · rw [if_pos granted, if_pos granted]
        rfl
      · rw [if_neg granted, if_neg granted, Prog.run_onlyIf]
        by_cases changed : user.clearanceLevel ≠
            clearanceFor required (db.activeVouches userId) user.isEmailVerified
        · rw [if_pos changed, if_pos changed, Prog.bind_eq, Prog.run_onlyIf_bind]
          by_cases frontline : user.clearanceLevel = .frontline
          · rw [if_pos frontline, if_pos frontline,
              Prog.run_bind_of_ok (withdrawFromActiveTasks_run userId db)]
            rfl
          · rw [if_neg frontline, if_neg frontline]
            rfl
        · rw [if_neg changed, if_neg changed]

/-! ## Methods that update one user -/

theorem updateClearance_guarded (targetId : UserId) (newLevel : ClearanceLevel) (admin : User)
    (db : Db) :
    (updateClearance targetId newLevel admin).Guarded db fun _ after =>
      (admin.systemRole = .admin ∧ db.findUser targetId ≠ none) ∧
        after = withUser db targetId (clearancePatch newLevel) := by
  apply Prog.guarded_throwIf_bind
  intro isAdmin
  refine Prog.guarded_query_bind (Prog.guarded_orThrow_bind ?_)
  intro target found
  refine Prog.guarded_of_run _ _ rfl ⟨⟨not_not.mp isAdmin, ?_⟩, rfl⟩
  rw [found]
  exact Option.some_ne_none target

theorem unblockUser_guarded (targetId : UserId) (admin : User) (db : Db) :
    (unblockUser targetId admin).Guarded db fun _ after =>
      after = withUser db targetId (blockedPatch false) := by
  apply Prog.guarded_throwIf_bind
  intro _
  refine Prog.guarded_query_bind (Prog.guarded_orThrow_bind ?_)
  intro _ _
  exact Prog.guarded_of_run _ _ rfl rfl

theorem changeRole_guarded (targetId : UserId) (newRole : SystemRole) (admin : User) (db : Db) :
    (changeRole targetId newRole admin).Guarded db fun _ after =>
      after = withUser db targetId (rolePatch newRole) := by
  apply Prog.guarded_throwIf_bind
  intro _
  refine Prog.guarded_query_bind (Prog.guarded_orThrow_bind ?_)
  intro _ _
  apply Prog.guarded_throwIf_bind
  intro _
  exact Prog.guarded_of_run _ _ rfl rfl

theorem updateProfile_guarded (targetId : UserId) (dto : UpdateProfileDto) (currentUser : User)
    (db : Db) :
    (updateProfile targetId dto currentUser).Guarded db fun _ after =>
      after = withUser db targetId (profilePatch dto) := by
  apply Prog.guarded_throwIf_bind
  intro _
  exact Prog.guarded_of_run _ _ rfl rfl

theorem updateAvatar_guarded (userId : UserId) (avatarUrl : String) (db : Db) :
    (updateAvatar userId avatarUrl).Guarded db fun _ after =>
      after = withUser db userId (avatarPatch avatarUrl) :=
  Prog.guarded_of_run _ _ rfl rfl

theorem createUser_guarded (dto : AdminCreateUserDto) (admin : User) (db : Db) :
    (createUser dto admin).Guarded db fun user after =>
      user = newUser dto db.users.next ∧
        ∃ users, db.users.insert (newUser dto) = some users ∧
          after = { db with users := users } := by
  apply Prog.guarded_throwIf_bind
  intro _
  refine Prog.guarded_query_bind (Prog.guarded_throwIf_bind ?_)
  intro _
  apply Prog.guarded_throwIf_bind
  intro _
  unfold Prog.Guarded
  rw [Prog.run_execOr]
  cases inserted : db.users.insert (newUser dto) with
  | none => rfl
  | some users => exact ⟨rfl, users, rfl, rfl⟩

/-! ## Methods that recalculate clearance levels -/

/-- The database after the voucher was blocked and the vouches given were suspended. -/
def blocked (db : Db) (targetId : UserId) (now : Time) : Db :=
  { withUser db targetId (blockedPatch true) with
    vouches := db.vouches.update
      (fun vouch => vouch.voucherId = targetId ∧ vouch.isSuspended = false) (suspendedPatch now) }

/-- The users the target vouched for. -/
def affectedBy (db : Db) (targetId : UserId) : List UserId :=
  (db.vouches.find fun vouch => vouch.voucherId = targetId).map TrustVouch.voucheeId

theorem recalculateEach_run (required : Nat) (ids : List UserId) (db : Db) :
    (Prog.forEach ids (recalculateClearance required)).run db =
      (.ok (), ids.foldl (recalculated required) db) := by
  apply Prog.run_forEach
  intro userId state
  exact recalculateClearance_run required userId state

theorem blockUser_guarded (required : Nat) (targetId : UserId) (admin : User) (now : Time)
    (db : Db) :
    (blockUser required targetId admin now).Guarded db fun _ after =>
      admin.systemRole = .admin ∧
        after = (affectedBy (blocked db targetId now) targetId).foldl (recalculated required)
          (blocked db targetId now) := by
  apply Prog.guarded_throwIf_bind
  intro isAdmin
  exact Prog.guarded_of_run () _ (recalculateEach_run required _ _) ⟨not_not.mp isAdmin, rfl⟩

/-- All checks of `vouchForUser`; the last one is also the unique constraint. -/
structure Vouching (db : Db) (voucheeId : UserId) (voucher : User) : Prop where
  other : voucheeId ≠ voucher.id
  stored : db.findUser voucheeId ≠ none
  trusted : voucher.clearanceLevel = .frontline ∨ voucher.systemRole = .admin
  email : voucher.isEmailVerified = true
  avatar : voucher.avatarUrl.getD "" ≠ ""
  identity : voucher.isIdentityVerified = true
  unblocked : voucher.isBlocked = false
  first : ∀ vouch ∈ db.vouches.rows, vouch.slot ≠ (voucheeId, voucher.id)

theorem Vouching.inserts {db : Db} {voucheeId : UserId} {voucher : User}
    (vouching : Vouching db voucheeId voucher) :
    ∃ vouches, db.vouches.insert (newVouch voucheeId voucher) = some vouches := by
  have free : ∀ vouch ∈ db.vouches.rows,
      vouch.slot ≠ (newVouch voucheeId voucher db.vouches.next).slot := vouching.first
  exact Table.insert_isSome (fun _ => rfl) free

@[simp] theorem newVouch_id (voucheeId : UserId) (voucher : User) (id : VouchId) :
    (newVouch voucheeId voucher id).id = id := rfl

/-- The database once the new vouch is stored and the vouchee recalculated. -/
def Vouched (required : Nat) (db : Db) (voucheeId : UserId) (voucher : User) (after : Db) : Prop :=
  ∃ vouches,
    db.vouches.insert (newVouch voucheeId voucher) (newVouch_id voucheeId voucher) =
        some vouches ∧
      after = recalculated required { db with vouches := vouches } voucheeId

theorem insertVouch_then_recalculate (required : Nat) {db : Db} {voucheeId : UserId}
    {voucher : User} {vouches : Table TrustVouch.id TrustVouch.slot}
    (inserted : db.vouches.insert (newVouch voucheeId voucher) = some vouches) :
    ((insertVouch voucheeId voucher).bind fun vouch =>
      (recalculateClearance required voucheeId).bind fun _ => .ret vouch).run db =
        (.ok (newVouch voucheeId voucher db.vouches.next),
          recalculated required { db with vouches := vouches } voucheeId) := by
  have stored : (insertVouch voucheeId voucher).run db =
      (.ok (newVouch voucheeId voucher db.vouches.next), { db with vouches := vouches }) := by
    rw [insertVouch, Prog.run_execOr, inserted]
    rfl
  rw [Prog.run_bind_of_ok stored, Prog.run_bind_of_ok (recalculateClearance_run _ _ _)]
  rfl

theorem findOne_slot_none {db : Db} {voucheeId voucherId : UserId} :
    (db.vouches.findOne fun vouch => vouch.voucheeId = voucheeId ∧ vouch.voucherId = voucherId) =
        none ↔ ∀ vouch ∈ db.vouches.rows, vouch.slot ≠ (voucheeId, voucherId) := by
  simp [Table.findOne_none, TrustVouch.slot]

theorem vouchForUser_guarded (required : Nat) (voucheeId : UserId) (voucher : User) (db : Db) :
    (vouchForUser required voucheeId voucher).Guarded db fun _ after =>
      Vouching db voucheeId voucher ∧ Vouched required db voucheeId voucher after := by
  apply Prog.guarded_throwIf_bind
  intro other
  refine Prog.guarded_query_bind (Prog.guarded_orThrow_bind ?_)
  intro vouchee found
  apply Prog.guarded_throwIf_bind
  intro trusted
  apply Prog.guarded_throwIf_bind
  intro email
  apply Prog.guarded_throwIf_bind
  intro avatar
  apply Prog.guarded_throwIf_bind
  intro identity
  apply Prog.guarded_throwIf_bind
  intro unblocked
  refine Prog.guarded_query_bind (Prog.guarded_throwIf_bind ?_)
  intro first
  have vouching : Vouching db voucheeId voucher := by
    refine ⟨other, ?_, ?_, by simpa using email, avatar, by simpa using identity,
      by simpa using unblocked, findOne_slot_none.mp (not_not.mp first)⟩
    · rw [found]
      exact Option.some_ne_none vouchee
    · by_contra neither
      exact trusted (not_or.mp neither)
  obtain ⟨vouches, inserted⟩ := vouching.inserts
  exact Prog.guarded_of_run _ _ (insertVouch_then_recalculate required inserted)
    ⟨vouching, vouches, inserted, rfl⟩

theorem vouchForUser_run {required : Nat} {db : Db} {voucheeId : UserId} {voucher : User}
    (vouching : Vouching db voucheeId voucher) :
    ∃ vouch after, (vouchForUser required voucheeId voucher).run db = (.ok vouch, after) ∧
      Vouched required db voucheeId voucher after := by
  obtain ⟨vouches, inserted⟩ := vouching.inserts
  refine ⟨_, _, Eq.trans ?_ (insertVouch_then_recalculate required inserted),
    vouches, inserted, rfl⟩
  obtain ⟨vouchee, found⟩ := Option.ne_none_iff_exists'.mp vouching.stored
  have untrusted : ¬ (voucher.clearanceLevel ≠ .frontline ∧ voucher.systemRole ≠ .admin) :=
    fun neither => vouching.trusted.elim neither.1 neither.2
  simp only [vouchForUser, Prog.bind_eq, Prog.run_throwIf_bind, if_neg vouching.other,
    Prog.run_query_bind, found, Prog.run_orThrow_bind, if_neg untrusted, vouching.email,
    Bool.true_eq_false, if_false, if_neg vouching.avatar, vouching.identity, vouching.unblocked,
    Bool.false_eq_true, findOne_slot_none.mpr vouching.first, ne_eq, not_true_eq_false]
  rfl

/-- All checks of `restoreVouch`. -/
structure Restoring (db : Db) (vouchId : VouchId) (admin : User) (vouch : TrustVouch) : Prop where
  admin : admin.systemRole = .admin
  found : db.findVouch vouchId = some vouch
  suspended : vouch.isSuspended = true
  free : (db.findUser vouch.voucherId).any User.isBlocked = false

def restored (db : Db) (vouchId : VouchId) : Db :=
  { db with vouches := db.vouches.update (fun vouch => vouch.id = vouchId) restoredPatch }

theorem restoreVouch_guarded (required : Nat) (vouchId : VouchId) (admin : User) (db : Db) :
    (restoreVouch required vouchId admin).Guarded db fun _ after =>
      ∃ vouch, Restoring db vouchId admin vouch ∧
        after = recalculated required (restored db vouchId) vouch.voucheeId := by
  apply Prog.guarded_throwIf_bind
  intro isAdmin
  refine Prog.guarded_query_bind (Prog.guarded_orThrow_bind ?_)
  intro loaded hit
  obtain ⟨vouch, found, rfl⟩ := Option.map_eq_some_iff.mp hit
  apply Prog.guarded_throwIf_bind
  intro suspended
  apply Prog.guarded_throwIf_bind
  intro free
  refine Prog.guarded_of_run _ _ (recalculateClearance_run _ _ _) ⟨vouch, ?_, rfl⟩
  exact ⟨not_not.mp isAdmin, found, by simpa using suspended, by simpa using free⟩

theorem restoreVouch_run {required : Nat} {db : Db} {vouchId : VouchId} {admin : User}
    {vouch : TrustVouch} (restoring : Restoring db vouchId admin vouch) :
    (restoreVouch required vouchId admin).run db =
      (.ok (), recalculated required (restored db vouchId) vouch.voucheeId) := by
  refine Eq.trans ?_ (recalculateClearance_run required vouch.voucheeId (restored db vouchId))
  simp only [restoreVouch, Prog.bind_eq, Prog.run_throwIf_bind, restoring.admin, ne_eq,
    not_true_eq_false, if_false, Prog.run_query_bind, restoring.found, Option.map_some,
    Prog.run_orThrow_bind, restoring.suspended, Bool.true_eq_false, restoring.free,
    Bool.false_eq_true, Prog.run_exec_bind]
  rfl

def revoked (db : Db) (vouchId : VouchId) : Db :=
  { db with vouches := db.vouches.delete fun stored => stored.id = vouchId }

theorem revokeVouchPermanently_guarded (required : Nat) (vouchId : VouchId) (admin : User)
    (db : Db) :
    (revokeVouchPermanently required vouchId admin).Guarded db fun _ after =>
      ∃ vouch, (admin.systemRole = .admin ∧ db.findVouch vouchId = some vouch) ∧
        after = recalculated required (revoked db vouchId) vouch.voucheeId := by
  apply Prog.guarded_throwIf_bind
  intro isAdmin
  refine Prog.guarded_query_bind (Prog.guarded_orThrow_bind ?_)
  intro vouch found
  exact Prog.guarded_of_run _ _ (recalculateClearance_run _ _ _)
    ⟨vouch, ⟨not_not.mp isAdmin, found⟩, rfl⟩

theorem revokeVouchPermanently_run {required : Nat} {db : Db} {vouchId : VouchId} {admin : User}
    {vouch : TrustVouch} (isAdmin : admin.systemRole = .admin)
    (found : db.findVouch vouchId = some vouch) :
    (revokeVouchPermanently required vouchId admin).run db =
      (.ok (), recalculated required (revoked db vouchId) vouch.voucheeId) := by
  refine Eq.trans ?_ (recalculateClearance_run required vouch.voucheeId (revoked db vouchId))
  simp only [revokeVouchPermanently, Prog.bind_eq, Prog.run_throwIf_bind, isAdmin, ne_eq,
    not_true_eq_false, if_false, Prog.run_query_bind, found, Prog.run_orThrow_bind,
    Prog.run_exec_bind]
  rfl

theorem blockUser_run {required : Nat} {db : Db} {targetId : UserId} {admin : User}
    (isAdmin : admin.systemRole = .admin) (now : Time) :
    (blockUser required targetId admin now).run db =
      (.ok (), (affectedBy (blocked db targetId now) targetId).foldl (recalculated required)
        (blocked db targetId now)) := by
  rw [← recalculateEach_run]
  simp only [blockUser, Prog.bind_eq, Prog.run_throwIf_bind, isAdmin, ne_eq, not_true_eq_false,
    if_false]
  rfl

end UsersService

/-! ## What a call can change on the board -/

/-- The users whose clearance level a call recalculates. -/
def Recalculates (db : Db) : UsersOp → UserId → Prop
  | .blockUser targetId _ _, userId =>
      ∃ vouch ∈ db.vouches.rows, vouch.voucherId = targetId ∧ vouch.voucheeId = userId
  | .vouchForUser voucheeId _, userId => voucheeId = userId
  | .recalculateClearance targetId, userId => targetId = userId
  | .restoreVouch vouchId _, userId =>
      ∃ vouch ∈ db.vouches.rows, vouch.id = vouchId ∧ vouch.voucheeId = userId
  | .revokeVouchPermanently vouchId _, userId =>
      ∃ vouch ∈ db.vouches.rows, vouch.id = vouchId ∧ vouch.voucheeId = userId
  | _, _ => False

/-- On the board, only active assignments of the given users changed, to
`WITHDRAWN`. -/
structure AutoWithdrawn (affected : UserId → Prop) (db after : Db) : Prop where
  tasks : after.tasks = db.tasks
  chats : after.chats = db.chats
  requests : after.requests = db.requests
  assignments : ∀ row ∈ after.assignments.rows, row ∈ db.assignments.rows ∨
    ∃ old ∈ db.assignments.rows, row = TasksService.withdrawnPatch.run old ∧
      old.active = true ∧ affected old.userId
  survives : ∀ old ∈ db.assignments.rows, ∃ row ∈ after.assignments.rows, row.id = old.id

namespace AutoWithdrawn

variable {affected wider : UserId → Prop} {db mid after : Db}

theorem of_same (tasks : after.tasks = db.tasks) (chats : after.chats = db.chats)
    (requests : after.requests = db.requests) (assignments : after.assignments = db.assignments) :
    AutoWithdrawn affected db after := by
  refine ⟨tasks, chats, requests, ?_, ?_⟩
  · intro row member
    exact Or.inl (assignments ▸ member)
  · intro old member
    exact ⟨old, assignments ▸ member, rfl⟩

theorem refl (db : Db) : AutoWithdrawn affected db db := of_same rfl rfl rfl rfl

theorem mono (withdrawn : AutoWithdrawn affected db after)
    (weaker : ∀ userId, affected userId → wider userId) : AutoWithdrawn wider db after := by
  refine ⟨withdrawn.tasks, withdrawn.chats, withdrawn.requests, ?_, withdrawn.survives⟩
  intro row member
  rcases withdrawn.assignments row member with same | ⟨old, oldMember, changed, active, hit⟩
  · exact Or.inl same
  · exact Or.inr ⟨old, oldMember, changed, active, weaker old.userId hit⟩

theorem trans (first : AutoWithdrawn affected db mid) (second : AutoWithdrawn affected mid after) :
    AutoWithdrawn affected db after := by
  refine ⟨second.tasks.trans first.tasks, second.chats.trans first.chats,
    second.requests.trans first.requests, ?_, ?_⟩
  · intro row member
    rcases second.assignments row member with same | ⟨middle, middleMember, rfl, active, hit⟩
    · exact first.assignments row same
    · rcases first.assignments middle middleMember with same | ⟨old, _, rfl, _, _⟩
      · exact Or.inr ⟨middle, same, rfl, active, hit⟩
      · simp [TaskAssignment.active, TasksService.withdrawnPatch] at active
  · intro old member
    obtain ⟨middle, middleMember, same⟩ := first.survives old member
    obtain ⟨row, rowMember, sameRow⟩ := second.survives middle middleMember
    exact ⟨row, rowMember, sameRow.trans same⟩

end AutoWithdrawn

namespace UsersService

theorem withdrawable_active {assignment : TaskAssignment}
    (withdrawable : isWithdrawable assignment = true) : assignment.active = true := by
  simpa [isWithdrawable, TaskAssignment.active] using withdrawable

theorem withdrawnFrom_effect (db : Db) (userId : UserId) :
    AutoWithdrawn (fun affected => userId = affected) db (withdrawnFrom db userId) := by
  refine ⟨rfl, rfl, rfl, ?_, ?_⟩
  · intro row member
    obtain ⟨old, oldMember, rfl⟩ := (Table.mem_update _ _ _ _).mp member
    by_cases hit : old.userId = userId ∧ isWithdrawable old = true
    · rw [if_pos (decide_eq_true hit)]
      exact Or.inr ⟨old, oldMember, rfl, withdrawable_active hit.2, hit.1.symm⟩
    · rw [if_neg (by simpa using hit)]
      exact Or.inl oldMember
  · intro old member
    exact Table.survives_update _ _ member

theorem recalculated_effect (required : Nat) (db : Db) (userId : UserId) :
    AutoWithdrawn (fun affected => userId = affected) db (recalculated required db userId) := by
  unfold recalculated
  cases db.findUser userId with
  | none => exact .refl db
  | some user =>
      dsimp only
      split
      · exact .refl db
      · split
        · split
          · exact (withdrawnFrom_effect db userId).trans (.of_same rfl rfl rfl rfl)
          · exact .of_same rfl rfl rfl rfl
        · exact .refl db

theorem recalculatedAll_effect (required : Nat) (userIds : List UserId) (db : Db) :
    AutoWithdrawn (fun affected => affected ∈ userIds) db
      (userIds.foldl (recalculated required) db) := by
  induction userIds generalizing db with
  | nil => exact .refl db
  | cons userId rest ih =>
      have first : AutoWithdrawn (fun affected => affected ∈ userId :: rest) db
          (recalculated required db userId) := by
        refine (recalculated_effect required db userId).mono ?_
        intro affected same
        simp [same]
      refine first.trans ((ih (recalculated required db userId)).mono ?_)
      intro affected member
      simp [member]

theorem affectedBy_blocked {db : Db} {targetId userId : UserId} {now : Time}
    (listed : userId ∈ affectedBy (blocked db targetId now) targetId) :
    ∃ vouch ∈ db.vouches.rows, vouch.voucherId = targetId ∧ vouch.voucheeId = userId := by
  obtain ⟨vouch, found, rfl⟩ := List.mem_map.mp listed
  obtain ⟨member, voucher⟩ := (Table.mem_find _ _ _).mp found
  obtain ⟨old, oldMember, rfl⟩ := (Table.mem_update _ _ _ _).mp member
  have sameVoucher := of_decide_eq_true voucher
  refine ⟨old, oldMember, ?_, ?_⟩
  · split at sameVoucher
    · exact sameVoucher
    · exact sameVoucher
  · split <;> rfl

end UsersService

open UsersService

theorem UsersOp.run_recalculateClearance (required : Nat) (db : Db) (userId : UserId) :
    (UsersOp.run required db (.recalculateClearance userId)).2 = recalculated required db userId :=
  congrArg Prod.snd (recalculateClearance_run required userId db)

theorem UsersOp.effect_of_guarded {α : Type} {db : Db} {program : Service α}
    {Post : α → Db → Prop} {affected : UserId → Prop} (guarded : program.Guarded db Post)
    (effect : ∀ value after, Post value after → AutoWithdrawn affected db after) :
    AutoWithdrawn affected db (program.run db).2 := by
  exact Prog.Guarded.after (motive := AutoWithdrawn affected db) guarded (.refl db) effect

theorem UsersOp.effect (required : Nat) (db : Db) (op : UsersOp) :
    AutoWithdrawn (Recalculates db op) db (op.run required db).2 := by
  cases op with
  | updateProfile targetId dto user =>
      apply UsersOp.effect_of_guarded (updateProfile_guarded targetId dto user db)
      intro _ _ post
      obtain rfl := post
      exact .of_same rfl rfl rfl rfl
  | updateAvatar userId avatarUrl =>
      apply UsersOp.effect_of_guarded (updateAvatar_guarded userId avatarUrl db)
      intro _ _ post
      obtain rfl := post
      exact .of_same rfl rfl rfl rfl
  | blockUser targetId user now =>
      apply UsersOp.effect_of_guarded (blockUser_guarded required targetId user now db)
      intro _ _ post
      obtain ⟨_, rfl⟩ := post
      have start : AutoWithdrawn (Recalculates db (.blockUser targetId user now)) db
          (blocked db targetId now) := .of_same rfl rfl rfl rfl
      refine start.trans ((recalculatedAll_effect required _ _).mono ?_)
      intro userId listed
      exact affectedBy_blocked listed
  | unblockUser targetId user =>
      apply UsersOp.effect_of_guarded (unblockUser_guarded targetId user db)
      intro _ _ post
      obtain rfl := post
      exact .of_same rfl rfl rfl rfl
  | changeRole targetId newRole user =>
      apply UsersOp.effect_of_guarded (changeRole_guarded targetId newRole user db)
      intro _ _ post
      obtain rfl := post
      exact .of_same rfl rfl rfl rfl
  | updateClearance targetId newLevel user =>
      apply UsersOp.effect_of_guarded (updateClearance_guarded targetId newLevel user db)
      intro _ _ post
      obtain ⟨_, rfl⟩ := post
      exact .of_same rfl rfl rfl rfl
  | createUser dto user =>
      apply UsersOp.effect_of_guarded (createUser_guarded dto user db)
      intro _ _ post
      obtain ⟨_, users, _, rfl⟩ := post
      exact .of_same rfl rfl rfl rfl
  | vouchForUser voucheeId user =>
      apply UsersOp.effect_of_guarded (vouchForUser_guarded required voucheeId user db)
      intro _ _ post
      obtain ⟨_, vouches, _, rfl⟩ := post
      have start : AutoWithdrawn (Recalculates db (.vouchForUser voucheeId user)) db
          { db with vouches := vouches } := .of_same rfl rfl rfl rfl
      exact start.trans (recalculated_effect required _ voucheeId)
  | recalculateClearance userId =>
      rw [UsersOp.run_recalculateClearance]
      exact recalculated_effect required db userId
  | restoreVouch vouchId user =>
      apply UsersOp.effect_of_guarded (restoreVouch_guarded required vouchId user db)
      intro _ _ post
      obtain ⟨vouch, restoring, rfl⟩ := post
      obtain ⟨member, same⟩ := Db.findVouch_some restoring.found
      have start : AutoWithdrawn (Recalculates db (.restoreVouch vouchId user)) db
          (restored db vouchId) := .of_same rfl rfl rfl rfl
      refine start.trans ((recalculated_effect required _ _).mono ?_)
      rintro _ rfl
      exact ⟨vouch, member, same, rfl⟩
  | revokeVouchPermanently vouchId user =>
      apply UsersOp.effect_of_guarded (revokeVouchPermanently_guarded required vouchId user db)
      intro _ _ post
      obtain ⟨vouch, ⟨_, found⟩, rfl⟩ := post
      obtain ⟨member, same⟩ := Db.findVouch_some found
      have start : AutoWithdrawn (Recalculates db (.revokeVouchPermanently vouchId user)) db
          (revoked db vouchId) := .of_same rfl rfl rfl rfl
      refine start.trans ((recalculated_effect required _ _).mono ?_)
      rintro _ rfl
      exact ⟨vouch, member, same, rfl⟩

end VolunteerApi
