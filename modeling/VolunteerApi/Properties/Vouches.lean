import VolunteerApi.Effects.TrustEffects

/-!
# Vouches

Nobody vouches for themselves or twice for the same user, a suspended vouch says when
and why, and a blocked user stands for nobody.  Calls are executed one at a time, each
by a user as stored.
-/

set_option autoImplicit false

namespace VolunteerApi

open Relational Programs
open UsersService AuthService

structure VouchesSound (db : Db) : Prop where
  others : ∀ vouch ∈ db.vouches.rows, vouch.voucherId ≠ vouch.voucheeId
  once : ∀ left ∈ db.vouches.rows, ∀ right ∈ db.vouches.rows,
    left.voucheeId = right.voucheeId → left.voucherId = right.voucherId → left = right
  explained : ∀ vouch ∈ db.vouches.rows,
    vouch.isSuspended = true ↔ vouch.suspendedAt ≠ none ∧ vouch.suspensionReason ≠ none
  blocked : ∀ user ∈ db.users.rows, user.isBlocked = true → ∀ vouch ∈ db.vouches.rows,
    vouch.voucherId = user.id → vouch.isSuspended = true

/-- The acting user of a call, if the call has one. -/
def UsersOp.actor : UsersOp → Option User
  | .updateProfile _ _ user => some user
  | .updateAvatar _ _ => none
  | .blockUser _ user _ => some user
  | .unblockUser _ user => some user
  | .changeRole _ _ user => some user
  | .updateClearance _ _ user => some user
  | .createUser _ user => some user
  | .vouchForUser _ user => some user
  | .recalculateClearance _ => none
  | .restoreVouch _ user => some user
  | .revokeVouchPermanently _ user => some user

/-- The acting user is passed as stored. -/
def ActsAsStored (db : Db) (op : UsersOp) : Prop := ∀ user ∈ op.actor, user ∈ db.users.rows

/-! ## Steps that leave the vouches alone -/

/-- Every user blocked afterwards was blocked before. -/
def BlocksNobody (db after : Db) : Prop :=
  ∀ row ∈ after.users.rows, row.isBlocked = true →
    ∃ old ∈ db.users.rows, old.id = row.id ∧ old.isBlocked = true

theorem blocksNobody_of_update {db after : Db} {wanted : User → Bool}
    {patch : Patch User.id User.email} (users : after.users = db.users.update wanted patch)
    (mild : ∀ user, (patch.run user).isBlocked = true → user.isBlocked = true) :
    BlocksNobody db after := by
  intro row member isBlocked
  rw [users] at member
  obtain ⟨old, oldMember, rfl⟩ := (Table.mem_update _ _ _ _).mp member
  by_cases hit : wanted old = true
  · rw [if_pos hit] at isBlocked ⊢
    exact ⟨old, oldMember, (patch.key_run old).symm, mild old isBlocked⟩
  · rw [if_neg hit] at isBlocked ⊢
    exact ⟨old, oldMember, rfl, isBlocked⟩

theorem blocksNobody_of_insert {db : Db} {build : Nat → User} {built : ∀ n, (build n).id = n}
    {users : Table User.id User.email} (inserted : db.users.insert build built = some users)
    (free : ∀ n, (build n).isBlocked = false) : BlocksNobody db { db with users := users } := by
  intro row member isBlocked
  rcases ((Table.added_insert inserted).mem row).mp member with old | rfl
  · exact ⟨row, old, rfl, isBlocked⟩
  · rw [free] at isBlocked
    cases isBlocked

theorem VouchesSound.keep {db after : Db} (sound : VouchesSound db)
    (vouches : after.vouches = db.vouches) (blocks : BlocksNobody db after) :
    VouchesSound after := by
  refine ⟨vouches ▸ sound.others, vouches ▸ sound.once, vouches ▸ sound.explained, ?_⟩
  intro user member isBlocked vouch vouchMember given
  obtain ⟨old, oldMember, same, wasBlocked⟩ := blocks user member isBlocked
  rw [vouches] at vouchMember
  exact sound.blocked old oldMember wasBlocked vouch vouchMember (given.trans same.symm)

theorem VouchesSound.recalculatedAll {db : Db} (sound : VouchesSound db) (required : Nat)
    (ids : List UserId) : VouchesSound (ids.foldl (recalculated required) db) := by
  refine sound.keep (recalculatedAll_vouches required ids db) ?_
  refine blocksNobody_of_update (recalculatedAll_users required ids db) ?_
  intro user
  simp [settledPatch]

/-! ## Steps that change vouches -/

theorem unblocked_of_stored {db : Db} {user row : User} (stored : user ∈ db.users.rows)
    (unblocked : user.isBlocked = false) (member : row ∈ db.users.rows) (same : row.id = user.id) :
    row.isBlocked = false := by
  rw [Table.eq_of_key member stored same]
  exact unblocked

theorem VouchesSound.inserted {db : Db} (sound : VouchesSound db) {voucheeId : UserId}
    {voucher : User} (stored : voucher ∈ db.users.rows) (vouching : Vouching db voucheeId voucher)
    {vouches : Table TrustVouch.id TrustVouch.slot}
    (inserted : db.vouches.insert (newVouch voucheeId voucher) = some vouches) :
    VouchesSound { db with vouches := vouches } := by
  have added := Table.added_insert inserted
  refine ⟨?_, ?_, ?_, ?_⟩
  · intro vouch member
    rcases (added.mem vouch).mp member with old | rfl
    · exact sound.others vouch old
    · exact Ne.symm vouching.other
  · intro left leftMember right rightMember sameVouchee sameVoucher
    exact Table.eq_of_uniq leftMember rightMember (Prod.ext sameVouchee sameVoucher)
  · intro vouch member
    rcases (added.mem vouch).mp member with old | rfl
    · exact sound.explained vouch old
    · simp [newVouch]
  · intro user userMember isBlocked vouch member given
    rcases (added.mem vouch).mp member with old | rfl
    · exact sound.blocked user userMember isBlocked vouch old given
    · rw [unblocked_of_stored stored vouching.unblocked userMember given.symm] at isBlocked
      cases isBlocked

theorem VouchesSound.updated {db : Db} (sound : VouchesSound db) {wanted : TrustVouch → Bool}
    {patch : Patch TrustVouch.id TrustVouch.slot}
    (explained : ∀ vouch, (patch.run vouch).isSuspended = true ↔
      (patch.run vouch).suspendedAt ≠ none ∧ (patch.run vouch).suspensionReason ≠ none)
    (blocked : ∀ user ∈ db.users.rows, user.isBlocked = true → ∀ vouch ∈ db.vouches.rows,
      vouch.voucherId = user.id → wanted vouch = true → (patch.run vouch).isSuspended = true) :
    VouchesSound { db with vouches := db.vouches.update wanted patch } := by
  have slotOf : ∀ vouch, (if wanted vouch then patch.run vouch else vouch).slot = vouch.slot := by
    intro vouch
    split
    · exact patch.uniq_run vouch
    · rfl
  refine ⟨?_, ?_, ?_, ?_⟩
  · intro vouch member
    obtain ⟨old, oldMember, rfl⟩ := (Table.mem_update _ _ _ _).mp member
    obtain ⟨sameVouchee, sameVoucher⟩ := Prod.mk.inj (slotOf old)
    rw [sameVouchee, sameVoucher]
    exact sound.others old oldMember
  · intro left leftMember right rightMember sameVouchee sameVoucher
    exact Table.eq_of_uniq leftMember rightMember (Prod.ext sameVouchee sameVoucher)
  · intro vouch member
    obtain ⟨old, oldMember, rfl⟩ := (Table.mem_update _ _ _ _).mp member
    split
    · exact explained old
    · exact sound.explained old oldMember
  · intro user userMember isBlocked vouch member given
    obtain ⟨old, oldMember, rfl⟩ := (Table.mem_update _ _ _ _).mp member
    have sameVoucher := (Prod.mk.inj (slotOf old)).2
    rw [sameVoucher] at given
    split
    · exact blocked user userMember isBlocked old oldMember given ‹_›
    · exact sound.blocked user userMember isBlocked old oldMember given

theorem VouchesSound.restored {db : Db} (sound : VouchesSound db) {vouchId : VouchId}
    {admin : User} {vouch : TrustVouch} (restoring : Restoring db vouchId admin vouch) :
    VouchesSound (restored db vouchId) := by
  apply sound.updated
  · intro old
    simp [restoredPatch]
  · intro user userMember isBlocked old oldMember given hit
    have one : old = vouch :=
      Db.eq_of_findVouch restoring.found oldMember (of_decide_eq_true hit)
    have found : db.findUser vouch.voucherId = some user := by
      rw [← one, given]
      exact Db.findUser_of_mem userMember
    have free := restoring.free
    rw [found] at free
    simp [isBlocked] at free

theorem VouchesSound.revoked {db : Db} (sound : VouchesSound db) (vouchId : VouchId) :
    VouchesSound (revoked db vouchId) := by
  have kept : ∀ vouch ∈ (UsersService.revoked db vouchId).vouches.rows,
      vouch ∈ db.vouches.rows := by
    intro vouch member
    exact ((Table.mem_delete _ _ _).mp member).1
  refine ⟨?_, ?_, ?_, ?_⟩
  · intro vouch member
    exact sound.others vouch (kept vouch member)
  · intro left leftMember right rightMember
    exact sound.once left (kept left leftMember) right (kept right rightMember)
  · intro vouch member
    exact sound.explained vouch (kept vouch member)
  · intro user userMember isBlocked vouch member
    exact sound.blocked user userMember isBlocked vouch (kept vouch member)

theorem suspended_of_blocked {db : Db} {targetId : UserId} {now : Time} {vouch : TrustVouch}
    (member : vouch ∈ (blocked db targetId now).vouches.rows) (given : vouch.voucherId = targetId) :
    vouch.isSuspended = true := by
  obtain ⟨old, _, rfl⟩ := (Table.mem_update _ _ _ _).mp member
  by_cases hit : old.voucherId = targetId ∧ old.isSuspended = false
  · rw [if_pos (decide_eq_true hit)]
    rfl
  · rw [if_neg (by simpa using hit)] at given ⊢
    simpa [given] using hit

theorem VouchesSound.blocking {db : Db} (sound : VouchesSound db) (targetId : UserId)
    (now : Time) : VouchesSound (UsersService.blocked db targetId now) := by
  have vouched : VouchesSound
      { db with vouches := (UsersService.blocked db targetId now).vouches } := by
    apply sound.updated
    · intro vouch
      simp [suspendedPatch]
    · intro _ _ _ _ _ _ _
      rfl
  refine ⟨vouched.others, vouched.once, vouched.explained, ?_⟩
  intro user member isBlocked vouch vouchMember given
  obtain ⟨old, oldMember, rfl⟩ := (Table.mem_update _ _ _ _).mp member
  by_cases hit : old.id = targetId
  · rw [if_pos (decide_eq_true hit)] at given
    exact suspended_of_blocked vouchMember (given.trans hit)
  · rw [if_neg (by simpa using hit)] at isBlocked given
    exact vouched.blocked old oldMember isBlocked vouch vouchMember given

/-! ## Every call -/

theorem VouchesSound.step {required : Nat} {db : Db} (sound : VouchesSound db) (op : UsersOp)
    (acts : ActsAsStored db op) : VouchesSound (op.step required db) := by
  have effect := UsersOp.trustEffect required db op
  generalize op.step required db = after at effect
  cases effect with
  | unchanged => exact sound
  | edited _ userId patch mild =>
      refine sound.keep rfl (blocksNobody_of_update rfl ?_)
      intro user isBlocked
      rwa [(mild user).blocked] at isBlocked
  | unblocked targetId user =>
      exact sound.keep rfl (blocksNobody_of_update rfl fun _ never => Bool.noConfusion never)
  | cleared targetId newLevel user admin stored =>
      exact sound.keep rfl (blocksNobody_of_update rfl fun _ isBlocked => isBlocked)
  | created dto user users inserted =>
      exact sound.keep rfl (blocksNobody_of_insert inserted fun _ => rfl)
  | vouched voucheeId user _ vouching vouched =>
      obtain ⟨vouches, inserted, rfl⟩ := vouched
      have stored := acts user rfl
      exact (sound.inserted stored vouching inserted).recalculatedAll required [voucheeId]
  | restored vouchId user vouch restoring =>
      exact (sound.restored restoring).recalculatedAll required [vouch.voucheeId]
  | revoked vouchId user vouch admin found =>
      exact (sound.revoked vouchId).recalculatedAll required [vouch.voucheeId]
  | blocked targetId user now admin =>
      exact (sound.blocking targetId now).recalculatedAll required _
  | recalculated userId => exact sound.recalculatedAll required [userId]

/-- In every run of `UsersService` calls, each by a user as stored, the vouches stay sound. -/
theorem vouchesSound_always {required : Nat} {db : Db} (sound : VouchesSound db)
    {ops : List UsersOp} (acts : Throughout (UsersOp.step required) ActsAsStored db ops) :
    Always (UsersOp.step required) VouchesSound db ops :=
  always_of_preserved (fun _ op sound acts => sound.step op acts) sound acts

theorem vouchesSound_of_empty {db : Db} (none : db.vouches.rows = []) : VouchesSound db := by
  refine ⟨?_, ?_, ?_, ?_⟩ <;> simp [none]

/-- A voucher is blocked, unblocked and, once the vouch is restored, blocked again. -/
def alternation : List UsersOp :=
  [.vouchForUser 1 firstAdmin, .blockUser 3 secondAdmin 0, .unblockUser 3 secondAdmin,
   .restoreVouch 0 secondAdmin, .blockUser 3 secondAdmin 1]

theorem vouchesSound_always_witness :
    Always (UsersOp.step 3) VouchesSound (exampleBoard .local) alternation := by
  apply vouchesSound_always (vouchesSound_of_empty rfl)
  refine ⟨?_, ?_, ?_, ?_, ?_, trivial⟩ <;> unfold ActsAsStored <;> decide +kernel

end VolunteerApi
