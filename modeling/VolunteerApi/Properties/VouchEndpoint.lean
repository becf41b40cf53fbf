import VolunteerApi.Effects.TrustEffects
import VolunteerApi.Model.JwtStrategy
import VolunteerApi.Model.System

/-!
# Vouching over HTTP

`vouchForUser` decides on the user it is handed.  Over HTTP that is the user `validate` has
loaded, without the columns that tell whether the email and the identity are verified, so the
endpoint refuses everybody.
-/

set_option autoImplicit false

namespace VolunteerApi

open Relational Programs
open UsersService

/-- Who may vouch, by the stored row. -/
structure User.MayVouch (voucher : User) : Prop where
  unblocked : voucher.isBlocked = false
  trusted : voucher.clearanceLevel = .frontline ∨ voucher.systemRole = .admin
  email : voucher.isEmailVerified = true
  avatar : voucher.avatarUrl.getD "" ≠ ""
  identity : voucher.isIdentityVerified = true

/-- Two stored users, and no vouch of the one for the other. -/
structure Unvouched (db : Db) (vouchee voucher : User) : Prop where
  stored : voucher ∈ db.users.rows
  voucheeStored : vouchee ∈ db.users.rows
  other : vouchee.id ≠ voucher.id
  first : ∀ vouch ∈ db.vouches.rows, vouch.slot ≠ (vouchee.id, voucher.id)

def Db.Vouches (db : Db) (voucheeId voucherId : UserId) : Prop :=
  ∃ vouch ∈ db.vouches.rows, vouch.slot = (voucheeId, voucherId)

/-- The endpoint creates the vouch, exactly if the voucher may vouch. -/
def VouchesByRule (required : Nat) (db : Db) (vouchee voucher : User) (payload : JwtClaims) :
    Prop :=
  ((UsersController.vouch required vouchee.id payload).run db).2.Vouches vouchee.id voucher.id ↔
    voucher.MayVouch

/-! ## The service -/

section Service

variable {required : Nat} {db : Db} {vouchee voucher : User}

theorem vouching_of_mayVouch (unvouched : Unvouched db vouchee voucher)
    (may : voucher.MayVouch) : Vouching db vouchee.id voucher where
  other := unvouched.other
  stored := by
    rw [Db.findUser_of_mem unvouched.voucheeStored]
    exact Option.some_ne_none vouchee
  trusted := may.trusted
  email := may.email
  avatar := may.avatar
  identity := may.identity
  unblocked := may.unblocked
  first := unvouched.first

theorem vouches_of_vouched {after : Db}
    (vouched : Vouched required db vouchee.id voucher after) :
    after.Vouches vouchee.id voucher.id := by
  obtain ⟨vouches, inserted, rfl⟩ := vouched
  refine ⟨newVouch vouchee.id voucher db.vouches.next, ?_, rfl⟩
  show _ ∈ (recalculated required { db with vouches := vouches } vouchee.id).vouches.rows
  rw [recalculated_vouches, Table.insert_rows inserted]
  exact List.mem_append_right _ (List.mem_singleton_self _)

/-- A call that is handed `given` for the voucher creates the vouch only if `given` passes the
checks. -/
theorem vouchForUser_vouches (unvouched : Unvouched db vouchee voucher) {given : User}
    (created : ((vouchForUser required vouchee.id given).run db).2.Vouches vouchee.id voucher.id) :
    Vouching db vouchee.id given := by
  have guarded := vouchForUser_guarded required vouchee.id given db
  unfold Prog.Guarded at guarded
  cases ran : (vouchForUser required vouchee.id given).run db with
  | mk result after =>
      rw [ran] at guarded created
      cases result with
      | ok vouch => exact guarded.1
      | error error =>
          obtain ⟨vouch, member, slot⟩ := created
          rw [show after = db from guarded] at member
          exact absurd slot (unvouched.first vouch member)

/-- Handed the whole row, the service keeps to the rule. -/
theorem vouchForUser_byRule (unvouched : Unvouched db vouchee voucher) :
    ((vouchForUser required vouchee.id voucher).run db).2.Vouches vouchee.id voucher.id ↔
      voucher.MayVouch := by
  constructor
  · intro created
    have vouching := vouchForUser_vouches unvouched created
    exact ⟨vouching.unblocked, vouching.trusted, vouching.email, vouching.avatar,
      vouching.identity⟩
  · intro may
    obtain ⟨vouch, after, ran, vouched⟩ :=
      @vouchForUser_run required db vouchee.id voucher (vouching_of_mayVouch unvouched may)
    rw [ran]
    exact vouches_of_vouched vouched

end Service

/-! ## The endpoint -/

section Endpoint

variable {required : Nat} {db : Db} {vouchee voucher : User} {payload : JwtClaims}

theorem validate_run (stored : voucher ∈ db.users.rows) (signed : payload.sub = voucher.id) :
    (JwtStrategy.validate payload).run db =
      if voucher.isBlocked = true then
        (.error (.unauthorized "Обліковий запис заблоковано"), db)
      else (.ok voucher.select.entity, db) := by
  have found : (db.findUser payload.sub).map User.select = some voucher.select := by
    rw [signed, Db.findUser_of_mem stored]
    rfl
  simp only [JwtStrategy.validate, Prog.bind_eq, Prog.run_query_bind, found,
    Prog.run_orThrow_bind, Prog.run_throwIf_bind]
  rfl

/-- The email of the loaded user is never verified. -/
theorem vouch_never (unvouched : Unvouched db vouchee voucher)
    (signed : payload.sub = voucher.id) :
    ¬ ((UsersController.vouch required vouchee.id payload).run db).2.Vouches vouchee.id
      voucher.id := by
  intro created
  have validated := validate_run unvouched.stored signed
  rw [UsersController.vouch, Prog.bind_eq] at created
  by_cases blocked : voucher.isBlocked = true
  · rw [if_pos blocked] at validated
    rw [Prog.run_bind, validated] at created
    obtain ⟨vouch, member, slot⟩ := created
    exact unvouched.first vouch member slot
  · rw [if_neg blocked] at validated
    rw [Prog.run_bind_of_ok validated] at created
    have verified : false = true := (vouchForUser_vouches unvouched created).email
    cases verified

/-- The endpoint keeps to the rule exactly where the rule refuses the voucher. -/
theorem vouchesByRule_iff (unvouched : Unvouched db vouchee voucher)
    (signed : payload.sub = voucher.id) :
    VouchesByRule required db vouchee voucher payload ↔ ¬ voucher.MayVouch := by
  rw [VouchesByRule, iff_false_left (vouch_never unvouched signed)]

end Endpoint

theorem firstAdmin_unvouched : Unvouched (exampleBoard .local) firstVolunteer firstAdmin where
  stored := by simp [exampleBoard]
  voucheeStored := by simp [exampleBoard]
  other := by decide
  first := fun _ member => nomatch member

def adminClaims : JwtClaims where
  sub := firstAdmin.id
  email := firstAdmin.email
  role := .admin
  clearance := .local
  iat := 0
  exp := 3600

theorem vouchesByRule_iff_witness :
    VouchesByRule 3 (exampleBoard .local) firstVolunteer firstAdmin adminClaims ↔
      ¬ firstAdmin.MayVouch :=
  vouchesByRule_iff firstAdmin_unvouched rfl

theorem firstAdmin_mayVouch : firstAdmin.MayVouch := by
  constructor <;> decide

/-- The administrator has all that the rule asks for. -/
theorem vouchesByRule_fails :
    Unvouched (exampleBoard .local) firstVolunteer firstAdmin ∧ adminClaims.sub = firstAdmin.id ∧
      ¬ VouchesByRule 3 (exampleBoard .local) firstVolunteer firstAdmin adminClaims := by
  refine ⟨firstAdmin_unvouched, rfl, ?_⟩
  intro byRule
  exact vouch_never firstAdmin_unvouched rfl (byRule.mpr firstAdmin_mayVouch)

end VolunteerApi
