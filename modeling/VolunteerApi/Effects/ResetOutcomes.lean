import VolunteerApi.Effects.UsersOutcomes
import VolunteerApi.Model.Passwords

/-!
# How the calls that reset or change a password end
-/

set_option autoImplicit false

namespace VolunteerApi

open Relational Programs UsersService

theorem mem_withUser {db : Db} {user : User} {patch : Patch User.id User.email}
    (stored : user ∈ db.users.rows) (row : User) :
    row ∈ (withUser db user.id patch).users.rows ↔
      row = patch.run user ∨ row ∈ db.users.rows ∧ row.id ≠ user.id := by
  unfold withUser
  rw [Table.mem_update]
  constructor
  · rintro ⟨old, member, rfl⟩
    by_cases here : old.id = user.id
    · obtain rfl := Table.eq_of_key member stored here
      exact Or.inl (by simp)
    · exact Or.inr (by simp [here, member])
  · rintro (rfl | ⟨member, apart⟩)
    · exact ⟨user, stored, by simp⟩
    · exact ⟨row, member, by simp [apart]⟩

namespace AuthService

variable (env : AuthEnv)

/-- Whether a reset of the user has not expired. -/
def unexpired (user : User) (now : Time) : Bool :=
  user.passwordResetExpires.any fun expires => now ≤ expires

theorem requestPasswordReset_run (email code : String) (now : Time) (db : Db) :
    ((requestPasswordReset email code now).run db).2 =
      match db.findByEmail email with
      | none => db
      | some user => withUser db user.id (resetCodePatch code now) := by
  simp only [requestPasswordReset, Prog.bind_eq, Prog.run_query_bind]
  cases db.findByEmail email with
  | none => rfl
  | some user => rfl

/-- The user for whom `verifyResetCode` issues a token. -/
def codeUser (db : Db) (email code : String) (now : Time) : Option User :=
  (db.findByEmail email).filter fun user =>
    truthy user.passwordResetCode = some code ∧ unexpired user now = true

theorem verifyResetCode_run (email code token : String) (now : Time) (db : Db) :
    match codeUser db email code now with
    | none => ∃ error, (verifyResetCode email code token now).run db = (.error error, db)
    | some user => (verifyResetCode email code token now).run db =
        (.ok ⟨token, "Код підтверджено. Тепер ви можете встановити новий пароль."⟩,
          withUser db user.id (resetTokenPatch token now)) := by
  simp only [verifyResetCode, Prog.bind_eq, Prog.run_query_bind, Prog.run_orThrow_bind]
  cases found : db.findByEmail email with
  | none => simp [codeUser, found]
  | some user =>
      dsimp only
      cases stored : truthy user.passwordResetCode with
      | none =>
          have refused : codeUser db email code now = none := by simp [codeUser, found, stored]
          rw [refused]
          exact ⟨_, rfl⟩
      | some other =>
          cases ends : user.passwordResetExpires with
          | none =>
              have refused : codeUser db email code now = none := by
                simp [codeUser, found, unexpired, ends]
              rw [refused]
              exact ⟨_, rfl⟩
          | some expires =>
              simp only [Prog.run_throwIf_bind]
              by_cases late : expires < now
              · have refused : codeUser db email code now = none := by
                  simp [codeUser, found, unexpired, ends, late]
                rw [refused, if_pos late]
                exact ⟨_, rfl⟩
              · rw [if_neg late]
                by_cases same : other = code
                · have accepted : codeUser db email code now = some user := by
                    simp [codeUser, found, stored, same, unexpired, ends, Nat.le_of_not_lt late]
                  rw [accepted, if_neg (not_not_intro same)]
                  rfl
                · have refused : codeUser db email code now = none := by
                    simp [codeUser, found, stored, same]
                  rw [refused, if_pos same]
                  exact ⟨_, rfl⟩

/-- The user whose password `resetPassword` sets. -/
def tokenUser (db : Db) (token : String) (now : Time) : Option User :=
  (db.findByResetToken token).filter fun user => unexpired user now

theorem resetPassword_run (token newPassword salt : String) (now : Time) (db : Db) :
    match tokenUser db token now with
    | none => ∃ error, (resetPassword env token newPassword salt now).run db = (.error error, db)
    | some user => (resetPassword env token newPassword salt now).run db =
        (.ok "Пароль успішно змінено",
          withUser db user.id (newPasswordPatch (env.argon2.hash salt newPassword))) := by
  simp only [resetPassword, Prog.bind_eq, Prog.run_query_bind, Prog.run_orThrow_bind]
  cases found : db.findByResetToken token with
  | none => simp [tokenUser, found]
  | some user =>
      dsimp only
      cases ends : user.passwordResetExpires with
      | none =>
          have refused : tokenUser db token now = none := by
            simp [tokenUser, found, unexpired, ends]
          rw [refused]
          exact ⟨_, rfl⟩
      | some expires =>
          simp only [Prog.run_throwIf_bind]
          by_cases late : expires < now
          · have refused : tokenUser db token now = none := by
              simp [tokenUser, found, unexpired, ends, late]
            rw [refused, if_pos late]
            exact ⟨_, rfl⟩
          · have accepted : tokenUser db token now = some user := by
              simp [tokenUser, found, unexpired, ends, Nat.le_of_not_lt late]
            rw [accepted, if_neg late]
            rfl

theorem changePassword_ran (userId : UserId) (dto : ChangePasswordDto)
    (salt : String) (db : Db) :
    (∃ error, (changePassword env userId dto salt).run db = (.error error, db)) ∨
      ∃ user message, db.findUser userId = some user ∧
        (changePassword env userId dto salt).run db = (.ok message,
          withUser db user.id (passwordPatch (env.argon2.hash salt dto.newPassword))) := by
  simp only [changePassword, Prog.bind_eq, Prog.run_query_bind, Prog.run_orThrow_bind]
  cases found : db.findUser userId with
  | none => exact Or.inl ⟨_, rfl⟩
  | some user =>
      simp only [Prog.run_throwIf_bind]
      split
      · exact Or.inl ⟨_, rfl⟩
      · exact Or.inr ⟨user, _, rfl, rfl⟩

end AuthService

end VolunteerApi
