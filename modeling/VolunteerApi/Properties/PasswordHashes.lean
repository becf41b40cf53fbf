import VolunteerApi.Effects.ResetOutcomes
import VolunteerApi.Effects.TokenOutcomes
import Mathlib.Logic.Function.Basic

/-!
# The password that was set last

The state of a run carries, next to the database, the password that the last successful call
set for each email.  `changePassword` and `resetPassword` hash it themselves.  The two calls
that create a user leave that to the hook of the entity, which takes a password that begins
with `$argon2` for a hash and stores it as it is.
-/

set_option autoImplicit false

namespace VolunteerApi

open Relational Programs AuthService
open UsersService (withUser createAccount)

inductive PasswordOp where
  | register (dto : RegisterDto) (password passwordSalt token salt : String) (now : Time)
  | createUser (dto : AdminCreateUserDto) (password salt : String) (admin : User)
  | changePassword (userId : UserId) (dto : ChangePasswordDto) (salt : String)
  | resetPassword (token newPassword salt : String) (now : Time)
  | requestPasswordReset (email code : String) (now : Time)
  | verifyResetCode (email code token : String) (now : Time)
  | login (dto : LoginDto) (salt : String) (now : Time)
  | refreshTokens (met : OrderBy fun _ _ : User => True) (userId : BodyValue UserId)
      (refreshToken salt : String) (now : Time)
  | logout (userId : UserId)

structure PasswordState where
  db : Db
  last : String → Option String

namespace PasswordState

def start (db : Db) : PasswordState := ⟨db, fun _ => none⟩

/-- A call that sets the password of an email, or of nobody, if it succeeds. -/
def changed {α : Type} (s : PasswordState) (finished : Except HttpException α × Db)
    (email : Option String) (password : String) : PasswordState :=
  match finished.1, email with
  | .ok _, some email =>
      ⟨finished.2, Function.update s.last email (some password)⟩
  | _, _ => { s with db := finished.2 }

def step (env : AuthEnv) (s : PasswordState) : PasswordOp → PasswordState
  | .register dto password passwordSalt token salt now =>
      s.changed ((registerAccount env dto password passwordSalt token salt now).run s.db)
        (some (toLowerCase dto.email)) password
  | .createUser dto password salt admin =>
      s.changed ((createAccount env dto password salt admin).run s.db)
        (some (toLowerCase dto.email)) password
  | .changePassword userId dto salt =>
      s.changed ((AuthService.changePassword env userId dto salt).run s.db)
        ((s.db.findUser userId).map User.email) dto.newPassword
  | .resetPassword token newPassword salt now =>
      s.changed ((AuthService.resetPassword env token newPassword salt now).run s.db)
        ((s.db.findByResetToken token).map User.email) newPassword
  | .requestPasswordReset email code now =>
      { s with db := ((AuthService.requestPasswordReset email code now).run s.db).2 }
  | .verifyResetCode email code token now =>
      { s with db := ((AuthService.verifyResetCode email code token now).run s.db).2 }
  | .login dto salt now => { s with db := ((AuthService.login env dto salt now).run s.db).2 }
  | .refreshTokens met userId refreshToken salt now =>
      { s with
        db := ((AuthService.refreshTokens env met userId refreshToken salt now).run s.db).2 }
  | .logout userId => { s with db := ((AuthService.logout userId).run s.db).2 }

end PasswordState

def Db.passwordHashOf (db : Db) (email : String) : Option String :=
  (db.users.findOne fun user => user.email = email).map User.passwordHash

def SamePasswords (db after : Db) : Prop :=
  ∀ email, after.passwordHashOf email = db.passwordHashOf email

structure SetsPassword (db after : Db) (email hash : String) : Prop where
  here : after.passwordHashOf email = some hash
  others : ∀ other, other ≠ email → after.passwordHashOf other = db.passwordHashOf other

theorem SetsPassword.later {db mid after : Db} {email hash : String}
    (sets : SetsPassword db mid email hash) (same : SamePasswords mid after) :
    SetsPassword db after email hash where
  here := (same email).trans sets.here
  others other apart := (same other).trans (sets.others other apart)

section Calls

variable {env : AuthEnv} {s after : PasswordState} {email password hash : String}

end Calls

def marked : RegisterDto where
  email := "Newcomer@example.org"
  fullName := "Новий волонтер"
  systemRole := none
  allowed := RegisterDto.noRole_allowed

end VolunteerApi
