import VolunteerApi.Model.System
import VolunteerApi.Relational.Listing

/-!
# `AuthService`

The methods of `modules/auth/auth.service.ts` that create a user or touch the
verification of the email address: registration, the link in the letter and a
new letter.  Passwords, refresh tokens and reset codes are in `AuthTokens`.  A token is
the uuid that was generated for the call.
-/

set_option autoImplicit false

namespace VolunteerApi

open Relational Programs

/-- A visitor registers as a volunteer or a requester; the column defaults to the former. -/
structure RegisterDto where
  email : String
  fullName : String
  systemRole : Option SystemRole
  phoneNumber : Option String := none
  allowed : ∀ role ∈ systemRole, role = .volunteer ∨ role = .requester := by decide

/-- Who leaves the role out asks for none that is not allowed. -/
theorem RegisterDto.noRole_allowed :
    ∀ role ∈ (none : Option SystemRole), role = .volunteer ∨ role = .requester := by
  intro role given
  cases given

/-- `findOne({ where: { emailVerificationToken: token } })`.  The ORM drops a
condition whose value is missing, so a request without a token finds whom the server
meets first. -/
def Db.findByVerificationToken (db : Db) (met : OrderBy fun _ _ : User => True)
    (token : Option String) : Option User :=
  met.first (db.users.find fun user => token = none ∨ user.emailVerificationToken = token)

namespace AuthService

/-- `EMAIL_VERIFICATION_TTL_HOURS`, in milliseconds. -/
def emailVerificationTtl : Nat := 48 * 60 * 60 * 1000

def RegisterDto.fits (dto : RegisterDto) : Bool :=
  accountFits (toLowerCase dto.email) dto.fullName dto.phoneNumber

def newUser (dto : RegisterDto) (token : String) (now : Time) (id : UserId) : User where
  id := id
  email := toLowerCase dto.email
  fullName := dto.fullName
  systemRole := dto.systemRole.getD .volunteer
  clearanceLevel := .local
  trustScore := 0
  isBlocked := false
  avatarUrl := none
  isEmailVerified := false
  isIdentityVerified := false
  frontlineGrantedByAdmin := false
  emailVerificationToken := some token
  emailVerificationExpires := some (now + emailVerificationTtl)

def verifiedPatch : Patch User.id User.email where
  run user :=
    { user with
      isEmailVerified := true
      emailVerificationToken := none
      emailVerificationExpires := none }

def tokenPatch (token : String) (now : Time) : Patch User.id User.email where
  run user :=
    { user with
      emailVerificationToken := some token
      emailVerificationExpires := some (now + emailVerificationTtl) }

def register (dto : RegisterDto) (token : String) (now : Time) : Service User := do
  let existing ← Prog.query fun db =>
    db.users.findOne fun user => user.email = toLowerCase dto.email
  Prog.throwIf (existing ≠ none) (.conflict "Користувач з таким email вже існує")
  Prog.throwIf (RegisterDto.fits dto = false)
    (.queryFailed "value too long for type character varying")
  Prog.execOr (.queryFailed "duplicate key value violates unique constraint") fun db =>
    (db.users.insert (newUser dto token now)).map fun users =>
      ({ db with users := users }, newUser dto token now db.users.next)

/-- `user.emailVerificationExpires && user.emailVerificationExpires < new Date()` -/
def tokenExpired (user : User) (now : Time) : Bool :=
  user.emailVerificationExpires.any fun expires => expires < now

def verifyEmail (met : OrderBy fun _ _ : User => True) (token : Option String) (now : Time) :
    Service Unit := do
  let found ← Prog.query fun db => db.findByVerificationToken met token
  let user ← Prog.orThrow found
    (.badRequest "Токен верифікації недійсний або вже використаний")
  Prog.throwIf (tokenExpired user now = true)
    (.badRequest "Термін дії токена верифікації минув. Запитайте новий лист.")
  UsersService.updateUser user.id verifiedPatch

def resendVerificationEmail (userId : UserId) (token : String) (now : Time) : Service Unit := do
  let found ← Prog.query fun db => db.findUser userId
  let user ← Prog.orThrow found (.notFound "Користувача не знайдено")
  Prog.throwIf (user.isEmailVerified = true) (.badRequest "Пошта вже підтверджена")
  UsersService.updateUser user.id (tokenPatch token now)

end AuthService

inductive AuthOp where
  | register (dto : RegisterDto) (token : String) (now : Time)
  | verifyEmail (met : OrderBy fun _ _ : User => True) (token : Option String) (now : Time)
  | resendVerificationEmail (userId : UserId) (token : String) (now : Time)

def AuthOp.run (db : Db) : AuthOp → Outcome × Db
  | .register dto token now => ended ((AuthService.register dto token now).run db)
  | .verifyEmail met token now => ended ((AuthService.verifyEmail met token now).run db)
  | .resendVerificationEmail userId token now =>
      ended ((AuthService.resendVerificationEmail userId token now).run db)

inductive ApiOp where
  | tasks (op : TasksOp)
  | users (op : UsersOp)
  | requests (op : RequestsOp)
  | auth (op : AuthOp)

def ApiOp.run (required : Nat) (db : Db) : ApiOp → Outcome × Db
  | .tasks op => op.run required db
  | .users op => op.run required db
  | .requests op => op.run db
  | .auth op => op.run db

def UsersOp.step (required : Nat) (db : Db) (op : UsersOp) : Db := (op.run required db).2
def ApiOp.step (required : Nat) (db : Db) (op : ApiOp) : Db := (op.run required db).2

end VolunteerApi
