import VolunteerApi.Model.AuthLibraries

/-!
# Setting a password

`changePassword` of `modules/auth/auth.service.ts` and the part of `createUser` of
`modules/users/users.service.ts` that `UsersService.createUser` leaves out.  The two other
methods that set a password, `register` and `resetPassword`, are in `AuthTokens`.
-/

set_option autoImplicit false

namespace VolunteerApi

open Relational Programs

structure ChangePasswordDto where
  oldPassword : String
  newPassword : String
  deriving DecidableEq, Repr

/-! ## The checks of the DTOs -/

namespace AuthService

variable (env : AuthEnv)

def passwordPatch (passwordHash : String) : Patch User.id User.email where
  run user := { user with passwordHash := passwordHash }

def changePassword (userId : UserId) (dto : ChangePasswordDto) (salt : String) :
    Service String := do
  let found ← Prog.query fun db => db.findUser userId
  let user ← Prog.orThrow found (.notFound "Користувача не знайдено")
  Prog.throwIf (env.argon2.verify user.passwordHash dto.oldPassword = false)
    (.unauthorized "Невірний старий пароль")
  UsersService.updateUser user.id (passwordPatch (env.argon2.hash salt dto.newPassword))
  return "Пароль успішно змінено"

end AuthService

namespace UsersService

variable (env : AuthEnv)

/-- The whole row that `createUser` inserts. -/
def newAccount (dto : AdminCreateUserDto) (password salt : String) (id : UserId) : User :=
  { newUser dto id with passwordHash := AuthService.hashPassword env salt password }

theorem newAccount_id (dto : AdminCreateUserDto) (password salt : String) (n : Nat) :
    (newAccount env dto password salt n).id = n := rfl

/-- `createUser`, with the password.  The column takes 255 characters, and the DTO allows a
longer password. -/
def createAccount (dto : AdminCreateUserDto) (password salt : String) (admin : User) :
    Service User := do
  Prog.throwIf (admin.systemRole ≠ .admin)
    (.forbidden "Лише адміністратор може створювати користувачів")
  let existing ← Prog.query fun db => db.findByEmail dto.email
  Prog.throwIf (existing ≠ none) (.conflict "Користувач з таким email вже існує")
  Prog.throwIf
    (AdminCreateUserDto.fits dto = false ∨
      255 < (AuthService.hashPassword env salt password).length)
    (.queryFailed "value too long for type character varying")
  Prog.execOr (.queryFailed "duplicate key value violates unique constraint") fun db =>
    (db.users.insert (newAccount env dto password salt)
        (newAccount_id env dto password salt)).map fun users =>
      ({ db with users := users }, newAccount env dto password salt db.users.next)

end UsersService

end VolunteerApi
