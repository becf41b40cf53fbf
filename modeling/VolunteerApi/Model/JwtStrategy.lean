import VolunteerApi.Model.AuthTokens

/-!
# The user of a request

`modules/auth/strategies/jwt.strategy.ts`, and the endpoint of `users.controller.ts` that hands
the authenticated user to `vouchForUser`.  `validate` selects seven columns; every other
property of the entity it returns is `undefined`.
-/

set_option autoImplicit false

namespace VolunteerApi

open Relational Programs

/-- The columns that `validate` selects. -/
structure SelectedUser where
  id : UserId
  email : String
  fullName : String
  systemRole : SystemRole
  clearanceLevel : ClearanceLevel
  isBlocked : Bool
  avatarUrl : Option String
  deriving DecidableEq, Repr

def User.select (user : User) : SelectedUser where
  id := user.id
  email := user.email
  fullName := user.fullName
  systemRole := user.systemRole
  clearanceLevel := user.clearanceLevel
  isBlocked := user.isBlocked
  avatarUrl := user.avatarUrl

/-- The entity with these columns only.  A condition takes `undefined` for `false`, and nothing
that is handed the entity reads its score. -/
def SelectedUser.entity (selected : SelectedUser) : User where
  id := selected.id
  email := selected.email
  fullName := selected.fullName
  systemRole := selected.systemRole
  clearanceLevel := selected.clearanceLevel
  trustScore := 0
  isBlocked := selected.isBlocked
  avatarUrl := selected.avatarUrl
  isEmailVerified := false
  isIdentityVerified := false
  frontlineGrantedByAdmin := false

namespace JwtStrategy

/-- `payload` is that of a token whose signature has been checked. -/
def validate (payload : JwtClaims) : Service User := do
  let found ← Prog.query fun db => (db.findUser payload.sub).map User.select
  let user ← Prog.orThrow found (.unauthorized "Користувача не знайдено")
  Prog.throwIf (user.isBlocked = true) (.unauthorized "Обліковий запис заблоковано")
  return user.entity

end JwtStrategy

namespace UsersController

def vouch (required : Nat) (voucheeId : UserId) (payload : JwtClaims) : Service TrustVouch := do
  let voucher ← JwtStrategy.validate payload
  UsersService.vouchForUser required voucheeId voucher

end UsersController

end VolunteerApi
