import VolunteerApi.Model.AuthService

/-!
# The tokens and passwords of `AuthService`

The methods of `modules/auth/auth.service.ts` that issue and check refresh tokens or reset a
password, with the part of `register` that `AuthService.register` leaves out.  `argon2` and
`jsonwebtoken` are parameters.  What a call draws at random, a salt, a code or a uuid, is an
argument of it.
-/

set_option autoImplicit false

namespace VolunteerApi

open Relational Programs

/-- Where the library throws, as `verify` does on a stored value that is no hash, this one answers
`false`: `login` and `changePassword` then end with 401 and not with 500. -/
structure Argon2 where
  hash (salt plain : String) : String
  verify (hash plain : String) : Bool

/-- The payload, with the times `jsonwebtoken` adds to it, in seconds. -/
structure JwtClaims where
  sub : UserId
  email : String
  role : SystemRole
  clearance : ClearanceLevel
  iat : Nat
  exp : Nat
  deriving DecidableEq, Repr

/-- `claims` decodes a token, without a look at its signature. -/
structure Jwt where
  sign (secret : String) (claims : JwtClaims) : String
  claims (token : String) : Option JwtClaims

/-- The libraries, and what `process.env` holds for them.  The spans are in seconds. -/
structure AuthEnv where
  argon2 : Argon2
  jwt : Jwt
  jwtSecret : String
  jwtExpiresIn : Nat
  jwtRefreshSecret : String
  jwtRefreshExpiresIn : Nat

structure LoginDto where
  email : String
  password : String
  deriving DecidableEq, Repr

structure AuthResponse where
  accessToken : String
  refreshToken : String
  emailVerified : Bool
  id : UserId
  email : String
  fullName : String
  systemRole : SystemRole
  clearanceLevel : ClearanceLevel
  avatarUrl : Option String
  deriving DecidableEq, Repr

namespace Db

def findByEmail (db : Db) (email : String) : Option User :=
  db.users.findOne fun user => user.email = toLowerCase email

def findByResetToken (db : Db) (token : String) : Option User :=
  db.users.findOne fun user => user.passwordResetToken = some token

end Db

namespace AuthService

variable (env : AuthEnv)

/-! ## Signing in -/

/-- The payload of a user, as it is signed at `now`. -/
def claimsOf (user : User) (span : Nat) (now : Time) : JwtClaims where
  sub := user.id
  email := user.email
  role := user.systemRole
  clearance := user.clearanceLevel
  iat := now / 1000
  exp := now / 1000 + span

def refreshClaims (user : User) (now : Time) : JwtClaims :=
  claimsOf user env.jwtRefreshExpiresIn now

def refreshTokenOf (user : User) (now : Time) : String :=
  env.jwt.sign env.jwtRefreshSecret (refreshClaims env user now)

def sessionPatch (refreshTokenHash : Option String) : Patch User.id User.email where
  run user := { user with refreshTokenHash := refreshTokenHash }

/-- No caller loads `avatarUrl`. -/
def generateTokens (user : User) (salt : String) (now : Time) : Service AuthResponse := do
  let accessToken := env.jwt.sign env.jwtSecret (claimsOf user env.jwtExpiresIn now)
  let refreshToken := refreshTokenOf env user now
  UsersService.updateUser user.id (sessionPatch (some (env.argon2.hash salt refreshToken)))
  return {
    accessToken := accessToken
    refreshToken := refreshToken
    emailVerified := user.isEmailVerified
    id := user.id
    email := user.email
    fullName := user.fullName
    systemRole := user.systemRole
    clearanceLevel := user.clearanceLevel
    avatarUrl := none }

/-- The hook `hashPassword` of the entity. -/
def hashPassword (salt password : String) : String :=
  if password ≠ "" ∧ startsWith password "$argon2" = false then env.argon2.hash salt password
  else password

/-- The whole row that `register` inserts. -/
def newAccount (dto : RegisterDto) (password salt token : String) (now : Time) (id : UserId) :
    User :=
  { newUser dto token now id with passwordHash := hashPassword env salt password }

theorem newAccount_id (dto : RegisterDto) (password salt token : String) (now : Time) (n : Nat) :
    (newAccount env dto password salt token now n).id = n := rfl

/-- `register`, with the password and the tokens. -/
def registerAccount (dto : RegisterDto) (password passwordSalt token salt : String)
    (now : Time) : Service AuthResponse := do
  let existing ← Prog.query fun db => db.findByEmail dto.email
  Prog.throwIf (existing ≠ none) (.conflict "Користувач з таким email вже існує")
  Prog.throwIf (RegisterDto.fits dto = false)
    (.queryFailed "value too long for type character varying")
  let user ← Prog.execOr (.queryFailed "duplicate key value violates unique constraint") fun db =>
    (db.users.insert (newAccount env dto password passwordSalt token now)
        (newAccount_id env dto password passwordSalt token now)).map fun users =>
      ({ db with users := users },
        newAccount env dto password passwordSalt token now db.users.next)
  generateTokens env user salt now

def login (dto : LoginDto) (salt : String) (now : Time) : Service AuthResponse := do
  let found ← Prog.query fun db => db.findByEmail dto.email
  let user ← Prog.orThrow found (.unauthorized "Невірний email або пароль")
  Prog.throwIf (user.isBlocked = true)
    (.forbidden "Обліковий запис заблоковано адміністратором")
  Prog.throwIf (env.argon2.verify user.passwordHash dto.password = false)
    (.unauthorized "Невірний email або пароль")
  let tokens ← generateTokens env user salt now
  return { tokens with emailVerified := user.isEmailVerified }

/-- `findOne({ where: { id: userId } })`.  The ORM drops a condition whose value is missing, so
that it finds whom the server meets first, and the database refuses what is no uuid. -/
def findGiven (met : OrderBy fun _ _ : User => True) (userId : BodyValue UserId) :
    Service (Option User) :=
  match userId with
  | .absent => Prog.query fun db => met.first db.users.rows
  | .value id => Prog.query fun db => db.findUser id
  | .unreadable => .fail (.queryFailed "invalid input syntax for type uuid")

def refreshTokens (met : OrderBy fun _ _ : User => True) (userId : BodyValue UserId)
    (refreshToken salt : String) (now : Time) : Service AuthResponse := do
  let found ← findGiven met userId
  let user ← Prog.orThrow found (.unauthorized "Доступ заборонено")
  let refreshTokenHash ← Prog.orThrow (truthy user.refreshTokenHash)
    (.unauthorized "Доступ заборонено")
  if env.argon2.verify refreshTokenHash refreshToken = true then
    generateTokens env user salt now
  else do
    UsersService.updateUser user.id (sessionPatch none)
    .fail (.unauthorized ("Недійсний refresh token. " ++
      "Всі активні сесії було завершено з міркувань безпеки."))

def logout (userId : UserId) : Service Unit := UsersService.updateUser userId (sessionPatch none)

/-! ## Resetting a password -/

def codeTtl : Nat := 10 * 60 * 1000

def tokenTtl : Nat := 5 * 60 * 1000

structure ResetRequested where
  message : String
  found : Bool
  deriving DecidableEq, Repr

structure CodeVerified where
  token : String
  message : String
  deriving DecidableEq, Repr

def resetCodePatch (code : String) (now : Time) : Patch User.id User.email where
  run user :=
    { user with
      passwordResetCode := some code
      passwordResetExpires := some (now + codeTtl) }

def resetTokenPatch (token : String) (now : Time) : Patch User.id User.email where
  run user :=
    { user with
      passwordResetToken := some token
      passwordResetExpires := some (now + tokenTtl)
      passwordResetCode := none }

def newPasswordPatch (passwordHash : String) : Patch User.id User.email where
  run user :=
    { user with
      passwordHash := passwordHash
      passwordResetToken := none
      passwordResetExpires := none }

def requestPasswordReset (email code : String) (now : Time) : Service ResetRequested := do
  let found ← Prog.query fun db => db.findByEmail email
  match found with
  | none => return ⟨"Користувача з таким email не знайдено", false⟩
  | some user =>
      UsersService.updateUser user.id (resetCodePatch code now)
      return ⟨"Код для скидання пароля надіслано на ваш email", true⟩

def verifyResetCode (email code token : String) (now : Time) : Service CodeVerified := do
  let found ← Prog.query fun db => db.findByEmail email
  let user ← Prog.orThrow found (.badRequest "Скидання пароля не запитувалось")
  let stored ← Prog.orThrow (truthy user.passwordResetCode)
    (.badRequest "Скидання пароля не запитувалось")
  let expires ← Prog.orThrow user.passwordResetExpires
    (.badRequest "Скидання пароля не запитувалось")
  Prog.throwIf (expires < now) (.badRequest "Код протермінований. Запитайте новий код.")
  Prog.throwIf (stored ≠ code) (.badRequest "Невірний код підтвердження")
  UsersService.updateUser user.id (resetTokenPatch token now)
  return ⟨token, "Код підтверджено. Тепер ви можете встановити новий пароль."⟩

def resetPassword (token newPassword salt : String) (now : Time) : Service String := do
  let found ← Prog.query fun db => db.findByResetToken token
  let user ← Prog.orThrow found (.badRequest "Токен недійсний або протермінований")
  let expires ← Prog.orThrow user.passwordResetExpires
    (.badRequest "Токен недійсний або протермінований")
  Prog.throwIf (expires < now) (.badRequest "Токен недійсний або протермінований")
  UsersService.updateUser user.id (newPasswordPatch (env.argon2.hash salt newPassword))
  return "Пароль успішно змінено"

end AuthService

/-! ## Refreshing over HTTP -/

namespace AuthController

/-- `parse` is `JSON.parse(Buffer.from(payload, 'base64').toString('utf8'))`, as far as `sub`
goes: nothing where it throws, or where it is `null`.  So does a token without a second part. -/
def decodeToken (parse : String → Option (BodyValue UserId)) (token : String) :
    Option (BodyValue UserId) :=
  (split token '.')[1]?.bind parse

def refresh (env : AuthEnv) (parse : String → Option (BodyValue UserId))
    (met : OrderBy fun _ _ : User => True) (refreshToken salt : String) (now : Time) :
    Service AuthResponse := do
  let sub ← Prog.orThrow (decodeToken parse refreshToken) .typeError
  AuthService.refreshTokens env met sub refreshToken salt now

end AuthController

end VolunteerApi
