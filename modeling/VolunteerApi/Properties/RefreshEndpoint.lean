import VolunteerApi.Effects.TokenOutcomes
import VolunteerApi.Model.AuthLibraries

/-!
# What a forged or expired refresh token does

`refresh` takes the user from the payload of the token and never looks at the signature or the
expiry.  A token that nobody signed reaches the stored session of the user it names, and ends
it; the current token is accepted at any later time.
-/

set_option autoImplicit false

namespace VolunteerApi

open Relational Programs AuthService

inductive AccountOp where
  | register (dto : RegisterDto) (password passwordSalt token salt : String) (now : Time)
  | login (dto : LoginDto) (salt : String) (now : Time)
  | refresh (met : OrderBy fun _ _ : User => True) (refreshToken salt : String) (now : Time)
  | logout (userId : UserId)
  | requestPasswordReset (email code : String) (now : Time)
  | verifyResetCode (email code token : String) (now : Time)
  | resetPassword (token newPassword salt : String) (now : Time)
  | blockUser (targetId : UserId) (user : User) (now : Time)
  | unblockUser (targetId : UserId) (user : User)

section Endpoint

-- `parse` reads the `sub` of a payload
variable (env : AuthEnv) (parse : String → Option (BodyValue UserId)) (required : Nat)

def AccountOp.step (db : Db) : AccountOp → Db
  | .register dto password passwordSalt token salt now =>
      ((registerAccount env dto password passwordSalt token salt now).run db).2
  | .login dto salt now => ((AuthService.login env dto salt now).run db).2
  | .refresh met refreshToken salt now =>
      ((AuthController.refresh env parse met refreshToken salt now).run db).2
  | .logout userId => ((AuthService.logout userId).run db).2
  | .requestPasswordReset email code now =>
      ((AuthService.requestPasswordReset email code now).run db).2
  | .verifyResetCode email code token now =>
      ((AuthService.verifyResetCode email code token now).run db).2
  | .resetPassword token newPassword salt now =>
      ((AuthService.resetPassword env token newPassword salt now).run db).2
  | .blockUser targetId user now =>
      ((UsersService.blockUser required targetId user now).run db).2
  | .unblockUser targetId user => ((UsersService.unblockUser targetId user).run db).2

/-- The server signed the token for the user its payload names, and it has not expired. -/
def Genuine (refreshToken : String) (now : Time) : Prop :=
  ∃ claims, refreshToken = env.jwt.sign env.jwtRefreshSecret claims ∧
    AuthController.decodeToken parse refreshToken = some (.value claims.sub) ∧
    now / 1000 < claims.exp

/-- Any other token is rejected and changes no user. -/
def RejectsForged (db : Db) : AccountOp → Prop
  | .refresh met refreshToken salt now => ¬ Genuine env parse refreshToken now →
      ∃ error after, (AuthController.refresh env parse met refreshToken salt now).run db =
        (.error error, after) ∧ after.users = db.users
  | _ => True

/-- The user the payload names, or whom the server meets first if it names nobody, with the hash of
his session. -/
def namedSession (db : Db) (met : OrderBy fun _ _ : User => True) (refreshToken : String) :
    Option (User × String) :=
  (AuthController.decodeToken parse refreshToken).bind (givenSession db met)

/-- A token that is not genuine names nobody who is signed in. -/
def ReachesNoSession (db : Db) : AccountOp → Prop
  | .refresh met refreshToken _ now =>
      Genuine env parse refreshToken now ∨ namedSession parse db met refreshToken = none
  | _ => True

variable {env parse} {db : Db}

theorem users_signedOut {user : User} {hash : String} (stored : user ∈ db.users.rows)
    (session : db.session user.id = some hash) :
    (withSession db user.id none).users ≠ db.users := by
  intro same
  have ended := session_withSession_self stored none
  have kept : (withSession db user.id none).session user.id = db.session user.id := by
    unfold Db.session Db.findUser
    rw [same]
  rw [kept, session] at ended
  cases ended

theorem refresh_run (met : OrderBy fun _ _ : User => True) (refreshToken salt : String)
    (now : Time) (db : Db) :
    match namedSession parse db met refreshToken with
    | none => ∃ error, (AuthController.refresh env parse met refreshToken salt now).run db =
        (.error error, db)
    | some (user, hash) =>
        if env.argon2.verify hash refreshToken = true then
          (AuthController.refresh env parse met refreshToken salt now).run db =
            (.ok (tokensFor env user now), signedIn env db user salt now)
        else ∃ error, (AuthController.refresh env parse met refreshToken salt now).run db =
          (.error error, withSession db user.id none) := by
  simp only [AuthController.refresh, namedSession, Prog.bind_eq, Prog.run_orThrow_bind]
  cases AuthController.decodeToken parse refreshToken with
  | none => exact ⟨_, rfl⟩
  | some sub => exact refreshTokens_run_given env met sub refreshToken salt now db

/-- Whoever is signed in pays for a token that names him: it is accepted or ends his session. -/
theorem rejected_iff (met : OrderBy fun _ _ : User => True) (refreshToken salt : String)
    (now : Time) :
    (∃ error after, (AuthController.refresh env parse met refreshToken salt now).run db =
      (.error error, after) ∧ after.users = db.users) ↔
      namedSession parse db met refreshToken = none := by
  have ran := @refresh_run env parse met refreshToken salt now db
  constructor
  · rintro ⟨error, after, rejected, same⟩
    cases named : namedSession parse db met refreshToken with
    | none => rfl
    | some found =>
        obtain ⟨user, hash⟩ := found
        obtain ⟨sub, _, given⟩ := Option.bind_eq_some_iff.mp named
        obtain ⟨stored, _, session⟩ := givenSession_some given
        simp only [named] at ran
        split at ran
        · rw [ran] at rejected
          cases rejected
        · obtain ⟨other, ended⟩ := ran
          rw [ended] at rejected
          obtain rfl := (Prod.mk.inj rejected).2
          exact absurd same (users_signedOut stored session)
  · intro nobody
    rw [nobody] at ran
    obtain ⟨error, rejected⟩ := ran
    exact ⟨error, db, rejected, rfl⟩

theorem rejectsForged_iff_reachesNoSession (db : Db) (op : AccountOp) :
    RejectsForged env parse db op ↔ ReachesNoSession env parse db op := by
  cases op with
  | refresh met refreshToken salt now =>
      simp only [RejectsForged, ReachesNoSession]
      rw [rejected_iff]
      exact or_iff_not_imp_left.symm
  | _ => exact Iff.rfl

/-- In every run, the refresh calls reject all tokens that are forged or expired, and leave
the users alone, exactly if each such token names nobody who is signed in. -/
theorem rejectsForged_iff (ops : List AccountOp) :
    Throughout (AccountOp.step env parse required) (RejectsForged env parse) db ops ↔
      Throughout (AccountOp.step env parse required) (ReachesNoSession env parse) db ops :=
  throughout_congr rejectsForged_iff_reachesNoSession db ops

end Endpoint

/-- What `JSON.parse` reads of two payloads, `{"sub":1}` and `{}`. -/
def readSub (payload : String) : Option (BodyValue UserId) :=
  if payload = "eyJzdWIiOjF9" then some (.value 1)
  else if payload = "e30" then some .absent
  else none

def forgedToken : String := "x.eyJzdWIiOjF9.y"

/-- The first volunteer signs in, and a stranger sends a token with his id that nobody signed. -/
def forgedRefresh : List AccountOp :=
  [.login { email := "first@example.org", password := "пароль" } "salt" 1767225600000,
    .refresh OrderBy.asStored forgedToken "pepper" 1767225600000]

def boardWithPassword : Db :=
  { exampleBoard .local with
    users := (exampleBoard .local).users.update (fun user => decide (user.id = 1))
      (newPasswordPatch (PlainText.hash "salt" "пароль")) }

theorem forgedToken_not_genuine (parse : String → Option (BodyValue UserId)) (now : Time) :
    ¬ Genuine plainTextEnv parse forgedToken now := by
  rintro ⟨claims, signed, _, unexpired⟩
  have read : (plainTextEnv.jwt.claims forgedToken).map JwtClaims.exp = some 0 := by
    decide +kernel
  rw [signed, plainTextEnv_lawful.claims_sign] at read
  rw [Option.some.inj read] at unexpired
  exact Nat.not_lt_zero _ unexpired

/-- It ends the session of the volunteer. -/
theorem rejectsForged_fails :
    ¬ Throughout (AccountOp.step plainTextEnv readSub 2) (RejectsForged plainTextEnv readSub)
      boardWithPassword forgedRefresh := by
  rintro ⟨_, rejects, _⟩
  have nobody := (rejected_iff OrderBy.asStored forgedToken "pepper" 1767225600000).mp
    (rejects (forgedToken_not_genuine readSub _))
  have named : (namedSession readSub (AccountOp.step plainTextEnv readSub 2 boardWithPassword
      (.login { email := "first@example.org", password := "пароль" } "salt" 1767225600000))
      OrderBy.asStored forgedToken).isSome = true := by
    decide +kernel
  rw [nobody] at named
  cases named

end VolunteerApi
