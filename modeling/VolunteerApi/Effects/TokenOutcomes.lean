import VolunteerApi.Effects.TrustEffects
import VolunteerApi.Model.AuthTokens

/-!
# What signing in, refreshing and signing out leave of the sessions

A user's session is the stored hash of his refresh token.  For each call, how it ends and
the session of every user afterwards.
-/

set_option autoImplicit false

namespace VolunteerApi

open Relational Programs UsersService

/-- The hash of the user's refresh token, if there is one. -/
def User.session (user : User) : Option String := truthy user.refreshTokenHash

def Db.session (db : Db) (userId : UserId) : Option String :=
  (db.findUser userId).bind User.session

def withSession (db : Db) (userId : UserId) (hash : Option String) : Db :=
  withUser db userId (AuthService.sessionPatch hash)

theorem session_of_update {db after : Db} {wanted : User → Bool}
    {patch : Patch User.id User.email} (users : after.users = db.users.update wanted patch)
    (kept : ∀ user, (patch.run user).refreshTokenHash = user.refreshTokenHash)
    (userId : UserId) : after.session userId = db.session userId := by
  unfold Db.session Db.findUser
  rw [users, Table.findOne_key_update, Option.bind_map]
  congr 1
  funext user
  simp only [Function.comp_apply]
  unfold User.session
  split
  · rw [kept user]
  · rfl

theorem session_of_stored {db : Db} {user : User} (stored : db.findUser user.id = some user) :
    db.session user.id = user.session := by
  rw [Db.session, stored, Option.bind_some]

theorem session_withSession_self {db : Db} {user : User} (stored : user ∈ db.users.rows)
    (hash : Option String) : (withSession db user.id hash).session user.id = truthy hash := by
  unfold Db.session Db.findUser withSession withUser
  rw [Table.findOne_key_update]
  have found := Db.findUser_of_mem stored
  unfold Db.findUser at found
  rw [found]
  simp [AuthService.sessionPatch, User.session]

theorem session_withSession_other {db : Db} {userId other : UserId} (apart : other ≠ userId)
    (hash : Option String) : (withSession db userId hash).session other = db.session other := by
  unfold Db.session Db.findUser withSession withUser
  rw [Table.findOne_key_update, Option.bind_map]
  cases found : db.users.findOne fun user => decide (user.id = other) with
  | none => rfl
  | some user =>
      have here : user.id = other := of_decide_eq_true (Table.findOne_mem found).2
      simp [here, apart]

theorem session_withSession_none (db : Db) (userId : UserId) :
    (withSession db userId none).session userId = none := by
  unfold Db.session Db.findUser withSession withUser
  rw [Table.findOne_key_update]
  cases found : db.users.findOne fun user => decide (user.id = userId) with
  | none => rfl
  | some user =>
      have here : user.id = userId := of_decide_eq_true (Table.findOne_mem found).2
      simp [here, AuthService.sessionPatch, User.session, truthy]

theorem stored_of_update {db after : Db} {wanted : User → Bool}
    {patch : Patch User.id User.email} (users : after.users = db.users.update wanted patch)
    (userId : UserId) : (after.findUser userId).isSome = (db.findUser userId).isSome := by
  unfold Db.findUser
  rw [users, Table.findOne_key_update, Option.isSome_map]

theorem findUser_added {db after : Db} {new : User} (added : db.users.Added new after.users)
    {userId : UserId} (apart : userId ≠ new.id) : after.findUser userId = db.findUser userId := by
  cases found : db.findUser userId with
  | some user =>
      obtain ⟨stored, rfl⟩ := Db.findUser_some found
      exact Db.findUser_of_mem ((added.mem user).mpr (Or.inl stored))
  | none =>
      apply Table.findOne_none.mpr
      intro user stored
      rcases (added.mem user).mp stored with old | rfl
      · exact Table.findOne_none.mp found user old
      · exact decide_eq_false (Ne.symm apart)

namespace AuthService

variable (env : AuthEnv)

/-! ## How the calls end -/

/-- What `generateTokens` answers. -/
def tokensFor (user : User) (now : Time) : AuthResponse where
  accessToken := env.jwt.sign env.jwtSecret (claimsOf user env.jwtExpiresIn now)
  refreshToken := refreshTokenOf env user now
  emailVerified := user.isEmailVerified
  id := user.id
  email := user.email
  fullName := user.fullName
  systemRole := user.systemRole
  clearanceLevel := user.clearanceLevel
  avatarUrl := none

def signedIn (db : Db) (user : User) (salt : String) (now : Time) : Db :=
  withSession db user.id (some (env.argon2.hash salt (refreshTokenOf env user now)))

/-- The user whom `login` lets in. -/
def loginUser (db : Db) (dto : LoginDto) : Option User :=
  (db.findByEmail dto.email).filter fun user =>
    user.isBlocked = false ∧ env.argon2.verify user.passwordHash dto.password = true

theorem loginUser_stored {db : Db} {dto : LoginDto} {user : User}
    (found : loginUser env db dto = some user) : user ∈ db.users.rows :=
  (Table.findOne_mem (Option.filter_eq_some_iff.mp found).1).1

theorem login_run (dto : LoginDto) (salt : String) (now : Time) (db : Db) :
    match loginUser env db dto with
    | none => ∃ error, (login env dto salt now).run db = (.error error, db)
    | some user => (login env dto salt now).run db =
        (.ok (tokensFor env user now), signedIn env db user salt now) := by
  simp only [login, Prog.bind_eq, Prog.run_query_bind, Prog.run_orThrow_bind]
  cases found : db.findByEmail dto.email with
  | none => simp [loginUser, found]
  | some user =>
      by_cases blocked : user.isBlocked = true
      · have refused : loginUser env db dto = none := by simp [loginUser, found, blocked]
        rw [refused]
        exact ⟨_, by simp only [blocked, Prog.run_throwIf_bind, if_true]; rfl⟩
      · by_cases verified : env.argon2.verify user.passwordHash dto.password = true
        · simp only [loginUser, found, Option.filter_some, blocked, verified]
          rfl
        · have refused : loginUser env db dto = none := by simp [loginUser, found, verified]
          rw [refused]
          exact ⟨_, by simp only [blocked, verified, Prog.run_throwIf_bind, Bool.false_eq_true,
            if_true, if_false]; rfl⟩

/-- The user whom `findGiven` finds. -/
def givenUser (db : Db) (met : OrderBy fun _ _ : User => True) : BodyValue UserId → Option User
  | .absent => met.first db.users.rows
  | .value id => db.findUser id
  | .unreadable => none

section Given

variable {db : Db} {met : OrderBy fun _ _ : User => True} {userId : BodyValue UserId}
  {user : User}

theorem givenUser_stored (given : givenUser db met userId = some user) :
    user ∈ db.users.rows := by
  cases userId with
  | absent => exact OrderBy.mem_of_first given
  | value id => exact (Db.findUser_some given).1
  | unreadable => cases given

theorem findGiven_run (met : OrderBy fun _ _ : User => True) (userId : BodyValue UserId)
    (db : Db) :
    (findGiven met userId).run db = (.ok (givenUser db met userId), db) ∨
      givenUser db met userId = none ∧
        ∃ error, (findGiven met userId).run db = (.error error, db) := by
  cases userId with
  | absent => exact Or.inl rfl
  | value id => exact Or.inl rfl
  | unreadable => exact Or.inr ⟨rfl, _, rfl⟩

/-- The user a payload names, as `findGiven` finds him, with the hash of his session. -/
def givenSession (db : Db) (met : OrderBy fun _ _ : User => True) (userId : BodyValue UserId) :
    Option (User × String) :=
  (givenUser db met userId).bind fun user => user.session.map fun hash => (user, hash)

theorem givenSession_some {hash : String}
    (found : givenSession db met userId = some (user, hash)) :
    user ∈ db.users.rows ∧ user.session = some hash ∧ db.session user.id = some hash := by
  obtain ⟨other, given, session⟩ := Option.bind_eq_some_iff.mp found
  obtain ⟨otherHash, here, same⟩ := Option.map_eq_some_iff.mp session
  obtain ⟨rfl, rfl⟩ := Prod.mk.inj same
  have stored : other ∈ db.users.rows := givenUser_stored given
  exact ⟨stored, here, (session_of_stored (Db.findUser_of_mem stored)).trans here⟩

end Given

/-- Without a session nothing happens; with one, either new tokens are issued or it ends. -/
theorem refreshTokens_run_given (met : OrderBy fun _ _ : User => True)
    (userId : BodyValue UserId) (refreshToken salt : String) (now : Time) (db : Db) :
    match givenSession db met userId with
    | none => ∃ error, (refreshTokens env met userId refreshToken salt now).run db =
        (.error error, db)
    | some (user, hash) =>
        if env.argon2.verify hash refreshToken = true then
          (refreshTokens env met userId refreshToken salt now).run db =
            (.ok (tokensFor env user now), signedIn env db user salt now)
        else ∃ error, (refreshTokens env met userId refreshToken salt now).run db =
          (.error error, withSession db user.id none) := by
  rcases findGiven_run met userId db with found | ⟨nobody, error, failed⟩
  · simp only [refreshTokens, Prog.bind_eq, Prog.run_bind_of_ok found, Prog.run_orThrow_bind]
    cases given : givenUser db met userId with
    | none =>
        simp only [givenSession, given, Option.bind_none]
        exact ⟨_, rfl⟩
    | some user =>
        simp only [givenSession, given, Option.bind_some, User.session]
        cases session : truthy user.refreshTokenHash with
        | none => exact ⟨_, rfl⟩
        | some hash =>
            simp only [Option.map_some]
            split
            · rfl
            · exact ⟨_, rfl⟩
  · simp only [refreshTokens, Prog.bind_eq, Prog.run_bind, failed, givenSession, nobody,
      Option.bind_none]
    exact ⟨error, rfl⟩

/-- The user to whom a refresh issues new tokens. -/
def refreshUser (db : Db) (userId : UserId) (refreshToken : String) : Option User :=
  (db.findUser userId).filter fun user =>
    user.session.any fun hash => env.argon2.verify hash refreshToken

theorem refreshUser_stored {db : Db} {userId : UserId} {refreshToken : String} {user : User}
    (found : refreshUser env db userId refreshToken = some user) :
    user ∈ db.users.rows ∧ user.id = userId := by
  obtain ⟨stored, _⟩ := Option.filter_eq_some_iff.mp found
  exact Db.findUser_some stored

/-- A refresh that is refused ends the session. -/
theorem refreshTokens_run (met : OrderBy fun _ _ : User => True) (userId : UserId)
    (refreshToken salt : String) (now : Time) (db : Db) :
    match refreshUser env db userId refreshToken with
    | none => ∃ error after,
        (refreshTokens env met (.value userId) refreshToken salt now).run db =
          (.error error, after) ∧ after.session userId = none ∧
        (∀ other, other ≠ userId → after.session other = db.session other) ∧
        ∀ other, (after.findUser other).isSome = (db.findUser other).isSome
    | some user => (refreshTokens env met (.value userId) refreshToken salt now).run db =
        (.ok (tokensFor env user now), signedIn env db user salt now) := by
  have ran := refreshTokens_run_given env met (.value userId) refreshToken salt now db
  cases found : db.findUser userId with
  | none =>
      simp only [givenSession, givenUser, found, Option.bind_none] at ran
      obtain ⟨error, refused⟩ := ran
      simp only [refreshUser, found, Option.filter_none]
      exact ⟨error, db, refused, by rw [Db.session, found, Option.bind_none], fun _ _ => rfl,
        fun _ => rfl⟩
  | some user =>
      obtain ⟨stored, rfl⟩ := Db.findUser_some found
      cases session : user.session with
      | none =>
          simp only [givenSession, givenUser, found, session, Option.bind_some,
            Option.map_none] at ran
          obtain ⟨error, refused⟩ := ran
          simp only [refreshUser, found, Option.filter_some, session, Option.any_none,
            Bool.false_eq_true, if_false]
          exact ⟨error, db, refused, by rw [session_of_stored found, session], fun _ _ => rfl,
            fun _ => rfl⟩
      | some hash =>
          simp only [givenSession, givenUser, found, session, Option.bind_some,
            Option.map_some] at ran
          simp only [refreshUser, found, Option.filter_some, session, Option.any_some]
          split at ran
          · next verified =>
            rw [if_pos verified]
            exact ran
          · next wrong =>
            rw [if_neg wrong]
            obtain ⟨error, refused⟩ := ran
            refine ⟨error, withSession db user.id none, refused, ?_, ?_, stored_of_update rfl⟩
            · exact session_withSession_self stored none
            · intro other apart
              exact session_withSession_other apart none

theorem registerAccount_run (dto : RegisterDto) (password passwordSalt token salt : String)
    (now : Time) (db : Db) :
    (∃ error, (registerAccount env dto password passwordSalt token salt now).run db =
        (.error error, db)) ∨
      ∃ users, db.users.Added
          (newAccount env dto password passwordSalt token now db.users.next) users ∧
        (registerAccount env dto password passwordSalt token salt now).run db =
          (.ok (tokensFor env
              (newAccount env dto password passwordSalt token now db.users.next) now),
            signedIn env { db with users := users }
              (newAccount env dto password passwordSalt token now db.users.next) salt now) := by
  simp only [registerAccount, Prog.bind_eq, Prog.run_query_bind, Prog.run_throwIf_bind]
  split
  · exact Or.inl ⟨_, rfl⟩
  · split
    · exact Or.inl ⟨_, rfl⟩
    · rw [Prog.run_bind, Prog.run_execOr]
      cases inserted : db.users.insert (newAccount env dto password passwordSalt token now)
          (newAccount_id env dto password passwordSalt token now) with
      | none => exact Or.inl ⟨_, rfl⟩
      | some users => exact Or.inr ⟨users, Table.added_insert inserted, rfl⟩

end AuthService

/-! ## Blocking -/

/-- The sessions and the set of stored users are as they were. -/
structure SameSessions (db after : Db) : Prop where
  session : ∀ userId, after.session userId = db.session userId
  stored : ∀ userId, (after.findUser userId).isSome = (db.findUser userId).isSome

theorem SameSessions.refl (db : Db) : SameSessions db db := ⟨fun _ => rfl, fun _ => rfl⟩

theorem SameSessions.trans {db mid after : Db} (first : SameSessions db mid)
    (second : SameSessions mid after) : SameSessions db after :=
  ⟨fun userId => (second.session userId).trans (first.session userId),
    fun userId => (second.stored userId).trans (first.stored userId)⟩

theorem sameSessions_of_update {db after : Db} {wanted : User → Bool}
    {patch : Patch User.id User.email} (users : after.users = db.users.update wanted patch)
    (kept : ∀ user, (patch.run user).refreshTokenHash = user.refreshTokenHash) :
    SameSessions db after :=
  ⟨session_of_update users kept, stored_of_update users⟩

theorem settled_refreshTokenHash (required count : Nat) (user : User) :
    (settled required count user).refreshTokenHash = user.refreshTokenHash := by
  unfold settled
  split
  · rfl
  · split <;> rfl

theorem sameSessions_blockUser (required : Nat) (targetId : UserId) (admin : User) (now : Time)
    (db : Db) : SameSessions db ((blockUser required targetId admin now).run db).2 := by
  apply Prog.Guarded.after (motive := SameSessions db)
    (blockUser_guarded required targetId admin now db)
  · exact .refl db
  · rintro _ _ ⟨_, rfl⟩
    have blocking : SameSessions db (blocked db targetId now) :=
      sameSessions_of_update rfl fun _ => rfl
    refine blocking.trans (sameSessions_of_update (recalculatedAll_users required _ _) ?_)
    intro user
    exact settled_refreshTokenHash required _ user

theorem sameSessions_unblockUser (targetId : UserId) (admin : User) (db : Db) :
    SameSessions db ((unblockUser targetId admin).run db).2 := by
  apply Prog.Guarded.after (motive := SameSessions db) (unblockUser_guarded targetId admin db)
  · exact .refl db
  · rintro _ _ rfl
    exact sameSessions_of_update rfl fun _ => rfl

end VolunteerApi
