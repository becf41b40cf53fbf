import VolunteerApi.Effects.TokenOutcomes
import VolunteerApi.Model.AuthLibraries
import Mathlib.Logic.Function.Basic

/-!
# A refresh token is redeemed once

The state of a run carries, next to the database, each user's most recent refresh token, as
long as neither a logout nor a failed refresh followed it, and the tokens that were redeemed.
Only the most recent token is ever accepted.  But the signed payload holds nothing that is
new with each token except the second of its issue: a token that is issued in the same second
as a redeemed one of the same user is the same string, and is accepted a second time.
-/

set_option autoImplicit false

namespace VolunteerApi

open Relational Programs AuthService

inductive SessionOp where
  | register (dto : RegisterDto) (password passwordSalt token salt : String) (now : Time)
  | login (dto : LoginDto) (salt : String) (now : Time)
  | refreshTokens (met : OrderBy fun _ _ : User => True) (userId : UserId)
      (refreshToken salt : String) (now : Time)
  | logout (userId : UserId)
  | blockUser (targetId : UserId) (user : User) (now : Time)
  | unblockUser (targetId : UserId) (user : User)

structure RefreshState where
  db : Db
  current : UserId → Option String
  redeemed : List String

namespace RefreshState

def start (db : Db) : RefreshState := ⟨db, fun _ => none, []⟩

def issued (s : RefreshState) (finished : Except HttpException AuthResponse × Db) : RefreshState :=
  match finished.1 with
  | .ok response =>
      { s with
        db := finished.2
        current := Function.update s.current response.id (some response.refreshToken) }
  | .error _ => { s with db := finished.2 }

def step (env : AuthEnv) (required : Nat) (s : RefreshState) : SessionOp → RefreshState
  | .register dto password passwordSalt token salt now =>
      s.issued ((registerAccount env dto password passwordSalt token salt now).run s.db)
  | .login dto salt now => s.issued ((login env dto salt now).run s.db)
  | .refreshTokens met userId refreshToken salt now =>
      match (refreshTokens env met (.value userId) refreshToken salt now).run s.db with
      | (.ok response, after) =>
          { db := after
            current := Function.update s.current response.id (some response.refreshToken)
            redeemed := refreshToken :: s.redeemed }
      | (.error _, after) =>
          { s with db := after, current := Function.update s.current userId none }
  | .logout userId =>
      { s with
        db := ((logout userId).run s.db).2
        current := Function.update s.current userId none }
  | .blockUser targetId user now =>
      { s with db := ((UsersService.blockUser required targetId user now).run s.db).2 }
  | .unblockUser targetId user =>
      { s with db := ((UsersService.unblockUser targetId user).run s.db).2 }

end RefreshState

/-- Only the current token of a user is accepted, and a redeemed one is rejected and ends the
session. -/
structure SingleUse (env : AuthEnv) (s : RefreshState) : Prop where
  current : ∀ met userId refreshToken salt now response after,
    (refreshTokens env met (.value userId) refreshToken salt now).run s.db =
        (.ok response, after) →
      s.current userId = some refreshToken
  once : ∀ met userId refreshToken salt now, refreshToken ∈ s.redeemed →
    ∃ error after, (refreshTokens env met (.value userId) refreshToken salt now).run s.db =
      (.error error, after) ∧ after.session userId = none

/-- No redeemed token carries what a token of the user carries that is issued now. -/
def Fresh (env : AuthEnv) (redeemed : List String) (user : User) (now : Time) : Prop :=
  ∀ old ∈ redeemed, env.jwt.claims old ≠ some (refreshClaims env user now)

/-- A token that is issued differs from the redeemed ones in its user, email, role, clearance
level or second of issue. -/
def IssuesFresh (env : AuthEnv) (s : RefreshState) : SessionOp → Prop
  | .login dto _ now => ∀ user, loginUser env s.db dto = some user → Fresh env s.redeemed user now
  | .refreshTokens _ userId refreshToken _ now =>
      ∀ user, refreshUser env s.db userId refreshToken = some user →
        Fresh env (refreshToken :: s.redeemed) user now
  | _ => True

/-! ## What the state says about the database -/

/-- The token was signed for a stored user. -/
def SignedFor (env : AuthEnv) (db : Db) (refreshToken : String) (claims : JwtClaims) : Prop :=
  refreshToken = env.jwt.sign env.jwtRefreshSecret claims ∧ (db.findUser claims.sub).isSome = true

structure Tracked (env : AuthEnv) (s : RefreshState) : Prop where
  live : ∀ userId refreshToken, s.current userId = some refreshToken →
    ∃ claims salt, SignedFor env s.db refreshToken claims ∧ claims.sub = userId ∧
      s.db.session userId = some (env.argon2.hash salt refreshToken)
  idle : ∀ userId, s.current userId = none → s.db.session userId = none
  redeemed : ∀ refreshToken ∈ s.redeemed, ∃ claims, SignedFor env s.db refreshToken claims

section Tracked

variable {env : AuthEnv} {s : RefreshState}

/-- A refresh succeeds with the current token, and with no other. -/
theorem refreshUser_isSome_iff (lawful : env.Lawful) (tracked : Tracked env s)
    (userId : UserId) (refreshToken : String) :
    (refreshUser env s.db userId refreshToken).isSome = true ↔
      s.current userId = some refreshToken := by
  have accepts : (refreshUser env s.db userId refreshToken).isSome = true ↔
      ∃ hash, s.db.session userId = some hash ∧
        env.argon2.verify hash refreshToken = true := by
    unfold refreshUser Db.session
    cases found : s.db.findUser userId with
    | none => simp
    | some user =>
        cases session : user.session with
        | none => simp [session]
        | some hash => cases verified : env.argon2.verify hash refreshToken <;>
            simp [session, verified]
  rw [accepts]
  constructor
  · rintro ⟨hash, session, verified⟩
    cases known : s.current userId with
    | none =>
        rw [tracked.idle userId known] at session
        cases session
    | some current =>
        obtain ⟨_, salt, _, _, stored⟩ := tracked.live userId current known
        rw [stored] at session
        obtain rfl := Option.some.inj session
        rw [(lawful.verify_iff salt current refreshToken).mp verified]
  · intro known
    obtain ⟨_, salt, _, _, stored⟩ := tracked.live userId refreshToken known
    exact ⟨_, stored, (lawful.verify_iff salt refreshToken refreshToken).mpr rfl⟩

theorem singleUse_iff (lawful : env.Lawful) (tracked : Tracked env s) :
    SingleUse env s ↔
      ∀ userId refreshToken, s.current userId = some refreshToken →
        refreshToken ∉ s.redeemed := by
  have accepted := refreshUser_isSome_iff lawful tracked
  constructor
  · intro single userId refreshToken known redeemed
    obtain ⟨user, found⟩ := Option.isSome_iff_exists.mp ((accepted userId refreshToken).mpr known)
    obtain ⟨error, after, failed, _⟩ :=
      single.once OrderBy.asStored userId refreshToken "" 0 redeemed
    have ran := refreshTokens_run env OrderBy.asStored userId refreshToken "" 0 s.db
    rw [found] at ran
    rw [ran] at failed
    cases failed
  · intro apart
    constructor
    · intro met userId refreshToken salt now response after finished
      apply (accepted userId refreshToken).mp
      have ran := refreshTokens_run env met userId refreshToken salt now s.db
      cases found : refreshUser env s.db userId refreshToken with
      | some user => rfl
      | none =>
          rw [found] at ran
          obtain ⟨error, other, failed, _⟩ := ran
          rw [failed] at finished
          cases finished
    · intro met userId refreshToken salt now redeemed
      have ran := refreshTokens_run env met userId refreshToken salt now s.db
      cases found : refreshUser env s.db userId refreshToken with
      | none =>
          rw [found] at ran
          obtain ⟨error, after, failed, ended, _⟩ := ran
          exact ⟨error, after, failed, ended⟩
      | some user =>
          have known := (accepted userId refreshToken).mp (by rw [found]; rfl)
          exact absurd redeemed (apart userId refreshToken known)

/-- What is issued is new exactly when it carries something that no redeemed token carries. -/
theorem fresh_iff (lawful : env.Lawful) {db : Db} {tokens : List String}
    (signed : ∀ refreshToken ∈ tokens, ∃ claims, SignedFor env db refreshToken claims)
    (user : User) (now : Time) :
    Fresh env tokens user now ↔ refreshTokenOf env user now ∉ tokens := by
  constructor
  · intro fresh listed
    exact fresh _ listed (lawful.claims_sign _ _)
  · intro unlisted old listed same
    obtain ⟨claims, rfl, _⟩ := signed old listed
    rw [lawful.claims_sign] at same
    rw [Option.some.inj same] at listed
    exact unlisted listed

/-! ## One call -/

variable {db : Db} {user : User} {salt : String} {now : Time} {tokens : List String}

def RefreshState.signedIn (env : AuthEnv) (s : RefreshState) (db : Db) (user : User)
    (salt : String) (now : Time) (tokens : List String) : RefreshState where
  db := AuthService.signedIn env db user salt now
  current := Function.update s.current user.id (some (refreshTokenOf env user now))
  redeemed := tokens

/-- The database is that of the state, but for the user who is about to sign in. -/
structure SameOthers (s : RefreshState) (db : Db) (user : User) : Prop where
  stored : user ∈ db.users.rows
  sessions : ∀ other, other ≠ user.id → db.session other = s.db.session other
  kept : ∀ other, (s.db.findUser other).isSome = true → (db.findUser other).isSome = true

theorem SameOthers.refl (stored : user ∈ s.db.users.rows) : SameOthers s s.db user :=
  ⟨stored, fun _ _ => rfl, fun _ found => found⟩

theorem sameOthers_added {users : Table User.id User.email} (added : s.db.users.Added user users) :
    SameOthers s { s.db with users := users } user := by
  have unknown : s.db.findUser user.id = none := by
    apply Table.findOne_none.mpr
    intro other stored
    exact decide_eq_false fun same => Table.key_ne_next stored (same.trans added.fresh)
  have before : ∀ other, other ≠ user.id →
      Db.findUser { s.db with users := users } other = s.db.findUser other := by
    intro other apart
    exact @findUser_added s.db { s.db with users := users } user added other apart
  constructor
  · exact (added.mem user).mpr (Or.inr rfl)
  · intro other apart
    unfold Db.session
    rw [before other apart]
  · intro other found
    have apart : other ≠ user.id := by
      rintro rfl
      rw [unknown] at found
      cases found
    rw [before other apart]
    exact found

theorem fresh_added (lawful : env.Lawful) (tracked : Tracked env s)
    {users : Table User.id User.email} (added : s.db.users.Added user users) :
    Fresh env s.redeemed user now := by
  intro old redeemed decoded
  obtain ⟨claims, rfl, known⟩ := tracked.redeemed old redeemed
  rw [lawful.claims_sign] at decoded
  have sub : claims.sub = user.id := congrArg JwtClaims.sub (Option.some.inj decoded)
  obtain ⟨stored, found⟩ := Option.isSome_iff_exists.mp known
  obtain ⟨member, same⟩ := Db.findUser_some found
  exact Table.key_ne_next member ((same.trans sub).trans added.fresh)

theorem SignedFor.later {after : Db} {refreshToken : String} {claims : JwtClaims}
    (signed : SignedFor env db refreshToken claims)
    (kept : ∀ other, (db.findUser other).isSome = true → (after.findUser other).isSome = true) :
    SignedFor env after refreshToken claims :=
  ⟨signed.1, kept _ signed.2⟩

theorem stored_signedIn (others : SameOthers s db user) (other : UserId)
    (found : (s.db.findUser other).isSome = true) :
    ((AuthService.signedIn env db user salt now).findUser other).isSome = true := by
  rw [AuthService.signedIn, withSession, UsersService.withUser, stored_of_update rfl]
  exact others.kept other found

theorem tracked_signedIn (lawful : env.Lawful) (tracked : Tracked env s)
    (others : SameOthers s db user)
    (signed : ∀ refreshToken ∈ tokens, ∃ claims, SignedFor env s.db refreshToken claims) :
    Tracked env (s.signedIn env db user salt now tokens) := by
  have self : (AuthService.signedIn env db user salt now).session user.id =
      some (env.argon2.hash salt (refreshTokenOf env user now)) := by
    rw [AuthService.signedIn, session_withSession_self others.stored]
    exact Option.filter_some_pos (decide_eq_true (lawful.hash_ne _ _))
  have elsewhere : ∀ other, other ≠ user.id →
      (AuthService.signedIn env db user salt now).session other = s.db.session other := by
    intro other apart
    exact (session_withSession_other apart _).trans (others.sessions other apart)
  constructor
  · intro userId refreshToken known
    by_cases here : userId = user.id
    · subst here
      simp only [RefreshState.signedIn, Function.update_self, Option.some.injEq] at known
      subst known
      refine ⟨refreshClaims env user now, salt, ⟨rfl, ?_⟩, rfl, self⟩
      change ((AuthService.signedIn env db user salt now).findUser user.id).isSome = true
      rw [AuthService.signedIn, withSession, UsersService.withUser, stored_of_update rfl,
        Db.findUser_of_mem others.stored]
      rfl
    · simp only [RefreshState.signedIn, Function.update_of_ne here] at known
      obtain ⟨claims, oldSalt, was, sub, session⟩ := tracked.live userId refreshToken known
      exact ⟨claims, oldSalt, was.later (stored_signedIn others), sub,
        (elsewhere userId here).trans session⟩
  · intro userId unknown
    by_cases here : userId = user.id
    · subst here
      simp [RefreshState.signedIn] at unknown
    · simp only [RefreshState.signedIn, Function.update_of_ne here] at unknown
      exact (elsewhere userId here).trans (tracked.idle userId unknown)
  · intro refreshToken listed
    obtain ⟨claims, was⟩ := signed refreshToken listed
    exact ⟨claims, was.later (stored_signedIn others)⟩

/-- A token that is current for two users would have been signed for both. -/
theorem current_injective (lawful : env.Lawful) (tracked : Tracked env s) {left right : UserId}
    {refreshToken : String} (here : s.current left = some refreshToken)
    (there : s.current right = some refreshToken) : left = right := by
  obtain ⟨claims, _, was, sub, _⟩ := tracked.live left refreshToken here
  obtain ⟨otherClaims, _, otherWas, otherSub, _⟩ := tracked.live right refreshToken there
  have decoded := lawful.claims_sign env.jwtRefreshSecret claims
  rw [← was.1, otherWas.1, lawful.claims_sign] at decoded
  rw [← sub, ← otherSub, Option.some.inj decoded]

/-- Issuing a token, after the given ones were redeemed, keeps single use exactly if the token
is fresh. -/
theorem signedIn_keepsIff (lawful : env.Lawful) (tracked : Tracked env s)
    (others : SameOthers s db user)
    (signed : ∀ refreshToken ∈ tokens, ∃ claims, SignedFor env s.db refreshToken claims)
    (known : ∀ refreshToken ∈ tokens,
      refreshToken ∈ s.redeemed ∨ s.current user.id = some refreshToken) :
    KeepsIff (Tracked env) (SingleUse env) s (s.signedIn env db user salt now tokens)
      (Fresh env tokens user now) := by
  have trackedAfter : Tracked env (s.signedIn env db user salt now tokens) :=
    tracked_signedIn lawful tracked others signed
  refine ⟨trackedAfter, fun single => ?_⟩
  rw [singleUse_iff lawful trackedAfter, fresh_iff lawful signed]
  constructor
  · intro apart
    exact apart user.id _ (by simp [RefreshState.signedIn])
  · intro unlisted userId refreshToken holds listed
    by_cases here : userId = user.id
    · subst here
      simp only [RefreshState.signedIn, Function.update_self, Option.some.injEq] at holds
      subst holds
      exact unlisted listed
    · simp only [RefreshState.signedIn, Function.update_of_ne here] at holds
      rcases known refreshToken listed with redeemed | presented
      · exact (singleUse_iff lawful tracked).mp single userId refreshToken holds redeemed
      · exact here (current_injective lawful tracked holds presented)

def RefreshState.ended (s : RefreshState) (after : Db) (userId : UserId) : RefreshState :=
  { s with db := after, current := Function.update s.current userId none }

theorem ended_keepsIff (lawful : env.Lawful) (tracked : Tracked env s) {after : Db}
    {userId : UserId} (ended : after.session userId = none)
    (sessions : ∀ other, other ≠ userId → after.session other = s.db.session other)
    (stored : ∀ other, (after.findUser other).isSome = (s.db.findUser other).isSome)
    {C : Prop} (holds : C) :
    KeepsIff (Tracked env) (SingleUse env) s (s.ended after userId) C := by
  have kept : ∀ other, (s.db.findUser other).isSome = true →
      (after.findUser other).isSome = true := by
    intro other found
    rw [stored]
    exact found
  have others : ∀ other refreshToken, (s.ended after userId).current other = some refreshToken →
      other ≠ userId ∧ s.current other = some refreshToken := by
    intro other refreshToken known
    by_cases here : other = userId
    · subst here
      simp [RefreshState.ended] at known
    · simp only [RefreshState.ended, Function.update_of_ne here] at known
      exact ⟨here, known⟩
  have trackedAfter : Tracked env (s.ended after userId) := by
    constructor
    · intro other refreshToken known
      obtain ⟨apart, before⟩ := others other refreshToken known
      obtain ⟨claims, salt, was, sub, session⟩ := tracked.live other refreshToken before
      exact ⟨claims, salt, was.later kept, sub, (sessions other apart).trans session⟩
    · intro other unknown
      by_cases here : other = userId
      · rw [here]
        exact ended
      · simp only [RefreshState.ended, Function.update_of_ne here] at unknown
        exact (sessions other here).trans (tracked.idle other unknown)
    · intro refreshToken listed
      obtain ⟨claims, was⟩ := tracked.redeemed refreshToken listed
      exact ⟨claims, was.later kept⟩
  refine keepsIff_of_kept trackedAfter ?_ holds
  intro single
  rw [singleUse_iff lawful trackedAfter]
  intro other refreshToken known
  obtain ⟨_, before⟩ := others other refreshToken known
  exact (singleUse_iff lawful tracked).mp single other refreshToken before

theorem sameSessions_keepsIff (lawful : env.Lawful) (tracked : Tracked env s) {after : Db}
    (same : SameSessions s.db after) :
    KeepsIff (Tracked env) (SingleUse env) s { s with db := after } True := by
  have kept : ∀ other, (s.db.findUser other).isSome = true →
      (after.findUser other).isSome = true := by
    intro other found
    rw [same.stored]
    exact found
  have trackedAfter : Tracked env { s with db := after } := by
    constructor
    · intro userId refreshToken known
      obtain ⟨claims, salt, was, sub, session⟩ := tracked.live userId refreshToken known
      exact ⟨claims, salt, was.later kept, sub, (same.session userId).trans session⟩
    · intro userId unknown
      exact (same.session userId).trans (tracked.idle userId unknown)
    · intro refreshToken listed
      obtain ⟨claims, was⟩ := tracked.redeemed refreshToken listed
      exact ⟨claims, was.later kept⟩
  refine keepsIff_of_kept trackedAfter ?_ trivial
  intro single
  rw [singleUse_iff lawful trackedAfter]
  exact (singleUse_iff lawful tracked).mp single

/-! ## The runs -/

variable (required : Nat)

theorem register_keepsIff (lawful : env.Lawful) (tracked : Tracked env s) (dto : RegisterDto)
    (password passwordSalt token salt : String) (now : Time) :
    KeepsIff (Tracked env) (SingleUse env) s
      (s.step env required (.register dto password passwordSalt token salt now)) True := by
  rcases registerAccount_run env dto password passwordSalt token salt now s.db with
    ⟨error, ran⟩ | ⟨users, added, ran⟩
  · simp only [RefreshState.step, RefreshState.issued, ran]
    exact keepsIff_self tracked trivial
  · have others := sameOthers_added added
    have stepped : s.step env required (.register dto password passwordSalt token salt now) =
        s.signedIn env { s.db with users := users }
          (newAccount env dto password passwordSalt token now s.db.users.next) salt now
          s.redeemed := by
      simp only [RefreshState.step, RefreshState.issued, ran]
      rfl
    rw [stepped]
    refine (signedIn_keepsIff lawful tracked others tracked.redeemed
      fun _ listed => Or.inl listed).congr ?_
    exact iff_of_true (fresh_added lawful tracked added) trivial

theorem login_keepsIff (lawful : env.Lawful) (tracked : Tracked env s) (dto : LoginDto)
    (salt : String) (now : Time) :
    KeepsIff (Tracked env) (SingleUse env) s (s.step env required (.login dto salt now))
      (IssuesFresh env s (.login dto salt now)) := by
  have ran := login_run env dto salt now s.db
  cases found : loginUser env s.db dto with
  | none =>
      rw [found] at ran
      obtain ⟨error, refused⟩ := ran
      simp only [RefreshState.step, RefreshState.issued, refused]
      exact keepsIff_self tracked (by simp [IssuesFresh, found])
  | some user =>
      rw [found] at ran
      have others : SameOthers s s.db user := .refl (loginUser_stored env found)
      have stepped : s.step env required (.login dto salt now) =
          s.signedIn env s.db user salt now s.redeemed := by
        simp only [RefreshState.step, RefreshState.issued, ran]
        rfl
      rw [stepped]
      refine (signedIn_keepsIff lawful tracked others tracked.redeemed
        fun _ listed => Or.inl listed).congr ?_
      simp [IssuesFresh, found]

theorem refreshTokens_keepsIff (lawful : env.Lawful) (tracked : Tracked env s)
    (met : OrderBy fun _ _ : User => True) (userId : UserId) (refreshToken salt : String)
    (now : Time) :
    KeepsIff (Tracked env) (SingleUse env) s
      (s.step env required (.refreshTokens met userId refreshToken salt now))
      (IssuesFresh env s (.refreshTokens met userId refreshToken salt now)) := by
  have ran := refreshTokens_run env met userId refreshToken salt now s.db
  cases found : refreshUser env s.db userId refreshToken with
  | none =>
      rw [found] at ran
      obtain ⟨error, after, refused, ended, sessions, stored⟩ := ran
      simp only [RefreshState.step, refused]
      exact ended_keepsIff lawful tracked ended sessions stored (by simp [IssuesFresh, found])
  | some user =>
      rw [found] at ran
      obtain ⟨member, rfl⟩ := refreshUser_stored env found
      have others : SameOthers s s.db user := .refl member
      have presented : s.current user.id = some refreshToken :=
        (refreshUser_isSome_iff lawful tracked user.id refreshToken).mp (by rw [found]; rfl)
      have signed : ∀ other ∈ refreshToken :: s.redeemed,
          ∃ claims, SignedFor env s.db other claims := by
        intro other listed
        rcases List.mem_cons.mp listed with rfl | older
        · obtain ⟨claims, _, was, _⟩ := tracked.live user.id other presented
          exact ⟨claims, was⟩
        · exact tracked.redeemed other older
      have known : ∀ other ∈ refreshToken :: s.redeemed,
          other ∈ s.redeemed ∨ s.current user.id = some other := by
        intro other listed
        rcases List.mem_cons.mp listed with rfl | older
        · exact Or.inr presented
        · exact Or.inl older
      have stepped : s.step env required (.refreshTokens met user.id refreshToken salt now) =
          s.signedIn env s.db user salt now (refreshToken :: s.redeemed) := by
        simp only [RefreshState.step, ran]
        rfl
      rw [stepped]
      refine (signedIn_keepsIff lawful tracked others signed known).congr ?_
      simp [IssuesFresh, found]

/-- Single use survives a step exactly where the step issues something fresh. -/
theorem singleUse_step (lawful : env.Lawful) (op : SessionOp) (tracked : Tracked env s) :
    KeepsIff (Tracked env) (SingleUse env) s (s.step env required op) (IssuesFresh env s op) := by
  cases op with
  | register dto password passwordSalt token salt now =>
      exact register_keepsIff required lawful tracked dto password passwordSalt token salt now
  | login dto salt now => exact login_keepsIff required lawful tracked dto salt now
  | refreshTokens met userId refreshToken salt now =>
      exact refreshTokens_keepsIff required lawful tracked met userId refreshToken salt now
  | logout userId =>
      have sessions : ∀ other, other ≠ userId →
          (withSession s.db userId none).session other = s.db.session other := by
        intro other apart
        exact session_withSession_other apart none
      exact ended_keepsIff lawful tracked (session_withSession_none s.db userId) sessions
        (stored_of_update rfl) trivial
  | blockUser targetId user now =>
      exact sameSessions_keepsIff lawful tracked
        (sameSessions_blockUser required targetId user now s.db)
  | unblockUser targetId user =>
      exact sameSessions_keepsIff lawful tracked (sameSessions_unblockUser targetId user s.db)

theorem tracked_start {db : Db} (signedOut : ∀ userId, db.session userId = none) :
    Tracked env (.start db) where
  live := by
    intro userId refreshToken known
    cases known
  idle userId _ := signedOut userId
  redeemed := by
    intro refreshToken listed
    cases listed

end Tracked

/-- In a run that starts with everybody signed out, every refresh takes the current token and
every token is redeemed once exactly if no token is issued that repeats the user, email, role,
clearance level and second of one that was redeemed. -/
theorem singleUse_always_iff {env : AuthEnv} (lawful : env.Lawful) (required : Nat) {db : Db}
    (signedOut : ∀ userId, db.session userId = none) (ops : List SessionOp) :
    Always (RefreshState.step env required) (SingleUse env) (.start db) ops ↔
      Throughout (RefreshState.step env required) (IssuesFresh env) (.start db) ops := by
  have tracked : Tracked env (.start db) := tracked_start signedOut
  apply always_iff_of_keepsIff (I := Tracked env) (A := fun _ _ => True)
  · intro s op tracked _
    exact singleUse_step required lawful op tracked
  · exact tracked
  · rw [singleUse_iff lawful tracked]
    intro userId refreshToken known
    cases known
  · exact throughout_of_mem (fun _ _ => trivial) _

theorem signedOut_board (level : ClearanceLevel) (userId : UserId) :
    (exampleBoard level).session userId = none := by
  cases found : (exampleBoard level).findUser userId with
  | none => rw [Db.session, found, Option.bind_none]
  | some user =>
      rw [Db.session, found, Option.bind_some]
      have stored : user ∈ [author, firstVolunteer, secondVolunteer, firstAdmin, secondAdmin] :=
        (Db.findUser_some found).1
      simp only [List.mem_cons, List.not_mem_nil, or_false] at stored
      rcases stored with rfl | rfl | rfl | rfl | rfl <;> rfl

theorem newcomer_allowed :
    ∀ role ∈ (none : Option SystemRole), role = .volunteer ∨ role = .requester :=
  RegisterDto.noRole_allowed

def newcomer : RegisterDto where
  email := "newcomer@example.org"
  fullName := "Новий волонтер"
  systemRole := none
  allowed := newcomer_allowed

def newcomerToken : String :=
  refreshTokenOf plainTextEnv
    (newAccount plainTextEnv newcomer "пароль" "salt" "letter" 1767225600000 5) 1767225600000

/-- A user registers, and his client refreshes the tokens 0.4 seconds later. -/
def refreshInSameSecond : List SessionOp :=
  [.register newcomer "пароль" "salt" "letter" "pepper" 1767225600000,
    .refreshTokens OrderBy.asStored 5 newcomerToken "thyme" 1767225600400]

theorem singleUse_always_iff_witness :
    Always (RefreshState.step plainTextEnv 2) (SingleUse plainTextEnv)
        (.start (exampleBoard .local)) refreshInSameSecond ↔
      Throughout (RefreshState.step plainTextEnv 2) (IssuesFresh plainTextEnv)
        (.start (exampleBoard .local)) refreshInSameSecond :=
  singleUse_always_iff plainTextEnv_lawful 2 (signedOut_board .local) refreshInSameSecond

/-- The token that was redeemed is redeemed again an hour later. -/
theorem singleUse_always_fails :
    ¬ Always (RefreshState.step plainTextEnv 2) (SingleUse plainTextEnv)
      (.start (exampleBoard .local)) refreshInSameSecond := by
  intro always
  have redeemed : newcomerToken ∈ (execute (RefreshState.step plainTextEnv 2)
      (.start (exampleBoard .local)) refreshInSameSecond).redeemed := by
    decide +kernel
  have again : ((refreshTokens plainTextEnv OrderBy.asStored (.value 5) newcomerToken "sage"
      1767229200000).run
      (execute (RefreshState.step plainTextEnv 2) (.start (exampleBoard .local))
        refreshInSameSecond).db).1.toBool = true := by
    decide +kernel
  obtain ⟨error, after, rejected, _⟩ :=
    (always_end always).once OrderBy.asStored 5 newcomerToken "sage" 1767229200000 redeemed
  rw [rejected] at again
  cases again

end VolunteerApi
