import VolunteerApi.Effects.ResetOutcomes
import VolunteerApi.Effects.TokenOutcomes
import Mathlib.Logic.Function.Basic

/-!
# Tokens for blocked users

The state of a run carries, next to the database, who was blocked and not yet unblocked.
`login` looks at the flag.  `refreshTokens` loads it and never looks: the refresh token that a
user held when he was blocked stays good for new tokens.
-/

set_option autoImplicit false

namespace VolunteerApi

open Relational Programs AuthService
open UsersService (withUser blockedPatch settledPatch recalculated)

/-- A call that touches a session, or any other call. -/
inductive TokenOp where
  | register (dto : RegisterDto) (password passwordSalt token salt : String) (now : Time)
  | login (dto : LoginDto) (salt : String) (now : Time)
  | refreshTokens (met : OrderBy fun _ _ : User => True) (userId : BodyValue UserId)
      (refreshToken salt : String) (now : Time)
  | logout (userId : UserId)
  | changePassword (userId : UserId) (dto : ChangePasswordDto) (salt : String)
  | requestPasswordReset (email code : String) (now : Time)
  | verifyResetCode (email code token : String) (now : Time)
  | resetPassword (token newPassword salt : String) (now : Time)
  | api (op : ApiOp)

structure BlockState where
  db : Db
  blocked : UserId → Bool

namespace BlockState

def start (db : Db) : BlockState := ⟨db, fun _ => false⟩

/-- Blocking a stored user and unblocking, if they succeed, change who is blocked. -/
def called (required : Nat) (s : BlockState) : ApiOp → BlockState
  | .users (.blockUser targetId user now) =>
      match (UsersService.blockUser required targetId user now).run s.db with
      | (.ok _, after) =>
          { db := after
            blocked := if (s.db.findUser targetId).isSome
              then Function.update s.blocked targetId true else s.blocked }
      | (.error _, after) => { s with db := after }
  | .users (.unblockUser targetId user) =>
      match (UsersService.unblockUser targetId user).run s.db with
      | (.ok _, after) => ⟨after, Function.update s.blocked targetId false⟩
      | (.error _, after) => { s with db := after }
  | op => { s with db := op.step required s.db }

def step (env : AuthEnv) (required : Nat) (s : BlockState) : TokenOp → BlockState
  | .register dto password passwordSalt token salt now =>
      { s with db := ((registerAccount env dto password passwordSalt token salt now).run s.db).2 }
  | .login dto salt now => { s with db := ((AuthService.login env dto salt now).run s.db).2 }
  | .refreshTokens met userId refreshToken salt now =>
      { s with
        db := ((AuthService.refreshTokens env met userId refreshToken salt now).run s.db).2 }
  | .logout userId => { s with db := ((AuthService.logout userId).run s.db).2 }
  | .changePassword userId dto salt =>
      { s with db := ((AuthService.changePassword env userId dto salt).run s.db).2 }
  | .requestPasswordReset email code now =>
      { s with db := ((AuthService.requestPasswordReset email code now).run s.db).2 }
  | .verifyResetCode email code token now =>
      { s with db := ((AuthService.verifyResetCode email code token now).run s.db).2 }
  | .resetPassword token newPassword salt now =>
      { s with db := ((AuthService.resetPassword env token newPassword salt now).run s.db).2 }
  | .api op => s.called required op

end BlockState

/-- No call issues tokens for a user who is blocked. -/
def RefusesBlocked (env : AuthEnv) (s : BlockState) : TokenOp → Prop
  | .login dto salt now => ∀ response after,
      (login env dto salt now).run s.db = (.ok response, after) → s.blocked response.id = false
  | .refreshTokens met userId refreshToken salt now => ∀ response after,
      (refreshTokens env met userId refreshToken salt now).run s.db = (.ok response, after) →
        s.blocked response.id = false
  | _ => True

/-- The stored session of a blocked user does not accept the refresh token that is presented. -/
def RefreshedUnblocked (env : AuthEnv) (s : BlockState) : TokenOp → Prop
  | .refreshTokens met userId refreshToken _ _ => ∀ user hash,
      givenSession s.db met userId = some (user, hash) → s.blocked user.id = true →
        env.argon2.verify hash refreshToken = false
  | _ => True

def FlagsBlocked (s : BlockState) : Prop :=
  ∀ userId, s.blocked userId = true →
    ∃ user ∈ s.db.users.rows, user.id = userId ∧ user.isBlocked = true

/-! ## What the calls do to the flag -/

/-- The flag stays where it is set, but for the users that are `spared`. -/
def KeepsFlags (spared : UserId → Prop) (db after : Db) : Prop :=
  ∀ user ∈ db.users.rows, user.isBlocked = true → ¬ spared user.id →
    ∃ row ∈ after.users.rows, row.id = user.id ∧ row.isBlocked = true

section Flags

variable {spared : UserId → Prop} {db mid after : Db}

theorem KeepsFlags.refl (db : Db) : KeepsFlags spared db db :=
  fun user stored flagged _ => ⟨user, stored, rfl, flagged⟩

theorem KeepsFlags.trans (first : KeepsFlags spared db mid) (second : KeepsFlags spared mid after) :
    KeepsFlags spared db after := by
  intro user stored flagged other
  obtain ⟨row, rowStored, same, rowFlagged⟩ := first user stored flagged other
  obtain ⟨last, lastStored, lastSame, lastFlagged⟩ :=
    second row rowStored rowFlagged (by rwa [same])
  exact ⟨last, lastStored, lastSame.trans same, lastFlagged⟩

theorem keepsFlags_of_update {wanted : User → Bool} {patch : Patch User.id User.email}
    (users : after.users = db.users.update wanted patch)
    (kept : ∀ user, user.isBlocked = true → ¬ spared user.id → wanted user = true →
      (patch.run user).isBlocked = true) : KeepsFlags spared db after := by
  intro user stored flagged other
  refine ⟨_, users ▸ Table.image_mem_update wanted patch stored, ?_⟩
  split
  · exact ⟨patch.key_run user, kept user flagged other ‹_›⟩
  · exact ⟨rfl, flagged⟩

theorem keepsFlags_of_patch {wanted : User → Bool} {patch : Patch User.id User.email}
    (users : after.users = db.users.update wanted patch)
    (kept : ∀ user, (patch.run user).isBlocked = user.isBlocked) : KeepsFlags spared db after :=
  keepsFlags_of_update users fun user flagged _ _ => (kept user).trans flagged

theorem keepsFlags_of_added {new : User} (added : db.users.Added new after.users) :
    KeepsFlags spared db after :=
  fun user stored flagged _ => ⟨user, (added.mem user).mpr (Or.inl stored), rfl, flagged⟩

theorem keepsFlags_of_people (people : SamePeople db after) : KeepsFlags spared db after := by
  intro user stored flagged _
  obtain ⟨row, rowStored, same⟩ := people.kept user stored
  exact ⟨row, rowStored, same.id, same.blocked.trans flagged⟩

theorem keepsFlags_recalculatedAll (required : Nat) (ids : List UserId)
    (users : mid.users = db.users) :
    KeepsFlags spared db (ids.foldl (recalculated required) mid) := by
  have settled := UsersService.recalculatedAll_users required ids mid
  rw [users] at settled
  exact keepsFlags_of_patch settled fun user => UsersService.settled_isBlocked required _ user

theorem signedIn_keepsFlags (env : AuthEnv) (db : Db) (user : User) (salt : String) (now : Time) :
    KeepsFlags spared db (signedIn env db user salt now) :=
  keepsFlags_of_patch rfl fun _ => rfl

/-- Only `unblockUser` takes the flag from anybody. -/
theorem keepsFlags_of_effect {required : Nat} {op : ApiOp}
    (effect : TrustEffect required db op after) :
    KeepsFlags (fun userId => ∃ user, op = .users (.unblockUser userId user)) db after := by
  cases effect with
  | unchanged op => exact .refl db
  | tasks op _ people | requests op _ people => exact keepsFlags_of_people people
  | edited op userId patch mild => exact keepsFlags_of_patch rfl fun user => (mild user).blocked
  | unblocked targetId user =>
      refine keepsFlags_of_update rfl ?_
      intro row _ other hit
      have same : row.id = targetId := of_decide_eq_true hit
      exact absurd ⟨user, by rw [same]⟩ other
  | cleared targetId newLevel user admin stored => exact keepsFlags_of_patch rfl fun _ => rfl
  | created dto user users inserted => exact keepsFlags_of_added (Table.added_insert inserted)
  | registered dto token now users inserted =>
      exact keepsFlags_of_added (Table.added_insert inserted)
  | verified met token now user verifying => exact keepsFlags_of_patch rfl fun _ => rfl
  | vouched voucheeId user _ vouching vouched =>
      obtain ⟨vouches, inserted, rfl⟩ := vouched
      exact keepsFlags_recalculatedAll required [voucheeId] rfl
  | restored vouchId user vouch restoring =>
      exact keepsFlags_recalculatedAll required [vouch.voucheeId] rfl
  | revoked vouchId user vouch admin found =>
      exact keepsFlags_recalculatedAll required [vouch.voucheeId] rfl
  | blocked targetId user now admin =>
      have blocking : KeepsFlags (fun userId => ∃ other,
          (ApiOp.users (.blockUser targetId user now)) = .users (.unblockUser userId other)) db
          (UsersService.blocked db targetId now) :=
        keepsFlags_of_update rfl fun _ _ _ _ => rfl
      exact blocking.trans (keepsFlags_recalculatedAll required _ rfl)
  | recalculated userId => exact keepsFlags_recalculatedAll required [userId] rfl

theorem blockUser_flags {required : Nat} {targetId : UserId} {admin user : User} {now : Time}
    (stored : user ∈ db.users.rows) (named : user.id = targetId)
    (finished : (UsersService.blockUser required targetId admin now).run db = (.ok (), after)) :
    ∃ row ∈ after.users.rows, row.id = targetId ∧ row.isBlocked = true := by
  rcases (UsersService.blockUser_guarded required targetId admin now db).cases with
    ⟨error, refused⟩ | ⟨_, final, ran, _, rfl⟩
  · rw [refused] at finished
    cases finished
  · rw [ran] at finished
    cases finished
    have image := Table.image_mem_update (fun user : User => user.id = targetId)
      (blockedPatch true) stored
    rw [if_pos (decide_eq_true named)] at image
    have later : KeepsFlags (fun _ => False) (UsersService.blocked db targetId now) _ :=
      keepsFlags_recalculatedAll required
        (UsersService.affectedBy (UsersService.blocked db targetId now) targetId) rfl
    obtain ⟨row, rowStored, same, flagged⟩ := later _ image rfl not_false
    exact ⟨row, rowStored, same.trans named, flagged⟩

end Flags

/-! ## One call -/

section Calls

variable {env : AuthEnv} {required : Nat} {s : BlockState}

theorem flagsBlocked_later {db : Db} (flags : FlagsBlocked s)
    (keeps : KeepsFlags (fun _ => False) s.db db) : FlagsBlocked { s with db := db } := by
  intro userId blocked
  obtain ⟨user, stored, rfl, flagged⟩ := flags userId blocked
  exact keeps user stored flagged not_false

theorem flagsBlocked_blockUser (flags : FlagsBlocked s) (targetId : UserId) (admin : User)
    (now : Time) : FlagsBlocked (s.called required (.users (.blockUser targetId admin now))) := by
  have keeps := keepsFlags_of_effect
    (ApiOp.trustEffect required s.db (.users (.blockUser targetId admin now)))
  rcases (UsersService.blockUser_guarded required targetId admin now s.db).cases with
    ⟨error, refused⟩ | ⟨_, after, finished, _⟩
  · simp only [BlockState.called, refused]
    exact flags
  · have same : ApiOp.step required s.db (.users (.blockUser targetId admin now)) = after :=
      congrArg Prod.snd finished
    rw [same] at keeps
    have later : FlagsBlocked { s with db := after } :=
      flagsBlocked_later flags fun user stored flagged _ =>
        keeps user stored flagged (by rintro ⟨_, ⟨⟩⟩)
    simp only [BlockState.called, finished]
    split
    · next known =>
      intro userId blocked
      by_cases here : userId = targetId
      · subst here
        obtain ⟨row, found⟩ := Option.isSome_iff_exists.mp known
        obtain ⟨stored, named⟩ := Db.findUser_some found
        exact blockUser_flags stored named finished
      · simp only [Function.update_of_ne here] at blocked
        exact later userId blocked
    · exact later

theorem flagsBlocked_unblockUser (flags : FlagsBlocked s) (targetId : UserId) (admin : User) :
    FlagsBlocked (s.called required (.users (.unblockUser targetId admin))) := by
  have keeps := keepsFlags_of_effect
    (ApiOp.trustEffect required s.db (.users (.unblockUser targetId admin)))
  rcases (UsersService.unblockUser_guarded targetId admin s.db).cases with
    ⟨error, refused⟩ | ⟨_, after, finished, _⟩
  · simp only [BlockState.called, refused]
    exact flags
  · have same : ApiOp.step required s.db (.users (.unblockUser targetId admin)) = after :=
      congrArg Prod.snd finished
    rw [same] at keeps
    simp only [BlockState.called, finished]
    intro userId blocked
    have apart : userId ≠ targetId := by
      rintro rfl
      simp at blocked
    simp only [Function.update_of_ne apart] at blocked
    obtain ⟨user, stored, rfl, flagged⟩ := flags userId blocked
    refine keeps user stored flagged ?_
    rintro ⟨_, named⟩
    cases named
    exact apart rfl

theorem flagsBlocked_called (flags : FlagsBlocked s) (op : ApiOp) :
    FlagsBlocked (s.called required op) := by
  have keeps := keepsFlags_of_effect (ApiOp.trustEffect required s.db op)
  unfold BlockState.called
  split
  · exact flagsBlocked_blockUser flags _ _ _
  · exact @flagsBlocked_unblockUser required s flags _ _
  · next other _ never =>
    exact flagsBlocked_later flags fun user stored flagged _ =>
      keeps user stored flagged fun ⟨admin, named⟩ => never _ admin named

theorem flagsBlocked_step (flags : FlagsBlocked s) (op : TokenOp) :
    FlagsBlocked (s.step env required op) := by
  cases op with
  | register dto password passwordSalt token salt now =>
      apply flagsBlocked_later flags
      rcases registerAccount_run env dto password passwordSalt token salt now s.db with
        ⟨error, refused⟩ | ⟨users, added, finished⟩
      · rw [refused]
        exact .refl s.db
      · rw [finished]
        have stored : KeepsFlags (fun _ => False) s.db { s.db with users := users } :=
          keepsFlags_of_added added
        exact stored.trans (signedIn_keepsFlags env _ _ salt now)
  | login dto salt now =>
      apply flagsBlocked_later flags
      have ran := login_run env dto salt now s.db
      cases found : loginUser env s.db dto with
      | none =>
          rw [found] at ran
          obtain ⟨error, refused⟩ := ran
          rw [refused]
          exact .refl s.db
      | some user =>
          rw [found] at ran
          rw [ran]
          exact signedIn_keepsFlags env s.db user salt now
  | refreshTokens met userId refreshToken salt now =>
      apply flagsBlocked_later flags
      have ran := refreshTokens_run_given env met userId refreshToken salt now s.db
      cases found : givenSession s.db met userId with
      | none =>
          rw [found] at ran
          obtain ⟨error, refused⟩ := ran
          rw [refused]
          exact .refl s.db
      | some session =>
          obtain ⟨user, hash⟩ := session
          simp only [found] at ran
          split at ran
          · rw [ran]
            exact signedIn_keepsFlags env s.db user salt now
          · obtain ⟨error, refused⟩ := ran
            rw [refused]
            exact keepsFlags_of_patch rfl fun _ => rfl
  | logout userId => exact flagsBlocked_later flags (keepsFlags_of_patch rfl fun _ => rfl)
  | changePassword userId dto salt =>
      apply flagsBlocked_later flags
      rcases changePassword_ran env userId dto salt s.db with
        ⟨error, refused⟩ | ⟨user, message, _, finished⟩
      · rw [refused]
        exact .refl s.db
      · rw [finished]
        exact keepsFlags_of_patch rfl fun _ => rfl
  | requestPasswordReset email code now =>
      apply flagsBlocked_later flags
      rw [requestPasswordReset_run]
      cases s.db.findByEmail email with
      | none => exact .refl s.db
      | some user => exact keepsFlags_of_patch rfl fun _ => rfl
  | verifyResetCode email code token now =>
      apply flagsBlocked_later flags
      have ran := verifyResetCode_run email code token now s.db
      cases found : codeUser s.db email code now with
      | none =>
          rw [found] at ran
          obtain ⟨error, refused⟩ := ran
          rw [refused]
          exact .refl s.db
      | some user =>
          rw [found] at ran
          rw [ran]
          exact keepsFlags_of_patch rfl fun _ => rfl
  | resetPassword token newPassword salt now =>
      apply flagsBlocked_later flags
      have ran := resetPassword_run env token newPassword salt now s.db
      cases found : tokenUser s.db token now with
      | none =>
          rw [found] at ran
          obtain ⟨error, refused⟩ := ran
          rw [refused]
          exact .refl s.db
      | some user =>
          rw [found] at ran
          rw [ran]
          exact keepsFlags_of_patch rfl fun _ => rfl
  | api op => exact flagsBlocked_called flags op

theorem login_refusesBlocked (flags : FlagsBlocked s) (dto : LoginDto) (salt : String)
    (now : Time) : RefusesBlocked env s (.login dto salt now) := by
  intro response after finished
  have ran := login_run env dto salt now s.db
  cases found : loginUser env s.db dto with
  | none =>
      rw [found] at ran
      obtain ⟨error, refused⟩ := ran
      rw [refused] at finished
      cases finished
  | some user =>
      rw [found] at ran
      rw [ran] at finished
      cases finished
      have free : user.isBlocked = false :=
        (of_decide_eq_true (Option.filter_eq_some_iff.mp found).2).1
      by_contra blocked
      obtain ⟨row, stored, same, flagged⟩ := flags user.id (Bool.not_eq_false _ ▸ blocked)
      rw [Table.eq_of_key stored (loginUser_stored env found) same, free] at flagged
      cases flagged

/-- `refreshTokens` issues tokens whenever the session accepts the token. -/
theorem refreshTokens_refusesBlocked_iff (met : OrderBy fun _ _ : User => True)
    (userId : BodyValue UserId) (refreshToken salt : String) (now : Time) :
    RefusesBlocked env s (.refreshTokens met userId refreshToken salt now) ↔
      RefreshedUnblocked env s (.refreshTokens met userId refreshToken salt now) := by
  have ran := refreshTokens_run_given env met userId refreshToken salt now s.db
  cases found : givenSession s.db met userId with
  | none =>
      rw [found] at ran
      obtain ⟨error, refused⟩ := ran
      refine iff_of_true ?_ ?_
      · intro response after finished
        rw [refused] at finished
        cases finished
      · intro user hash given
        rw [found] at given
        cases given
  | some session =>
      obtain ⟨user, hash⟩ := session
      simp only [found] at ran
      constructor
      · intro refuses other otherHash given blocked
        rw [found] at given
        cases given
        by_contra verified
        rw [if_pos (Bool.not_eq_false _ ▸ verified)] at ran
        have free : s.blocked user.id = false := refuses _ _ ran
        rw [blocked] at free
        cases free
      · intro unblocked response after finished
        split at ran
        · next verified =>
          rw [ran] at finished
          cases finished
          by_contra blocked
          have refused := unblocked user hash found (Bool.not_eq_false _ ▸ blocked)
          rw [verified] at refused
          cases refused
        · obtain ⟨error, refused⟩ := ran
          rw [refused] at finished
          cases finished

theorem refusesBlocked_iff (flags : FlagsBlocked s) (op : TokenOp) :
    RefusesBlocked env s op ↔ RefreshedUnblocked env s op := by
  cases op with
  | login dto salt now => exact iff_of_true (login_refusesBlocked flags dto salt now) trivial
  | refreshTokens met userId refreshToken salt now =>
      exact refreshTokens_refusesBlocked_iff met userId refreshToken salt now
  | _ => exact Iff.rfl

end Calls

/-- From being blocked to being unblocked a user gets no tokens, exactly if nobody presents the
refresh token of a session that a blocked user still has. -/
theorem refusesBlocked_throughout_iff (env : AuthEnv) (required : Nat) (db : Db)
    (ops : List TokenOp) :
    Throughout (BlockState.step env required) (RefusesBlocked env) (.start db) ops ↔
      Throughout (BlockState.step env required) (RefreshedUnblocked env) (.start db) ops := by
  apply throughout_congr_of (I := FlagsBlocked)
  · intro s op flags
    exact flagsBlocked_step flags op
  · intro s op flags
    exact refusesBlocked_iff flags op
  · intro userId blocked
    cases blocked

def intruder : RegisterDto where
  email := "intruder@example.org"
  fullName := "Новий волонтер"
  systemRole := none
  allowed := RegisterDto.noRole_allowed

def intruderToken : String :=
  refreshTokenOf plainTextEnv
    (newAccount plainTextEnv intruder "Пароль01" "salt" "letter" 1767225600000 5) 1767225600000

/-- A user registers and is blocked a minute later. -/
def intruderBlocked : List TokenOp :=
  [.register intruder "Пароль01" "salt" "letter" "pepper" 1767225600000,
    .api (.users (.blockUser 5 firstAdmin 1767225660000))]

/-- He presents his refresh token, and gets new ones. -/
theorem refusesBlocked_fails :
    ¬ Throughout (BlockState.step plainTextEnv 2) (RefusesBlocked plainTextEnv)
      (.start (exampleBoard .local))
      (intruderBlocked ++
        [.refreshTokens OrderBy.asStored (.value 5) intruderToken "thyme" 1767225720000]) := by
  intro throughout
  have refuses := throughout_iff.mp throughout intruderBlocked _ [] rfl
  have accepted : ((refreshTokens plainTextEnv OrderBy.asStored (.value 5) intruderToken "thyme"
      1767225720000).run
      (execute (BlockState.step plainTextEnv 2) (.start (exampleBoard .local))
        intruderBlocked).db).1.toOption.map AuthResponse.id = some 5 := by
    decide +kernel
  have blocked : (execute (BlockState.step plainTextEnv 2) (.start (exampleBoard .local))
      intruderBlocked).blocked 5 = true := by
    decide +kernel
  obtain ⟨response, given, same⟩ := Option.map_eq_some_iff.mp accepted
  cases finished : (refreshTokens plainTextEnv OrderBy.asStored (.value 5) intruderToken "thyme"
      1767225720000).run (execute (BlockState.step plainTextEnv 2) (.start (exampleBoard .local))
        intruderBlocked).db with
  | mk result after =>
      rw [finished] at given
      cases result with
      | error error => cases given
      | ok other =>
          obtain rfl := Option.some.inj given
          have free := refuses other after finished
          rw [same, blocked] at free
          cases free

end VolunteerApi
