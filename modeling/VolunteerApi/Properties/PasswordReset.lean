import VolunteerApi.Effects.ResetOutcomes
import VolunteerApi.Model.AuthLibraries
import Mathlib.Logic.Function.Basic

/-!
# The lifetimes of reset codes and tokens

The state of a run carries, next to the database, the last code issued for each user and all
issued tokens, each with the time of its issue and whether it was accepted.  Code and token
share one expiry column: a new code that is requested while a token is outstanding moves the
expiry of the token to that of the code.
-/

set_option autoImplicit false

namespace VolunteerApi

open Relational Programs AuthService
open UsersService (withUser)

inductive ResetOp where
  | requestPasswordReset (email code : String) (now : Time)
  | verifyResetCode (email code token : String) (now : Time)
  | resetPassword (token newPassword salt : String) (now : Time)

structure CodeIssue where
  code : String
  issuedAt : Time
  accepted : Bool
  deriving DecidableEq, Repr

structure TokenIssue where
  userId : UserId
  issuedAt : Time
  accepted : Bool
  deriving DecidableEq, Repr

structure ResetState where
  db : Db
  codes : UserId → Option CodeIssue
  tokens : String → Option TokenIssue

namespace ResetState

def start (db : Db) : ResetState := ⟨db, fun _ => none, fun _ => none⟩

/-- A new code takes the place of the last one, and is a separate issue even if it is equal. -/
def codeIssued (s : ResetState) (userId : UserId) (code : String) (now : Time) :
    UserId → Option CodeIssue :=
  Function.update s.codes userId (some ⟨code, now, false⟩)

def codeAccepted (s : ResetState) (userId : UserId) : UserId → Option CodeIssue :=
  Function.update s.codes userId
    ((s.codes userId).map fun issue => { issue with accepted := true })

def tokenIssued (s : ResetState) (token : String) (userId : UserId) (now : Time) :
    String → Option TokenIssue :=
  Function.update s.tokens token (some ⟨userId, now, false⟩)

def tokenAccepted (s : ResetState) (token : String) : String → Option TokenIssue :=
  Function.update s.tokens token
    ((s.tokens token).map fun issue => { issue with accepted := true })

def step (env : AuthEnv) (s : ResetState) : ResetOp → ResetState
  | .requestPasswordReset email code now =>
      { s with
        db := ((requestPasswordReset email code now).run s.db).2
        codes := match s.db.findByEmail email with
          | none => s.codes
          | some user => s.codeIssued user.id code now }
  | .verifyResetCode email code token now =>
      match (verifyResetCode email code token now).run s.db, s.db.findByEmail email with
      | (.ok response, after), some user =>
          { db := after
            codes := s.codeAccepted user.id
            tokens := s.tokenIssued response.token user.id now }
      | (_, after), _ => { s with db := after }
  | .resetPassword token newPassword salt now =>
      match (resetPassword env token newPassword salt now).run s.db with
      | (.ok _, after) => { s with db := after, tokens := s.tokenAccepted token }
      | (.error _, after) => { s with db := after }

end ResetState

/-- A code is accepted within ten minutes of its issue, a token within five minutes of its own,
and neither was accepted before. -/
structure Lifetimes (env : AuthEnv) (s : ResetState) : Prop where
  code : ∀ email code token now response after,
    (verifyResetCode email code token now).run s.db = (.ok response, after) →
      ∃ user issue, s.db.findByEmail email = some user ∧ s.codes user.id = some issue ∧
        issue.code = code ∧ issue.accepted = false ∧ now ≤ issue.issuedAt + 10 * 60 * 1000
  token : ∀ token newPassword salt now message after,
    (resetPassword env token newPassword salt now).run s.db = (.ok message, after) →
      ∃ issue, s.tokens token = some issue ∧ issue.accepted = false ∧
        now ≤ issue.issuedAt + 5 * 60 * 1000

/-- The uuid generated for the call is not among the tokens issued before. -/
def FreshToken (s : ResetState) : ResetOp → Prop
  | .verifyResetCode _ _ token _ => s.tokens token = none
  | _ => True

/-- A new code is requested only for a user without an outstanding token, or so much earlier
than the token was issued that the code expires first. -/
def RequestedWithoutToken (s : ResetState) : ResetOp → Prop
  | .requestPasswordReset email _ now =>
      ∀ user, s.db.findByEmail email = some user → ∀ token, user.passwordResetToken = some token →
        ∀ issue, s.tokens token = some issue →
          now + 10 * 60 * 1000 ≤ issue.issuedAt + 5 * 60 * 1000
  | _ => True

/-! ## What the state says about the database -/

structure ResetTracked (s : ResetState) : Prop where
  code : ∀ user ∈ s.db.users.rows, ∀ code, truthy user.passwordResetCode = some code →
    ∀ expires, user.passwordResetExpires = some expires →
      ∃ issuedAt, s.codes user.id = some ⟨code, issuedAt, false⟩ ∧ expires ≤ issuedAt + codeTtl
  token : ∀ user ∈ s.db.users.rows, ∀ token, user.passwordResetToken = some token →
    ∃ issuedAt, s.tokens token = some ⟨user.id, issuedAt, false⟩

/-- The shared column does not reach beyond the lifetime of an outstanding token. -/
def TokensInTime (s : ResetState) : Prop :=
  ∀ user ∈ s.db.users.rows, ∀ token, user.passwordResetToken = some token →
    ∀ issue, s.tokens token = some issue →
      ∀ expires, user.passwordResetExpires = some expires → expires ≤ issue.issuedAt + tokenTtl

section Tracked

variable {env : AuthEnv} {s : ResetState}

theorem unexpired_iff {user : User} {now : Time} :
    unexpired user now = true ↔
      ∃ expires, user.passwordResetExpires = some expires ∧ now ≤ expires := by
  simp [unexpired, Option.any_eq_true]

theorem findByResetToken_of_mem (tracked : ResetTracked s) {user : User} {token : String}
    (stored : user ∈ s.db.users.rows) (outstanding : user.passwordResetToken = some token) :
    s.db.findByResetToken token = some user := by
  apply Table.findOne_eq_some stored (decide_eq_true outstanding)
  intro other otherStored same
  obtain ⟨_, here⟩ := tracked.token user stored token outstanding
  obtain ⟨_, there⟩ := tracked.token other otherStored token (of_decide_eq_true same)
  rw [here] at there
  exact Table.eq_of_key otherStored stored (congrArg TokenIssue.userId (Option.some.inj there)).symm

theorem lifetimes_iff (tracked : ResetTracked s) : Lifetimes env s ↔ TokensInTime s := by
  constructor
  · intro lifetimes user stored token outstanding issue issued expires ends
    have accepted : tokenUser s.db token expires = some user := by
      rw [tokenUser, findByResetToken_of_mem tracked stored outstanding]
      exact Option.filter_some_pos (unexpired_iff.mpr ⟨expires, ends, Nat.le_refl _⟩)
    have ran := resetPassword_run env token "" "" expires s.db
    rw [accepted] at ran
    obtain ⟨other, same, _, inTime⟩ := lifetimes.token _ _ _ _ _ _ ran
    obtain rfl := Option.some.inj (same.symm.trans issued)
    exact inTime
  · intro inTime
    constructor
    · intro email code token now response after finished
      have ran := verifyResetCode_run email code token now s.db
      cases found : codeUser s.db email code now with
      | none =>
          rw [found] at ran
          obtain ⟨error, refused⟩ := ran
          rw [refused] at finished
          cases finished
      | some user =>
          obtain ⟨named, checks⟩ := Option.filter_eq_some_iff.mp found
          obtain ⟨right, notLate⟩ := of_decide_eq_true checks
          obtain ⟨expires, ends, early⟩ := unexpired_iff.mp notLate
          obtain ⟨issuedAt, issued, bound⟩ :=
            tracked.code user (Table.findOne_mem named).1 code right expires ends
          exact ⟨user, _, named, issued, rfl, rfl, Nat.le_trans early bound⟩
    · intro token newPassword salt now message after finished
      have ran := resetPassword_run env token newPassword salt now s.db
      cases found : tokenUser s.db token now with
      | none =>
          rw [found] at ran
          obtain ⟨error, refused⟩ := ran
          rw [refused] at finished
          cases finished
      | some user =>
          obtain ⟨named, notLate⟩ := Option.filter_eq_some_iff.mp found
          obtain ⟨stored, outstanding⟩ := Table.findOne_mem named
          obtain ⟨expires, ends, early⟩ := unexpired_iff.mp notLate
          have held : user.passwordResetToken = some token := of_decide_eq_true outstanding
          obtain ⟨issuedAt, issued⟩ := tracked.token user stored token held
          exact ⟨_, issued, rfl,
            Nat.le_trans early (inTime user stored token held _ issued expires ends)⟩

/-! ## One call -/

/-- A new code for a user: only the token of that user can run out of time. -/
theorem requested (tracked : ResetTracked s) {user : User} (stored : user ∈ s.db.users.rows)
    (code : String) (now : Time) {after : ResetState}
    (db : after.db = withUser s.db user.id (resetCodePatch code now))
    (codes : after.codes = s.codeIssued user.id code now) (tokens : after.tokens = s.tokens) :
    KeepsIff ResetTracked TokensInTime s after
      (∀ token, user.passwordResetToken = some token → ∀ issue, s.tokens token = some issue →
        now + codeTtl ≤ issue.issuedAt + tokenTtl) := by
  refine ⟨⟨?_, ?_⟩, fun inTime => ⟨?_, ?_⟩⟩
  · intro row member other right expires ends
    rw [db, mem_withUser stored] at member
    rw [codes, ResetState.codeIssued]
    rcases member with rfl | ⟨member, apart⟩
    · obtain rfl := Option.some.inj ends
      obtain ⟨sameCode, _⟩ := Option.filter_eq_some_iff.mp right
      obtain rfl := Option.some.inj sameCode
      exact ⟨now, Function.update_self _ _ _, Nat.le_refl _⟩
    · rw [Function.update_of_ne apart]
      exact tracked.code row member other right expires ends
  · intro row member token outstanding
    rw [db, mem_withUser stored] at member
    rw [tokens]
    rcases member with rfl | ⟨member, _⟩
    · exact tracked.token user stored token outstanding
    · exact tracked.token row member token outstanding
  · intro inTimeAfter token outstanding issue issued
    apply inTimeAfter ((resetCodePatch code now).run user) _ token outstanding issue _ _ rfl
    · rw [db, mem_withUser stored]
      exact Or.inl rfl
    · rw [tokens]
      exact issued
  · intro bound row member token outstanding issue issued expires ends
    rw [db, mem_withUser stored] at member
    rw [tokens] at issued
    rcases member with rfl | ⟨member, _⟩
    · obtain rfl := Option.some.inj ends
      exact bound token outstanding issue issued
    · exact inTime row member token outstanding issue issued expires ends

/-- The code of the user is used up, and a fresh token is outstanding. -/
theorem verified (tracked : ResetTracked s) {user : User} (stored : user ∈ s.db.users.rows)
    {token : String} (fresh : s.tokens token = none) (now : Time) {after : ResetState}
    (db : after.db = withUser s.db user.id (resetTokenPatch token now))
    (codes : after.codes = s.codeAccepted user.id)
    (tokens : after.tokens = s.tokenIssued token user.id now) :
    KeepsIff ResetTracked TokensInTime s after True := by
  have older : ∀ row ∈ s.db.users.rows, ∀ other, row.passwordResetToken = some other →
      after.tokens other = s.tokens other := by
    intro row member other outstanding
    have apart : other ≠ token := by
      rintro rfl
      obtain ⟨_, issued⟩ := tracked.token row member other outstanding
      rw [fresh] at issued
      cases issued
    rw [tokens, ResetState.tokenIssued, Function.update_of_ne apart]
  have new : after.tokens token = some ⟨user.id, now, false⟩ := by
    rw [tokens, ResetState.tokenIssued, Function.update_self]
  refine keepsIff_of_kept ⟨?_, ?_⟩ ?_ trivial
  · intro row member code right expires ends
    rw [db, mem_withUser stored] at member
    rcases member with rfl | ⟨member, apart⟩
    · cases right
    · rw [codes, ResetState.codeAccepted, Function.update_of_ne apart]
      exact tracked.code row member code right expires ends
  · intro row member other outstanding
    rw [db, mem_withUser stored] at member
    rcases member with rfl | ⟨member, _⟩
    · obtain rfl := Option.some.inj outstanding
      exact ⟨now, new⟩
    · rw [older row member other outstanding]
      exact tracked.token row member other outstanding
  · intro inTime row member other outstanding issue issued expires ends
    rw [db, mem_withUser stored] at member
    rcases member with rfl | ⟨member, _⟩
    · obtain rfl := Option.some.inj outstanding
      obtain rfl := Option.some.inj ends
      obtain rfl := Option.some.inj (new.symm.trans issued)
      exact Nat.le_refl _
    · rw [older row member other outstanding] at issued
      exact inTime row member other outstanding issue issued expires ends

/-- The token of the user is used up. -/
theorem passwordSet (tracked : ResetTracked s) {user : User} (stored : user ∈ s.db.users.rows)
    {token : String} (outstanding : user.passwordResetToken = some token) (passwordHash : String)
    {after : ResetState} (db : after.db = withUser s.db user.id (newPasswordPatch passwordHash))
    (codes : after.codes = s.codes) (tokens : after.tokens = s.tokenAccepted token) :
    KeepsIff ResetTracked TokensInTime s after True := by
  have others : ∀ row ∈ s.db.users.rows, row.id ≠ user.id → ∀ other,
      row.passwordResetToken = some other → after.tokens other = s.tokens other := by
    intro row member apart other held
    have distinct : other ≠ token := by
      rintro rfl
      have same := (findByResetToken_of_mem tracked member held).symm.trans
        (findByResetToken_of_mem tracked stored outstanding)
      exact apart (congrArg User.id (Option.some.inj same))
    rw [tokens, ResetState.tokenAccepted, Function.update_of_ne distinct]
  refine keepsIff_of_kept ⟨?_, ?_⟩ ?_ trivial
  · intro row member code right expires ends
    rw [db, mem_withUser stored] at member
    rw [codes]
    rcases member with rfl | ⟨member, _⟩
    · cases ends
    · exact tracked.code row member code right expires ends
  · intro row member other held
    rw [db, mem_withUser stored] at member
    rcases member with rfl | ⟨member, apart⟩
    · cases held
    · rw [others row member apart other held]
      exact tracked.token row member other held
  · intro inTime row member other held issue issued expires ends
    rw [db, mem_withUser stored] at member
    rcases member with rfl | ⟨member, apart⟩
    · cases held
    · rw [others row member apart other held] at issued
      exact inTime row member other held issue issued expires ends

/-! ## The runs -/

theorem requestPasswordReset_keepsIff (tracked : ResetTracked s) (email code : String)
    (now : Time) :
    KeepsIff ResetTracked TokensInTime s (s.step env (.requestPasswordReset email code now))
      (RequestedWithoutToken s (.requestPasswordReset email code now)) := by
  have ran := requestPasswordReset_run email code now s.db
  cases found : s.db.findByEmail email with
  | none =>
      rw [found] at ran
      have same : s.step env (.requestPasswordReset email code now) = s := by
        simp only [ResetState.step, ran, found]
      rw [same]
      exact keepsIff_self tracked (by simp [RequestedWithoutToken, found])
  | some user =>
      rw [found] at ran
      have codes : (s.step env (.requestPasswordReset email code now)).codes =
          s.codeIssued user.id code now := by
        simp only [ResetState.step, found]
      have asked : RequestedWithoutToken s (.requestPasswordReset email code now) ↔
          ∀ token, user.passwordResetToken = some token →
            ∀ issue, s.tokens token = some issue →
              now + codeTtl ≤ issue.issuedAt + tokenTtl := by
        simp only [RequestedWithoutToken, found, Option.some.injEq, forall_eq']
        rfl
      rw [asked]
      exact requested tracked (Table.findOne_mem found).1 code now ran codes rfl

theorem verifyResetCode_keepsIff (tracked : ResetTracked s) (email code : String)
    {token : String} (fresh : s.tokens token = none) (now : Time) :
    KeepsIff ResetTracked TokensInTime s (s.step env (.verifyResetCode email code token now))
      True := by
  have ran := verifyResetCode_run email code token now s.db
  cases found : codeUser s.db email code now with
  | none =>
      rw [found] at ran
      obtain ⟨error, refused⟩ := ran
      have same : s.step env (.verifyResetCode email code token now) = s := by
        simp only [ResetState.step, refused]
      rw [same]
      exact keepsIff_self tracked trivial
  | some user =>
      rw [found] at ran
      have named := (Option.filter_eq_some_iff.mp found).1
      have stepped : s.step env (.verifyResetCode email code token now) =
          { db := withUser s.db user.id (resetTokenPatch token now)
            codes := s.codeAccepted user.id
            tokens := s.tokenIssued token user.id now } := by
        simp only [ResetState.step, ran, named]
      rw [stepped]
      exact verified tracked (Table.findOne_mem named).1 fresh now rfl rfl rfl

theorem resetPassword_keepsIff (tracked : ResetTracked s) (token newPassword salt : String)
    (now : Time) :
    KeepsIff ResetTracked TokensInTime s (s.step env (.resetPassword token newPassword salt now))
      True := by
  have ran := resetPassword_run env token newPassword salt now s.db
  cases found : tokenUser s.db token now with
  | none =>
      rw [found] at ran
      obtain ⟨error, refused⟩ := ran
      have same : s.step env (.resetPassword token newPassword salt now) = s := by
        simp only [ResetState.step, refused]
      rw [same]
      exact keepsIff_self tracked trivial
  | some user =>
      rw [found] at ran
      obtain ⟨stored, outstanding⟩ := Table.findOne_mem (Option.filter_eq_some_iff.mp found).1
      have stepped : s.step env (.resetPassword token newPassword salt now) =
          { s with
            db := withUser s.db user.id (newPasswordPatch (env.argon2.hash salt newPassword))
            tokens := s.tokenAccepted token } := by
        simp only [ResetState.step, ran]
      rw [stepped]
      exact passwordSet tracked stored (of_decide_eq_true outstanding) _ rfl rfl rfl

theorem lifetimes_step (op : ResetOp) (tracked : ResetTracked s) (fresh : FreshToken s op) :
    KeepsIff ResetTracked TokensInTime s (s.step env op) (RequestedWithoutToken s op) := by
  cases op with
  | requestPasswordReset email code now =>
      exact requestPasswordReset_keepsIff tracked email code now
  | verifyResetCode email code token now =>
      exact verifyResetCode_keepsIff tracked email code fresh now
  | resetPassword token newPassword salt now =>
      exact resetPassword_keepsIff tracked token newPassword salt now

theorem resetTracked_start {db : Db}
    (notAsked : ∀ user ∈ db.users.rows,
      user.passwordResetCode = none ∧ user.passwordResetToken = none) :
    ResetTracked (.start db) where
  code := by
    intro user stored code right
    rw [(notAsked user stored).1] at right
    cases right
  token := by
    intro user stored token outstanding
    rw [(notAsked user stored).2] at outstanding
    cases outstanding

end Tracked

/-- In a run that starts without resets under way and draws fresh tokens, codes and tokens keep
their lifetimes and are accepted once exactly if no code is requested that outlives an
outstanding token of its user. -/
theorem lifetimes_always_iff (env : AuthEnv) {db : Db}
    (notAsked : ∀ user ∈ db.users.rows,
      user.passwordResetCode = none ∧ user.passwordResetToken = none)
    {ops : List ResetOp}
    (fresh : Throughout (ResetState.step env) FreshToken (.start db) ops) :
    Always (ResetState.step env) (Lifetimes env) (.start db) ops ↔
      Throughout (ResetState.step env) RequestedWithoutToken (.start db) ops := by
  have tracked : ResetTracked (.start db) := resetTracked_start notAsked
  have bounded : TokensInTime (.start db) := by
    intro user stored token outstanding
    rw [(notAsked user stored).2] at outstanding
    cases outstanding
  apply always_iff_of_keepsIff (I := ResetTracked) _ tracked ((lifetimes_iff tracked).mpr bounded)
    fresh
  intro s op tracked fresh
  obtain ⟨trackedAfter, exactly⟩ := lifetimes_step op tracked fresh
  refine ⟨trackedAfter, fun lifetimes => ?_⟩
  rw [lifetimes_iff trackedAfter]
  exact exactly ((lifetimes_iff tracked).mp lifetimes)

/-- A code is verified within a minute, and a minute later another code is requested. -/
def askedAgain : List ResetOp :=
  [.requestPasswordReset "first@example.org" "482916" 1767225600000,
    .verifyResetCode "first@example.org" "482916" "token" 1767225660000,
    .requestPasswordReset "first@example.org" "715204" 1767225720000]

theorem noResets_board (level : ClearanceLevel) :
    ∀ user ∈ (exampleBoard level).users.rows,
      user.passwordResetCode = none ∧ user.passwordResetToken = none := by
  intro user stored
  change user ∈ [author, firstVolunteer, secondVolunteer, firstAdmin, secondAdmin] at stored
  simp only [List.mem_cons, List.not_mem_nil, or_false] at stored
  rcases stored with rfl | rfl | rfl | rfl | rfl <;> exact ⟨rfl, rfl⟩

theorem askedAgain_fresh :
    Throughout (ResetState.step plainTextEnv) FreshToken (.start (exampleBoard .local))
      askedAgain :=
  ⟨trivial, rfl, trivial, trivial⟩

theorem lifetimes_always_iff_witness :
    Always (ResetState.step plainTextEnv) (Lifetimes plainTextEnv) (.start (exampleBoard .local))
        askedAgain ↔
      Throughout (ResetState.step plainTextEnv) RequestedWithoutToken
        (.start (exampleBoard .local)) askedAgain :=
  lifetimes_always_iff plainTextEnv (noResets_board .local) askedAgain_fresh

/-- The token is accepted ten minutes after its issue. -/
theorem lifetimes_always_fails :
    ¬ Always (ResetState.step plainTextEnv) (Lifetimes plainTextEnv)
      (.start (exampleBoard .local)) askedAgain := by
  intro always
  have late : (tokenUser (execute (ResetState.step plainTextEnv) (.start (exampleBoard .local))
      askedAgain).db "token" 1767226260000).isSome = true := by
    decide +kernel
  have issued : (execute (ResetState.step plainTextEnv) (.start (exampleBoard .local))
      askedAgain).tokens "token" = some ⟨1, 1767225660000, false⟩ := by
    decide +kernel
  obtain ⟨user, accepted⟩ := Option.isSome_iff_exists.mp late
  have ran := resetPassword_run plainTextEnv "token" "" "" 1767226260000
    (execute (ResetState.step plainTextEnv) (.start (exampleBoard .local)) askedAgain).db
  rw [accepted] at ran
  obtain ⟨issue, same, _, inTime⟩ := (always_end always).token _ _ _ _ _ _ ran
  obtain rfl := Option.some.inj (issued.symm.trans same)
  exact absurd inTime (by decide)

end VolunteerApi
