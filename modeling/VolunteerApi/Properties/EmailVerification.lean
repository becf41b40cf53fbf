import VolunteerApi.Effects.ResetOutcomes
import VolunteerApi.Effects.TrustEffects
import VolunteerApi.Programs.Runs
import Mathlib.Logic.Function.Basic

/-!
# Who verifies an email address

The state of a run carries, next to the database, the last verification token generated for
each user, with the time of its issue and whether it was used.  A request that names a token
reaches a user who still has it.  A request without a token reaches the user whom the server
meets first, whatever letter was sent to him.
-/

set_option autoImplicit false

namespace VolunteerApi

open Relational Programs AuthService
open UsersService (withUser)

structure VerificationIssue where
  token : String
  issuedAt : Time
  used : Bool
  deriving DecidableEq, Repr

structure VerificationState where
  db : Db
  issued : UserId → Option VerificationIssue

namespace VerificationState

def tokenIssued (s : VerificationState) (userId : UserId) (token : String) (now : Time) :
    UserId → Option VerificationIssue :=
  Function.update s.issued userId (some ⟨token, now, false⟩)

def tokenUsed (s : VerificationState) (userId : UserId) : UserId → Option VerificationIssue :=
  Function.update s.issued userId
    ((s.issued userId).map fun issue => { issue with used := true })

def step (s : VerificationState) : AuthOp → VerificationState
  | .register dto token now =>
      match (AuthService.register dto token now).run s.db with
      | (.ok user, after) => ⟨after, s.tokenIssued user.id token now⟩
      | (.error _, after) => { s with db := after }
  | .verifyEmail met token now =>
      match (AuthService.verifyEmail met token now).run s.db,
        s.db.findByVerificationToken met token with
      | (.ok _, after), some user => ⟨after, s.tokenUsed user.id⟩
      | (_, after), _ => { s with db := after }
  | .resendVerificationEmail userId token now =>
      match (AuthService.resendVerificationEmail userId token now).run s.db with
      | (.ok _, after) => ⟨after, s.tokenIssued userId token now⟩
      | (.error _, after) => { s with db := after }

end VerificationState

def Db.isVerified (db : Db) (userId : UserId) : Prop :=
  ∃ user ∈ db.users.rows, user.id = userId ∧ user.isEmailVerified = true

/-- The request carries the last token of the user, which was not used and is less than 48
hours old. -/
def CarriesToken (s : VerificationState) (userId : UserId) (token : Option String) (now : Time) :
    Prop :=
  ∃ issue, s.issued userId = some issue ∧ token = some issue.token ∧ issue.used = false ∧
    now ≤ issue.issuedAt + 48 * 60 * 60 * 1000

/-- Only a request that carries his token verifies a user, for the first time or again. -/
structure VerifiesByToken (s : VerificationState) (op : AuthOp) : Prop where
  becomes : ∀ userId, ¬ s.db.isVerified userId → (s.step op).db.isVerified userId →
    ∃ met token now, op = .verifyEmail met token now ∧ CarriesToken s userId token now
  accepted : ∀ met token now after, op = .verifyEmail met token now →
    (AuthService.verifyEmail met token now).run s.db = (.ok (), after) →
      ∃ user, s.db.findByVerificationToken met token = some user ∧
        CarriesToken s user.id token now

/-- At a request without a token, the verification of the user whom the server meets first has
expired, if there is a user. -/
def TokenNotMissing (s : VerificationState) : AuthOp → Prop
  | .verifyEmail met none now =>
      ∀ user, met.first s.db.users.rows = some user → tokenExpired user now = true
  | _ => True

/-- A stored token is the last one of its user, and was not used. -/
def VerificationTracked (s : VerificationState) : Prop :=
  ∀ user ∈ s.db.users.rows, ∀ token, user.emailVerificationToken = some token →
    ∃ issuedAt, s.issued user.id = some ⟨token, issuedAt, false⟩ ∧
      user.emailVerificationExpires = some (issuedAt + emailVerificationTtl)

/-! ## How the calls end -/

theorem findByVerificationToken_none (db : Db) (met : OrderBy fun _ _ : User => True) :
    db.findByVerificationToken met none = met.first db.users.rows := by
  simp [Db.findByVerificationToken, Table.find]

theorem verifyEmail_run (met : OrderBy fun _ _ : User => True) (token : Option String)
    (now : Time) (db : Db) :
    (∃ error, (verifyEmail met token now).run db = (.error error, db) ∧
        ∀ user, db.findByVerificationToken met token = some user →
          tokenExpired user now = true) ∨
      ∃ user, db.findByVerificationToken met token = some user ∧ tokenExpired user now = false ∧
        (verifyEmail met token now).run db = (.ok (), withUser db user.id verifiedPatch) := by
  simp only [verifyEmail, Prog.bind_eq, Prog.run_query_bind, Prog.run_orThrow_bind]
  cases found : db.findByVerificationToken met token with
  | none => exact Or.inl ⟨_, rfl, fun _ absent => by cases absent⟩
  | some user =>
      simp only [Prog.run_throwIf_bind]
      by_cases expired : tokenExpired user now = true
      · rw [if_pos expired]
        refine Or.inl ⟨_, rfl, ?_⟩
        rintro _ ⟨⟩
        exact expired
      · rw [if_neg expired]
        exact Or.inr ⟨user, rfl, Bool.not_eq_true _ ▸ expired, rfl⟩

theorem register_ran (dto : RegisterDto) (token : String) (now : Time) (db : Db) :
    (∃ error, (register dto token now).run db = (.error error, db)) ∨
      ∃ users, db.users.Added (newUser dto token now db.users.next) users ∧
        (register dto token now).run db =
          (.ok (newUser dto token now db.users.next), { db with users := users }) := by
  simp only [register, Prog.bind_eq, Prog.run_query_bind, Prog.run_throwIf_bind]
  split
  · exact Or.inl ⟨_, rfl⟩
  · split
    · exact Or.inl ⟨_, rfl⟩
    · rw [Prog.run_execOr]
      cases inserted : db.users.insert (newUser dto token now) with
      | none => exact Or.inl ⟨_, rfl⟩
      | some users => exact Or.inr ⟨users, Table.added_insert inserted, rfl⟩

theorem resendVerificationEmail_ran (userId : UserId) (token : String) (now : Time) (db : Db) :
    (∃ error, (resendVerificationEmail userId token now).run db = (.error error, db)) ∨
      ∃ user ∈ db.users.rows, user.id = userId ∧
        (resendVerificationEmail userId token now).run db =
          (.ok (), withUser db user.id (tokenPatch token now)) := by
  simp only [resendVerificationEmail, Prog.bind_eq, Prog.run_query_bind, Prog.run_orThrow_bind]
  cases found : db.findUser userId with
  | none => exact Or.inl ⟨_, rfl⟩
  | some user =>
      obtain ⟨stored, same⟩ := Db.findUser_some found
      simp only [Prog.run_throwIf_bind]
      split
      · exact Or.inl ⟨_, rfl⟩
      · exact Or.inr ⟨user, stored, same, rfl⟩

/-! ## One call -/

section Calls

variable {s after : VerificationState} {user : User}

theorem verified_of_withUser {db : Db} (stored : user ∈ db.users.rows)
    {patch : Patch User.id User.email} {userId : UserId}
    (now : (withUser db user.id patch).isVerified userId) (before : ¬ db.isVerified userId) :
    userId = user.id ∧ (patch.run user).isEmailVerified = true := by
  obtain ⟨row, member, rfl, verified⟩ := now
  rcases (mem_withUser stored row).mp member with rfl | ⟨old, _⟩
  · exact ⟨patch.key_run user, verified⟩
  · exact absurd ⟨row, old, rfl, verified⟩ before

theorem tracked_issued (tracked : VerificationTracked s) (stored : user ∈ s.db.users.rows)
    (token : String) (now : Time) :
    VerificationTracked
      ⟨withUser s.db user.id (tokenPatch token now), s.tokenIssued user.id token now⟩ := by
  intro row member held has
  rcases (mem_withUser stored row).mp member with rfl | ⟨old, apart⟩
  · obtain rfl := Option.some.inj has
    exact ⟨now, Function.update_self _ _ _, rfl⟩
  · obtain ⟨issuedAt, issued, expires⟩ := tracked row old held has
    exact ⟨issuedAt, (Function.update_of_ne apart _ _).trans issued, expires⟩

theorem tracked_used (tracked : VerificationTracked s) (stored : user ∈ s.db.users.rows) :
    VerificationTracked ⟨withUser s.db user.id verifiedPatch, s.tokenUsed user.id⟩ := by
  intro row member held has
  rcases (mem_withUser stored row).mp member with rfl | ⟨old, apart⟩
  · cases has
  · obtain ⟨issuedAt, issued, expires⟩ := tracked row old held has
    exact ⟨issuedAt, (Function.update_of_ne apart _ _).trans issued, expires⟩

theorem tracked_registered (tracked : VerificationTracked s) {dto : RegisterDto} {token : String}
    {now : Time} {users : Table User.id User.email}
    (added : s.db.users.Added (newUser dto token now s.db.users.next) users) :
    VerificationTracked
      ⟨{ s.db with users := users }, s.tokenIssued s.db.users.next token now⟩ := by
  intro row member held has
  rcases (added.mem row).mp member with old | rfl
  · obtain ⟨issuedAt, issued, expires⟩ := tracked row old held has
    exact ⟨issuedAt, (Function.update_of_ne (Table.key_ne_next old) _ _).trans issued, expires⟩
  · obtain rfl := Option.some.inj has
    exact ⟨now, Function.update_self _ _ _, rfl⟩

theorem carriesToken_of_found (tracked : VerificationTracked s)
    {met : OrderBy fun _ _ : User => True} {token : String} {now : Time}
    (found : s.db.findByVerificationToken met (some token) = some user)
    (inTime : tokenExpired user now = false) : CarriesToken s user.id (some token) now := by
  obtain ⟨stored, hit⟩ := findByVerificationToken_some found
  have held : user.emailVerificationToken = some token := by simpa using hit
  obtain ⟨issuedAt, issued, expires⟩ := tracked user stored token held
  rw [tokenExpired, expires, Option.any_some, decide_eq_false_iff_not, Nat.not_lt] at inTime
  exact ⟨⟨token, issuedAt, false⟩, issued, rfl, rfl, inTime⟩

theorem register_verifies (tracked : VerificationTracked s) (dto : RegisterDto) (token : String)
    (now : Time) :
    VerificationTracked (s.step (.register dto token now)) ∧
      VerifiesByToken s (.register dto token now) := by
  rcases register_ran dto token now s.db with ⟨error, refused⟩ | ⟨users, added, finished⟩
  · have same : s.step (.register dto token now) = s := by
      simp only [VerificationState.step, refused]
    refine ⟨by rw [same]; exact tracked, ⟨?_, ?_⟩⟩
    · intro userId before verified
      rw [same] at verified
      exact absurd verified before
    · rintro _ _ _ _ ⟨⟩
  · have stepped : s.step (.register dto token now) =
        ⟨{ s.db with users := users }, s.tokenIssued s.db.users.next token now⟩ := by
      simp only [VerificationState.step, finished]
      rfl
    refine ⟨by rw [stepped]; exact tracked_registered tracked added, ⟨?_, ?_⟩⟩
    · intro userId before verified
      rw [stepped] at verified
      obtain ⟨row, member, same, flag⟩ := verified
      rcases (added.mem row).mp member with old | rfl
      · exact absurd ⟨row, old, same, flag⟩ before
      · cases flag
    · rintro _ _ _ _ ⟨⟩

theorem resend_verifies (tracked : VerificationTracked s) (userId : UserId) (token : String)
    (now : Time) :
    VerificationTracked (s.step (.resendVerificationEmail userId token now)) ∧
      VerifiesByToken s (.resendVerificationEmail userId token now) := by
  rcases resendVerificationEmail_ran userId token now s.db with
    ⟨error, refused⟩ | ⟨user, stored, rfl, finished⟩
  · have same : s.step (.resendVerificationEmail userId token now) = s := by
      simp only [VerificationState.step, refused]
    refine ⟨by rw [same]; exact tracked, ⟨?_, ?_⟩⟩
    · intro userId before verified
      rw [same] at verified
      exact absurd verified before
    · rintro _ _ _ _ ⟨⟩
  · have stepped : s.step (.resendVerificationEmail user.id token now) =
        ⟨withUser s.db user.id (tokenPatch token now), s.tokenIssued user.id token now⟩ := by
      simp only [VerificationState.step, finished]
    refine ⟨by rw [stepped]; exact tracked_issued tracked stored token now, ⟨?_, ?_⟩⟩
    · intro userId before verified
      rw [stepped] at verified
      obtain ⟨rfl, flag⟩ := verified_of_withUser stored verified before
      exact absurd ⟨user, stored, rfl, flag⟩ before
    · rintro _ _ _ _ ⟨⟩

theorem verifyEmail_verifies_iff (tracked : VerificationTracked s)
    (met : OrderBy fun _ _ : User => True) (token : Option String) (now : Time) :
    VerificationTracked (s.step (.verifyEmail met token now)) ∧
      (VerifiesByToken s (.verifyEmail met token now) ↔
        TokenNotMissing s (.verifyEmail met token now)) := by
  rcases verifyEmail_run met token now s.db with
    ⟨error, refused, expired⟩ | ⟨user, found, inTime, finished⟩
  · have same : s.step (.verifyEmail met token now) = s := by
      simp only [VerificationState.step, refused]
    refine ⟨by rw [same]; exact tracked, iff_of_true ⟨?_, ?_⟩ ?_⟩
    · intro userId before verified
      rw [same] at verified
      exact absurd verified before
    · rintro _ _ _ after ⟨⟩ accepted
      rw [refused] at accepted
      cases accepted
    · cases token with
      | none =>
          intro user found
          exact expired user ((findByVerificationToken_none s.db met).trans found)
      | some token => trivial
  · have stored := (findByVerificationToken_some found).1
    have stepped : s.step (.verifyEmail met token now) =
        ⟨withUser s.db user.id verifiedPatch, s.tokenUsed user.id⟩ := by
      simp only [VerificationState.step, finished, found]
    refine ⟨by rw [stepped]; exact tracked_used tracked stored, ?_⟩
    cases token with
    | none =>
        -- the request is accepted, and carries nothing
        refine iff_of_false ?_ ?_
        · intro verifies
          obtain ⟨_, _, _, _, carries, _⟩ := verifies.accepted met none now _ rfl finished
          cases carries
        · intro expired
          rw [expired user ((findByVerificationToken_none s.db met).symm.trans found)] at inTime
          cases inTime
    | some token =>
        have carries := carriesToken_of_found tracked found inTime
        refine iff_of_true ⟨?_, ?_⟩ trivial
        · intro userId before verified
          rw [stepped] at verified
          obtain ⟨rfl, _⟩ := verified_of_withUser stored verified before
          exact ⟨met, some token, now, rfl, carries⟩
        · rintro _ _ _ after ⟨⟩ _
          exact ⟨user, found, carries⟩

theorem verifies_step (tracked : VerificationTracked s) (op : AuthOp) :
    VerificationTracked (s.step op) ∧ (VerifiesByToken s op ↔ TokenNotMissing s op) := by
  cases op with
  | register dto token now =>
      obtain ⟨later, verifies⟩ := register_verifies tracked dto token now
      exact ⟨later, iff_of_true verifies trivial⟩
  | verifyEmail met token now => exact verifyEmail_verifies_iff tracked met token now
  | resendVerificationEmail userId token now =>
      obtain ⟨later, verifies⟩ := resend_verifies tracked userId token now
      exact ⟨later, iff_of_true verifies trivial⟩

end Calls

/-- Every user is verified by his own last token, unused and in time, exactly if no request
without a token comes while the verification of the user whom the server meets first has not
expired. -/
theorem verifiesByToken_iff {s : VerificationState} (tracked : VerificationTracked s)
    (ops : List AuthOp) :
    Throughout VerificationState.step VerifiesByToken s ops ↔
      Throughout VerificationState.step TokenNotMissing s ops :=
  throughout_congr_of (I := VerificationTracked) (fun _ op tracked => (verifies_step tracked op).1)
    (fun _ op tracked => (verifies_step tracked op).2) tracked ops

/-- Nobody has registered. -/
def noUsers : VerificationState where
  db := { exampleBoard .local with users := Table.empty }
  issued := fun _ => none

theorem noUsers_tracked : VerificationTracked noUsers := by
  intro user stored
  cases stored

def registrant : RegisterDto where
  email := "registrant@example.org"
  fullName := "Новий волонтер"
  systemRole := none
  allowed := RegisterDto.noRole_allowed

/-- A request without a token comes a second after the registration. -/
def verifiedBlindly : List AuthOp :=
  [.register registrant "letter" 1767225600000, .verifyEmail OrderBy.asStored none 1767225601000]

theorem verifiesByToken_iff_witness :
    Throughout VerificationState.step VerifiesByToken noUsers verifiedBlindly ↔
      Throughout VerificationState.step TokenNotMissing noUsers verifiedBlindly :=
  verifiesByToken_iff noUsers_tracked verifiedBlindly

/-- It verifies the new user. -/
theorem verifiesByToken_fails :
    ¬ Throughout VerificationState.step VerifiesByToken noUsers verifiedBlindly := by
  rintro ⟨_, verifies, _⟩
  have before : ¬ (noUsers.step (.register registrant "letter" 1767225600000)).db.isVerified 0 := by
    unfold Db.isVerified
    decide +kernel
  have after : ((noUsers.step (.register registrant "letter" 1767225600000)).step
      (.verifyEmail OrderBy.asStored none 1767225601000)).db.isVerified 0 := by
    unfold Db.isVerified
    decide +kernel
  obtain ⟨_, _, _, same, _, _, carries, _⟩ := verifies.becomes 0 before after
  cases same
  cases carries

end VolunteerApi
