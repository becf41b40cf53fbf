import VolunteerApi.Effects.ServerEffects
import VolunteerApi.Effects.TrustEffects

/-!
# Nobody rises by himself

Role, block, clearance level and verified identity are an account's standing.  Users who are no
admins keep theirs, whatever they and any visitors call in whatever order; the last admin
cannot be demoted; and no route gives a vouch.
-/

set_option autoImplicit false

namespace VolunteerApi

open Relational Programs Db

def standingColumns : List UserColumn :=
  [.systemRole, .isBlocked, .clearanceLevel, .frontlineGrantedByAdmin, .isIdentityVerified]

/-- The user who has just registered. -/
structure User.Entrant (user : User) : Prop where
  systemRole : user.systemRole = .volunteer ∨ user.systemRole = .requester
  isBlocked : user.isBlocked = false
  clearanceLevel : user.clearanceLevel = .local
  frontlineGrantedByAdmin : user.frontlineGrantedByAdmin = false
  isIdentityVerified : user.isIdentityVerified = false

/-- The same account, with the same standing. -/
structure User.SameStanding (old new : User) : Prop where
  account : new.account = old.account
  same : ∀ column ∈ standingColumns, new.get column = old.get column

def Call.InNameOf (userId : UserId) : Call → Prop
  | .user payload _ _ => payload.sub = userId
  | .visitor _ => False

instance (userId : UserId) : DecidablePred (Call.InNameOf userId)
  | .user payload _ _ => inferInstanceAs (Decidable (payload.sub = userId))
  | .visitor _ => inferInstanceAs (Decidable False)

namespace User.SameStanding

variable {old mid new : User}

theorem refl (user : User) : user.SameStanding user := ⟨rfl, fun _ _ => rfl⟩

theorem trans (first : old.SameStanding mid) (second : mid.SameStanding new) :
    old.SameStanding new :=
  ⟨second.account.trans first.account,
    fun column inside => (second.same column inside).trans (first.same column inside)⟩

theorem of_within {columns : UserId × String → UserColumn → Prop}
    (within : Within User.account User.get columns old new)
    (outside : ∀ account, ∀ column ∈ standingColumns, ¬ columns account column) :
    old.SameStanding new :=
  ⟨within.fixed, fun column inside => within.same column (outside _ column inside)⟩

theorem systemRole (same : old.SameStanding new) : new.systemRole = old.systemRole :=
  same.same .systemRole (by decide)

theorem entrant (same : old.SameStanding new) (entered : old.Entrant) : new.Entrant where
  systemRole := by rw [same.systemRole]; exact entered.systemRole
  isBlocked := (same.same .isBlocked (by decide)).trans entered.isBlocked
  clearanceLevel := (same.same .clearanceLevel (by decide)).trans entered.clearanceLevel
  frontlineGrantedByAdmin :=
    (same.same .frontlineGrantedByAdmin (by decide)).trans entered.frontlineGrantedByAdmin
  isIdentityVerified :=
    (same.same .isIdentityVerified (by decide)).trans entered.isIdentityVerified

end User.SameStanding

/-! ## The matrix -/

theorem not_standing {column : UserColumn} {columns : List UserColumn}
    (inside : column ∈ standingColumns) (written : column ∈ columns)
    (disjoint : ∀ other ∈ standingColumns, other ∉ columns) : False :=
  disjoint column inside written

/-- Of the users the guard lets pass, only admins reach the standing of an account. -/
theorem UserOp.not_writes_standing {user : User} {op : UserOp} (own : op.By user)
    (noAdmin : user.systemRole ≠ .admin) (loaded : user.isEmailVerified = false)
    (account : UserId × String) {column : UserColumn} (inside : column ∈ standingColumns) :
    ¬ op.writes account column := by
  intro allowed
  cases op with
  | requests op | content op | organizations op | conversations op | reports op => exact allowed
  | tasks op =>
      cases op with
      | confirmTaskCompletion taskId caller now =>
          exact not_standing inside (List.mem_singleton.mpr allowed) (by decide)
      | _ => exact allowed
  | personal op =>
      cases op with
      | logout userId | changePassword userId dto salt =>
          exact not_standing inside (List.mem_singleton.mpr allowed.2) (by decide)
      | resendVerification userId token now => exact not_standing inside allowed.2 (by decide)
      | _ => exact allowed
  | users op =>
      cases op with
      | updateProfile targetId dto caller =>
          exact not_standing inside (List.mem_singleton.mpr allowed.2.2) (by decide)
      | updateAvatar userId avatarUrl =>
          exact not_standing inside (List.mem_singleton.mpr allowed.2) (by decide)
      | createUser dto caller => exact allowed
      | recalculateClearance userId => exact own
      | vouchForUser voucheeId caller =>
          obtain rfl : caller = user := own
          exact absurd (loaded.symm.trans allowed.1) Bool.false_ne_true
      | _ =>
          obtain rfl := own
          exact noAdmin allowed.1

theorem UserOp.not_inserts {user : User} {op : UserOp} (own : op.By user)
    (noAdmin : user.systemRole ≠ .admin) (row : User) : ¬ op.inserts row := by
  intro inserted
  cases op with
  | users op =>
      cases op with
      | createUser dto caller => exact own
      | _ => exact inserted
  | personal op =>
      cases op with
      | createUser dto password salt caller =>
          obtain rfl : caller = user := own
          exact noAdmin inserted.1
      | _ => exact inserted
  | _ => exact inserted

theorem VisitorOp.not_writes_standing (env : ServerEnv) (op : VisitorOp)
    (account : UserId × String) {column : UserColumn} (inside : column ∈ standingColumns) :
    ¬ op.writes env account column := by
  intro allowed
  cases op with
  | register dto password passwordSalt token salt now =>
      exact not_standing inside (List.mem_singleton.mpr allowed.2) (by decide)
  | login dto salt now =>
      exact not_standing inside (List.mem_singleton.mpr allowed.2) (by decide)
  | refresh met refreshToken salt now =>
      exact not_standing inside (List.mem_singleton.mpr allowed.2) (by decide)
  | verifyEmail met token now => exact not_standing inside (List.mem_cons.mpr allowed) (by decide)
  | forgotPassword email code now => exact not_standing inside allowed.2 (by decide)
  | verifyResetCode email code token now => exact not_standing inside allowed.2 (by decide)
  | resetPassword token newPassword salt now => exact not_standing inside allowed (by decide)

theorem VisitorOp.entrant_of_inserts {env : ServerEnv} {op : VisitorOp} {row : User}
    (inserted : op.inserts env row) : row.Entrant := by
  cases op with
  | register dto password passwordSalt token salt now =>
      have built : row = AuthService.newAccount env.auth dto password passwordSalt token now row.id :=
        inserted
      rw [built]
      refine ⟨?_, rfl, rfl, rfl, rfl⟩
      show dto.systemRole.getD .volunteer = .volunteer ∨ dto.systemRole.getD .volunteer = .requester
      cases asked : dto.systemRole with
      | none => exact Or.inl rfl
      | some role => exact dto.allowed role asked
  | _ => exact inserted.elim

/-! ## Runs without an admin -/

/-- Everybody of the start is there with the same standing, and who was not there then has just
registered. -/
structure NobodyRose (start db : Db) : Prop where
  kept : ∀ old ∈ start.users.rows, ∃ user ∈ db.users.rows, old.SameStanding user
  entered : ∀ user ∈ db.users.rows, (∀ old ∈ start.users.rows, old.id ≠ user.id) → user.Entrant

theorem User.SameStanding.id_eq {old new : User} (same : old.SameStanding new) :
    new.id = old.id := congrArg Prod.fst same.account

theorem NobodyRose.moves {start db after : Db} {scope : Scope} (rose : NobodyRose start db)
    (moves : scope.Moves db.users after.users)
    (outside : ∀ account, ∀ column ∈ standingColumns, ¬ scope.columns account column)
    (entrants : ∀ user, scope.newcomers user → user.Entrant) : NobodyRose start after where
  kept := by
    intro old oldStored
    obtain ⟨row, rowStored, sameRow⟩ := rose.kept old oldStored
    obtain ⟨user, stored, _, within⟩ := moves.evolves row rowStored
    exact ⟨user, stored, sameRow.trans (.of_within within outside)⟩
  entered := by
    intro user stored stranger
    rcases moves.stems user stored with ⟨row, rowStored, within⟩ | ⟨row, isNew, within⟩
    · have same := User.SameStanding.of_within within outside
      refine same.entrant (rose.entered row rowStored fun old oldStored named => ?_)
      exact stranger old oldStored (named.trans same.id_eq.symm)
    · exact (User.SameStanding.of_within within outside).entrant (entrants row isNew)

/-- A stored user has the standing of the start, or has just registered. -/
theorem NobodyRose.cases {start db : Db} (rose : NobodyRose start db) {user : User}
    (stored : user ∈ db.users.rows) :
    (∃ old ∈ start.users.rows, old.SameStanding user) ∨ user.Entrant := by
  by_cases known : ∃ old ∈ start.users.rows, old.id = user.id
  · obtain ⟨old, oldStored, named⟩ := known
    obtain ⟨row, rowStored, same⟩ := rose.kept old oldStored
    have isUser : row = user := Table.eq_of_key rowStored stored (same.id_eq.trans named)
    exact Or.inl ⟨old, oldStored, isUser ▸ same⟩
  · refine Or.inr (rose.entered user stored fun old oldStored named => ?_)
    exact known ⟨old, oldStored, named⟩

/-- Nobody acts as an admin who does not hold the token of one from the start. -/
theorem NobodyRose.noAdmin {start db : Db} (rose : NobodyRose start db) {payload : JwtClaims}
    {user : User} (authenticates : Authenticates db payload user)
    (strangers : ∀ admin ∈ start.users.rows, admin.systemRole = .admin → payload.sub ≠ admin.id) :
    user.systemRole ≠ .admin := by
  intro isAdmin
  obtain ⟨row, stored, named, _, sameRole, _⟩ := authenticates.row
  rcases rose.cases stored with ⟨old, oldStored, same⟩ | entrant
  · refine strangers old oldStored (same.systemRole.symm.trans (sameRole.trans isAdmin)) ?_
    rw [← authenticates.id_eq, ← named]
    exact same.id_eq
  · rcases entrant.systemRole with volunteer | requester
    · rw [sameRole.symm.trans volunteer] at isAdmin
      cases isAdmin
    · rw [sameRole.symm.trans requester] at isAdmin
      cases isAdmin

theorem NobodyRose.step (env : ServerEnv) {start db : Db} (rose : NobodyRose start db)
    {call : Call} (strangers : ∀ admin ∈ start.users.rows, admin.systemRole = .admin →
      ¬ call.InNameOf admin.id) : NobodyRose start (call.step env db) := by
  have effect := call.effect env db
  generalize call.step env db = after at effect
  cases effect with
  | refused => exact rose
  | @served payload op own user authenticates =>
      have noAdmin := rose.noAdmin authenticates strangers
      refine rose.moves ((op user).area env db).users ?_ ?_
      · intro account column inside allowed
        exact UserOp.not_writes_standing (own user) noAdmin authenticates.unverified account inside
          (UserOp.writes_of_scope allowed)
      · intro row isNew
        exact absurd (UserOp.inserts_of_scope isNew) (UserOp.not_inserts (own user) noAdmin row)
  | visited op =>
      refine rose.moves (op.area env db).users ?_ ?_
      · intro account column inside
        exact op.not_writes_standing env account inside
      · exact fun row isNew => VisitorOp.entrant_of_inserts isNew

/-- Whoever is no admin at the start, and all visitors, may call what they want: nobody's role,
block, clearance level or verified identity changes, and who is new is a volunteer or a requester
with nothing granted. -/
theorem nobody_rises (env : ServerEnv) (db : Db) (calls : List Call)
    (strangers : ∀ call ∈ calls, ∀ admin ∈ db.users.rows, admin.systemRole = .admin →
      ¬ call.InNameOf admin.id) :
    NobodyRose db (execute (Call.step env) db calls) := by
  have start : NobodyRose db db :=
    ⟨fun user stored => ⟨user, stored, .refl user⟩,
      fun user stored stranger => absurd rfl (stranger user stored)⟩
  exact always_end (always_of_preserved (fun _ _ rose outside => rose.step env outside) start
    (throughout_of_mem strangers db))

theorem nobody_rises_taken :
    NobodyRose (exampleBoard .local)
      (execute (Call.step exampleServer) (exampleBoard .local) [takingCall]) := by
  refine nobody_rises exampleServer (exampleBoard .local) [takingCall] ?_
  have others : ∀ user ∈ (exampleBoard .local).users.rows, user.systemRole = .admin →
      firstVolunteer.claims.sub ≠ user.id := by decide
  intro call inside admin stored isAdmin
  obtain rfl : call = takingCall := List.mem_singleton.mp inside
  exact others admin stored isAdmin

/-! ## The last admin -/

/-- Only admins change roles, and nobody his own. -/
theorem UserOp.role_of_other {user : User} {op : UserOp} (own : op.By user)
    {account : UserId × String} (allowed : op.writes account .systemRole) :
    user.systemRole = .admin ∧ user.id ≠ account.1 := by
  cases op with
  | requests op | content op | organizations op | conversations op | reports op =>
      exact allowed.elim
  | tasks op => cases op <;> cases allowed
  | personal op =>
      cases op with
      | logout userId | changePassword userId dto salt => cases allowed.2
      | resendVerification userId token now =>
          exact absurd allowed.2 (by decide)
      | _ => exact allowed.elim
  | users op =>
      cases op with
      | changeRole targetId newRole caller =>
          obtain rfl : caller = user := own
          obtain ⟨isAdmin, other, named, _⟩ := allowed
          exact ⟨isAdmin, named ▸ other⟩
      | updateProfile targetId dto caller => cases allowed.2.2
      | updateAvatar userId avatarUrl => cases allowed.2
      | unblockUser targetId caller => cases allowed.2.2
      | createUser dto caller => exact allowed.elim
      | blockUser targetId caller now =>
          rcases allowed.2 with ⟨_, same⟩ | level
          · cases same
          · exact absurd level (by decide)
      | updateClearance targetId newLevel caller => exact absurd allowed.2.2 (by decide)
      | vouchForUser voucheeId caller => exact absurd allowed.2.2.2.2.2 (by decide)
      | recalculateClearance userId => exact absurd allowed.2 (by decide)
      | restoreVouch vouchId caller => exact absurd allowed.2 (by decide)
      | revokeVouchPermanently vouchId caller => exact absurd allowed.2 (by decide)

def Db.HasAdmin (db : Db) : Prop := ∃ admin ∈ db.users.rows, admin.systemRole = .admin

theorem hasAdmin_of_within {db after : Db} {scope : Scope}
    (moves : scope.Moves db.users after.users) {admin : User} (stored : admin ∈ db.users.rows)
    (isAdmin : admin.systemRole = .admin) (outside : ¬ scope.columns admin.account .systemRole) :
    after.HasAdmin := by
  obtain ⟨later, laterStored, _, within⟩ := moves.evolves admin stored
  exact ⟨later, laterStored, (within.same .systemRole outside).trans isAdmin⟩

/-- Either the role of the admin is out of reach, or an admin who changes it stays one himself. -/
theorem hasAdmin_step (env : ServerEnv) {db : Db} (has : db.HasAdmin) (call : Call) :
    (call.step env db).HasAdmin := by
  obtain ⟨admin, stored, isAdmin⟩ := has
  have effect := call.effect env db
  generalize call.step env db = after at effect
  cases effect with
  | refused => exact ⟨admin, stored, isAdmin⟩
  | visited op =>
      refine hasAdmin_of_within (op.area env db).users stored isAdmin ?_
      exact op.not_writes_standing env _ (by decide)
  | @served payload op own user authenticates =>
      by_cases allowed : (op user).writes admin.account .systemRole
      · obtain ⟨row, rowStored, named, _, sameRole, _⟩ := authenticates.row
        have caller := (UserOp.role_of_other (own user) allowed).1
        refine hasAdmin_of_within ((op user).area env db).users rowStored (sameRole.trans caller) ?_
        intro inside
        exact (UserOp.role_of_other (own user) (UserOp.writes_of_scope inside)).2 named.symm
      · refine hasAdmin_of_within ((op user).area env db).users stored isAdmin ?_
        exact fun inside => allowed (UserOp.writes_of_scope inside)

/-- Calls that are executed one after the other always leave an admin. -/
theorem admin_remains (env : ServerEnv) (db : Db) (has : db.HasAdmin) (calls : List Call) :
    Always (Call.step env) Db.HasAdmin db calls :=
  always_of_invariant (P := Db.HasAdmin) (fun _ call has => hasAdmin_step env has call) has calls

theorem admin_remains_taken :
    Always (Call.step exampleServer) Db.HasAdmin (exampleBoard .local) [takingCall] :=
  admin_remains exampleServer (exampleBoard .local)
    ⟨firstAdmin, by simp [exampleBoard], rfl⟩ [takingCall]

/-! ## Vouches -/

/-- Each vouch was given before. -/
def OldVouches (db after : Db) : Prop :=
  ∀ vouch ∈ after.vouches.rows, ∃ old ∈ db.vouches.rows, old.id = vouch.id ∧ old.slot = vouch.slot

namespace OldVouches

variable {db mid after : Db}

theorem of_same (same : after.vouches = db.vouches) : OldVouches db after :=
  fun vouch stored => ⟨vouch, same ▸ stored, rfl, rfl⟩

theorem trans (first : OldVouches db mid) (second : OldVouches mid after) :
    OldVouches db after := by
  intro vouch stored
  obtain ⟨row, rowStored, sameId, sameSlot⟩ := second vouch stored
  obtain ⟨old, oldStored, oldId, oldSlot⟩ := first row rowStored
  exact ⟨old, oldStored, oldId.trans sameId, oldSlot.trans sameSlot⟩

theorem of_update {wanted : TrustVouch → Bool} {patch : Patch TrustVouch.id TrustVouch.slot}
    (updated : after.vouches = db.vouches.update wanted patch) : OldVouches db after := by
  intro vouch stored
  rw [updated] at stored
  obtain ⟨old, oldStored, rfl⟩ := (Table.mem_update _ _ _ _).mp stored
  refine ⟨old, oldStored, ?_, ?_⟩
  · split <;> [exact (patch.key_run old).symm; rfl]
  · split <;> [exact (patch.uniq_run old).symm; rfl]

end OldVouches

/-- `vouchForUser` asks for a verified email, and the guard does not load whether it is. -/
theorem UsersOp.oldVouches {required : Nat} {db : Db} {user : User} {op : UsersOp}
    (own : op.By user) (loaded : user.isEmailVerified = false) :
    OldVouches db (op.run required db).2 := by
  have effect := UsersOp.trustEffect required db op
  unfold UsersOp.step at effect
  generalize (op.run required db).2 = after at effect
  cases effect with
  | unchanged | edited | unblocked | cleared | created => exact .of_same rfl
  | vouched voucheeId caller _ vouching =>
      obtain rfl : caller = user := own
      exact absurd (loaded.symm.trans vouching.email) Bool.false_ne_true
  | restored vouchId caller vouch =>
      exact .of_update (UsersService.recalculated_vouches _ _ _)
  | revoked vouchId caller vouch =>
      intro row stored
      rw [UsersService.recalculated_vouches] at stored
      exact ⟨row, ((Table.mem_delete _ _ _).mp stored).1, rfl, rfl⟩
  | blocked targetId caller now => exact .of_update (UsersService.recalculatedAll_vouches _ _ _)
  | recalculated userId => exact .of_same (UsersService.recalculated_vouches _ _ _)

theorem oldVouches_step (env : ServerEnv) (db : Db) (call : Call) :
    OldVouches db (call.step env db) := by
  refine Call.step_of env (fun _ => .of_same rfl) ?_ ?_ db call
  · exact fun db op => .of_same ((op.area env db).same .vouches (by simp [peopleScope]))
  · intro db payload user op authenticates own
    have untouched (outside : TableName.vouches ∉ op.scope.tables) :
        OldVouches db (op.run env db).2 := .of_same ((op.area env db).same .vouches outside)
    cases op with
    | users op =>
        rw [UserOp.run_users]
        exact UsersOp.oldVouches own authenticates.unverified
    | tasks op =>
        exact untouched
          (by cases op <;> simp [UserOp.scope, TasksOp.scope, boardScope, confirmationScope])
    | personal op => exact untouched (by simp [UserOp.scope, personalScope])
    | requests op | content op => exact untouched (by simp [UserOp.scope, requestScope])
    | organizations op =>
        exact untouched (by simp [UserOp.scope, organizationScope, membershipScope])
    | conversations op => exact untouched (by simp [UserOp.scope, conversationScope])
    | reports op => exact untouched (by simp [UserOp.scope, reportScope])

/-- Whatever is called, no vouch is ever added: the vouches of every state are among those of the
first one. -/
theorem vouches_never_given (env : ServerEnv) (db : Db) (calls : List Call) :
    OldVouches db (execute (Call.step env) db calls) :=
  execute_of_preserved (P := OldVouches db)
    (fun _ call old => old.trans (oldVouches_step env _ call)) (.of_same rfl) calls

end VolunteerApi
