import VolunteerApi.Effects.AccountMatrix

/-!
# What the calls about users touch

`UsersService` and `AuthService` write users, vouches and, where a clearance level is lost,
assignments.  Of a stored user they write the columns that the matrix names: what a check or a
query has told a method is enough to know that.
-/

set_option autoImplicit false

namespace VolunteerApi

open Relational Programs

theorem evolves_updateAssignments (assignments : Table TaskAssignment.id TaskAssignment.slot)
    (wanted : TaskAssignment → Bool) (patch : Patch TaskAssignment.id TaskAssignment.slot) :
    assignments.Evolves (fun old new => new.slot = old.slot) (assignments.update wanted patch) :=
  Table.evolves_update (by intro _; rfl) assignments wanted patch patch.uniq_run

/-! ## The columns of the patches -/

theorem boostedPatch_touches : TasksService.boostedPatch.Touches User.get [.trustScore] := by
  intro user column outside
  -- `rfl` would compare the scores first.
  cases column <;>
    first | exact absurd (by decide) outside | simp only [TasksService.boostedPatch, User.get]

namespace UsersService

theorem blockedPatch_touches (isBlocked : Bool) :
    (blockedPatch isBlocked).Touches User.get [.isBlocked] := by
  intro user column outside
  cases column <;> first | exact absurd (by decide) outside | rfl

theorem rolePatch_touches (newRole : SystemRole) :
    (rolePatch newRole).Touches User.get [.systemRole] := by
  intro user column outside
  cases column <;> first | exact absurd (by decide) outside | rfl

theorem clearancePatch_touches (newLevel : ClearanceLevel) :
    (clearancePatch newLevel).Touches User.get grantColumns := by
  intro user column outside
  cases column <;> first | exact absurd (by decide) outside | rfl

theorem recalculatedPatch_touches (newLevel : ClearanceLevel) (newScore : Nat) :
    (recalculatedPatch newLevel newScore).Touches User.get levelColumns := by
  intro user column outside
  cases column <;> first | exact absurd (by decide) outside | rfl

theorem avatarPatch_touches (avatarUrl : String) :
    (avatarPatch avatarUrl).Touches User.get [.avatarUrl] := by
  intro user column outside
  cases column <;> first | exact absurd (by decide) outside | rfl

theorem profilePatch_touches (dto : UpdateProfileDto) :
    (profilePatch dto).Touches User.get [.fullName] := by
  intro user column outside
  cases column <;> first | exact absurd (by decide) outside | rfl

end UsersService

namespace AuthService

theorem verifiedPatch_touches :
    verifiedPatch.Touches User.get (.isEmailVerified :: letterColumns) := by
  intro user column outside
  cases column <;> first | exact absurd (by decide) outside | rfl

theorem tokenPatch_touches (token : String) (now : Time) :
    (tokenPatch token now).Touches User.get letterColumns := by
  intro user column outside
  cases column <;> first | exact absurd (by decide) outside | rfl

theorem sessionPatch_touches (refreshTokenHash : Option String) :
    (sessionPatch refreshTokenHash).Touches User.get [.refreshTokenHash] := by
  intro user column outside
  cases column <;> first | exact absurd (by decide) outside | rfl

theorem passwordPatch_touches (passwordHash : String) :
    (passwordPatch passwordHash).Touches User.get [.passwordHash] := by
  intro user column outside
  cases column <;> first | exact absurd (by decide) outside | rfl

theorem resetCodePatch_touches (code : String) (now : Time) :
    (resetCodePatch code now).Touches User.get [.passwordResetCode, .passwordResetExpires] := by
  intro user column outside
  cases column <;> first | exact absurd (by decide) outside | rfl

theorem resetTokenPatch_touches (token : String) (now : Time) :
    (resetTokenPatch token now).Touches User.get
      [.passwordResetToken, .passwordResetExpires, .passwordResetCode] := by
  intro user column outside
  cases column <;> first | exact absurd (by decide) outside | rfl

theorem newPasswordPatch_touches (passwordHash : String) :
    (newPasswordPatch passwordHash).Touches User.get
      [.passwordHash, .passwordResetToken, .passwordResetExpires] := by
  intro user column outside
  cases column <;> first | exact absurd (by decide) outside | rfl

end AuthService

/-! ## `UsersService` -/

open Prog Db

def peopleScope (more : List TableName) (columns : UserId × String → UserColumn → Prop)
    (newcomers : User → Prop) : Scope where
  tables := .users :: more
  columns := columns
  newcomers := newcomers

/-- What a recalculation needs. -/
def trustTables : List TableName := [.vouches, .assignments]

section Statements

variable {more : List TableName} {columns : UserId × String → UserColumn → Prop}
  {newcomers : User → Prop}

theorem people_users {db : Db} {users : Table User.id User.email}
    (moves : (peopleScope more columns newcomers).Moves db.users users) :
    Area (peopleScope more columns newcomers) db { db with users := users } :=
  Area.of_users (by simp [peopleScope]) moves

theorem people_vouches {db : Db} {vouches : Table TrustVouch.id TrustVouch.slot} :
    Area (peopleScope trustTables columns newcomers) db { db with vouches := vouches } :=
  Area.vouches (by simp [peopleScope, trustTables])

theorem people_added {db : Db} {new : User} {users : Table User.id User.email}
    (added : db.users.Added new users) (isNew : newcomers new) :
    Area (peopleScope more columns newcomers) db { db with users := users } :=
  people_users (added.moves Within.refl isNew)

theorem updateUser_stays {written : List UserColumn} {patch : Patch User.id User.email}
    (touches : patch.Touches User.get written) {id : UserId}
    (allowed : ∀ email, ∀ column ∈ written, columns (id, email) column) :
    (UsersService.updateUser id patch).Stays (Area (peopleScope more columns newcomers)) := by
  refine stays_exec fun db => people_users ?_
  refine Table.moves_update_within _ _ touches fun row _ hit column inside => ?_
  obtain rfl : row.id = id := of_decide_eq_true hit
  exact allowed row.email column inside

/-- The same for the row of a user whom the method has loaded. -/
theorem updateLoaded_stays {written : List UserColumn} {patch : Patch User.id User.email}
    (touches : patch.Touches User.get written) (user : User)
    (allowed : ∀ column ∈ written, columns user.account column) :
    (UsersService.updateUser user.id patch).Stays
      (While (fun db => db.users.Knows User.email user) (Area (peopleScope more columns newcomers))) := by
  refine stays_exec fun db known => people_users ?_
  obtain ⟨stored, member, sameId, sameEmail⟩ := known
  refine Table.moves_update_within _ _ touches fun row rowMember hit column inside => ?_
  obtain rfl : row = stored :=
    Table.eq_of_key rowMember member ((of_decide_eq_true hit).trans sameId.symm)
  rw [sameEmail, sameId]
  exact allowed column inside

theorem guarantees_user {α : Type} {user : User} {rest : Service α}
    (stays : rest.Stays
      (While (fun db => db.users.Knows User.email user) (Area (peopleScope more columns newcomers)))) {db : Db}
    (known : db.users.Knows User.email user) :
    rest.Guarantees Db.Evolves (Area (peopleScope more columns newcomers)) (fun _ _ => True) db := by
  refine stays.guarantees_while ?_ ?_ known
  · exact fun _ _ knows along => knows.evolves along.users
  · exact fun _ _ knows along => knows.evolves along.evolves.users

end Statements

namespace UsersService

section Methods

variable {columns : UserId × String → UserColumn → Prop} {newcomers : User → Prop}

theorem recalculateClearance_stays (required : Nat) {userId : UserId}
    (allowed : ∀ email, ∀ column ∈ levelColumns, columns (userId, email) column) :
    (recalculateClearance required userId).Stays (Area (peopleScope trustTables columns newcomers)) := by
  have withdrawn (id : AssignmentId) :
      (TasksService.markWithdrawn id).Stays (Area (peopleScope trustTables columns newcomers)) :=
    stays_exec fun _ => Area.assignments (by simp [peopleScope, trustTables])
      (evolves_updateAssignments _ _ _)
  have withdraws : (withdrawFromActiveTasks userId).Stays (Area (peopleScope trustTables columns newcomers)) :=
    (stays_query Area.refl _).bind fun _ => stays_forEach fun _ => withdrawn _
  refine (stays_query Area.refl _).bind fun activeCount => ?_
  refine (stays_query Area.refl _).bind fun found => ?_
  cases found with
  | none => exact stays_ret ()
  | some user =>
      dsimp only
      split
      · exact stays_ret ()
      · refine stays_onlyIf ?_
        exact (stays_onlyIf withdraws).bind fun _ =>
          updateUser_stays (recalculatedPatch_touches _ _) allowed

theorem insertVouch_stays (voucheeId : UserId) (voucher : User) :
    (insertVouch voucheeId voucher).Stays (Area (peopleScope trustTables columns newcomers)) := by
  refine stays_execOr Area.refl ?_
  intro db outcome inserted
  obtain ⟨vouches, _, rfl⟩ := Option.map_eq_some_iff.mp inserted
  exact people_vouches

theorem updateProfile_stays (targetId : UserId) (dto : UpdateProfileDto) (user : User) :
    (updateProfile targetId dto user).Stays
      (Area (peopleScope [] (UsersOp.updateProfile targetId dto user).writes newcomers)) := by
  refine stays_throwIf_bind fun passed => updateUser_stays (profilePatch_touches dto) ?_
  intro email column written
  have entitled : user.id = targetId ∨ user.systemRole = .admin := by
    by_contra neither
    exact passed (not_or.mp neither)
  exact ⟨entitled, rfl, List.mem_singleton.mp written⟩

theorem updateAvatar_stays (userId : UserId) (avatarUrl : String) :
    (updateAvatar userId avatarUrl).Stays
      (Area (peopleScope [] (UsersOp.updateAvatar userId avatarUrl).writes newcomers)) := by
  refine updateUser_stays (avatarPatch_touches avatarUrl) fun email column written => ?_
  exact ⟨rfl, List.mem_singleton.mp written⟩

theorem blockUser_stays (required : Nat) (targetId : UserId) (admin : User) (now : Time) :
    (blockUser required targetId admin now).Stays
      (Area (peopleScope trustTables (UsersOp.blockUser targetId admin now).writes newcomers)) := by
  refine stays_throwIf_bind fun passed => ?_
  have isAdmin : admin.systemRole = .admin := not_not.mp passed
  refine (updateUser_stays (blockedPatch_touches true) ?_).bind fun _ => ?_
  · intro email column written
    exact ⟨isAdmin, Or.inl ⟨rfl, List.mem_singleton.mp written⟩⟩
  refine (stays_exec fun _ => people_vouches).bind fun _ => ?_
  refine (stays_query Area.refl _).bind fun _ => stays_forEach fun _ => ?_
  exact recalculateClearance_stays required fun _ _ written => ⟨isAdmin, Or.inr written⟩

theorem unblockUser_stays (targetId : UserId) (admin : User) :
    (unblockUser targetId admin).Stays
      (Area (peopleScope [] (UsersOp.unblockUser targetId admin).writes newcomers)) := by
  refine stays_throwIf_bind fun passed => ?_
  refine (stays_query Area.refl _).bind fun _ => stays_orThrow.bind fun _ => ?_
  refine updateUser_stays (blockedPatch_touches false) fun email column written => ?_
  exact ⟨not_not.mp passed, rfl, List.mem_singleton.mp written⟩

theorem changeRole_stays (targetId : UserId) (newRole : SystemRole) (admin : User) :
    (changeRole targetId newRole admin).Stays
      (Area (peopleScope [] (UsersOp.changeRole targetId newRole admin).writes newcomers)) := by
  refine stays_throwIf_bind fun passed => ?_
  refine stays_found_bind Area.refl fun db target found => ?_
  obtain ⟨_, rfl⟩ := findUser_some found
  refine stays_throwIf_bind fun other => ?_
  refine updateUser_stays (rolePatch_touches newRole) fun email column written => ?_
  exact ⟨not_not.mp passed, Ne.symm other, rfl, List.mem_singleton.mp written⟩

theorem updateClearance_stays (targetId : UserId) (newLevel : ClearanceLevel) (admin : User) :
    (updateClearance targetId newLevel admin).Stays
      (Area (peopleScope [] (UsersOp.updateClearance targetId newLevel admin).writes newcomers)) := by
  refine stays_throwIf_bind fun passed => ?_
  refine (stays_query Area.refl _).bind fun _ => stays_orThrow.bind fun _ => ?_
  refine updateUser_stays (clearancePatch_touches newLevel) fun email column written => ?_
  exact ⟨not_not.mp passed, rfl, written⟩

theorem insertUser_stays {α : Type} {error : HttpException} (build : Nat → User)
    (built : ∀ n, (build n).id = n) (result : Db → α) (areNew : ∀ n, newcomers (build n)) :
    (Prog.execOr error fun db =>
      (db.users.insert build built).map fun users =>
        ({ db with users := users }, result db) : Service α).Stays
      (Area (peopleScope [] columns newcomers)) := by
  refine stays_execOr Area.refl ?_
  intro db outcome inserted
  obtain ⟨users, added, rfl⟩ := Option.map_eq_some_iff.mp inserted
  exact people_added (Table.added_insert added) (areNew _)

theorem createUser_stays (dto : AdminCreateUserDto) (admin : User) :
    (createUser dto admin).Stays
      (Area (peopleScope [] columns (UsersOp.createUser dto admin).inserts)) := by
  refine stays_throwIf_bind fun passed => ?_
  refine (stays_query Area.refl _).bind fun _ => ?_
  iterate 2 refine stays_throwIf.bind fun _ => ?_
  exact insertUser_stays _ _ _ fun _ => ⟨not_not.mp passed, rfl⟩

theorem createAccount_stays (env : AuthEnv) (dto : AdminCreateUserDto) (password salt : String)
    (admin : User) :
    (createAccount env dto password salt admin).Stays
      (Area (peopleScope [] columns (PersonalOp.createUser dto password salt admin).inserts)) := by
  refine stays_throwIf_bind fun passed => ?_
  refine (stays_query Area.refl _).bind fun _ => ?_
  iterate 2 refine stays_throwIf.bind fun _ => ?_
  exact insertUser_stays _ _ _ fun _ => ⟨not_not.mp passed, rfl⟩

theorem vouchForUser_stays (required : Nat) (voucheeId : UserId) (voucher : User) :
    (vouchForUser required voucheeId voucher).Stays
      (Area (peopleScope trustTables (UsersOp.vouchForUser voucheeId voucher).writes newcomers)) := by
  refine stays_throwIf_bind fun other => ?_
  refine (stays_query Area.refl _).bind fun _ => stays_orThrow.bind fun _ => ?_
  refine stays_throwIf.bind fun _ => stays_throwIf_bind fun email => ?_
  refine stays_throwIf.bind fun _ => stays_throwIf_bind fun identity => ?_
  refine stays_throwIf_bind fun blocked => ?_
  refine (stays_query Area.refl _).bind fun _ => stays_throwIf.bind fun _ => ?_
  refine (insertVouch_stays _ _).bind fun _ => ?_
  refine (recalculateClearance_stays required ?_).bind fun _ => stays_ret _
  intro address column written
  exact ⟨by simpa using email, by simpa using identity, by simpa using blocked, Ne.symm other, rfl,
    written⟩

theorem restoreVouch_stays (required : Nat) (vouchId : VouchId) (admin : User) :
    (restoreVouch required vouchId admin).Stays
      (Area (peopleScope trustTables (UsersOp.restoreVouch vouchId admin).writes newcomers)) := by
  refine stays_throwIf_bind fun passed => ?_
  refine (stays_query Area.refl _).bind fun _ => stays_orThrow.bind fun _ => ?_
  iterate 2 refine stays_throwIf.bind fun _ => ?_
  refine (stays_exec fun _ => people_vouches).bind fun _ => ?_
  exact recalculateClearance_stays required fun _ _ written => ⟨not_not.mp passed, written⟩

theorem revokeVouchPermanently_stays (required : Nat) (vouchId : VouchId) (admin : User) :
    (revokeVouchPermanently required vouchId admin).Stays
      (Area (peopleScope trustTables (UsersOp.revokeVouchPermanently vouchId admin).writes newcomers)) := by
  refine stays_throwIf_bind fun passed => ?_
  refine (stays_query Area.refl _).bind fun _ => stays_orThrow.bind fun _ => ?_
  refine (stays_exec fun _ => people_vouches).bind fun _ => ?_
  exact recalculateClearance_stays required fun _ _ written => ⟨not_not.mp passed, written⟩

end Methods

end UsersService

/-! ## `AuthService` -/

namespace AuthService

open UsersService

variable {newcomers : User → Prop}

theorem findByEmail_account {db : Db} {email : String} {user : User}
    (found : db.findByEmail email = some user) :
    user ∈ db.users.rows ∧ user.email = toLowerCase email := by
  simpa [Db.findByEmail] using Table.findOne_mem found

theorem generateTokens_stays (env : AuthEnv) {columns : UserId × String → UserColumn → Prop}
    (user : User) (salt : String) (now : Time)
    (allowed : columns user.account .refreshTokenHash) :
    (generateTokens env user salt now).Stays
      (While (fun db => db.users.Knows User.email user) (Area (peopleScope [] columns newcomers))) := by
  refine Stays.bind (updateLoaded_stays (sessionPatch_touches _) user ?_) fun _ => stays_ret _
  intro column written
  rw [List.mem_singleton.mp written]
  exact allowed

theorem logout_stays (userId : UserId) :
    (logout userId).Stays (Area (peopleScope [] (PersonalOp.logout userId).writes newcomers)) := by
  refine updateUser_stays (sessionPatch_touches none) fun email column written => ?_
  exact ⟨rfl, List.mem_singleton.mp written⟩

theorem resendVerificationEmail_stays (userId : UserId) (token : String) (now : Time) :
    (resendVerificationEmail userId token now).Stays
      (Area (peopleScope [] (PersonalOp.resendVerification userId token now).writes newcomers)) := by
  refine stays_found_bind Area.refl fun db user found => ?_
  obtain ⟨_, rfl⟩ := findUser_some found
  refine stays_throwIf.bind fun _ => ?_
  exact updateUser_stays (tokenPatch_touches token now) fun _ _ written => ⟨rfl, written⟩

theorem changePassword_stays (env : AuthEnv) (userId : UserId) (dto : ChangePasswordDto)
    (salt : String) :
    (changePassword env userId dto salt).Stays
      (Area (peopleScope [] (PersonalOp.changePassword userId dto salt).writes newcomers)) := by
  refine stays_found_bind Area.refl fun db user found => ?_
  obtain ⟨_, rfl⟩ := findUser_some found
  refine stays_throwIf.bind fun _ => ?_
  refine (updateUser_stays (passwordPatch_touches _) ?_).bind fun _ => stays_ret _
  exact fun _ _ written => ⟨rfl, List.mem_singleton.mp written⟩

section Visitors

variable (env : ServerEnv)

/-- The tokens go to the row that has just been inserted. -/
theorem registerAccount_guarantees (dto : RegisterDto) (password passwordSalt token salt : String)
    (now : Time) (db : Db) :
    (registerAccount env.auth dto password passwordSalt token salt now).Guarantees Db.Evolves
      (Area (peopleScope []
        ((VisitorOp.register dto password passwordSalt token salt now).writes env)
        ((VisitorOp.register dto password passwordSalt token salt now).inserts env)))
      (fun _ _ => True) db := by
  refine guarantees_query_bind Area.refl fun later _ => ?_
  refine guarantees_throwIf_bind fun _ => guarantees_throwIf_bind fun _ => ?_
  refine Guarantees.bind (M := fun user now =>
    now.users.Knows User.email user ∧ user.email = toLowerCase dto.email) ?_ ?_
  · refine guarantees_execOr Area.refl fun further _ outcome inserted => ?_
    obtain ⟨users, added, rfl⟩ := Option.map_eq_some_iff.mp inserted
    have inserting := Table.added_insert added
    exact ⟨people_added inserting rfl, Table.knows_of_mem ((inserting.mem _).mpr (Or.inr rfl)), rfl⟩
  · rintro user further ⟨known, address⟩
    exact guarantees_user (generateTokens_stays env.auth user salt now ⟨address, rfl⟩) known

theorem login_guarantees (dto : LoginDto) (salt : String) (now : Time) (db : Db) :
    (login env.auth dto salt now).Guarantees Db.Evolves
      (Area (peopleScope [] ((VisitorOp.login dto salt now).writes env) newcomers))
      (fun _ _ => True) db := by
  refine guarantees_found_bind Area.refl fun later _ user found => ?_
  obtain ⟨stored, address⟩ := findByEmail_account found
  refine guarantees_throwIf_bind fun _ => guarantees_throwIf_bind fun _ => ?_
  refine guarantees_user ?_ (Table.knows_of_mem stored)
  exact (generateTokens_stays env.auth user salt now ⟨address, rfl⟩).bind fun _ => stays_ret _

theorem refresh_guarantees (met : OrderBy fun _ _ : User => True) (refreshToken salt : String)
    (now : Time) (db : Db) :
    (AuthController.refresh env.auth env.parse met refreshToken salt now).Guarantees Db.Evolves
      (Area (peopleScope [] ((VisitorOp.refresh met refreshToken salt now).writes env) newcomers))
      (fun _ _ => True) db := by
  refine guarantees_orThrow_bind fun sub decoded => ?_
  have finds : (findGiven met sub).Guarantees Db.Evolves
      (Area (peopleScope [] ((VisitorOp.refresh met refreshToken salt now).writes env) newcomers))
      (fun found now => ∀ user, found = some user → user ∈ now.users.rows ∧
        (sub = .value user.id ∨ sub = .absent)) db := by
    cases sub with
    | absent =>
        intro later _
        exact ⟨Area.refl _, fun user found => ⟨OrderBy.mem_of_first found, Or.inr rfl⟩⟩
    | value id =>
        intro later _
        refine ⟨Area.refl _, fun user found => ?_⟩
        obtain ⟨stored, rfl⟩ := findUser_some found
        exact ⟨stored, Or.inl rfl⟩
    | unreadable => trivial
  refine finds.bind fun found later named => guarantees_orThrow_bind fun user present => ?_
  obtain ⟨stored, given⟩ := named user present
  refine guarantees_orThrow_bind fun hash _ => guarantees_user ?_ (Table.knows_of_mem stored)
  split
  · exact generateTokens_stays env.auth user salt now ⟨⟨sub, decoded, given⟩, rfl⟩
  · refine (updateLoaded_stays (sessionPatch_touches none) user ?_).bind fun _ => stays_fail _
    exact fun _ written => ⟨⟨sub, decoded, given⟩, List.mem_singleton.mp written⟩

theorem verifyEmail_stays (met : OrderBy fun _ _ : User => True) (token : Option String)
    (now : Time) :
    (verifyEmail met token now).Stays
      (Area (peopleScope [] ((VisitorOp.verifyEmail met token now).writes env) newcomers)) := by
  refine (stays_query Area.refl _).bind fun _ => ?_
  refine stays_orThrow.bind fun _ => stays_throwIf.bind fun _ => ?_
  exact updateUser_stays verifiedPatch_touches fun _ _ written => List.mem_cons.mp written

theorem requestPasswordReset_guarantees (email code : String) (now : Time) (db : Db) :
    (requestPasswordReset email code now).Guarantees Db.Evolves
      (Area (peopleScope [] ((VisitorOp.forgotPassword email code now).writes env) newcomers))
      (fun _ _ => True) db := by
  refine guarantees_query_bind Area.refl fun later _ => ?_
  cases found : later.findByEmail email with
  | none => trivial
  | some user =>
      obtain ⟨stored, address⟩ := findByEmail_account found
      refine guarantees_user (Stays.bind ?_ fun _ => stays_ret _) (Table.knows_of_mem stored)
      exact updateLoaded_stays (resetCodePatch_touches code now) user fun _ written =>
        ⟨address, written⟩

theorem verifyResetCode_guarantees (email code token : String) (now : Time) (db : Db) :
    (verifyResetCode email code token now).Guarantees Db.Evolves
      (Area (peopleScope [] ((VisitorOp.verifyResetCode email code token now).writes env) newcomers))
      (fun _ _ => True) db := by
  refine guarantees_found_bind Area.refl fun later _ user found => ?_
  obtain ⟨stored, address⟩ := findByEmail_account found
  iterate 2 refine guarantees_orThrow_bind fun _ _ => ?_
  iterate 2 refine guarantees_throwIf_bind fun _ => ?_
  refine guarantees_user (Stays.bind ?_ fun _ => stays_ret _) (Table.knows_of_mem stored)
  exact updateLoaded_stays (resetTokenPatch_touches token now) user fun _ written =>
    ⟨address, written⟩

theorem resetPassword_stays (token newPassword salt : String) (now : Time) :
    (resetPassword env.auth token newPassword salt now).Stays
      (Area (peopleScope [] ((VisitorOp.resetPassword token newPassword salt now).writes env)
        newcomers)) := by
  refine (stays_query Area.refl _).bind fun _ => ?_
  iterate 2 refine stays_orThrow.bind fun _ => ?_
  refine stays_throwIf.bind fun _ => ?_
  exact (updateUser_stays (newPasswordPatch_touches _) fun _ _ written => written).bind
    fun _ => stays_ret _

end Visitors

end AuthService

end VolunteerApi
