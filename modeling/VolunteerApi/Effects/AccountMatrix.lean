import VolunteerApi.Effects.Evolution
import VolunteerApi.Model.Server

/-!
# Who may write which column of a user

One row for each route: the columns it can write, in the row of which user, and what its caller
has to be.  A user is given by the id and the address.  Then the rows that a route inserts.
-/

set_option autoImplicit false

namespace VolunteerApi

open Relational Programs

/-- What a recalculation writes. -/
def levelColumns : List UserColumn := [.clearanceLevel, .trustScore]

def grantColumns : List UserColumn := [.clearanceLevel, .frontlineGrantedByAdmin]

def letterColumns : List UserColumn := [.emailVerificationToken, .emailVerificationExpires]

/-- Only a confirmation writes a user, and only the score. -/
def TasksOp.writes : TasksOp → UserId × String → UserColumn → Prop
  | .confirmTaskCompletion _ _ _, _, column => column = .trustScore
  | _, _, _ => False

def UsersOp.writes : UsersOp → UserId × String → UserColumn → Prop
  | .updateProfile targetId _ user, account, column =>
      (user.id = targetId ∨ user.systemRole = .admin) ∧ account.1 = targetId ∧ column = .fullName
  | .updateAvatar userId _, account, column => account.1 = userId ∧ column = .avatarUrl
  | .blockUser targetId user _, account, column =>
      user.systemRole = .admin ∧
        (account.1 = targetId ∧ column = .isBlocked ∨ column ∈ levelColumns)
  | .unblockUser targetId user, account, column =>
      user.systemRole = .admin ∧ account.1 = targetId ∧ column = .isBlocked
  | .changeRole targetId _ user, account, column =>
      user.systemRole = .admin ∧ user.id ≠ targetId ∧ account.1 = targetId ∧ column = .systemRole
  | .updateClearance targetId _ user, account, column =>
      user.systemRole = .admin ∧ account.1 = targetId ∧ column ∈ grantColumns
  | .createUser _ _, _, _ => False
  | .vouchForUser voucheeId user, account, column =>
      user.isEmailVerified = true ∧ user.isIdentityVerified = true ∧ user.isBlocked = false ∧
        user.id ≠ voucheeId ∧ account.1 = voucheeId ∧ column ∈ levelColumns
  | .recalculateClearance userId, account, column => account.1 = userId ∧ column ∈ levelColumns
  | .restoreVouch _ user, _, column | .revokeVouchPermanently _ user, _, column =>
      user.systemRole = .admin ∧ column ∈ levelColumns

def PersonalOp.writes : PersonalOp → UserId × String → UserColumn → Prop
  | .logout userId, account, column => account.1 = userId ∧ column = .refreshTokenHash
  | .resendVerification userId _ _, account, column => account.1 = userId ∧ column ∈ letterColumns
  | .changePassword userId _ _, account, column => account.1 = userId ∧ column = .passwordHash
  | .createUser _ _ _ _, _, _ | .saveRequest _ _ _, _, _ | .unsaveRequest _ _, _, _ => False

def UserOp.writes : UserOp → UserId × String → UserColumn → Prop
  | .tasks op, account, column => op.writes account column
  | .users op, account, column => op.writes account column
  | .personal op, account, column => op.writes account column
  | .requests _, _, _ | .content _, _, _ | .organizations _, _, _ | .conversations _, _, _
  | .reports _, _, _ => False

/-- The letter with a code goes to an address; the link, the token of a reset and a refresh token
open the account they were issued for. -/
def VisitorOp.writes (env : ServerEnv) : VisitorOp → UserId × String → UserColumn → Prop
  | .register dto _ _ _ _ _, account, column =>
      account.2 = toLowerCase dto.email ∧ column = .refreshTokenHash
  | .login dto _ _, account, column =>
      account.2 = toLowerCase dto.email ∧ column = .refreshTokenHash
  | .refresh _ refreshToken _ _, account, column =>
      (∃ sub, AuthController.decodeToken env.parse refreshToken = some sub ∧
        (sub = .value account.1 ∨ sub = .absent)) ∧ column = .refreshTokenHash
  | .verifyEmail _ _ _, _, column => column = .isEmailVerified ∨ column ∈ letterColumns
  | .forgotPassword email _ _, account, column =>
      account.2 = toLowerCase email ∧ column ∈ [.passwordResetCode, .passwordResetExpires]
  | .verifyResetCode email _ _ _, account, column =>
      account.2 = toLowerCase email ∧
        column ∈ [.passwordResetToken, .passwordResetExpires, .passwordResetCode]
  | .resetPassword _ _ _ _, _, column =>
      column ∈ [.passwordHash, .passwordResetToken, .passwordResetExpires]

/-! ## New users -/

def UsersOp.inserts : UsersOp → User → Prop
  | .createUser dto user, row =>
      user.systemRole = .admin ∧ row = UsersService.newUser dto row.id
  | _, _ => False

def PersonalOp.inserts : PersonalOp → User → Prop
  | .createUser dto _ _ user, row =>
      user.systemRole = .admin ∧
        row = { UsersService.newUser dto row.id with passwordHash := row.passwordHash }
  | _, _ => False

def UserOp.inserts : UserOp → User → Prop
  | .users op, row => op.inserts row
  | .personal op, row => op.inserts row
  | _, _ => False

def VisitorOp.inserts (env : ServerEnv) : VisitorOp → User → Prop
  | .register dto password passwordSalt token _ now, row =>
      row = AuthService.newAccount env.auth dto password passwordSalt token now row.id
  | _, _ => False

end VolunteerApi
