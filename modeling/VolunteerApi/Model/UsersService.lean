import VolunteerApi.Model.TasksService

/-!
# `UsersService`

The methods of `modules/users/users.service.ts` that write columns of the
model: blocking, roles, clearance levels and vouches.  Vehicles and the phone
verification stub are left out.  `required` is `FRONTLINE_VOUCHES_REQUIRED`.
-/

set_option autoImplicit false

namespace VolunteerApi

open Relational Programs

structure UpdateProfileDto where
  fullName : Option String
  deriving DecidableEq, Repr

structure AdminCreateUserDto where
  email : String
  fullName : String
  systemRole : SystemRole
  clearanceLevel : Option ClearanceLevel
  phoneNumber : Option String := none
  deriving DecidableEq, Repr

def Db.findVouch (db : Db) (id : VouchId) : Option TrustVouch :=
  db.vouches.findOne fun vouch => vouch.id = id

theorem Db.findVouch_some {db : Db} {id : VouchId} {vouch : TrustVouch}
    (found : db.findVouch id = some vouch) : vouch ∈ db.vouches.rows ∧ vouch.id = id := by
  simpa [findVouch] using Table.findOne_mem found

theorem Db.eq_of_findVouch {db : Db} {id : VouchId} {vouch other : TrustVouch}
    (found : db.findVouch id = some vouch) (member : other ∈ db.vouches.rows)
    (same : other.id = id) : other = vouch := by
  obtain ⟨foundMember, foundId⟩ := findVouch_some found
  exact Table.eq_of_key member foundMember (same.trans foundId.symm)

/-- The received vouches that are not suspended. -/
def Db.activeVouches (db : Db) (userId : UserId) : Nat :=
  db.vouches.count fun vouch => vouch.voucheeId = userId ∧ vouch.isSuspended = false

def Db.receivedVouches (db : Db) (userId : UserId) : Nat :=
  db.vouches.count fun vouch => vouch.voucheeId = userId

namespace UsersService

/-! ## The columns the `UPDATE` statements set -/

def blockedPatch (isBlocked : Bool) : Patch User.id User.email where
  run user := { user with isBlocked := isBlocked }

def rolePatch (newRole : SystemRole) : Patch User.id User.email where
  run user := { user with systemRole := newRole }

def clearancePatch (newLevel : ClearanceLevel) : Patch User.id User.email where
  run user :=
    { user with
      clearanceLevel := newLevel
      frontlineGrantedByAdmin := decide (newLevel = .frontline) }

def recalculatedPatch (newLevel : ClearanceLevel) (newScore : Nat) : Patch User.id User.email where
  run user := { user with clearanceLevel := newLevel, trustScore := newScore }

def avatarPatch (avatarUrl : String) : Patch User.id User.email where
  run user := { user with avatarUrl := some avatarUrl }

def suspendedPatch (now : Time) : Patch TrustVouch.id TrustVouch.slot where
  run vouch :=
    { vouch with
      isSuspended := true
      suspendedAt := some now
      suspensionReason := some "voucher banned by admin" }

def restoredPatch : Patch TrustVouch.id TrustVouch.slot where
  run vouch :=
    { vouch with isSuspended := false, suspendedAt := none, suspensionReason := none }

/-- `userRepo.update(id, ...)` -/
def updateUser (id : UserId) (patch : Patch User.id User.email) : Service Unit :=
  Prog.exec fun db => { db with users := db.users.update (fun user => user.id = id) patch }

/-! ## Clearance levels -/

/-- `trustScore` is read back as text such as `10.00`, so `+ bonus` appends the
digits of the bonus, and the column rounds the number to two decimals:
`"10.00" + 5` is stored as `10.01`. -/
def appendedScore (score bonus : Nat) : Nat :=
  let places := Nat.pow 10 (Nat.toDigits 10 bonus).length
  (2 * (score * places + bonus) + places) / (2 * places)

def bonusOf : ClearanceLevel → Nat
  | .local => 0
  | .international => 5
  | .frontline => 10

/-- `Math.min(100, user.trustScore + bonus)`, in hundredths. -/
def recalculatedScore (score : Nat) (level : ClearanceLevel) : Nat :=
  min 10000 (appendedScore score (bonusOf level))

def clearanceFor (required activeCount : Nat) (isEmailVerified : Bool) : ClearanceLevel :=
  if activeCount ≥ required ∧ isEmailVerified = true then .frontline
  else if activeCount ≥ required then .international
  else if activeCount ≥ 1 then .international
  else .local

/-- `status: In([ASSIGNED, EN_ROUTE, ON_SITE])` -/
def isWithdrawable (assignment : TaskAssignment) : Bool :=
  assignment.status = .assigned ∨ assignment.status = .enRoute ∨ assignment.status = .onSite

def withdrawFromActiveTasks (userId : UserId) : Service Unit := do
  let assignments ← Prog.query fun db =>
    db.assignments.find fun assignment =>
      assignment.userId = userId ∧ isWithdrawable assignment = true
  Prog.forEach assignments fun assignment => TasksService.markWithdrawn assignment.id

def recalculateClearance (required : Nat) (userId : UserId) : Service Unit := do
  let activeCount ← Prog.query fun db => db.activeVouches userId
  let found ← Prog.query fun db => db.findUser userId
  match found with
  | none => return ()
  | some user =>
      if user.frontlineGrantedByAdmin = true ∧ user.clearanceLevel = .frontline then return ()
      else
        let newClearance := clearanceFor required activeCount user.isEmailVerified
        Prog.onlyIf (user.clearanceLevel ≠ newClearance) do
          Prog.onlyIf (user.clearanceLevel = .frontline) (withdrawFromActiveTasks userId)
          updateUser userId
            (recalculatedPatch newClearance (recalculatedScore user.trustScore newClearance))

def updateClearance (targetId : UserId) (newLevel : ClearanceLevel) (admin : User) :
    Service Unit := do
  Prog.throwIf (admin.systemRole ≠ .admin)
    (.forbidden "Лише адміністратор може змінювати рівень допуску")
  let found ← Prog.query fun db => db.findUser targetId
  let _target ← Prog.orThrow found (.notFound "Користувача не знайдено")
  updateUser targetId (clearancePatch newLevel)

/-! ## Blocking, roles and profiles -/

def suspendGivenVouches (targetId : UserId) (now : Time) : Service Unit :=
  Prog.exec fun db =>
    { db with
      vouches := db.vouches.update
        (fun vouch => vouch.voucherId = targetId ∧ vouch.isSuspended = false)
        (suspendedPatch now) }

def blockUser (required : Nat) (targetId : UserId) (admin : User) (now : Time) :
    Service Unit := do
  Prog.throwIf (admin.systemRole ≠ .admin)
    (.forbidden "Лише адміністратор може блокувати користувачів")
  updateUser targetId (blockedPatch true)
  suspendGivenVouches targetId now
  let affected ← Prog.query fun db => db.vouches.find fun vouch => vouch.voucherId = targetId
  Prog.forEach (affected.map TrustVouch.voucheeId) (recalculateClearance required)

def unblockUser (targetId : UserId) (admin : User) : Service Unit := do
  Prog.throwIf (admin.systemRole ≠ .admin)
    (.forbidden "Лише адміністратор може розблоковувати користувачів")
  let found ← Prog.query fun db => db.findUser targetId
  let _user ← Prog.orThrow found (.notFound "Користувача не знайдено")
  updateUser targetId (blockedPatch false)

def changeRole (targetId : UserId) (newRole : SystemRole) (admin : User) : Service Unit := do
  Prog.throwIf (admin.systemRole ≠ .admin)
    (.forbidden "Лише адміністратор може змінювати ролі")
  let found ← Prog.query fun db => db.findUser targetId
  let target ← Prog.orThrow found (.notFound "Користувача не знайдено")
  Prog.throwIf (target.id = admin.id) (.badRequest "Не можна змінити власну роль")
  updateUser targetId (rolePatch newRole)

/-- `dto.fullName?.trim()` where it is not empty. -/
def UpdateProfileDto.name (dto : UpdateProfileDto) (user : User) : String :=
  match dto.fullName with
  | some fullName => if trim fullName = "" then user.fullName else trim fullName
  | none => user.fullName

def profilePatch (dto : UpdateProfileDto) : Patch User.id User.email where
  run user := { user with fullName := UpdateProfileDto.name dto user }

def updateProfile (targetId : UserId) (dto : UpdateProfileDto) (currentUser : User) :
    Service Unit := do
  Prog.throwIf (currentUser.id ≠ targetId ∧ currentUser.systemRole ≠ .admin)
    (.forbidden "Можна редагувати лише власний профіль")
  updateUser targetId (profilePatch dto)

def updateAvatar (userId : UserId) (avatarUrl : String) : Service Unit :=
  updateUser userId (avatarPatch avatarUrl)

def AdminCreateUserDto.fits (dto : AdminCreateUserDto) : Bool :=
  accountFits (toLowerCase dto.email) dto.fullName dto.phoneNumber

def newUser (dto : AdminCreateUserDto) (id : UserId) : User where
  id := id
  email := toLowerCase dto.email
  fullName := dto.fullName
  systemRole := dto.systemRole
  clearanceLevel := dto.clearanceLevel.getD .local
  trustScore := 0
  isBlocked := false
  avatarUrl := none
  isEmailVerified := true
  isIdentityVerified := false
  frontlineGrantedByAdmin := false

def createUser (dto : AdminCreateUserDto) (admin : User) : Service User := do
  Prog.throwIf (admin.systemRole ≠ .admin)
    (.forbidden "Лише адміністратор може створювати користувачів")
  let existing ← Prog.query fun db =>
    db.users.findOne fun user => user.email = toLowerCase dto.email
  Prog.throwIf (existing ≠ none) (.conflict "Користувач з таким email вже існує")
  Prog.throwIf (AdminCreateUserDto.fits dto = false)
    (.queryFailed "value too long for type character varying")
  Prog.execOr (.queryFailed "duplicate key value violates unique constraint") fun db =>
    (db.users.insert (newUser dto)).map fun users =>
      ({ db with users := users }, newUser dto db.users.next)

/-! ## Vouches -/

def newVouch (voucheeId : UserId) (voucher : User) (id : VouchId) : TrustVouch where
  id := id
  voucheeId := voucheeId
  voucherId := voucher.id
  isSuspended := false
  suspendedAt := none
  suspensionReason := none

def insertVouch (voucheeId : UserId) (voucher : User) : Service TrustVouch :=
  Prog.execOr (.queryFailed "duplicate key value violates unique constraint") fun db =>
    (db.vouches.insert (newVouch voucheeId voucher)).map fun vouches =>
      ({ db with vouches := vouches }, newVouch voucheeId voucher db.vouches.next)

def vouchForUser (required : Nat) (voucheeId : UserId) (voucher : User) : Service TrustVouch := do
  Prog.throwIf (voucheeId = voucher.id)
    (.badRequest "Не можна поручитися за самого себе")
  let found ← Prog.query fun db => db.findUser voucheeId
  let _vouchee ← Prog.orThrow found (.notFound "Користувача не знайдено")
  Prog.throwIf (voucher.clearanceLevel ≠ .frontline ∧ voucher.systemRole ≠ .admin)
    (.forbidden
      "Поручителем може бути лише верифікований волонтер (рівень FRONTLINE) або адміністратор")
  Prog.throwIf (voucher.isEmailVerified = false)
    (.forbidden "Поручитель повинен мати підтверджений email")
  Prog.throwIf (voucher.avatarUrl.getD "" = "")
    (.forbidden "Поручитель повинен мати завантажену аватарку (фото обличчя)")
  Prog.throwIf (voucher.isIdentityVerified = false)
    (.forbidden "Поручитель повинен пройти верифікацію особи адміністратором")
  Prog.throwIf (voucher.isBlocked = true)
    (.forbidden "Забанений користувач не може поручатися")
  let existing ← Prog.query fun db =>
    db.vouches.findOne fun vouch => vouch.voucheeId = voucheeId ∧ vouch.voucherId = voucher.id
  Prog.throwIf (existing ≠ none) (.conflict "Ви вже надали поручительство цьому користувачу")
  let vouch ← insertVouch voucheeId voucher
  recalculateClearance required voucheeId
  return vouch

def restoreVouch (required : Nat) (vouchId : VouchId) (admin : User) : Service Unit := do
  Prog.throwIf (admin.systemRole ≠ .admin)
    (.forbidden "Лише адміністратор може відновлювати поручительства")
  let found ← Prog.query fun db =>
    (db.findVouch vouchId).map fun vouch => (vouch, db.findUser vouch.voucherId)
  let loaded ← Prog.orThrow found (.notFound "Поручительство не знайдено")
  Prog.throwIf (loaded.1.isSuspended = false) (.badRequest "Поручительство вже активне")
  Prog.throwIf (loaded.2.any User.isBlocked = true)
    (.forbidden "Неможливо відновити: поручитель забанений")
  Prog.exec fun db =>
    { db with vouches := db.vouches.update (fun vouch => vouch.id = vouchId) restoredPatch }
  recalculateClearance required loaded.1.voucheeId

def revokeVouchPermanently (required : Nat) (vouchId : VouchId) (admin : User) :
    Service Unit := do
  Prog.throwIf (admin.systemRole ≠ .admin)
    (.forbidden "Лише адміністратор може відкликати поручительство")
  let found ← Prog.query fun db => db.findVouch vouchId
  let vouch ← Prog.orThrow found (.notFound "Поручительство не знайдено")
  Prog.exec fun db => { db with vouches := db.vouches.delete fun stored => stored.id = vouchId }
  recalculateClearance required vouch.voucheeId

end UsersService

end VolunteerApi
