import VolunteerApi.Effects.TrustEffects
import VolunteerApi.Programs.Checks
import VolunteerApi.Programs.Sessions

/-!
# Vouch calls, statement by statement

Where a call of `vouchForUser`, `blockUser`, `restoreVouch` or
`revokeVouchPermanently` stands while others run: it checks, it changes vouches,
and it recalculates the level of everybody concerned, one after the other.
-/

set_option autoImplicit false

namespace VolunteerApi

open Relational Programs
open UsersService

inductive VouchCall where
  | vouch (voucheeId : UserId) (voucher : User)
  | block (targetId : UserId) (admin : User) (now : Time)
  | restore (vouchId : VouchId) (admin : User)
  | revoke (vouchId : VouchId) (admin : User)

def VouchCall.program (required : Nat) : VouchCall → Service Unit
  | .vouch voucheeId voucher => do
      let _vouch ← vouchForUser required voucheeId voucher
      return ()
  | .block targetId admin now => blockUser required targetId admin now
  | .restore vouchId admin => restoreVouch required vouchId admin
  | .revoke vouchId admin => revokeVouchPermanently required vouchId admin

/-! ## What is left of a call -/

section Rests

variable (required : Nat)

def recalculateAll (userIds : List UserId) : Service Unit :=
  Prog.forEach userIds (recalculateClearance required)

/-- `recalculateClearance` once it has counted and loaded the user. -/
def decideLevel (userId : UserId) (activeCount : Nat) : Option User → Service Unit
  | none => return ()
  | some user =>
      if user.frontlineGrantedByAdmin = true ∧ user.clearanceLevel = .frontline then return ()
      else
        let newClearance := clearanceFor required activeCount user.isEmailVerified
        Prog.onlyIf (user.clearanceLevel ≠ newClearance) do
          Prog.onlyIf (user.clearanceLevel = .frontline) (withdrawFromActiveTasks userId)
          updateUser userId
            (recalculatedPatch newClearance (recalculatedScore user.trustScore newClearance))

/-- `recalculateClearance` once it has counted, and the users after this one. -/
def settleThen (userId : UserId) (activeCount : Nat) (later : List UserId) : Service Unit :=
  Prog.bind (Prog.query fun db => db.findUser userId) fun found =>
    Prog.bind (decideLevel required userId activeCount found) fun _ =>
      recalculateAll required later

/-- The level is lost: the assignments first. -/
def withdrawThen (userId : UserId) (level : ClearanceLevel) (score : Nat) (later : List UserId) :
    Service Unit :=
  Prog.bind (Prog.bind (withdrawFromActiveTasks userId) fun _ =>
    updateUser userId (recalculatedPatch level score)) fun _ => recalculateAll required later

def markThen (held : List TaskAssignment) (userId : UserId) (level : ClearanceLevel) (score : Nat)
    (later : List UserId) : Service Unit :=
  Prog.bind (Prog.bind (Prog.forEach held fun assignment =>
    TasksService.markWithdrawn assignment.id) fun _ =>
      updateUser userId (recalculatedPatch level score)) fun _ => recalculateAll required later

def insertThen (voucheeId : UserId) (voucher : User) : Service Unit :=
  Prog.bind (insertVouch voucheeId voucher) fun _ => recalculateAll required [voucheeId]

def restoreThen (vouchId : VouchId) (voucheeId : UserId) : Service Unit :=
  Prog.bind (Prog.exec fun db => restored db vouchId) fun _ => recalculateAll required [voucheeId]

def revokeThen (vouchId : VouchId) (voucheeId : UserId) : Service Unit :=
  Prog.bind (Prog.exec fun db => revoked db vouchId) fun _ => recalculateAll required [voucheeId]

def listThen (targetId : UserId) : Service Unit :=
  Prog.bind (Prog.query fun db => db.vouches.find fun vouch => vouch.voucherId = targetId)
    fun affected => recalculateAll required (affected.map TrustVouch.voucheeId)

def suspendThen (targetId : UserId) (now : Time) : Service Unit :=
  Prog.bind (suspendGivenVouches targetId now) fun _ => listThen required targetId

def blockThen (targetId : UserId) (now : Time) : Service Unit :=
  Prog.bind (updateUser targetId (blockedPatch true)) fun _ => suspendThen required targetId now

theorem recalculateAll_cons (userId : UserId) (later : List UserId) :
    recalculateAll required (userId :: later) =
      Prog.bind (Prog.query fun db => db.activeVouches userId) fun activeCount =>
        settleThen required userId activeCount later := rfl

theorem recalculateAll_single (userId : UserId) :
    recalculateAll required [userId] = recalculateClearance required userId :=
  Prog.bind_ret _

end Rests

/-! ## The recalculations of a call, as one user's level sees them -/

section Recounting

variable (required : Nat) (userId : UserId) (verified : Bool)

/-- The user's level was granted by nobody, and the email flag is as given. -/
def Ordinary (db : Db) : Prop :=
  ∀ user ∈ db.users.rows, user.id = userId →
    user.frontlineGrantedByAdmin = false ∧ user.isEmailVerified = verified

/-- The user has the level that the stored vouches and the email flag give. -/
def LevelFollows (db : Db) : Prop :=
  ∀ user ∈ db.users.rows, user.id = userId →
    user.clearanceLevel = clearanceFor required (db.activeVouches userId) user.isEmailVerified

/-- Between its count of the user's vouches and the end of the recalculation. -/
inductive InWindow : Service Unit → Prop
  | counted (activeCount : Nat) (later : List UserId) :
      InWindow (settleThen required userId activeCount later)
  | withdrawing (level : ClearanceLevel) (score : Nat) (later : List UserId) :
      InWindow (withdrawThen required userId level score later)
  | marking (held : List TaskAssignment) (level : ClearanceLevel) (score : Nat)
      (later : List UserId) : InWindow (markThen required held userId level score later)

/-- Where the recalculations stand, with the users that are still to be settled.  What a
session has counted for the user is what is stored. -/
inductive Recounting (db : Db) : List UserId → Service Unit → Prop
  | listed (ids : List UserId) : Recounting db ids (recalculateAll required ids)
  | counted (id : UserId) (activeCount : Nat) (later : List UserId)
      (fresh : id = userId → activeCount = db.activeVouches userId) :
      Recounting db (id :: later) (settleThen required id activeCount later)
  | withdrawing (id : UserId) (level : ClearanceLevel) (score : Nat) (later : List UserId)
      (fresh : id = userId → level = clearanceFor required (db.activeVouches userId) verified) :
      Recounting db (id :: later) (withdrawThen required id level score later)
  | marking (held : List TaskAssignment) (id : UserId) (level : ClearanceLevel) (score : Nat)
      (later : List UserId)
      (fresh : id = userId → level = clearanceFor required (db.activeVouches userId) verified) :
      Recounting db (id :: later) (markThen required held id level score later)

/-- What one statement of a recalculation does to the user. -/
structure Recounted (db after : Db) (ids later : List UserId) : Prop where
  vouches : after.vouches = db.vouches
  ordinary : Ordinary userId verified after
  follows : LevelFollows required userId db → LevelFollows required userId after
  settled : userId ∈ ids → userId ∈ later ∨ LevelFollows required userId after

end Recounting

variable {required : Nat} {userId : UserId} {verified : Bool}

theorem recounted_of_read {db : Db} {ids later : List UserId}
    (ordinary : Ordinary userId verified db)
    (settled : userId ∈ ids → userId ∈ later ∨ LevelFollows required userId db) :
    Recounted required userId verified db db ids later :=
  ⟨rfl, ordinary, id, settled⟩

/-- The user's row is found and the level is the right one already, or it will be written. -/
theorem decideLevel_recounting {db : Db} (ordinary : Ordinary userId verified db) {id : UserId}
    {activeCount : Nat} (later : List UserId)
    (fresh : id = userId → activeCount = db.activeVouches userId) :
    ∃ ids, Recounting required userId verified db ids
        (Prog.bind (decideLevel required id activeCount (db.findUser id)) fun _ =>
          recalculateAll required later) ∧
      (userId ∈ id :: later → userId ∈ ids ∨ LevelFollows required userId db) := by
  -- nothing is written: the user is settled if the level follows
  have skipped : (id = userId → LevelFollows required userId db) →
      userId ∈ id :: later → userId ∈ later ∨ LevelFollows required userId db := by
    intro follows member
    rcases List.mem_cons.mp member with same | inLater
    · exact Or.inr (follows same.symm)
    · exact Or.inl inLater
  cases found : db.findUser id with
  | none =>
      refine ⟨later, .listed later, skipped ?_⟩
      rintro rfl user member same
      have missed := Table.findOne_none.mp found user member
      simp [same] at missed
  | some user =>
      obtain ⟨member, sameId⟩ := Db.findUser_some found
      unfold decideLevel
      by_cases granted : user.frontlineGrantedByAdmin = true ∧ user.clearanceLevel = .frontline
      · simp only [if_pos granted]
        refine ⟨later, .listed later, skipped ?_⟩
        rintro rfl
        rw [(ordinary user member sameId).1] at granted
        exact absurd granted.1 Bool.false_ne_true
      · simp only [if_neg granted]
        by_cases changed : user.clearanceLevel ≠
            clearanceFor required activeCount user.isEmailVerified
        · have written : id = userId → clearanceFor required activeCount user.isEmailVerified =
              clearanceFor required (db.activeVouches userId) verified := by
            intro here
            rw [fresh here, (ordinary user member (sameId.trans here)).2]
          refine ⟨id :: later, ?_, Or.inl⟩
          simp only [Prog.onlyIf, if_pos changed]
          by_cases frontline : user.clearanceLevel = .frontline
          · simp only [if_pos frontline]
            exact .withdrawing id _ _ later written
          · simp only [if_neg frontline]
            exact .marking [] id _ _ later written
        · simp only [Prog.onlyIf, if_neg changed]
          refine ⟨later, .listed later, skipped ?_⟩
          intro here other otherMember same
          rw [Table.eq_of_key otherMember member (same.trans (here.symm.trans sameId.symm)),
            ← fresh here]
          exact not_not.mp changed

theorem recounted_of_same {db after : Db} {ids : List UserId}
    (ordinary : Ordinary userId verified db) (vouches : after.vouches = db.vouches)
    (users : after.users = db.users) : Recounted required userId verified db after ids ids := by
  refine ⟨vouches, ?_, ?_, Or.inl⟩
  · unfold Ordinary
    rwa [users]
  · intro follows
    unfold LevelFollows Db.activeVouches
    rwa [users, vouches]

/-- The level is written: for the user it is the one that follows. -/
theorem recounted_of_written {db : Db} (ordinary : Ordinary userId verified db) {id : UserId}
    {level : ClearanceLevel} (score : Nat) (later : List UserId)
    (fresh : id = userId → level = clearanceFor required (db.activeVouches userId) verified) :
    Recounted required userId verified db (withUser db id (recalculatedPatch level score))
      (id :: later) later := by
  have origin : ∀ row ∈ (withUser db id (recalculatedPatch level score)).users.rows,
      row.id = userId → ∃ old ∈ db.users.rows, old.id = userId ∧
        row.frontlineGrantedByAdmin = old.frontlineGrantedByAdmin ∧
        row.isEmailVerified = old.isEmailVerified ∧
        row.clearanceLevel = if id = userId then level else old.clearanceLevel := by
    intro row member same
    obtain ⟨old, oldMember, rfl⟩ := (Table.mem_update _ _ _ _).mp member
    by_cases hit : old.id = id
    · rw [if_pos (decide_eq_true hit)] at same ⊢
      exact ⟨old, oldMember, same, rfl, rfl, (if_pos (hit.symm.trans same)).symm⟩
    · rw [if_neg (by simpa using hit)] at same ⊢
      exact ⟨old, oldMember, same, rfl, rfl, (if_neg fun here => hit (same.trans here.symm)).symm⟩
  have written : id = userId →
      LevelFollows required userId (withUser db id (recalculatedPatch level score)) := by
    intro here row member same
    obtain ⟨old, oldMember, oldId, _, sameFlag, sameLevel⟩ := origin row member same
    rw [sameLevel, if_pos here, fresh here, sameFlag, (ordinary old oldMember oldId).2]
    rfl
  refine ⟨rfl, ?_, ?_, ?_⟩
  · intro row member same
    obtain ⟨old, oldMember, oldId, granted, sameFlag, _⟩ := origin row member same
    rw [granted, sameFlag]
    exact ordinary old oldMember oldId
  · intro follows
    by_cases here : id = userId
    · exact written here
    · intro row member same
      obtain ⟨old, oldMember, oldId, _, sameFlag, sameLevel⟩ := origin row member same
      rw [sameLevel, if_neg here, sameFlag]
      exact follows old oldMember oldId
  · intro member
    rcases List.mem_cons.mp member with here | inLater
    · exact Or.inr (written here.symm)
    · exact Or.inl inLater

theorem Recounting.statement {db : Db} {ids : List UserId} {lock : Option TaskId}
    {effect : Db → Db} {next : Db → Service Unit} (ordinary : Ordinary userId verified db)
    (recounting : Recounting required userId verified db ids (.stmt lock effect next)) :
    ∃ later, Recounting required userId verified (effect db) later (next db) ∧
      Recounted required userId verified db (effect db) ids later := by
  generalize same : Prog.stmt lock effect next = rest at recounting
  cases recounting with
  | listed =>
      cases ids with
      | nil => cases same
      | cons id later =>
          rw [recalculateAll_cons] at same
          cases same
          exact ⟨id :: later, .counted id _ later (fun here => by rw [here]; rfl),
            recounted_of_read ordinary Or.inl⟩
  | counted id activeCount later fresh =>
      cases same
      obtain ⟨rest, goes, settled⟩ := decideLevel_recounting ordinary later fresh
      exact ⟨rest, goes, recounted_of_read ordinary settled⟩
  | withdrawing id level score later fresh =>
      cases same
      exact ⟨id :: later, .marking _ id level score later fresh, recounted_of_read ordinary Or.inl⟩
  | marking held id level score later fresh =>
      cases held with
      | nil =>
          cases same
          exact ⟨later, .listed later, recounted_of_written ordinary score later fresh⟩
      | cons assignment held =>
          cases same
          exact ⟨id :: later, .marking held id level score later fresh,
            recounted_of_same ordinary rfl rfl⟩

theorem Recounting.later {db after : Db} {ids : List UserId} {rest : Service Unit}
    (recounting : Recounting required userId verified db ids rest)
    (kept : InWindow required userId rest →
      after.activeVouches userId = db.activeVouches userId) :
    Recounting required userId verified after ids rest := by
  cases recounting with
  | listed => exact .listed ids
  | counted id activeCount later fresh =>
      refine .counted id activeCount later ?_
      rintro rfl
      rw [kept (.counted activeCount later)]
      exact fresh rfl
  | withdrawing id level score later fresh =>
      refine .withdrawing id level score later ?_
      rintro rfl
      rw [kept (.withdrawing level score later)]
      exact fresh rfl
  | marking held id level score later fresh =>
      refine .marking held id level score later ?_
      rintro rfl
      rw [kept (.marking held level score later)]
      exact fresh rfl

/-! ## What the statements do to vouches -/

/-- The number goes with the vouchee, also when the vouch is deleted. -/
def Names (db : Db) (vouchId : VouchId) (voucheeId : UserId) : Prop :=
  vouchId < db.vouches.next ∧
    ∀ vouch ∈ db.vouches.rows, vouch.id = vouchId → vouch.voucheeId = voucheeId

def NamesKept (db later : Db) : Prop :=
  ∀ vouchId voucheeId, Names db vouchId voucheeId → Names later vouchId voucheeId

theorem namesKept_trans (first second third : Db) (before : NamesKept first second)
    (after : NamesKept second third) : NamesKept first third :=
  fun vouchId voucheeId names => after vouchId voucheeId (before vouchId voucheeId names)

theorem namesKept_of_same {db later : Db} (same : later.vouches = db.vouches) :
    NamesKept db later := by
  intro vouchId voucheeId names
  unfold Names
  rwa [same]

theorem namesKept_of_update {db later : Db} {wanted : TrustVouch → Bool}
    {patch : Patch TrustVouch.id TrustVouch.slot}
    (vouches : later.vouches = db.vouches.update wanted patch)
    (sameVouchee : ∀ vouch, (patch.run vouch).voucheeId = vouch.voucheeId) :
    NamesKept db later := by
  rintro vouchId voucheeId ⟨below, named⟩
  unfold Names
  rw [vouches]
  refine ⟨below, ?_⟩
  intro row member same
  obtain ⟨old, oldMember, rfl⟩ := (Table.mem_update _ _ _ _).mp member
  split at same
  · rw [if_pos (by assumption), sameVouchee]
    exact named old oldMember ((patch.key_run old).symm.trans same)
  · rw [if_neg (by assumption)]
    exact named old oldMember same

theorem namesKept_inserted {db : Db} {voucheeId : UserId} {voucher : User}
    {vouches : Table TrustVouch.id TrustVouch.slot}
    (inserted : db.vouches.insert (newVouch voucheeId voucher) = some vouches) :
    NamesKept db { db with vouches := vouches } := by
  rintro vouchId vouchee ⟨below, named⟩
  refine ⟨Nat.lt_of_lt_of_eq (Nat.lt_succ_of_lt below) (Table.insert_next inserted).symm, ?_⟩
  intro row member same
  rcases ((Table.added_insert inserted).mem row).mp member with old | rfl
  · exact named row old same
  · exact absurd same.symm (Nat.ne_of_lt below)

theorem namesKept_revoked (db : Db) (vouchId : VouchId) : NamesKept db (revoked db vouchId) := by
  rintro other voucheeId ⟨below, named⟩
  refine ⟨below, ?_⟩
  intro row member same
  exact named row ((Table.mem_delete _ _ _).mp member).1 same

theorem names_of_findVouch {db : Db} {vouchId : VouchId} {vouch : TrustVouch}
    (found : db.findVouch vouchId = some vouch) : Names db vouchId vouch.voucheeId := by
  obtain ⟨member, sameId⟩ := Db.findVouch_some found
  refine ⟨sameId ▸ db.vouches.below vouch member, ?_⟩
  intro other otherMember same
  rw [Db.eq_of_findVouch found otherMember same]

/-- The target has vouched for the user. -/
def GivenTo (db : Db) (targetId userId : UserId) : Prop :=
  ∃ vouch ∈ db.vouches.rows, vouch.voucherId = targetId ∧ vouch.voucheeId = userId

theorem givenTo_of_update {db later : Db} {wanted : TrustVouch → Bool}
    {patch : Patch TrustVouch.id TrustVouch.slot}
    (vouches : later.vouches = db.vouches.update wanted patch)
    (sameParties : ∀ vouch, (patch.run vouch).voucherId = vouch.voucherId ∧
      (patch.run vouch).voucheeId = vouch.voucheeId) {targetId userId : UserId}
    (given : GivenTo db targetId userId) : GivenTo later targetId userId := by
  obtain ⟨vouch, member, voucher, vouchee⟩ := given
  refine ⟨_, vouches ▸ Table.image_mem_update wanted patch member, ?_⟩
  split
  · rw [(sameParties vouch).1, (sameParties vouch).2]
    exact ⟨voucher, vouchee⟩
  · exact ⟨voucher, vouchee⟩

theorem follows_of_same {db after : Db} (users : after.users = db.users)
    (active : after.activeVouches userId = db.activeVouches userId)
    (follows : LevelFollows required userId db) : LevelFollows required userId after := by
  unfold LevelFollows
  rwa [users, active]

/-! ## Where a session stands -/

/-- What a call does first once it has made its checks. -/
inductive Changing (required : Nat) (db : Db) : Service Unit → Prop
  | inserting (voucheeId : UserId) (voucher : User) :
      Changing required db (insertThen required voucheeId voucher)
  | restoring (vouchId : VouchId) (voucheeId : UserId) (names : Names db vouchId voucheeId) :
      Changing required db (restoreThen required vouchId voucheeId)
  | revoking (vouchId : VouchId) (voucheeId : UserId) (names : Names db vouchId voucheeId) :
      Changing required db (revokeThen required vouchId voucheeId)
  | blocking (targetId : UserId) (now : Time) :
      Changing required db (blockThen required targetId now)

/-- Where a session stands, and whether it will count the user's vouches again. -/
inductive VouchStage (required : Nat) (userId : UserId) (verified : Bool) (db : Db) :
    Prop → Session Db TaskId HttpException Unit → Prop
  | checking (rest : Service Unit) (checks : Prog.Checks NamesKept (Changing required) db rest) :
      VouchStage required userId verified db False (.auto rest)
  | suspending (targetId : UserId) (now : Time) :
      VouchStage required userId verified db False (.auto (suspendThen required targetId now))
  | listing (targetId : UserId) :
      VouchStage required userId verified db (GivenTo db targetId userId)
        (.auto (listThen required targetId))
  | recounting (ids : List UserId) (rest : Service Unit)
      (recounting : Recounting required userId verified db ids rest) :
      VouchStage required userId verified db (userId ∈ ids) (.auto rest)
  | done (result : Except HttpException Unit) :
      VouchStage required userId verified db False (.done result)

/-- What one statement does: the session owes the user a recalculation afterwards, or
nothing has changed for the user but a level that was owed. -/
structure Advances (required : Nat) (userId : UserId) (verified : Bool) (db after : Db)
    (owed owes : Prop) : Prop where
  names : NamesKept db after
  ordinary : Ordinary userId verified after
  settles : owes ∨
    after.activeVouches userId = db.activeVouches userId ∧
      (∀ targetId, GivenTo db targetId userId → GivenTo after targetId userId) ∧
      (LevelFollows required userId db ∨ owed → LevelFollows required userId after)

theorem advances_of_read {db : Db} {owed owes : Prop} (ordinary : Ordinary userId verified db)
    (settles : owed → owes ∨ LevelFollows required userId db) :
    Advances required userId verified db db owed owes := by
  refine ⟨namesKept_of_same rfl, ordinary, ?_⟩
  by_cases still : owes
  · exact Or.inl still
  · refine Or.inr ⟨rfl, fun _ given => given, ?_⟩
    rintro (follows | due)
    · exact follows
    · exact (settles due).resolve_left still

theorem advances_of_elsewhere {db after : Db} {owes : Prop} (names : NamesKept db after)
    (ordinary : Ordinary userId verified db) (users : after.users = db.users)
    (settles : owes ∨ after.activeVouches userId = db.activeVouches userId ∧
      ∀ targetId, GivenTo db targetId userId → GivenTo after targetId userId) :
    Advances required userId verified db after False owes := by
  refine ⟨names, ?_, ?_⟩
  · unfold Ordinary
    rwa [users]
  · refine settles.imp_right ?_
    rintro ⟨active, given⟩
    refine ⟨active, given, ?_⟩
    rintro (follows | never)
    · exact follows_of_same users active follows
    · exact never.elim

theorem insert_statement {db : Db} {voucheeId : UserId} {voucher : User}
    {vouches : Table TrustVouch.id TrustVouch.slot} (ordinary : Ordinary userId verified db)
    (inserted : db.vouches.insert (newVouch voucheeId voucher) = some vouches) :
    Advances required userId verified db { db with vouches := vouches } False
      (userId ∈ [voucheeId]) := by
  refine advances_of_elsewhere (namesKept_inserted inserted) ordinary rfl ?_
  by_cases here : voucheeId = userId
  · exact Or.inl (by simp [here])
  · right
    constructor
    · rw [activeVouches_inserted inserted, if_neg here]
      rfl
    · rintro targetId ⟨vouch, member, voucherId, vouchee⟩
      exact ⟨vouch, ((Table.added_insert inserted).mem vouch).mpr (Or.inl member), voucherId,
        vouchee⟩

theorem restore_statement {db : Db} {vouchId : VouchId} {voucheeId : UserId}
    (ordinary : Ordinary userId verified db) (names : Names db vouchId voucheeId) :
    Advances required userId verified db (restored db vouchId) False (userId ∈ [voucheeId]) := by
  refine advances_of_elsewhere (namesKept_of_update rfl fun _ => rfl) ordinary rfl ?_
  by_cases here : voucheeId = userId
  · exact Or.inl (by simp [here])
  · right
    constructor
    · rw [activeVouches_restored]
      apply supportWith_other
      intro vouch member same
      rw [names.2 vouch member same]
      exact here
    · intro targetId given
      exact givenTo_of_update rfl (fun _ => ⟨rfl, rfl⟩) given

theorem revoke_statement {db : Db} {vouchId : VouchId} {voucheeId : UserId}
    (ordinary : Ordinary userId verified db) (names : Names db vouchId voucheeId) :
    Advances required userId verified db (revoked db vouchId) False (userId ∈ [voucheeId]) := by
  refine advances_of_elsewhere (namesKept_revoked db vouchId) ordinary rfl ?_
  by_cases here : voucheeId = userId
  · exact Or.inl (by simp [here])
  · right
    constructor
    · rw [activeVouches_revoked]
      apply supportWithout_other
      intro vouch member same
      rw [names.2 vouch member same]
      exact here
    · rintro targetId ⟨vouch, member, voucher, vouchee⟩
      refine ⟨vouch, (Table.mem_delete _ _ _).mpr ⟨member, ?_⟩, voucher, vouchee⟩
      apply decide_eq_false
      intro same
      exact here ((names.2 vouch member same).symm.trans vouchee)

/-- The database after the vouches a user gave were suspended. -/
def suspended (db : Db) (targetId : UserId) (now : Time) : Db :=
  { db with
    vouches := db.vouches.update
      (fun vouch => vouch.voucherId = targetId ∧ vouch.isSuspended = false) (suspendedPatch now) }

theorem suspend_statement {db : Db} {targetId : UserId} (now : Time)
    (ordinary : Ordinary userId verified db) :
    Advances required userId verified db (suspended db targetId now) False
      (GivenTo (suspended db targetId now) targetId userId) := by
  have given : ∀ otherId, GivenTo db otherId userId →
      GivenTo (suspended db targetId now) otherId userId :=
    fun _ => givenTo_of_update rfl fun _ => ⟨rfl, rfl⟩
  refine advances_of_elsewhere (namesKept_of_update rfl fun _ => rfl) ordinary rfl ?_
  by_cases here : GivenTo db targetId userId
  · exact Or.inl (given targetId here)
  · refine Or.inr ⟨?_, given⟩
    have count : (suspended db targetId now).activeVouches userId = supportBy db userId targetId :=
      activeVouches_blocked db targetId now userId
    rw [count]
    apply supportBy_other
    intro vouch member voucher vouchee
    exact here ⟨vouch, member, voucher, vouchee⟩

theorem block_statement {db : Db} (targetId : UserId) (ordinary : Ordinary userId verified db) :
    Advances required userId verified db (withUser db targetId (blockedPatch true)) False
      False := by
  have origin : ∀ row ∈ (withUser db targetId (blockedPatch true)).users.rows, row.id = userId →
      ∃ old ∈ db.users.rows, old.id = userId ∧
        row.frontlineGrantedByAdmin = old.frontlineGrantedByAdmin ∧
        row.isEmailVerified = old.isEmailVerified ∧ row.clearanceLevel = old.clearanceLevel := by
    intro row member same
    obtain ⟨old, oldMember, rfl⟩ := (Table.mem_update _ _ _ _).mp member
    refine ⟨old, oldMember, ?_⟩
    split at same
    · rw [if_pos (by assumption)]
      exact ⟨same, rfl, rfl, rfl⟩
    · rw [if_neg (by assumption)]
      exact ⟨same, rfl, rfl, rfl⟩
  refine ⟨namesKept_of_same rfl, ?_, Or.inr ⟨rfl, fun _ given => given, ?_⟩⟩
  · intro row member same
    obtain ⟨old, oldMember, oldId, granted, sameFlag, _⟩ := origin row member same
    rw [granted, sameFlag]
    exact ordinary old oldMember oldId
  · rintro (follows | never) row member same
    · obtain ⟨old, oldMember, oldId, _, sameFlag, sameLevel⟩ := origin row member same
      rw [sameLevel, sameFlag]
      exact follows old oldMember oldId
    · exact never.elim

theorem VouchStage.statement {db : Db} {owed : Prop} {lock : Option TaskId} {effect : Db → Db}
    {next : Db → Service Unit} (ordinary : Ordinary userId verified db)
    (stage : VouchStage required userId verified db owed (.auto (.stmt lock effect next))) :
    ∃ owes, VouchStage required userId verified (effect db) owes (.auto (next db)) ∧
      Advances required userId verified db (effect db) owed owes := by
  generalize same : Prog.stmt lock effect next = rest at stage
  cases stage with
  | checking _ checks =>
      subst same
      rcases checks.statement with changing | ⟨_, rfl, later⟩
      · generalize same : Prog.stmt lock effect next = rest at changing
        cases changing with
        | inserting voucheeId voucher =>
            cases same
            cases inserted : db.vouches.insert (newVouch voucheeId voucher) with
            | none =>
                simp only [inserted, Option.map_none, Option.getD_none]
                exact ⟨False, .checking _ (.fails _), advances_of_read ordinary False.elim⟩
            | some vouches =>
                simp only [inserted, Option.map_some, Option.getD_some]
                exact ⟨_, .recounting [voucheeId] _ (.listed [voucheeId]),
                  insert_statement ordinary inserted⟩
        | restoring vouchId voucheeId names =>
            cases same
            exact ⟨_, .recounting [voucheeId] _ (.listed [voucheeId]),
              restore_statement ordinary names⟩
        | revoking vouchId voucheeId names =>
            cases same
            exact ⟨_, .recounting [voucheeId] _ (.listed [voucheeId]),
              revoke_statement ordinary names⟩
        | blocking targetId now =>
            cases same
            exact ⟨False, .suspending targetId now, block_statement targetId ordinary⟩
      · exact ⟨False, .checking _ (later db (namesKept_of_same rfl)),
          advances_of_read ordinary False.elim⟩
  | suspending targetId now =>
      cases same
      exact ⟨_, .listing targetId, suspend_statement now ordinary⟩
  | listing targetId =>
      cases same
      refine ⟨_, .recounting _ _ (.listed _), advances_of_read ordinary ?_⟩
      rintro ⟨vouch, member, voucher, vouchee⟩
      left
      refine List.mem_map.mpr ⟨vouch, (Table.mem_find _ _ _).mpr ⟨member, ?_⟩, vouchee⟩
      exact decide_eq_true voucher
  | recounting ids _ recounting =>
      subst same
      obtain ⟨later, goes, recounted⟩ := recounting.statement ordinary
      refine ⟨_, .recounting later _ goes, namesKept_of_same recounted.vouches,
        recounted.ordinary, ?_⟩
      by_cases still : userId ∈ later
      · exact Or.inl still
      · refine Or.inr ⟨?_, ?_, ?_⟩
        · simp only [Db.activeVouches, recounted.vouches]
        · intro targetId given
          unfold GivenTo
          rwa [recounted.vouches]
        · rintro (follows | due)
          · exact recounted.follows follows
          · exact (recounted.settled due).resolve_left still

theorem VouchStage.ended {db : Db} {owed : Prop} {rest : Service Unit}
    (stage : VouchStage required userId verified db owed (.auto rest))
    (ends : ∀ lock effect next, rest ≠ .stmt lock effect next) : ¬ owed := by
  cases stage with
  | checking rest checks => exact not_false
  | suspending targetId now => exact absurd rfl (ends none _ _)
  | listing targetId => exact absurd rfl (ends none _ _)
  | recounting ids rest recounting =>
      cases recounting with
      | listed =>
          cases ids with
          | nil => exact List.not_mem_nil
          | cons id later => exact absurd rfl (ends none _ _)
      | counted id activeCount later fresh => exact absurd rfl (ends none _ _)
      | withdrawing id level score later fresh => exact absurd rfl (ends none _ _)
      | marking held id level score later fresh =>
          cases held with
          | nil => exact absurd rfl (ends none _ _)
          | cons assignment held => exact absurd rfl (ends none _ _)

theorem VouchStage.later {db after : Db} {owed : Prop}
    {session : Session Db TaskId HttpException Unit}
    (stage : VouchStage required userId verified db owed session) (names : NamesKept db after)
    (kept : ∀ rest, session = .auto rest → InWindow required userId rest →
      after.activeVouches userId = db.activeVouches userId) :
    ∃ owes, VouchStage required userId verified after owes session ∧
      ((∀ targetId, GivenTo db targetId userId → GivenTo after targetId userId) →
        owed → owes) := by
  cases stage with
  | checking rest checks =>
      refine ⟨False, .checking rest (checks.stable namesKept_trans names ?_), fun _ never => never⟩
      intro changing
      cases changing with
      | inserting voucheeId voucher => exact .inserting voucheeId voucher
      | restoring vouchId voucheeId known =>
          exact .restoring vouchId voucheeId (names vouchId voucheeId known)
      | revoking vouchId voucheeId known =>
          exact .revoking vouchId voucheeId (names vouchId voucheeId known)
      | blocking targetId now => exact .blocking targetId now
  | suspending targetId now => exact ⟨False, .suspending targetId now, fun _ never => never⟩
  | listing targetId => exact ⟨_, .listing targetId, fun given => given targetId⟩
  | recounting ids rest recounting =>
      exact ⟨_, .recounting ids rest (recounting.later (kept rest rfl)), fun _ due => due⟩
  | done result => exact ⟨False, .done result, fun _ never => never⟩

/-! ## From the call to its first change -/

theorem vouchForUser_checks (required : Nat) (voucheeId : UserId) (voucher : User) (db : Db) :
    Prog.Checks NamesKept
      (fun _ rest => rest = Prog.bind (insertVouch voucheeId voucher) fun vouch =>
        Prog.bind (recalculateClearance required voucheeId) fun _ => .ret vouch) db
      (vouchForUser required voucheeId voucher) := by
  apply Prog.checks_throwIf_bind
  intro _
  apply Prog.checks_query_bind
  intro first _
  apply Prog.checks_orThrow_bind
  intro vouchee _
  apply Prog.checks_throwIf_bind
  intro _
  apply Prog.checks_throwIf_bind
  intro _
  apply Prog.checks_throwIf_bind
  intro _
  apply Prog.checks_throwIf_bind
  intro _
  apply Prog.checks_throwIf_bind
  intro _
  apply Prog.checks_query_bind
  intro second _
  apply Prog.checks_throwIf_bind
  intro _
  exact .ready rfl

theorem VouchCall.program_checks (required : Nat) (call : VouchCall) (db : Db) :
    Prog.Checks NamesKept (Changing required) db (call.program required) := by
  cases call with
  | vouch voucheeId voucher =>
      refine (vouchForUser_checks required voucheeId voucher db).bind ?_
      rintro now _ rfl
      have same : Prog.bind (Prog.bind (insertVouch voucheeId voucher) fun vouch =>
          Prog.bind (recalculateClearance required voucheeId) fun _ => .ret vouch)
            (fun _ => .ret ()) = insertThen required voucheeId voucher := by
        simp only [Prog.bind_assoc]
        rfl
      change Changing required now (Prog.bind _ fun _ => .ret ())
      rw [same]
      exact .inserting voucheeId voucher
  | block targetId admin now =>
      apply Prog.checks_throwIf_bind
      intro _
      exact .ready (.blocking targetId now)
  | restore vouchId admin =>
      apply Prog.checks_throwIf_bind
      intro _
      apply Prog.checks_query_bind
      intro now _
      apply Prog.checks_orThrow_bind
      intro loaded hit
      obtain ⟨vouch, found, rfl⟩ := Option.map_eq_some_iff.mp hit
      apply Prog.checks_throwIf_bind
      intro _
      apply Prog.checks_throwIf_bind
      intro _
      have restoring : Changing required now (restoreThen required vouchId vouch.voucheeId) :=
        .restoring vouchId vouch.voucheeId (names_of_findVouch found)
      rw [restoreThen, recalculateAll_single] at restoring
      exact .ready restoring
  | revoke vouchId admin =>
      apply Prog.checks_throwIf_bind
      intro _
      apply Prog.checks_query_bind
      intro now _
      apply Prog.checks_orThrow_bind
      intro vouch found
      have revoking : Changing required now (revokeThen required vouchId vouch.voucheeId) :=
        .revoking vouchId vouch.voucheeId (names_of_findVouch found)
      rw [revokeThen, recalculateAll_single] at revoking
      exact .ready revoking

end VolunteerApi
