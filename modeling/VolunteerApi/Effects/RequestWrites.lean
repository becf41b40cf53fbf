import VolunteerApi.Effects.RequestsOutcomes

/-!
# The row a `RequestsService` call saves

All methods but `create` and `remove` load a request, check it and save it.
`RequestsOp.saved` is the row they save, or nothing when they throw, so that
what a call does to a request can be computed from the database before it.
-/

set_option autoImplicit false

namespace VolunteerApi

open Relational Programs

namespace RequestsService

/-- The request that `loadOwned` hands on. -/
def owned (db : Db) (id : RequestId) (requester : User) : Option Request :=
  (db.findRequest id).filter fun request => isOwnerOrAdmin request requester

/-- The request that `update` hands on. -/
def editable (db : Db) (id : RequestId) (requester : User) : Option Request :=
  (owned db id requester).filter fun _ =>
    (loadedAssignments db id).any TaskAssignment.active = false ∨ requester.systemRole = .admin

/-- The request that an edit saves, past the foreign key of the organization it was given. -/
def editableFor (db : Db) (id : RequestId) (requester : User) (given : Option OrgId) :
    Option Request :=
  (editable db id requester).filter fun _ => db.hasManager given

/-- The request that `cancel` hands on. -/
def cancellable (db : Db) (id : RequestId) (user : User) : Option Request :=
  (db.findRequest id).filter fun request =>
    TasksService.mayCancel request user = true ∧ request.status ≠ .completed

/-- The entry that `editableInfo` hands on. -/
def editableEntry (request : Request) (infoId : InfoId) (requester : User) (now : Time) :
    Option AdditionalInfo :=
  (request.additionalInfo.find? fun info => info.id = infoId).filter fun info =>
    requester.systemRole = .admin ∨ now - info.createdAt ≤ thirtyMinutesInMs

/-- Whether `returnToProgress` lets the request through. -/
def returnable (request : Request) (now : Time) : Bool :=
  request.status ≠ .cancelled ∨
    request.cancelledAt.any fun cancelledAt => now - cancelledAt ≤ tenMinutesInMs

def returned (request : Request) : Request :=
  if request.status = .cancelled then
    { request with
      status := .inProgress
      cancelReason := none
      cancelledAt := none
      cancelledByUserId := none }
  else { request with status := .inProgress }

theorem returned_id (request : Request) : (returned request).id = request.id := by
  unfold returned
  split <;> rfl

theorem returned_status (request : Request) : (returned request).status = .inProgress := by
  unfold returned
  split <;> rfl

theorem owned_some {db : Db} {id : RequestId} {requester : User} {request : Request}
    (found : owned db id requester = some request) :
    db.findRequest id = some request ∧ isOwnerOrAdmin request requester = true :=
  Option.filter_eq_some_iff.mp found

theorem editable_some {db : Db} {id : RequestId} {requester : User} {request : Request}
    (found : editable db id requester = some request) : db.findRequest id = some request :=
  (owned_some (Option.filter_eq_some_iff.mp found).1).1

theorem editableFor_some {db : Db} {id : RequestId} {requester : User} {given : Option OrgId}
    {request : Request} (found : editableFor db id requester given = some request) :
    editable db id requester = some request ∧ db.hasManager given = true :=
  Option.filter_eq_some_iff.mp found

theorem editableFor_none {db : Db} {id : RequestId} {requester : User} {given : Option OrgId}
    (missing : editable db id requester = none ∨ db.hasManager given = false) :
    editableFor db id requester given = none := by
  rcases missing with refused | unstored
  · rw [editableFor, refused]
    rfl
  · simp [editableFor, unstored]

theorem cancellable_some {db : Db} {id : RequestId} {user : User} {request : Request}
    (found : cancellable db id user = some request) : db.findRequest id = some request :=
  (Option.filter_eq_some_iff.mp found).1

end RequestsService

open RequestsService

def RequestsOp.saves : RequestsOp → Bool
  | .create .. | .remove .. => false
  | _ => true

def RequestsOp.saved (db : Db) : RequestsOp → Option Request
  | .create .. | .remove .. => none
  | .update id dto user =>
      (editableFor db id user dto.managingOrganizationId).map (UpdateRequestDto.assign dto)
  | .addInfo id dto user infoId now =>
      (owned db id user).map fun request =>
        { request with
          additionalInfo := request.additionalInfo ++
            [{ id := infoId
               text := dto.text
               attachments := dto.attachments
               createdAt := now
               updatedAt := none }] }
  | .updateAdditionalInfo id infoId dto user now =>
      (owned db id user).bind fun request =>
        (editableEntry request infoId user now).map fun info =>
          { request with
            additionalInfo := replaceInfo infoId (editedInfo info dto now) request.additionalInfo }
  | .removeAdditionalInfo id infoId user now =>
      (owned db id user).bind fun request =>
        (editableEntry request infoId user now).map fun _ =>
          { request with
            additionalInfo := request.additionalInfo.eraseP fun info => info.id = infoId }
  | .markAsPendingReview id user =>
      (owned db id user).map fun request => { request with status := .pendingReview }
  | .cancel id reason user now =>
      (cancellable db id user).map fun request =>
        { request with
          status := .cancelled
          cancelReason := cancelReasonOf reason
          cancelledAt := some now
          cancelledByUserId := some user.id }
  | .confirmCompletion id user =>
      (owned db id user).map fun request => { request with status := .completed }
  | .returnToProgress id user now =>
      ((owned db id user).filter fun request => returnable request now).map returned

namespace RequestsService

variable {db : Db}

/-- A program that saves the row it computes from the database, or throws. -/
def SavesRow {α : Type} (program : Service α) (db : Db) (row : Option Request) : Prop :=
  match row with
  | some new => ∃ value, program.run db = (.ok value, withRequest db new)
  | none => ∃ error, program.run db = (.error error, db)

theorem savesRow_throwIf {α : Type} {condition : Prop} [Decidable condition]
    {error : HttpException} {next : Unit → Service α} {row : Option Request}
    (refused : condition → row = none) (passed : ¬ condition → SavesRow (next ()) db row) :
    SavesRow (Prog.bind (Prog.throwIf condition error) next) db row := by
  by_cases hit : condition
  · rw [refused hit]
    exact ⟨error, by rw [Prog.run_throwIf_bind, if_pos hit]⟩
  · unfold SavesRow
    rw [Prog.run_throwIf_bind, if_neg hit]
    exact passed hit

theorem savesRow_orThrow {α β : Type} {value : Option β} {error : HttpException}
    {next : β → Service α} {row : Option Request} (missing : value = none → row = none)
    (present : ∀ found, value = some found → SavesRow (next found) db row) :
    SavesRow (Prog.bind (Prog.orThrow value error) next) db row := by
  cases value with
  | none =>
      rw [missing rfl]
      exact ⟨error, rfl⟩
  | some found => exact present found rfl

theorem savesRow_query {α β : Type} {read : Db → β} {next : β → Service α}
    {row : Option Request} (rest : SavesRow (next (read db)) db row) :
    SavesRow (Prog.bind (Prog.query read) next) db row := rest

theorem savesRow_save (new : Request) : SavesRow (saveRequestRow new) db (some new) := ⟨(), rfl⟩

theorem savesRow_saveManaged {α : Type} {given : Option OrgId} {new : Request}
    {next : Unit → Service α} {row : Option Request}
    (refused : db.hasManager given = false → row = none)
    (passed : db.hasManager given = true → SavesRow (Prog.bind (saveRequestRow new) next) db row) :
    SavesRow (Prog.bind (saveManaged given new) next) db row := by
  cases stored : db.hasManager given with
  | false =>
      rw [refused stored]
      exact ⟨_, by rw [Prog.run_bind, saveManaged, Prog.run_execOr, stored]; rfl⟩
  | true =>
      have ran : (saveManaged given new).run db = (saveRequestRow new).run db := by
        rw [saveManaged, Prog.run_execOr, if_pos stored]
        rfl
      have rest := passed stored
      unfold SavesRow at rest ⊢
      rw [Prog.run_bind] at rest ⊢
      rwa [ran]

theorem savesRow_loadOwned {α : Type} {id : RequestId} {requester : User} {refusal : String}
    {next : Request → Service α} {row : Option Request}
    (refused : owned db id requester = none → row = none)
    (passed : ∀ request, owned db id requester = some request → SavesRow (next request) db row) :
    SavesRow (Prog.bind (loadOwned id requester refusal) next) db row := by
  simp only [loadOwned, Prog.bind_eq, Prog.bind_assoc, Prog.pure_eq]
  apply savesRow_query
  apply savesRow_orThrow
  · intro missing
    exact refused (by simp [owned, missing])
  · intro request found
    apply savesRow_throwIf
    · intro notOwned
      exact refused (by simp [owned, found, notOwned])
    · intro mine
      exact passed request (by simpa [owned, found] using mine)

/-- The load and the checks of an edit, which volunteers who are active rule out. -/
theorem savesRow_loadEditable {α : Type} {id : RequestId} {requester : User}
    {next : Request × List TaskAssignment → Service α} {row : Option Request}
    (refused : editable db id requester = none → row = none)
    (passed : ∀ request, editable db id requester = some request →
      SavesRow (next (request, loadedAssignments db id)) db row) :
    SavesRow
      ((Prog.query fun db =>
          (db.findRequest id).map fun request => (request, loadedAssignments db id)).bind
          fun found =>
        (Prog.orThrow found (.notFound ("Заявку " ++ toString id ++ " не знайдено"))).bind
          fun loaded =>
        (Prog.throwIf (isOwnerOrAdmin loaded.1 requester = false)
          (.forbidden "Немає прав для редагування цієї заявки")).bind fun _ =>
        (Prog.throwIf
          (loaded.2.any TaskAssignment.active = true ∧ requester.systemRole ≠ .admin)
          (.forbidden "Не можна редагувати заявку, яку вже взяли в роботу волонтери.")).bind
          fun _ => next loaded) db row := by
  apply savesRow_query
  apply savesRow_orThrow
  · intro missing
    have absent : db.findRequest id = none := by simpa using missing
    exact refused (by simp [editable, owned, absent])
  · intro loaded hit
    obtain ⟨request, found, rfl⟩ := Option.map_eq_some_iff.mp hit
    apply savesRow_throwIf
    · intro notOwned
      exact refused (by simp [editable, owned, found, notOwned])
    · intro mine
      apply savesRow_throwIf
      · intro busy
        obtain ⟨active, notAdmin⟩ := busy
        exact refused (by simp [editable, active, notAdmin])
      · intro idle
        apply passed request
        simp only [editable, owned, found, Option.filter_eq_some_iff, true_and, decide_eq_true_eq]
        refine ⟨by simpa using mine, ?_⟩
        by_cases admin : requester.systemRole = .admin
        · exact Or.inr admin
        · left
          rw [Bool.eq_false_iff]
          intro active
          exact idle ⟨active, admin⟩

/-- The rest of an edit: the assignment, which the database may be going to refuse, and the save. -/
theorem savesRow_assign {α : Type} {id : RequestId} {requester : User} {given : Option OrgId}
    {request : Request} {edit row : Request → Option Request} {error : HttpException}
    {next : Request → Unit → Service α} (passes : editable db id requester = some request)
    (refused : edit request = none → row request = none)
    (passed : ∀ saved, edit request = some saved →
      SavesRow (Prog.bind (saveRequestRow saved) (next saved)) db (row request)) :
    SavesRow
      ((Prog.orThrow (edit request) error).bind fun saved =>
        (saveManaged given saved).bind (next saved)) db
      ((editableFor db id requester given).bind row) := by
  cases stored : db.hasManager given with
  | false =>
      rw [editableFor_none (Or.inr stored)]
      apply savesRow_orThrow
      · intro _
        rfl
      · intro saved _
        apply savesRow_saveManaged
        · intro _
          rfl
        · intro managed
          exact absurd (stored.symm.trans managed) Bool.false_ne_true
  | true =>
      have found : editableFor db id requester given = some request :=
        Option.filter_eq_some_iff.mpr ⟨passes, stored⟩
      rw [found, Option.bind_some]
      apply savesRow_orThrow
      · exact refused
      · intro saved edited
        apply savesRow_saveManaged
        · intro unstored
          exact absurd (unstored.symm.trans stored) Bool.false_ne_true
        · intro _
          exact passed saved edited

theorem savesRow_editableInfo {α : Type} {request : Request} {infoId : InfoId}
    {requester : User} {now : Time} {refusal : String} {next : AdditionalInfo → Service α}
    {row : Option Request}
    (refused : editableEntry request infoId requester now = none → row = none)
    (passed : ∀ info, editableEntry request infoId requester now = some info →
      SavesRow (next info) db row) :
    SavesRow (Prog.bind (editableInfo request infoId requester now refusal) next) db row := by
  simp only [editableInfo, Prog.bind_eq, Prog.bind_assoc, Prog.pure_eq]
  apply savesRow_orThrow
  · intro missing
    exact refused (by simp [editableEntry, missing])
  · intro info found
    apply savesRow_throwIf
    · intro late
      obtain ⟨notAdmin, past⟩ := late
      have tooLate : ¬ now - info.createdAt ≤ thirtyMinutesInMs := Nat.not_le.mpr past
      apply refused
      simp only [editableEntry, found, Option.filter_some, notAdmin, tooLate, or_self,
        decide_false, Bool.false_eq_true, if_false]
    · intro inTime
      apply passed info
      simp only [not_and, gt_iff_lt, Nat.not_lt] at inTime
      simp only [editableEntry, found, Option.filter_eq_some_iff, true_and, decide_eq_true_eq]
      by_cases admin : requester.systemRole = .admin
      · exact Or.inl admin
      · exact Or.inr (inTime admin)

/-! ## Method by method -/

theorem update_savesRow (id : RequestId) (dto : UpdateRequestDto) (requester : User) :
    SavesRow (update id dto requester) db (RequestsOp.saved db (.update id dto requester)) := by
  apply savesRow_loadEditable
  · intro refused
    rw [RequestsOp.saved, editableFor_none (Or.inl refused)]
    rfl
  · intro request passes
    apply savesRow_saveManaged
    · intro unstored
      rw [RequestsOp.saved, editableFor_none (Or.inr unstored)]
      rfl
    · intro stored
      have found : editableFor db id requester dto.managingOrganizationId = some request :=
        Option.filter_eq_some_iff.mpr ⟨passes, stored⟩
      rw [RequestsOp.saved, found]
      exact ⟨_, rfl⟩

theorem addInfo_savesRow (id : RequestId) (dto : AddInfoRequestDto) (requester : User)
    (infoId : InfoId) (now : Time) :
    SavesRow (addInfo id dto requester infoId now) db
      (RequestsOp.saved db (.addInfo id dto requester infoId now)) := by
  apply savesRow_loadOwned
  · intro missing
    simp [RequestsOp.saved, missing]
  · intro request found
    simp only [RequestsOp.saved, found, Option.map_some]
    exact savesRow_save _

theorem updateAdditionalInfo_savesRow (id : RequestId) (infoId : InfoId)
    (dto : AddInfoRequestDto) (requester : User) (now : Time) :
    SavesRow (updateAdditionalInfo id infoId dto requester now) db
      (RequestsOp.saved db (.updateAdditionalInfo id infoId dto requester now)) := by
  apply savesRow_loadOwned
  · intro missing
    simp [RequestsOp.saved, missing]
  · intro request found
    apply savesRow_editableInfo
    · intro refused
      simp [RequestsOp.saved, found, refused]
    · intro info passes
      simp only [RequestsOp.saved, found, passes, Option.bind_some, Option.map_some]
      exact savesRow_save _

theorem removeAdditionalInfo_savesRow (id : RequestId) (infoId : InfoId) (requester : User)
    (now : Time) :
    SavesRow (removeAdditionalInfo id infoId requester now) db
      (RequestsOp.saved db (.removeAdditionalInfo id infoId requester now)) := by
  apply savesRow_loadOwned
  · intro missing
    simp [RequestsOp.saved, missing]
  · intro request found
    apply savesRow_editableInfo
    · intro refused
      simp [RequestsOp.saved, found, refused]
    · intro info passes
      simp only [RequestsOp.saved, found, passes, Option.bind_some, Option.map_some]
      exact savesRow_save _

theorem markAsPendingReview_savesRow (id : RequestId) (user : User) :
    SavesRow (markAsPendingReview id user) db
      (RequestsOp.saved db (.markAsPendingReview id user)) := by
  apply savesRow_loadOwned
  · intro missing
    simp [RequestsOp.saved, missing]
  · intro request found
    simp only [RequestsOp.saved, found, Option.map_some]
    exact savesRow_save _

theorem confirmCompletion_savesRow (id : RequestId) (user : User) :
    SavesRow (confirmCompletion id user) db
      (RequestsOp.saved db (.confirmCompletion id user)) := by
  apply savesRow_loadOwned
  · intro missing
    simp [RequestsOp.saved, missing]
  · intro request found
    simp only [RequestsOp.saved, found, Option.map_some]
    exact savesRow_save _

theorem cancel_savesRow (id : RequestId) (reason : Option String) (user : User) (now : Time) :
    SavesRow (cancel id reason user now) db
      (RequestsOp.saved db (.cancel id reason user now)) := by
  apply savesRow_query
  apply savesRow_orThrow
  · intro missing
    simp [RequestsOp.saved, cancellable, missing]
  · intro request found
    apply savesRow_throwIf
    · intro notAllowed
      simp [RequestsOp.saved, cancellable, found, notAllowed]
    · intro allowed
      apply savesRow_throwIf
      · intro finished
        simp [RequestsOp.saved, cancellable, found, finished]
      · intro unfinished
        have passes : cancellable db id user = some request := by
          simp only [cancellable, found, Option.filter_eq_some_iff, true_and, decide_eq_true_eq]
          exact ⟨by simpa using allowed, unfinished⟩
        simp only [RequestsOp.saved, passes, Option.map_some]
        exact savesRow_save _

theorem returnToProgress_savesRow (id : RequestId) (user : User) (now : Time) :
    SavesRow (returnToProgress id user now) db
      (RequestsOp.saved db (.returnToProgress id user now)) := by
  apply savesRow_loadOwned
  · intro missing
    simp [RequestsOp.saved, missing]
  · intro request found
    by_cases cancelled : request.status = .cancelled
    · rw [if_pos cancelled]
      apply savesRow_orThrow
      · intro unknown
        simp [RequestsOp.saved, found, returnable, cancelled, unknown]
      · intro cancelledAt known
        apply savesRow_throwIf
        · intro late
          have refused : returnable request now = false := by
            have tooLate : ¬ now - cancelledAt ≤ tenMinutesInMs := Nat.not_le.mpr late
            simp only [returnable, cancelled, known, Option.any_some, tooLate, ne_eq,
              not_true_eq_false, decide_false, Bool.false_eq_true, or_self]
          simp only [RequestsOp.saved, found, Option.filter_some, refused, Bool.false_eq_true,
            if_false, Option.map_none]
        · intro inTime
          have passes : returnable request now = true := by
            simp only [returnable, known, Option.any_some, decide_eq_true_eq]
            exact Or.inr (Nat.not_lt.mp inTime)
          simp only [RequestsOp.saved, found, Option.filter_some, passes, if_true,
            Option.map_some, returned, if_pos cancelled]
          exact savesRow_save _
    · rw [if_neg cancelled]
      have passes : returnable request now = true := by simp [returnable, cancelled]
      simp only [RequestsOp.saved, found, Option.filter_some, passes, if_true,
        Option.map_some, returned, if_neg cancelled]
      exact savesRow_save _

end RequestsService

/-! ## Every call that saves -/

/-- A call ends well and saves the row, or it throws and changes nothing. -/
inductive RequestsOp.Ended (db : Db) (op : RequestsOp) : Prop
  | saved (new : Request) (row : op.saved db = some new)
      (ran : op.run db = (.ok (), withRequest db new))
  | refused (error : HttpException) (row : op.saved db = none)
      (ran : op.run db = (.error error, db))

theorem RequestsOp.ended_of {α : Type} {db : Db} {op : RequestsOp} {program : Service α}
    (saves : SavesRow program db (op.saved db)) (runs : op.run db = ended (program.run db)) :
    op.Ended db := by
  cases row : op.saved db with
  | none =>
      rw [row] at saves
      obtain ⟨error, ran⟩ := saves
      exact .refused error row (by rw [runs, ran]; rfl)
  | some new =>
      rw [row] at saves
      obtain ⟨value, ran⟩ := saves
      exact .saved new row (by rw [runs, ran]; rfl)

theorem RequestsOp.ended (op : RequestsOp) (saves : op.saves = true) (db : Db) :
    op.Ended db := by
  cases op with
  | create dto user now => cases saves
  | remove id user now => cases saves
  | update id dto user => exact ended_of (update_savesRow id dto user) rfl
  | addInfo id dto user infoId now => exact ended_of (addInfo_savesRow id dto user infoId now) rfl
  | updateAdditionalInfo id infoId dto user now =>
      exact ended_of (updateAdditionalInfo_savesRow id infoId dto user now) rfl
  | removeAdditionalInfo id infoId user now =>
      exact ended_of (removeAdditionalInfo_savesRow id infoId user now) rfl
  | markAsPendingReview id user => exact ended_of (markAsPendingReview_savesRow id user) rfl
  | cancel id reason user now => exact ended_of (cancel_savesRow id reason user now) rfl
  | confirmCompletion id user => exact ended_of (confirmCompletion_savesRow id user) rfl
  | returnToProgress id user now => exact ended_of (returnToProgress_savesRow id user now) rfl

/-! ## What holds of every request -/

section EveryRequest

variable {P : Request → Prop} {db : Db} {op : RequestsOp}

theorem everyRequest_saved_iff {old new : Request} (every : ∀ request ∈ db.requests.rows, P request)
    (found : db.findRequest old.id = some old) (same : new.id = old.id) :
    (∀ request ∈ (withRequest db new).requests.rows, P request) ↔ P new := by
  have replaced := Table.replaced_save new (Db.findRequest_some found).1 same same
  constructor
  · intro later
    exact later new replaced.new_mem
  · intro here row member
    rcases (replaced.mem row).mp member with rfl | ⟨before, _⟩
    · exact here
    · exact every row before

/-- A call keeps what holds of every request exactly when `C` says that it holds of the
row the call saves. -/
theorem everyRequest_saves_iff {C : Prop} (saves : op.saves = true)
    (every : ∀ request ∈ db.requests.rows, P request) (refused : op.saved db = none → C)
    (saved : ∀ new, op.saved db = some new →
      ∃ old, db.findRequest old.id = some old ∧ new.id = old.id ∧ (P new ↔ C)) :
    (∀ request ∈ (op.step db).requests.rows, P request) ↔ C := by
  unfold RequestsOp.step
  cases op.ended saves db with
  | refused error row ran =>
      rw [ran]
      exact iff_of_true every (refused row)
  | saved new row ran =>
      obtain ⟨old, found, same, exactly⟩ := saved new row
      rw [ran]
      exact (everyRequest_saved_iff every found same).trans exactly

theorem everyRequest_kept (saves : op.saves = true)
    (every : ∀ request ∈ db.requests.rows, P request)
    (kept : ∀ new, op.saved db = some new →
      ∃ old, db.findRequest old.id = some old ∧ new.id = old.id ∧ (P old → P new)) :
    ∀ request ∈ (op.step db).requests.rows, P request := by
  refine (everyRequest_saves_iff (C := True) saves every (fun _ => trivial) ?_).mpr trivial
  intro new row
  obtain ⟨old, found, same, later⟩ := kept new row
  exact ⟨old, found, same,
    iff_of_true (later (every old (Db.findRequest_some found).1)) trivial⟩

theorem everyRequest_create (every : ∀ request ∈ db.requests.rows, P request)
    (dto : CreateRequestDto) (user : User) (now : Time)
    (new : ∀ id, P (newRequest dto user now id)) :
    ∀ request ∈ (RequestsOp.step db (.create dto user now)).requests.rows, P request := by
  refine Prog.Guarded.after (motive := fun after => ∀ request ∈ after.requests.rows, P request)
    (create_guarded dto user now db) every ?_
  rintro _ _ rfl row member
  rcases ((Table.added_append db.requests (newRequest dto user now) fun _ => rfl).mem row).mp
    member with old | rfl
  · exact every row old
  · exact new _

theorem everyRequest_remove (every : ∀ request ∈ db.requests.rows, P request) (id : RequestId)
    (user : User) (now : Time)
    (deleted : ∀ request, P request → P ((RequestsService.deletedPatch now).run request)) :
    ∀ request ∈ (RequestsOp.step db (.remove id user now)).requests.rows, P request := by
  refine Prog.Guarded.after (motive := fun after => ∀ request ∈ after.requests.rows, P request)
    (remove_guarded id user now db) every ?_
  intro _ _ post
  obtain ⟨request, _, _, rfl⟩ := post
  intro row member
  obtain ⟨old, stored, rfl⟩ := (Table.mem_update _ _ _ _).mp member
  split
  · exact deleted old (every old stored)
  · exact every old stored

end EveryRequest

theorem Db.findRequest_self {db : Db} {id : RequestId} {request : Request}
    (found : db.findRequest id = some request) : db.findRequest request.id = some request := by
  rw [(Db.findRequest_some found).2.1]
  exact found

def RequestsOp.editsInfo : RequestsOp → Bool
  | .addInfo .. | .updateAdditionalInfo .. | .removeAdditionalInfo .. => true
  | _ => false

theorem RequestsOp.saved_info {db : Db} {op : RequestsOp} {new : Request}
    (info : op.editsInfo = true) (row : op.saved db = some new) :
    ∃ old infos, db.findRequest old.id = some old ∧ new = { old with additionalInfo := infos } := by
  cases op with
  | addInfo id dto user infoId now =>
      obtain ⟨old, found, rfl⟩ := Option.map_eq_some_iff.mp row
      exact ⟨old, _, Db.findRequest_self (owned_some found).1, rfl⟩
  | updateAdditionalInfo id infoId dto user now =>
      obtain ⟨old, found, edited⟩ := Option.bind_eq_some_iff.mp row
      obtain ⟨entry, _, rfl⟩ := Option.map_eq_some_iff.mp edited
      exact ⟨old, _, Db.findRequest_self (owned_some found).1, rfl⟩
  | removeAdditionalInfo id infoId user now =>
      obtain ⟨old, found, edited⟩ := Option.bind_eq_some_iff.mp row
      obtain ⟨entry, _, rfl⟩ := Option.map_eq_some_iff.mp edited
      exact ⟨old, _, Db.findRequest_self (owned_some found).1, rfl⟩
  | _ => cases info

end VolunteerApi
