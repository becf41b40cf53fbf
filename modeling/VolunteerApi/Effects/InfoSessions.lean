import VolunteerApi.Effects.RequestsOutcomes
import VolunteerApi.Programs.Sessions

/-!
# Calls that edit the additional information

Each of the three calls reads the request, checks the caller and the entry, changes the list in
memory and saves the row.  Between the two statements other calls may save theirs.
-/

set_option autoImplicit false

namespace VolunteerApi

open Relational Programs RequestsService

inductive InfoCall where
  | addInfo (dto : AddInfoRequestDto) (requester : User) (infoId : InfoId) (now : Time)
  | updateAdditionalInfo (infoId : InfoId) (dto : AddInfoRequestDto) (requester : User)
      (now : Time)
  | removeAdditionalInfo (infoId : InfoId) (requester : User) (now : Time)
  deriving DecidableEq, Repr

namespace InfoCall

def program (requestId : RequestId) : InfoCall → Service Unit
  | addInfo dto requester infoId now => RequestsService.addInfo requestId dto requester infoId now
  | updateAdditionalInfo infoId dto requester now =>
      RequestsService.updateAdditionalInfo requestId infoId dto requester now
  | removeAdditionalInfo infoId requester now =>
      RequestsService.removeAdditionalInfo requestId infoId requester now

/-- The entry the call is about. -/
def target : InfoCall → InfoId
  | addInfo _ _ infoId _ => infoId
  | updateAdditionalInfo infoId _ _ _ => infoId
  | removeAdditionalInfo infoId _ _ => infoId

def adds : InfoCall → Bool
  | addInfo .. => true
  | _ => false

/-- What the call makes of the list it has read. -/
def edit (infos : List AdditionalInfo) : InfoCall → List AdditionalInfo
  | addInfo dto _ infoId now =>
      infos ++
        [{ id := infoId
           text := dto.text
           attachments := dto.attachments
           createdAt := now
           updatedAt := none }]
  | updateAdditionalInfo infoId dto _ now =>
      match infos.find? fun info => info.id = infoId with
      | some info => replaceInfo infoId (editedInfo info dto now) infos
      | none => infos
  | removeAdditionalInfo infoId _ _ => infos.eraseP fun info => info.id = infoId

def edited (call : InfoCall) (request : Request) : Request :=
  { request with additionalInfo := call.edit request.additionalInfo }

/-- An edit or a removal finds its entry. -/
def Addresses (call : InfoCall) (infos : List AdditionalInfo) : Prop :=
  call.adds = false → ∃ info ∈ infos, info.id = call.target

/-! ## The two statements -/

/-- What follows the read: an error, or the save of the list that was read, edited. -/
def SavesAfter (requestId : RequestId) (call : InfoCall) (db : Db) (rest : Service Unit) : Prop :=
  (∃ error, rest = .fail error) ∨
    ∃ request, db.findRequest requestId = some request ∧ call.Addresses request.additionalInfo ∧
      rest = saveRequestRow (call.edited request)

theorem savesAfter_loaded {requestId : RequestId} {call : InfoCall} {db : Db} {requester : User}
    {missing refusal : HttpException} {next : Request → Service Unit}
    (rest : ∀ request, db.findRequest requestId = some request →
      SavesAfter requestId call db (next request)) :
    SavesAfter requestId call db
      ((Prog.orThrow (db.findRequest requestId) missing).bind fun request =>
        (Prog.throwIf (isOwnerOrAdmin request requester = false) refusal).bind fun _ =>
          next request) := by
  cases found : db.findRequest requestId with
  | none => exact Or.inl ⟨missing, rfl⟩
  | some request =>
      by_cases refused : isOwnerOrAdmin request requester = false
      · refine Or.inl ⟨refusal, ?_⟩
        simp [Prog.orThrow, Prog.bind, Prog.throwIf, refused]
      · have passed := rest request found
        simpa [Prog.orThrow, Prog.bind, Prog.throwIf, refused] using passed

theorem savesAfter_entry {requestId : RequestId} {call : InfoCall} {db : Db} {request : Request}
    {infoId : InfoId} {requester : User} {now : Time} {missing refusal : HttpException}
    {next : AdditionalInfo → Service Unit}
    (rest : ∀ info, request.additionalInfo.find? (fun info => info.id = infoId) = some info →
      SavesAfter requestId call db (next info)) :
    SavesAfter requestId call db
      ((Prog.orThrow (request.additionalInfo.find? fun info => info.id = infoId) missing).bind
        fun info => (Prog.throwIf
          (requester.systemRole ≠ .admin ∧ now - info.createdAt > thirtyMinutesInMs)
          refusal).bind fun _ => next info) := by
  cases found : request.additionalInfo.find? fun info => decide (info.id = infoId) with
  | none => exact Or.inl ⟨missing, rfl⟩
  | some info =>
      by_cases late : requester.systemRole ≠ .admin ∧ now - info.createdAt > thirtyMinutesInMs
      · refine Or.inl ⟨refusal, ?_⟩
        simp only [Prog.orThrow, Prog.bind, Prog.throwIf, if_pos late]
      · have passed := rest info found
        simpa only [Prog.orThrow, Prog.bind, Prog.throwIf, if_neg late] using passed

theorem addresses_of_find {call : InfoCall} {infos : List AdditionalInfo} {info : AdditionalInfo}
    (found : infos.find? (fun info => info.id = call.target) = some info) :
    call.Addresses infos := by
  intro _
  exact ⟨info, List.mem_of_find?_eq_some found, by simpa using List.find?_some found⟩

theorem program_reads (requestId : RequestId) (call : InfoCall) :
    ∃ next, call.program requestId = .stmt none id next ∧
      ∀ db, SavesAfter requestId call db (next db) := by
  cases call with
  | addInfo dto requester infoId now =>
      simp only [program, RequestsService.addInfo, loadOwned, Prog.bind_eq, Prog.bind_assoc,
        Prog.pure_eq]
      refine ⟨_, rfl, ?_⟩
      intro db
      apply savesAfter_loaded
      intro request found
      refine Or.inr ⟨request, found, ?_, rfl⟩
      rintro ⟨⟩
  | updateAdditionalInfo infoId dto requester now =>
      simp only [program, RequestsService.updateAdditionalInfo, editableInfo, loadOwned,
        Prog.bind_eq, Prog.bind_assoc, Prog.pure_eq]
      refine ⟨_, rfl, ?_⟩
      intro db
      apply savesAfter_loaded
      intro request found
      apply savesAfter_entry
      intro info entry
      refine Or.inr ⟨request, found, addresses_of_find entry, ?_⟩
      simp only [edited, edit, entry]
      rfl
  | removeAdditionalInfo infoId requester now =>
      simp only [program, RequestsService.removeAdditionalInfo, editableInfo, loadOwned,
        Prog.bind_eq, Prog.bind_assoc, Prog.pure_eq]
      refine ⟨_, rfl, ?_⟩
      intro db
      apply savesAfter_loaded
      intro request found
      apply savesAfter_entry
      intro info entry
      exact Or.inr ⟨request, found, addresses_of_find entry, rfl⟩

end InfoCall

/-! ## The lists -/

section Lists

variable {infoId : InfoId} {infos : List AdditionalInfo} {info edited : AdditionalInfo}

theorem replaceInfo_ids (same : edited.id = infoId) :
    (replaceInfo infoId edited infos).map AdditionalInfo.id = infos.map AdditionalInfo.id := by
  induction infos with
  | nil => rfl
  | cons first rest ih =>
      unfold replaceInfo
      split
      · next here => simp [same, here]
      · simp [ih]

theorem mem_replaceInfo_of_ne (same : edited.id = infoId) (other : info.id ≠ infoId) :
    info ∈ replaceInfo infoId edited infos ↔ info ∈ infos := by
  induction infos with
  | nil => rfl
  | cons first rest ih =>
      unfold replaceInfo
      split
      · next here =>
        have notEdited : info ≠ edited := fun alike => other (alike ▸ same)
        have notFirst : info ≠ first := fun alike => other (alike ▸ here)
        simp [notEdited, notFirst]
      · simp [ih]

theorem mem_replaceInfo_self (present : ∃ info ∈ infos, info.id = infoId) :
    edited ∈ replaceInfo infoId edited infos := by
  induction infos with
  | nil =>
      obtain ⟨_, absent, _⟩ := present
      cases absent
  | cons first rest ih =>
      unfold replaceInfo
      split
      · exact List.mem_cons_self
      · next other =>
        refine List.mem_cons_of_mem _ (ih ?_)
        obtain ⟨info, member, here⟩ := present
        rcases List.mem_cons.mp member with rfl | later
        · exact absurd here other
        · exact ⟨info, later, here⟩

end Lists

namespace InfoCall

variable {call : InfoCall} {infos : List AdditionalInfo} {info : AdditionalInfo}

theorem mem_edit_of_ne (other : info.id ≠ call.target) :
    info ∈ call.edit infos ↔ info ∈ infos := by
  cases call with
  | addInfo dto requester infoId now =>
      have notNew : info ≠ ⟨infoId, dto.text, dto.attachments, now, none⟩ := by
        rintro rfl
        exact other rfl
      simp [edit, notNew]
  | updateAdditionalInfo infoId dto requester now =>
      simp only [edit]
      split
      · next found entry =>
        have same : found.id = infoId := by simpa using List.find?_some entry
        exact mem_replaceInfo_of_ne same other
      · exact Iff.rfl
  | removeAdditionalInfo infoId requester now =>
      constructor
      · exact List.mem_of_mem_eraseP
      · intro member
        exact (List.mem_eraseP_of_neg (decide_eq_false other ▸ Bool.false_ne_true)).mpr member

/-- The numbers stay distinct, and only an addition brings a new one. -/
theorem edit_ids (distinct : (infos.map AdditionalInfo.id).Nodup)
    (fresh : call.adds = true → call.target ∉ infos.map AdditionalInfo.id) :
    ((call.edit infos).map AdditionalInfo.id).Nodup ∧
      ∀ info ∈ call.edit infos, info.id ∈ infos.map AdditionalInfo.id ∨
        call.adds = true ∧ info.id = call.target := by
  cases call with
  | addInfo dto requester infoId now =>
      constructor
      · simp only [edit, List.map_append, List.map_cons, List.map_nil, List.nodup_append]
        refine ⟨distinct, by simp, ?_⟩
        rintro left present right single rfl
        rw [List.mem_singleton.mp single] at present
        exact fresh rfl present
      · intro info member
        rcases List.mem_append.mp member with old | new
        · exact Or.inl (List.mem_map_of_mem old)
        · rw [List.mem_singleton.mp new]
          exact Or.inr ⟨rfl, rfl⟩
  | updateAdditionalInfo infoId dto requester now =>
      have same : ((updateAdditionalInfo infoId dto requester now).edit infos).map
          AdditionalInfo.id = infos.map AdditionalInfo.id := by
        simp only [edit]
        split
        · next found entry =>
          have here : found.id = infoId := by simpa using List.find?_some entry
          exact replaceInfo_ids here
        · rfl
      refine ⟨by rw [same]; exact distinct, ?_⟩
      intro info member
      left
      rw [← same]
      exact List.mem_map_of_mem member
  | removeAdditionalInfo infoId requester now =>
      have shorter : (infos.eraseP fun info => decide (info.id = infoId)).Sublist infos :=
        List.eraseP_sublist
      refine ⟨(shorter.map AdditionalInfo.id).nodup distinct, ?_⟩
      intro info member
      exact Or.inl (List.mem_map_of_mem (shorter.subset member))

end InfoCall

end VolunteerApi
