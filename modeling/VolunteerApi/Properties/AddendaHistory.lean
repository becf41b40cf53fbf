import VolunteerApi.Effects.RequestWrites
import VolunteerApi.Programs.Runs
import VolunteerApi.Properties.ConcurrentAddenda

/-!
# Additional information, one call at a time

Next to the database a run carries which entries were created and when.  What is stored of them
stays in that order and under the recorded numbers and times, whatever is edited; so the half
hour counts from the creation.
-/

set_option autoImplicit false

namespace VolunteerApi

open Relational Programs RequestsService

/-! ## Runs -/

structure AddendaHistory where
  db : Db
  /-- The entries in the order of their creation, those among them that were removed. -/
  created : List (InfoId × Time)

/-- What of an entry is never edited. -/
def AdditionalInfo.record (info : AdditionalInfo) : InfoId × Time := (info.id, info.createdAt)

namespace InfoCall

def requester : InfoCall → User
  | addInfo _ requester _ _ => requester
  | updateAdditionalInfo _ _ requester _ => requester
  | removeAdditionalInfo _ requester _ => requester

def now : InfoCall → Time
  | addInfo _ _ _ now => now
  | updateAdditionalInfo _ _ _ now => now
  | removeAdditionalInfo _ _ now => now

def finish (requestId : RequestId) (db : Db) (call : InfoCall) :
    Except HttpException Unit × Db :=
  (call.program requestId).run db

/-- What a successful call does to the list: it appends an entry, or edits or removes the one
it addresses. -/
def Changes (before after : List AdditionalInfo) : InfoCall → Prop
  | addInfo dto _ infoId now => ∃ added : AdditionalInfo, after = before ++ [added] ∧
      added.id = infoId ∧ added.createdAt = now ∧ added.text = dto.text ∧
      added.attachments = dto.attachments
  | updateAdditionalInfo infoId dto _ _ => ∃ front info back edited,
      before = front ++ info :: back ∧ info.id = infoId ∧ after = front ++ edited :: back ∧
      edited.id = info.id ∧ edited.createdAt = info.createdAt ∧ edited.text = dto.text ∧
      edited.attachments = (info.attachments.filter fun attachment =>
        attachment.url ∉ dto.removedAttachments.map some) ++ dto.attachments
  | removeAdditionalInfo infoId _ _ => ∃ front info back,
      before = front ++ info :: back ∧ info.id = infoId ∧ after = front ++ back

end InfoCall

namespace AddendaHistory

/-- The entries that are stored at the start were created at the times they carry. -/
def opened (requestId : RequestId) (db : Db) : AddendaHistory where
  db := db
  created := (infosOf db requestId).map AdditionalInfo.record

def step (requestId : RequestId) (s : AddendaHistory) (call : InfoCall) : AddendaHistory where
  db := (call.finish requestId s.db).2
  created :=
    if call.adds = true ∧ (call.finish requestId s.db).1.toBool = true then
      s.created ++ [(call.target, call.now)]
    else s.created

end AddendaHistory

/-- The stored entries are distinct, and some of the created ones in their order. -/
structure OrderedAddenda (requestId : RequestId) (s : AddendaHistory) : Prop where
  distinct : ((infosOf s.db requestId).map AdditionalInfo.id).Nodup
  inOrder : ((infosOf s.db requestId).map AdditionalInfo.record).Sublist s.created

/-- A number that is generated was never used. -/
def FreshAddition (s : AddendaHistory) (call : InfoCall) : Prop :=
  call.adds = true → call.target ∉ s.created.map Prod.fst

/-- What a successful call is and does. -/
structure CarriedOut (requestId : RequestId) (s : AddendaHistory) (call : InfoCall)
    (after : Db) : Prop where
  changes : call.Changes (infosOf s.db requestId) (infosOf after requestId)
  nothingElse : ∃ request, s.db.findRequest requestId = some request ∧
    after = withRequest s.db { request with additionalInfo := infosOf after requestId }
  inTime : call.adds = false → call.requester.systemRole ≠ .admin →
    ∃ created, (call.target, created) ∈ s.created ∧ call.now ≤ created + thirtyMinutesInMs

/-- A call that fails changes nothing, one that succeeds does what it is asked to. -/
def KeepsHistory (requestId : RequestId) (s : AddendaHistory) (call : InfoCall) : Prop :=
  match (call.finish requestId s.db).1 with
  | .error _ => (call.finish requestId s.db).2 = s.db
  | .ok _ => CarriedOut requestId s call (call.finish requestId s.db).2

/-! ## One call -/

section Call

variable {db : Db} {requestId : RequestId} {call : InfoCall}

/-- What the checks of a call that succeeds have let through. -/
structure LetThrough (db : Db) (requestId : RequestId) (call : InfoCall) (request : Request) :
    Prop where
  found : db.findRequest requestId = some request
  entry : call.adds = false → ∃ info,
    request.additionalInfo.find? (fun info => info.id = call.target) = some info ∧
      (call.requester.systemRole = .admin ∨ call.now - info.createdAt ≤ thirtyMinutesInMs)

theorem editableEntry_some {request : Request} {infoId : InfoId} {requester : User} {now : Time}
    {info : AdditionalInfo} (passes : editableEntry request infoId requester now = some info) :
    request.additionalInfo.find? (fun info => info.id = infoId) = some info ∧
      (requester.systemRole = .admin ∨ now - info.createdAt ≤ thirtyMinutesInMs) := by
  obtain ⟨found, allowed⟩ := Option.filter_eq_some_iff.mp passes
  exact ⟨found, of_decide_eq_true allowed⟩

/-- What the save of a row tells, if it is saved only where `request` was let through. -/
theorem cases_of_savesRow {program : Service Unit} {row : Option Request}
    (saves : SavesRow program db row)
    (through : ∀ new, row = some new →
      ∃ request, LetThrough db requestId call request ∧ new = call.edited request) :
    (∃ error, program.run db = (.error error, db)) ∨
      ∃ request, LetThrough db requestId call request ∧
        program.run db = (.ok (), withRequest db (call.edited request)) := by
  cases row with
  | none => exact Or.inl saves
  | some new =>
      obtain ⟨_, ran⟩ := saves
      obtain ⟨request, passes, rfl⟩ := through new rfl
      exact Or.inr ⟨request, passes, ran⟩

/-- A call fails and leaves the database alone, or it is let through and saves the list that
it has edited. -/
theorem finish_cases (db : Db) (requestId : RequestId) (call : InfoCall) :
    (∃ error, call.finish requestId db = (.error error, db)) ∨
      ∃ request, LetThrough db requestId call request ∧
        call.finish requestId db = (.ok (), withRequest db (call.edited request)) := by
  cases call with
  | addInfo dto requester infoId now =>
      apply cases_of_savesRow (addInfo_savesRow requestId dto requester infoId now)
      intro new row
      obtain ⟨request, mine, rfl⟩ := Option.map_eq_some_iff.mp row
      exact ⟨request, ⟨(owned_some mine).1, fun adds => nomatch adds⟩, rfl⟩
  | updateAdditionalInfo infoId dto requester now =>
      apply cases_of_savesRow (updateAdditionalInfo_savesRow requestId infoId dto requester now)
      intro new row
      obtain ⟨request, mine, entry⟩ := Option.bind_eq_some_iff.mp row
      obtain ⟨info, passes, rfl⟩ := Option.map_eq_some_iff.mp entry
      obtain ⟨found, allowed⟩ := editableEntry_some passes
      refine ⟨request, ⟨(owned_some mine).1, fun _ => ⟨info, found, allowed⟩⟩, ?_⟩
      simp only [InfoCall.edited, InfoCall.edit, found]
  | removeAdditionalInfo infoId requester now =>
      apply cases_of_savesRow (removeAdditionalInfo_savesRow requestId infoId requester now)
      intro new row
      obtain ⟨request, mine, entry⟩ := Option.bind_eq_some_iff.mp row
      obtain ⟨info, passes, rfl⟩ := Option.map_eq_some_iff.mp entry
      obtain ⟨found, allowed⟩ := editableEntry_some passes
      exact ⟨request, ⟨(owned_some mine).1, fun _ => ⟨info, found, allowed⟩⟩, rfl⟩

theorem infosOf_edited {request : Request} (through : LetThrough db requestId call request) :
    infosOf (withRequest db (call.edited request)) requestId =
      call.edit request.additionalInfo := by
  obtain ⟨_, same, live⟩ := Db.findRequest_some through.found
  have present : (db.findRequest (call.edited request).id).isSome = true := by
    rw [InfoCall.edited, same, through.found]
    rfl
  have found := findRequest_saved present live
  have named : (call.edited request).id = requestId := same
  rw [named] at found
  exact infosOf_of_found found

end Call

/-! ## The edited list -/

section Lists

variable {infos front back : List AdditionalInfo} {info edited : AdditionalInfo}
  {infoId : InfoId}

theorem info_split (found : infos.find? (fun info => info.id = infoId) = some info) :
    info.id = infoId ∧ ∃ front back, infos = front ++ info :: back ∧
      ∀ other ∈ front, other.id ≠ infoId := by
  obtain ⟨here, front, back, split, before⟩ := List.find?_eq_some_iff_append.mp found
  refine ⟨of_decide_eq_true here, front, back, split, ?_⟩
  intro other listed same
  have missed := before other listed
  rw [decide_eq_true same] at missed
  cases missed

theorem replaceInfo_append (here : info.id = infoId)
    (before : ∀ other ∈ front, other.id ≠ infoId) :
    replaceInfo infoId edited (front ++ info :: back) = front ++ edited :: back := by
  induction front with
  | nil =>
      rw [List.nil_append, replaceInfo, if_pos here]
      rfl
  | cons first rest ih =>
      rw [List.cons_append, replaceInfo, if_neg (before first List.mem_cons_self),
        ih fun other listed => before other (List.mem_cons_of_mem first listed)]
      rfl

theorem eraseInfo_append (here : info.id = infoId)
    (before : ∀ other ∈ front, other.id ≠ infoId) :
    (front ++ info :: back).eraseP (fun info => info.id = infoId) = front ++ back := by
  rw [List.eraseP_append_right]
  · simp [here]
  · intro other listed
    exact decide_eq_true_iff.not.mpr (before other listed)

/-- An attachment without a `url` is kept. -/
theorem keptAttachments (attachments : List InfoAttachment) (removed : List String) :
    (attachments.filter fun attachment => attachment.url.all fun url => url ∉ removed) =
      attachments.filter fun attachment => attachment.url ∉ removed.map some := by
  apply List.filter_congr
  intro attachment _
  cases attachment.url <;> simp

end Lists

theorem edit_changes {call : InfoCall} {infos : List AdditionalInfo}
    (entry : call.adds = false → ∃ info,
      infos.find? (fun info => info.id = call.target) = some info) :
    call.Changes infos (call.edit infos) := by
  cases call with
  | addInfo dto requester infoId now => exact ⟨_, rfl, rfl, rfl, rfl, rfl⟩
  | updateAdditionalInfo infoId dto requester now =>
      obtain ⟨info, found⟩ := entry rfl
      obtain ⟨here, front, back, split, before⟩ := info_split found
      have edits : InfoCall.edit infos (.updateAdditionalInfo infoId dto requester now) =
          replaceInfo infoId (editedInfo info dto now) infos := by
        have present : infos.find? (fun info => info.id = infoId) = some info := found
        simp only [InfoCall.edit, present]
      rw [edits, split]
      refine ⟨front, info, back, editedInfo info dto now, rfl, here,
        replaceInfo_append here before, rfl, rfl, rfl, ?_⟩
      rw [← keptAttachments]
      rfl
  | removeAdditionalInfo infoId requester now =>
      obtain ⟨info, found⟩ := entry rfl
      obtain ⟨here, front, back, split, before⟩ := info_split found
      refine ⟨front, info, back, split, here, ?_⟩
      rw [InfoCall.edit, split]
      exact eraseInfo_append here before

/-! ## Every run -/

section Steps

variable {requestId : RequestId} {s : AddendaHistory} {call : InfoCall}

/-- What is created once and stays in order. -/
structure RecordedAddenda (requestId : RequestId) (s : AddendaHistory) : Prop where
  once : (s.created.map Prod.fst).Nodup
  inOrder : ((infosOf s.db requestId).map AdditionalInfo.record).Sublist s.created

theorem RecordedAddenda.ordered (recorded : RecordedAddenda requestId s) :
    OrderedAddenda requestId s := by
  refine ⟨?_, recorded.inOrder⟩
  have ids : ((infosOf s.db requestId).map AdditionalInfo.id) =
      ((infosOf s.db requestId).map AdditionalInfo.record).map Prod.fst := by
    rw [List.map_map]
    rfl
  rw [ids]
  exact (recorded.inOrder.map Prod.fst).nodup recorded.once

theorem changes_records {before after : List AdditionalInfo} (changes : call.Changes before after) :
    (after.map AdditionalInfo.record).Sublist
      (before.map AdditionalInfo.record ++
        if call.adds = true then [(call.target, call.now)] else []) := by
  cases call with
  | addInfo dto requester infoId now =>
      obtain ⟨added, rfl, rfl, rfl, _⟩ := changes
      rw [List.map_append]
      exact List.Sublist.refl _
  | updateAdditionalInfo infoId dto requester now =>
      obtain ⟨front, info, back, edited, rfl, _, rfl, sameId, sameTime, _⟩ := changes
      have same : edited.record = info.record := Prod.ext sameId sameTime
      simp [InfoCall.adds, same]
  | removeAdditionalInfo infoId requester now =>
      obtain ⟨front, info, back, rfl, _, rfl⟩ := changes
      simp [InfoCall.adds]

theorem keepsHistory_of_recorded (recorded : RecordedAddenda requestId s) (call : InfoCall) :
    KeepsHistory requestId s call := by
  unfold KeepsHistory
  rcases finish_cases s.db requestId call with ⟨error, ran⟩ | ⟨request, through, ran⟩
  · rw [ran]
  · rw [ran]
    have before := infosOf_of_found through.found
    have after := infosOf_edited through
    refine ⟨?_, ⟨request, through.found, ?_⟩, ?_⟩
    · rw [before, after]
      apply edit_changes
      intro addresses
      obtain ⟨info, found, _⟩ := through.entry addresses
      exact ⟨info, found⟩
    · rw [after]
      rfl
    · intro addresses notAdmin
      obtain ⟨info, found, allowed⟩ := through.entry addresses
      obtain ⟨here, _⟩ := info_split found
      have listed : info ∈ infosOf s.db requestId := by
        rw [before]
        exact List.mem_of_find?_eq_some found
      have known := recorded.inOrder.subset (List.mem_map_of_mem listed)
      refine ⟨info.createdAt, ?_, ?_⟩
      · rw [← here]
        exact known
      · exact Nat.sub_le_iff_le_add'.mp (allowed.resolve_left notAdmin)

theorem recorded_step (recorded : RecordedAddenda requestId s) (fresh : FreshAddition s call) :
    RecordedAddenda requestId (s.step requestId call) := by
  have kept := keepsHistory_of_recorded recorded call
  unfold KeepsHistory at kept
  unfold AddendaHistory.step
  rcases finish_cases s.db requestId call with ⟨error, ran⟩ | ⟨request, through, ran⟩
  · rw [ran, if_neg fun succeeded => nomatch succeeded.2]
    exact ⟨recorded.once, recorded.inOrder⟩
  · rw [ran] at kept ⊢
    have records := changes_records kept.changes
    by_cases adds : call.adds = true
    · rw [if_pos ⟨adds, rfl⟩]
      rw [if_pos adds] at records
      refine ⟨?_, records.trans (recorded.inOrder.append (List.Sublist.refl _))⟩
      rw [List.map_append, List.nodup_append]
      refine ⟨recorded.once, List.nodup_singleton _, ?_⟩
      rintro known listed added single rfl
      rw [List.mem_singleton.mp single] at listed
      exact fresh adds listed
    · rw [if_neg fun succeeded => adds succeeded.1]
      rw [if_neg adds, List.append_nil] at records
      exact ⟨recorded.once, records.trans recorded.inOrder⟩

end Steps

theorem recorded_opened {requestId : RequestId} {db : Db}
    (distinct : ((infosOf db requestId).map AdditionalInfo.id).Nodup) :
    RecordedAddenda requestId (AddendaHistory.opened requestId db) := by
  refine ⟨?_, List.Sublist.refl _⟩
  rw [AddendaHistory.opened, List.map_map]
  exact distinct

/-- In every run with fresh numbers the stored entries are distinct and in the order of their
creation, and every call either fails without a trace or changes the entry it addresses and
nothing else, in time. -/
theorem addenda_recorded {requestId : RequestId} {db : Db} {calls : List InfoCall}
    (distinct : ((infosOf db requestId).map AdditionalInfo.id).Nodup)
    (fresh : Throughout (AddendaHistory.step requestId) FreshAddition
      (AddendaHistory.opened requestId db) calls) :
    Always (AddendaHistory.step requestId) (OrderedAddenda requestId)
        (AddendaHistory.opened requestId db) calls ∧
      Throughout (AddendaHistory.step requestId) (KeepsHistory requestId)
        (AddendaHistory.opened requestId db) calls := by
  have start := recorded_opened distinct
  constructor
  · have recorded := always_of_preserved
      (fun _ _ here freshHere => recorded_step here freshHere) start fresh
    exact recorded.mono fun _ here => here.ordered
  · refine throughout_of_preserved ?_ start fresh
    intro _ call here freshHere
    exact ⟨recorded_step here freshHere, keepsHistory_of_recorded here call⟩

/-- The author adds an entry and edits it after ten minutes; half an hour after the creation it
is too late to remove it. -/
def editedAddendum : List InfoCall :=
  [.addInfo ⟨"Потрібна вода", [⟨some "a.jpg", none, none⟩], []⟩ author 7 0,
    .updateAdditionalInfo 7 ⟨"Потрібна вода", [⟨some "b.jpg", none, none⟩], ["a.jpg"]⟩ author
      600000,
    .removeAdditionalInfo 7 author 1800001]

theorem addenda_recorded_witness :
    Always (AddendaHistory.step 0) (OrderedAddenda 0)
        (AddendaHistory.opened 0 (exampleBoard .local)) editedAddendum ∧
      Throughout (AddendaHistory.step 0) (KeepsHistory 0)
        (AddendaHistory.opened 0 (exampleBoard .local)) editedAddendum := by
  apply addenda_recorded
  · decide +kernel
  · have nothing : (AddendaHistory.opened 0 (exampleBoard .local)).created = [] := by
      decide +kernel
    refine ⟨?_, ?_, ?_, trivial⟩
    · intro _
      rw [nothing]
      exact List.not_mem_nil
    · rintro ⟨⟩
    · rintro ⟨⟩

end VolunteerApi
