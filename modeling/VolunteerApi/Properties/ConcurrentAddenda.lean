import VolunteerApi.Effects.InfoSessions
import VolunteerApi.Model.System

/-!
# Additional information that two calls edit at once

A save writes the whole list as it was read.  What others have added or edited since the read is
overwritten with it, and nobody is told.  Next to the sessions, the state of a run carries what
the saves so far promise: which entries there are, with which text.
-/

set_option autoImplicit false

namespace VolunteerApi

open Relational Programs RequestsService

/-- What is promised of an entry: nothing before it is added, or after it was removed. -/
inductive Promise where
  | never
  | kept (text : String)
  | removed
  deriving DecidableEq, Repr

def Promise.edited (text : String) : Promise → Promise
  | .kept _ => .kept text
  | other => other

/-- What the save of a call promises, as the call is answered after it. -/
def InfoCall.acknowledged (promised : InfoId → Promise) : InfoCall → InfoId → Promise
  | .addInfo dto _ infoId _ => Function.update promised infoId (.kept dto.text)
  | .updateAdditionalInfo infoId dto _ _ =>
      Function.update promised infoId ((promised infoId).edited dto.text)
  | .removeAdditionalInfo infoId _ _ => Function.update promised infoId .removed

def infosOf (db : Db) (requestId : RequestId) : List AdditionalInfo :=
  ((db.findRequest requestId).map Request.additionalInfo).getD []

structure InfoState (ι : Type) where
  sessions : Sessions ι Db TaskId HttpException Unit
  promised : InfoId → Promise
  /-- What was promised when the call read the request. -/
  seen : ι → Option (InfoId → Promise)

namespace InfoState

variable {ι : Type}

def opened (requestId : RequestId) (calls : ι → InfoCall) (db : Db) : InfoState ι where
  sessions :=
    { store := db
      session i := .auto ((calls i).program requestId)
      holder _ := none }
  promised infoId :=
    match (infosOf db requestId).find? fun info => info.id = infoId with
    | some info => .kept info.text
    | none => .never
  seen _ := none

def saves (s : InfoState ι) (i : ι) : Bool :=
  (s.seen i).isSome &&
    match s.sessions.session i with
    | .auto (.stmt ..) => true
    | _ => false

variable [DecidableEq ι]

def step (calls : ι → InfoCall) (s : InfoState ι) (i : ι) : InfoState ι where
  sessions := s.sessions.step i
  promised := if s.saves i then (calls i).acknowledged s.promised else s.promised
  seen := if s.seen i = none then Function.update s.seen i (some s.promised) else s.seen

end InfoState

/-- Every promised entry is in the list, with its text. -/
def KeepsAddenda {ι : Type} (requestId : RequestId) (s : InfoState ι) : Prop :=
  ∀ infoId text, s.promised infoId = .kept text →
    ∃ info ∈ infosOf s.sessions.store requestId, info.id = infoId ∧ info.text = text

/-- A call saves only while every entry but its own is promised with the text that was promised
when it read the list. -/
def SavesNothingStale {ι : Type} (calls : ι → InfoCall) (s : InfoState ι) (i : ι) : Prop :=
  s.saves i = true → ∀ view, s.seen i = some view → ∀ infoId text, infoId ≠ (calls i).target →
    s.promised infoId = .kept text → view infoId = .kept text

/-- The numbers of the entries are distinct, and new ones are fresh. -/
structure FreshInfos {ι : Type} (requestId : RequestId) (calls : ι → InfoCall) (db : Db) :
    Prop where
  distinct : ((infosOf db requestId).map AdditionalInfo.id).Nodup
  unused : ∀ i, (calls i).adds = true →
    (calls i).target ∉ (infosOf db requestId).map AdditionalInfo.id
  apart : ∀ i j, (calls i).adds = true → (calls j).adds = true →
    (calls i).target = (calls j).target → i = j

/-! ## What a call holds in memory -/

/-- Entries stay known, and what was removed stays removed. -/
def Grows (view promised : InfoId → Promise) : Prop :=
  ∀ infoId, (view infoId ≠ .never → promised infoId ≠ .never) ∧
    (view infoId = .removed → promised infoId = .removed)

theorem Grows.refl (promised : InfoId → Promise) : Grows promised promised :=
  fun _ => ⟨id, id⟩

theorem Grows.trans {view mid promised : InfoId → Promise} (first : Grows view mid)
    (second : Grows mid promised) : Grows view promised := fun infoId =>
  ⟨(second infoId).1 ∘ (first infoId).1, (second infoId).2 ∘ (first infoId).2⟩

theorem acknowledged_of_ne {call : InfoCall} {promised : InfoId → Promise} {infoId : InfoId}
    (other : infoId ≠ call.target) : call.acknowledged promised infoId = promised infoId := by
  cases call <;> exact Function.update_of_ne other _ _

theorem acknowledged_grows {call : InfoCall} {promised : InfoId → Promise}
    (fresh : call.adds = true → promised call.target = .never) :
    Grows promised (call.acknowledged promised) := by
  intro infoId
  by_cases here : infoId = call.target
  · subst here
    cases call with
    | addInfo dto requester infoId now =>
        have never := fresh rfl
        refine ⟨fun known => absurd never known, ?_⟩
        intro removed
        rw [never] at removed
        cases removed
    | updateAdditionalInfo infoId dto requester now =>
        simp only [InfoCall.acknowledged, InfoCall.target, Function.update_self]
        cases promised infoId <;> simp [Promise.edited]
    | removeAdditionalInfo infoId requester now =>
        simp [InfoCall.acknowledged, InfoCall.target]
  · rw [acknowledged_of_ne here]
    exact ⟨id, id⟩

/-- The request that a call has read and is about to save. -/
structure Holds (requestId : RequestId) (call : InfoCall) (db : Db)
    (promised view : InfoId → Promise) (request : Request) : Prop where
  live : (db.findRequest requestId).isSome = true
  sameId : request.id = requestId
  notDeleted : request.deletedAt = none
  distinct : (request.additionalInfo.map AdditionalInfo.id).Nodup
  addresses : call.Addresses request.additionalInfo
  fresh : call.adds = true → promised call.target = .never
  has : ∀ infoId text, view infoId = .kept text →
    ∃ info ∈ request.additionalInfo, info.id = infoId ∧ info.text = text
  known : ∀ info ∈ request.additionalInfo, view info.id ≠ .never
  grows : Grows view promised

inductive InfoStage (requestId : RequestId) (call : InfoCall) (db : Db)
    (promised : InfoId → Promise) :
    Option (InfoId → Promise) → Session Db TaskId HttpException Unit → Prop
  | unread (fresh : call.adds = true → promised call.target = .never) :
      InfoStage requestId call db promised none (.auto (call.program requestId))
  | saving (view : InfoId → Promise) (request : Request)
      (holds : Holds requestId call db promised view request) :
      InfoStage requestId call db promised (some view)
        (.auto (saveRequestRow (call.edited request)))
  | failing (view : InfoId → Promise) (error : HttpException) :
      InfoStage requestId call db promised (some view) (.auto (.fail error))
  | returning (view : InfoId → Promise) :
      InfoStage requestId call db promised (some view) (.auto (.ret ()))
  | done (view : InfoId → Promise) (result : Except HttpException Unit) :
      InfoStage requestId call db promised (some view) (.done result)

theorem InfoStage.later {requestId : RequestId} {call : InfoCall} {db after : Db}
    {promised next : InfoId → Promise} {seen : Option (InfoId → Promise)}
    {session : Session Db TaskId HttpException Unit}
    (stage : InfoStage requestId call db promised seen session)
    (live : (db.findRequest requestId).isSome = true → (after.findRequest requestId).isSome = true)
    (grows : Grows promised next)
    (fresh : call.adds = true → promised call.target = .never → next call.target = .never) :
    InfoStage requestId call after next seen session := by
  cases stage with
  | unread unused => exact .unread fun adds => fresh adds (unused adds)
  | saving view request holds =>
      exact .saving view request
        { holds with
          live := live holds.live
          fresh := fun adds => fresh adds (holds.fresh adds)
          grows := holds.grows.trans grows }
  | failing view error => exact .failing view error
  | returning view => exact .returning view
  | done view result => exact .done view result

structure AddendaTracked {ι : Type} (requestId : RequestId) (calls : ι → InfoCall)
    (s : InfoState ι) : Prop where
  distinct : ((infosOf s.sessions.store requestId).map AdditionalInfo.id).Nodup
  known : ∀ info ∈ infosOf s.sessions.store requestId, s.promised info.id ≠ .never
  stage : ∀ i, InfoStage requestId (calls i) s.sessions.store s.promised (s.seen i)
    (s.sessions.session i)

/-! ## One statement -/

section Steps

variable {ι : Type} {requestId : RequestId} {calls : ι → InfoCall} {s : InfoState ι} {i : ι}

theorem infosOf_of_found {db : Db} {request : Request}
    (found : db.findRequest requestId = some request) :
    infosOf db requestId = request.additionalInfo := by
  rw [infosOf, found]
  rfl

theorem findRequest_saved {db : Db} {request : Request}
    (live : (db.findRequest request.id).isSome = true) (notDeleted : request.deletedAt = none) :
    { db with requests := db.requests.saveAll [request] }.findRequest request.id =
      some request := by
  obtain ⟨old, found⟩ := Option.isSome_iff_exists.mp live
  obtain ⟨stored, sameId, _⟩ := Db.findRequest_some found
  have replaced := Table.replaced_save request stored sameId.symm sameId.symm
  exact @Db.findRequest_of_mem { db with requests := db.requests.saveAll [request] } request
    replaced.new_mem notDeleted

theorem acknowledged_fresh {call other : InfoCall} {promised : InfoId → Promise}
    (apart : call.adds = true → other.target ≠ call.target)
    (never : promised other.target = .never)
    (known : call.adds = false → promised call.target ≠ .never) :
    call.acknowledged promised other.target = .never := by
  have different : other.target ≠ call.target := by
    intro same
    cases adds : call.adds with
    | true => exact apart adds same
    | false => exact known adds (same ▸ never)
  rw [acknowledged_of_ne different]
  exact never

variable [DecidableEq ι]

theorem step_unread (seen : s.seen i = none)
    (session : s.sessions.session i = .auto ((calls i).program requestId)) :
    ∃ rest, InfoCall.SavesAfter requestId (calls i) s.sessions.store rest ∧
      s.step calls i =
        { s with
          sessions :=
            { s.sessions with session := Function.update s.sessions.session i (.auto rest) }
          seen := Function.update s.seen i (some s.promised) } := by
  obtain ⟨next, reads, after⟩ := InfoCall.program_reads requestId (calls i)
  refine ⟨next s.sessions.store, after s.sessions.store, ?_⟩
  rw [reads] at session
  simp [InfoState.step, InfoState.saves, Sessions.step, session, seen, Sessions.Blocked]

theorem step_saving {view : InfoId → Promise} {request : Request} (seen : s.seen i = some view)
    (session : s.sessions.session i = .auto (saveRequestRow request)) :
    s.step calls i =
      { s with
        sessions :=
          { s.sessions with
            store :=
              { s.sessions.store with requests := s.sessions.store.requests.saveAll [request] }
            session := Function.update s.sessions.session i (.auto (.ret ())) }
        promised := (calls i).acknowledged s.promised } := by
  simp [InfoState.step, InfoState.saves, Sessions.step, session, seen, Sessions.Blocked,
    saveRequestRow, Prog.exec]

theorem step_ending {view : InfoId → Promise} {rest : Service Unit}
    (seen : s.seen i = some view) (session : s.sessions.session i = .auto rest)
    (ends : rest = .ret () ∨ ∃ error, rest = .fail error) :
    ∃ result, s.step calls i =
      { s with
        sessions :=
          { s.sessions with session := Function.update s.sessions.session i (.done result) } } := by
  rcases ends with rfl | ⟨error, rfl⟩
  · refine ⟨.ok (), ?_⟩
    simp [InfoState.step, InfoState.saves, Sessions.step, session, seen]
  · refine ⟨.error error, ?_⟩
    simp [InfoState.step, InfoState.saves, Sessions.step, session, seen]

theorem step_done {view : InfoId → Promise} {result : Except HttpException Unit}
    (seen : s.seen i = some view) (session : s.sessions.session i = .done result) :
    s.step calls i = s := by
  simp [InfoState.step, InfoState.saves, Sessions.step, session, seen]

theorem AddendaTracked.alone {later : InfoState ι} (i : ι)
    (tracked : AddendaTracked requestId calls s)
    (store : later.sessions.store = s.sessions.store) (promised : later.promised = s.promised)
    (others : ∀ j, j ≠ i →
      later.seen j = s.seen j ∧ later.sessions.session j = s.sessions.session j)
    (own : InfoStage requestId (calls i) s.sessions.store s.promised (later.seen i)
      (later.sessions.session i)) : AddendaTracked requestId calls later where
  distinct := by
    rw [store]
    exact tracked.distinct
  known := by
    rw [store, promised]
    exact tracked.known
  stage := by
    intro j
    rw [store, promised]
    by_cases same : j = i
    · rw [same]
      exact own
    · obtain ⟨sameSeen, sameSession⟩ := others j same
      rw [sameSeen, sameSession]
      exact tracked.stage j

omit [DecidableEq ι] in
theorem holds_of_read {call : InfoCall} {request : Request}
    (tracked : AddendaTracked requestId calls s) (kept : KeepsAddenda requestId s)
    (found : s.sessions.store.findRequest requestId = some request)
    (addresses : call.Addresses request.additionalInfo)
    (fresh : call.adds = true → s.promised call.target = .never) :
    Holds requestId call s.sessions.store s.promised s.promised request := by
  have infos := infosOf_of_found found
  obtain ⟨_, sameId, notDeleted⟩ := Db.findRequest_some found
  exact
    { live := by rw [found]; rfl
      sameId := sameId
      notDeleted := notDeleted
      distinct := infos ▸ tracked.distinct
      addresses := addresses
      fresh := fresh
      has := fun infoId text promised => infos ▸ kept infoId text promised
      known := infos ▸ tracked.known
      grows := .refl s.promised }

theorem unread_keeps (tracked : AddendaTracked requestId calls s) (kept : KeepsAddenda requestId s)
    (seen : s.seen i = none)
    (session : s.sessions.session i = .auto ((calls i).program requestId))
    (fresh : (calls i).adds = true → s.promised (calls i).target = .never) :
    AddendaTracked requestId calls (s.step calls i) ∧ KeepsAddenda requestId (s.step calls i) := by
  obtain ⟨rest, after, stepped⟩ := step_unread seen session
  rw [stepped]
  refine ⟨tracked.alone i rfl rfl ?_ ?_, kept⟩
  · intro j other
    simp [other]
  · simp only [Function.update_self]
    rcases after with ⟨error, rfl⟩ | ⟨request, found, addresses, rfl⟩
    · exact .failing s.promised error
    · exact .saving s.promised request (holds_of_read tracked kept found addresses fresh)

/-- The entry of the call is as the save promises it. -/
theorem target_mem_edit {call : InfoCall} {promised : InfoId → Promise}
    {infos : List AdditionalInfo} (addresses : call.Addresses infos) {text : String}
    (isPromised : call.acknowledged promised call.target = .kept text) :
    ∃ info ∈ call.edit infos, info.id = call.target ∧ info.text = text := by
  cases call with
  | addInfo dto requester infoId now =>
      simp only [InfoCall.acknowledged, InfoCall.target, Function.update_self,
        Promise.kept.injEq] at isPromised
      exact ⟨_, List.mem_append_right _ List.mem_cons_self, rfl, isPromised⟩
  | updateAdditionalInfo infoId dto requester now =>
      obtain ⟨present, member, here⟩ := addresses rfl
      have found : ∃ info, infos.find? (fun info => info.id = infoId) = some info := by
        rw [← Option.isSome_iff_exists, List.find?_isSome]
        exact ⟨present, member, decide_eq_true here⟩
      obtain ⟨info, entry⟩ := found
      have sameId : info.id = infoId := by simpa using List.find?_some entry
      have sameText : dto.text = text := by
        simp only [InfoCall.acknowledged, InfoCall.target, Function.update_self] at isPromised
        cases before : promised infoId <;> rw [before] at isPromised <;> cases isPromised
        rfl
      refine ⟨editedInfo info dto now, ?_, sameId, sameText⟩
      simp only [InfoCall.edit, entry]
      exact mem_replaceInfo_self ⟨present, member, here⟩
  | removeAdditionalInfo infoId requester now =>
      simp [InfoCall.acknowledged, InfoCall.target] at isPromised

/-- The saved list holds what is promised, exactly if nothing else was promised since the read. -/
theorem saving_keeps_iff {call : InfoCall} {db : Db} {promised view : InfoId → Promise}
    {request : Request} (holds : Holds requestId call db promised view request) :
    (∀ infoId text, call.acknowledged promised infoId = .kept text →
        ∃ info ∈ call.edit request.additionalInfo, info.id = infoId ∧ info.text = text) ↔
      ∀ infoId text, infoId ≠ call.target → promised infoId = .kept text →
        view infoId = .kept text := by
  constructor
  · intro saved infoId text other isPromised
    have unmoved : call.acknowledged promised infoId = promised infoId := acknowledged_of_ne other
    obtain ⟨info, member, rfl, rfl⟩ := saved infoId text (unmoved.trans isPromised)
    have held := (InfoCall.mem_edit_of_ne other).mp member
    cases promisedThen : view info.id with
    | never => exact absurd promisedThen (holds.known info held)
    | removed =>
        rw [(holds.grows info.id).2 promisedThen] at isPromised
        cases isPromised
    | kept text =>
        -- the numbers in the list are distinct, so it is this entry
        obtain ⟨same, sameHeld, sameId, rfl⟩ := holds.has info.id text promisedThen
        rw [List.inj_on_of_nodup_map holds.distinct sameHeld held sameId]
  · intro unchanged infoId text isPromised
    by_cases here : infoId = call.target
    · subst here
      exact target_mem_edit holds.addresses isPromised
    · rw [acknowledged_of_ne here] at isPromised
      obtain ⟨info, held, rfl, rfl⟩ := holds.has infoId text (unchanged infoId text here isPromised)
      exact ⟨info, (InfoCall.mem_edit_of_ne here).mpr held, rfl, rfl⟩

theorem Holds.promised_known {call : InfoCall} {db : Db} {promised view : InfoId → Promise}
    {request : Request} (holds : Holds requestId call db promised view request)
    {infoId : InfoId} (held : infoId ∈ request.additionalInfo.map AdditionalInfo.id) :
    promised infoId ≠ .never := by
  obtain ⟨info, member, rfl⟩ := List.mem_map.mp held
  exact (holds.grows info.id).1 (holds.known info member)

theorem Holds.edited_known {call : InfoCall} {db : Db} {promised view : InfoId → Promise}
    {request : Request} (holds : Holds requestId call db promised view request) :
    ((call.edit request.additionalInfo).map AdditionalInfo.id).Nodup ∧
      ∀ info ∈ call.edit request.additionalInfo,
        call.acknowledged promised info.id ≠ .never := by
  obtain ⟨distinct, ids⟩ := InfoCall.edit_ids holds.distinct fun adds held =>
    holds.promised_known held (holds.fresh adds)
  refine ⟨distinct, ?_⟩
  intro info member
  rcases ids info member with held | ⟨adds, here⟩
  · exact (acknowledged_grows holds.fresh info.id).1 (holds.promised_known held)
  · rw [here]
    cases call with
    | addInfo dto requester infoId now => simp [InfoCall.acknowledged, InfoCall.target]
    | updateAdditionalInfo infoId dto requester now => cases adds
    | removeAdditionalInfo infoId requester now => cases adds

theorem Holds.target_known {call : InfoCall} {db : Db} {promised view : InfoId → Promise}
    {request : Request} (holds : Holds requestId call db promised view request)
    (edits : call.adds = false) : promised call.target ≠ .never := by
  obtain ⟨info, member, here⟩ := holds.addresses edits
  rw [← here]
  exact holds.promised_known (List.mem_map_of_mem member)

theorem saving_step (apart : ∀ i j, (calls i).adds = true → (calls j).adds = true →
      (calls i).target = (calls j).target → i = j)
    (tracked : AddendaTracked requestId calls s) {view : InfoId → Promise} {request : Request}
    (seen : s.seen i = some view)
    (session : s.sessions.session i = .auto (saveRequestRow ((calls i).edited request)))
    (holds : Holds requestId (calls i) s.sessions.store s.promised view request) :
    AddendaTracked requestId calls (s.step calls i) ∧
      (KeepsAddenda requestId (s.step calls i) ↔ SavesNothingStale calls s i) := by
  have found : { s.sessions.store with requests :=
      s.sessions.store.requests.saveAll [(calls i).edited request] }.findRequest requestId =
        some ((calls i).edited request) := by
    obtain ⟨live, rfl, notDeleted, _⟩ := holds
    exact findRequest_saved live notDeleted
  have infos := infosOf_of_found found
  rw [step_saving seen session]
  refine ⟨⟨?_, ?_, ?_⟩, ?_⟩
  · rw [infos]
    exact holds.edited_known.1
  · rw [infos]
    exact holds.edited_known.2
  · intro j
    by_cases same : j = i
    · subst same
      simp only [Function.update_self, seen]
      exact .returning view
    · simp only [Function.update_of_ne same]
      refine (tracked.stage j).later ?_ (acknowledged_grows holds.fresh) ?_
      · intro _
        rw [found]
        rfl
      · intro adds never
        exact acknowledged_fresh (fun addsToo alike => same (apart j i adds addsToo alike)) never
          holds.target_known
  · have saves : s.saves i = true := by
      simp [InfoState.saves, seen, session, saveRequestRow, Prog.exec]
    unfold KeepsAddenda SavesNothingStale
    rw [infos]
    simp only [saves, seen, Option.some.injEq, forall_eq', true_implies]
    exact saving_keeps_iff holds

theorem ending_keeps (tracked : AddendaTracked requestId calls s) (kept : KeepsAddenda requestId s)
    {view : InfoId → Promise} {rest : Service Unit} (seen : s.seen i = some view)
    (session : s.sessions.session i = .auto rest)
    (ends : rest = .ret () ∨ ∃ error, rest = .fail error) :
    AddendaTracked requestId calls (s.step calls i) ∧ KeepsAddenda requestId (s.step calls i) := by
  obtain ⟨result, stepped⟩ := step_ending seen session ends
  rw [stepped]
  refine ⟨tracked.alone i rfl rfl ?_ ?_, kept⟩
  · intro j other
    simp [other]
  · simp only [Function.update_self, seen]
    exact .done view result

omit [DecidableEq ι] in
theorem savesNothingStale_of_not {calls : ι → InfoCall} (idle : s.saves i = false) :
    SavesNothingStale calls s i := by
  intro saves
  rw [idle] at saves
  cases saves

theorem addenda_step (apart : ∀ i j, (calls i).adds = true → (calls j).adds = true →
      (calls i).target = (calls j).target → i = j)
    (tracked : AddendaTracked requestId calls s) (kept : KeepsAddenda requestId s) :
    AddendaTracked requestId calls (s.step calls i) ∧
      (KeepsAddenda requestId (s.step calls i) ↔ SavesNothingStale calls s i) := by
  have stage := tracked.stage i
  generalize seen : s.seen i = view at stage
  generalize session : s.sessions.session i = here at stage
  cases stage with
  | unread fresh =>
      obtain ⟨later, keeps⟩ := unread_keeps tracked kept seen session fresh
      exact ⟨later, iff_of_true keeps (savesNothingStale_of_not (by simp [InfoState.saves, seen]))⟩
  | saving view request holds => exact saving_step apart tracked seen session holds
  | failing view error =>
      obtain ⟨later, keeps⟩ := ending_keeps tracked kept seen session (Or.inr ⟨error, rfl⟩)
      refine ⟨later, iff_of_true keeps (savesNothingStale_of_not ?_)⟩
      simp [InfoState.saves, session]
  | returning view =>
      obtain ⟨later, keeps⟩ := ending_keeps tracked kept seen session (Or.inl rfl)
      refine ⟨later, iff_of_true keeps (savesNothingStale_of_not ?_)⟩
      simp [InfoState.saves, session]
  | done view result =>
      rw [step_done seen session]
      refine ⟨tracked, iff_of_true kept (savesNothingStale_of_not ?_)⟩
      simp [InfoState.saves, session]

end Steps

/-! ## A run -/

section Run

variable {ι : Type} [DecidableEq ι] {requestId : RequestId} {calls : ι → InfoCall} {db : Db}

omit [DecidableEq ι] in
theorem opened_keeps (fresh : FreshInfos requestId calls db) :
    AddendaTracked requestId calls (InfoState.opened requestId calls db) ∧
      KeepsAddenda requestId (InfoState.opened requestId calls db) := by
  refine ⟨⟨fresh.distinct, ?_, ?_⟩, ?_⟩
  · intro info member
    have found : ((infosOf db requestId).find? fun other => other.id = info.id).isSome := by
      rw [List.find?_isSome]
      exact ⟨info, member, decide_eq_true rfl⟩
    obtain ⟨other, found⟩ := Option.isSome_iff_exists.mp found
    simp [InfoState.opened, found]
  · intro i
    refine .unread ?_
    intro adds
    have absent : (infosOf db requestId).find? (fun info => info.id = (calls i).target) = none := by
      rw [List.find?_eq_none]
      intro info member here
      exact fresh.unused i adds (List.mem_map.mpr ⟨info, member, of_decide_eq_true here⟩)
    simp [InfoState.opened, absent]
  · intro infoId text promised
    simp only [InfoState.opened] at promised ⊢
    split at promised
    · next info found =>
      cases promised
      exact ⟨info, List.mem_of_find?_eq_some found, by simpa using List.find?_some found, rfl⟩
    · cases promised

/-- However the statements of the calls interleave, the list holds every entry that was added,
with the text of its last edit and unless it was removed, exactly if no call saves a list that
another call has outdated. -/
theorem keepsAddenda_iff (fresh : FreshInfos requestId calls db) (schedule : List ι) :
    Always (InfoState.step calls) (KeepsAddenda requestId) (.opened requestId calls db) schedule ↔
      Throughout (InfoState.step calls) (SavesNothingStale calls) (.opened requestId calls db)
        schedule :=
  always_iff_throughout_while (fun _ _ tracked kept _ => (addenda_step fresh.apart tracked kept).1)
    (fun _ _ tracked kept => (addenda_step fresh.apart tracked kept).2) (opened_keeps fresh).1
    (opened_keeps fresh).2

end Run

/-- The author adds an entry from each of his devices. -/
def additions (device : Nat) : InfoCall :=
  .addInfo ⟨"Потрібні генератори", [], []⟩ author device 1767225600000

theorem additions_fresh : FreshInfos 0 additions (exampleBoard .local) where
  distinct := by decide +kernel
  unused := by
    intro i _ listed
    cases listed
  apart := by
    rintro i j _ _ same
    exact same

/-- Both read the request before either saves it. -/
def overlapping : List Nat := [1, 2, 1, 2, 1, 2]

theorem keepsAddenda_iff_witness :
    Always (InfoState.step additions) (KeepsAddenda 0) (.opened 0 additions (exampleBoard .local))
        overlapping ↔
      Throughout (InfoState.step additions) (SavesNothingStale additions)
        (.opened 0 additions (exampleBoard .local)) overlapping :=
  keepsAddenda_iff additions_fresh overlapping

/-- Both are answered with success, and one entry is lost. -/
theorem keepsAddenda_fails :
    ¬ Always (InfoState.step additions) (KeepsAddenda 0)
      (.opened 0 additions (exampleBoard .local)) overlapping := by
  intro all
  have promised : (execute (InfoState.step additions)
      (.opened 0 additions (exampleBoard .local)) overlapping).promised 1 =
        .kept "Потрібні генератори" := by
    decide +kernel
  obtain ⟨info, member, first, _⟩ := always_end all 1 _ promised
  have saved : (infosOf (execute (InfoState.step additions)
      (.opened 0 additions (exampleBoard .local)) overlapping).sessions.store 0).map
        AdditionalInfo.id = [2] := by
    decide +kernel
  have listed := List.mem_map_of_mem (f := AdditionalInfo.id) member
  rw [saved, first] at listed
  exact absurd listed (by decide)

end VolunteerApi
