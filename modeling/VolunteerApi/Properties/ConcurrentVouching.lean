import VolunteerApi.Effects.VouchSessions

/-!
# Vouches that change while a level is recalculated

A recalculation counts, reads and writes in separate statements and locks nothing.
A vouch that changes between the count and the write is overlooked, and when that
write is the last one, the level stays wrong.  As long as none does, the level
follows the vouches again once all calls have finished.
-/

set_option autoImplicit false

namespace VolunteerApi

open Relational Programs
open UsersService

section Vouching

variable {ι : Type}

abbrev VouchSessions (ι : Type) := Sessions ι Db TaskId HttpException Unit

def openedVouches (required : Nat) (calls : ι → VouchCall) (db : Db) : VouchSessions ι where
  store := db
  session i := .auto ((calls i).program required)
  holder _ := none

variable [DecidableEq ι]

/-- The number of the user's active vouches does not change while another session stands
between its count of them and the end of the recalculation. -/
def NotOvertaken (required : Nat) (userId : UserId) (c : VouchSessions ι) (i : ι) : Prop :=
  (c.step i).store.activeVouches userId ≠ c.store.activeVouches userId →
    ∀ j, j ≠ i → ∀ rest, c.session j = .auto rest → ¬ InWindow required userId rest

def AllFinished (c : VouchSessions ι) : Prop := ∀ i, (c.session i).finished = true

/-- The user's level follows the vouches, or a session will count them again. -/
structure Accounted (required : Nat) (userId : UserId) (verified : Bool) (c : VouchSessions ι) :
    Prop where
  ordinary : Ordinary userId verified c.store
  stage : ∀ i, ∃ owed, VouchStage required userId verified c.store owed (c.session i)
  settled : LevelFollows required userId c.store ∨
    ∃ i owed, VouchStage required userId verified c.store owed (c.session i) ∧ owed

variable {required : Nat} {userId : UserId} {verified : Bool} {c : VouchSessions ι} {i : ι}

omit [DecidableEq ι] in
theorem openedVouches_accounted (calls : ι → VouchCall) {db : Db}
    (ordinary : Ordinary userId verified db) (follows : LevelFollows required userId db) :
    Accounted required userId verified (openedVouches required calls db) := by
  refine ⟨ordinary, ?_, Or.inl follows⟩
  intro i
  exact ⟨False, .checking _ (VouchCall.program_checks required (calls i) db)⟩

theorem Accounted.finish (accounted : Accounted required userId verified c) {rest : Service Unit}
    (here : c.session i = .auto rest) (ends : ∀ lock effect next, rest ≠ .stmt lock effect next)
    (result : Except HttpException Unit) :
    Accounted required userId verified
      { c with session := Function.update c.session i (.done result) } := by
  refine ⟨accounted.ordinary, ?_, ?_⟩
  · intro j
    by_cases same : j = i
    · subst same
      exact ⟨False, by simpa using VouchStage.done result⟩
    · simpa [same] using accounted.stage j
  · rcases accounted.settled with follows | ⟨j, owed, stage, due⟩
    · exact Or.inl follows
    · by_cases same : j = i
      · subst same
        rw [here] at stage
        exact absurd due (stage.ended ends)
      · exact Or.inr ⟨j, owed, by simpa [same] using stage, due⟩

theorem Accounted.execute (accounted : Accounted required userId verified c) {lock : Option TaskId}
    {effect : Db → Db} {next : Db → Service Unit}
    (here : c.session i = .auto (.stmt lock effect next))
    (notOvertaken : (effect c.store).activeVouches userId ≠ c.store.activeVouches userId →
      ∀ j, j ≠ i → ∀ rest, c.session j = .auto rest → ¬ InWindow required userId rest) :
    Accounted required userId verified
      { c with
        store := effect c.store
        session := Function.update c.session i (.auto (next c.store)) } := by
  have moved : ∀ owed, VouchStage required userId verified c.store owed (c.session i) →
      ∃ owes, VouchStage required userId verified (effect c.store) owes (.auto (next c.store)) ∧
        Advances required userId verified c.store (effect c.store) owed owes := by
    intro owed stage
    rw [here] at stage
    exact stage.statement accounted.ordinary
  obtain ⟨mine, myStage⟩ := accounted.stage i
  obtain ⟨owes, after, advances⟩ := moved mine myStage
  have away : ∀ j, j ≠ i → ∀ owed, VouchStage required userId verified c.store owed (c.session j) →
      ∃ owes, VouchStage required userId verified (effect c.store) owes (c.session j) ∧
        ((∀ targetId, GivenTo c.store targetId userId →
          GivenTo (effect c.store) targetId userId) → owed → owes) := by
    intro j other owed stage
    refine stage.later advances.names ?_
    intro rest session window
    by_contra changed
    exact notOvertaken changed j other rest session window
  refine ⟨advances.ordinary, ?_, ?_⟩
  · intro j
    by_cases same : j = i
    · subst same
      exact ⟨owes, by simpa using after⟩
    · obtain ⟨owed, stage⟩ := accounted.stage j
      obtain ⟨later, laterStage, _⟩ := away j same owed stage
      exact ⟨later, by simpa [same] using laterStage⟩
  · -- a session that owes the user a recalculation afterwards
    have session : ∀ owes, VouchStage required userId verified (effect c.store) owes
        (.auto (next c.store)) → owes → ∃ j owed, VouchStage required userId verified
          (effect c.store) owed (Function.update c.session i (.auto (next c.store)) j) ∧ owed := by
      intro owes stage due
      exact ⟨i, owes, by simpa using stage, due⟩
    rcases accounted.settled with follows | ⟨j, owed, stage, due⟩
    · rcases advances.settles with due | ⟨_, _, keeps⟩
      · exact Or.inr (session owes after due)
      · exact Or.inl (keeps (Or.inl follows))
    · by_cases same : j = i
      · subst same
        obtain ⟨owes, after, advances⟩ := moved owed stage
        rcases advances.settles with still | ⟨_, _, keeps⟩
        · exact Or.inr (session owes after still)
        · exact Or.inl (keeps (Or.inr due))
      · rcases advances.settles with mineDue | ⟨_, given, _⟩
        · exact Or.inr (session owes after mineDue)
        · obtain ⟨later, laterStage, remains⟩ := away j same owed stage
          exact Or.inr ⟨j, later, by simpa [same] using laterStage, remains given due⟩

theorem Accounted.step (accounted : Accounted required userId verified c) (i : ι)
    (notOvertaken : NotOvertaken required userId c i) :
    Accounted required userId verified (c.step i) := by
  obtain ⟨owed, stage⟩ := accounted.stage i
  have moves := c.step_moves i
  unfold NotOvertaken at notOvertaken
  generalize c.step i = later at moves notOvertaken
  cases moves with
  | stays => exact accounted
  | returns value here => exact accounted.finish here (fun _ _ _ same => nomatch same) (.ok value)
  | throws error here => exact accounted.finish here (fun _ _ _ same => nomatch same) (.error error)
  | executes lock effect next here free => exact accounted.execute here notOvertaken
  | commits value pending here =>
      rw [here] at stage
      cases stage
  | aborts error pending here =>
      rw [here] at stage
      cases stage
  | stages lock effect next pending here free =>
      rw [here] at stage
      cases stage

omit [DecidableEq ι] in
theorem Accounted.finished (accounted : Accounted required userId verified c)
    (finished : AllFinished c) : LevelFollows required userId c.store := by
  rcases accounted.settled with follows | ⟨i, owed, stage, due⟩
  · exact follows
  · have ended := finished i
    cases here : c.session i with
    | auto rest => rw [here] at ended; cases ended
    | tx rest pending => rw [here] at ended; cases ended
    | done result =>
        rw [here] at stage
        cases stage
        exact due.elim

/-- As long as the user's active vouches do not change while a recalculation of the user
is under way, the level follows them whenever all calls have finished. -/
theorem levelFollows_concurrent (required : Nat) {userId : UserId} {verified : Bool} {db : Db}
    (ordinary : Ordinary userId verified db) (follows : LevelFollows required userId db)
    (calls : ι → VouchCall) (schedule : List ι)
    (notOvertaken : Throughout Sessions.step (NotOvertaken required userId)
      (openedVouches required calls db) schedule) :
    Always Sessions.step (fun c => AllFinished c → LevelFollows required userId c.store)
      (openedVouches required calls db) schedule := by
  have accounted : Always Sessions.step (Accounted required userId verified)
      (openedVouches required calls db) schedule :=
    always_of_preserved (fun _ i inside allowed => inside.step i allowed)
      (openedVouches_accounted calls ordinary follows) notOvertaken
  exact accounted.mono fun _ inside => inside.finished

theorem notOvertaken_of_same
    (same : (c.step i).store.activeVouches userId = c.store.activeVouches userId) :
    NotOvertaken required userId c i := fun changed => absurd same changed

end Vouching

instance (userId : UserId) (verified : Bool) (db : Db) : Decidable (Ordinary userId verified db) :=
  inferInstanceAs (Decidable (∀ _ ∈ _, _))

instance (required : Nat) (userId : UserId) (db : Db) :
    Decidable (LevelFollows required userId db) :=
  inferInstanceAs (Decidable (∀ _ ∈ _, _))

/-- An admin vouches for a volunteer and is blocked by another admin. -/
def vouchAndBlock : Bool → VouchCall
  | false => .vouch 1 secondAdmin
  | true => .block 4 firstAdmin 0

/-- The whole block between the count of the first call and its write. -/
def blockedAfterCount : List Bool :=
  [false, false, false, false, true, true, true, true, true, true, false, false, false]

theorem levelFollows_concurrent_fails :
    Ordinary 1 true (exampleBoard .local) ∧ LevelFollows 1 1 (exampleBoard .local) ∧
      AllFinished (execute Sessions.step
        (openedVouches 1 vouchAndBlock (exampleBoard .local)) blockedAfterCount) ∧
      ¬ LevelFollows 1 1 (execute Sessions.step
        (openedVouches 1 vouchAndBlock (exampleBoard .local)) blockedAfterCount).store := by
  refine ⟨by decide +kernel, by decide +kernel, ?_, by decide +kernel⟩
  unfold AllFinished
  decide +kernel

/-- No statement of a recalculation blocks anybody. -/
theorem InWindow.keeps_blocks {required : Nat} {userId : UserId} {lock : Option TaskId}
    {effect : Db → Db} {next : Db → Service Unit}
    (inside : InWindow required userId (.stmt lock effect next)) (db : Db) :
    (effect db).users.rows.map User.isBlocked = db.users.rows.map User.isBlocked := by
  generalize statement : (Prog.stmt lock effect next : Service Unit) = rest at inside
  cases inside with
  | counted activeCount later =>
      cases statement
      rfl
  | withdrawing level score later =>
      cases statement
      rfl
  | marking held level score later =>
      cases held with
      | nil =>
          cases statement
          refine (List.map_map ..).trans (List.map_congr_left fun row _ => ?_)
          simp only [Function.comp_apply]
          split <;> rfl
      | cons first others =>
          cases statement
          rfl

theorem blockUser_not_inWindow : ¬ InWindow 1 1 (UsersService.blockUser 1 4 firstAdmin 0) := by
  intro inside
  exact absurd (inside.keeps_blocks (exampleBoard .local)) (by decide +kernel)

/-- The same two calls one after the other. -/
def blockedAfterVouch : List Bool :=
  [false, false, false, false, false, false, false, true, true, true, true, true, true, true, true]

/-- The level rises with the vouch and falls with the block. -/
theorem levelFollows_concurrent_in_turn :
    Always Sessions.step (fun c => AllFinished c → LevelFollows 1 1 c.store)
      (openedVouches 1 vouchAndBlock (exampleBoard .local)) blockedAfterVouch := by
  apply levelFollows_concurrent 1 (by decide +kernel : Ordinary 1 true _) (by decide +kernel)
  refine ⟨notOvertaken_of_same (by decide +kernel), notOvertaken_of_same (by decide +kernel), ?_,
    notOvertaken_of_same (by decide +kernel), notOvertaken_of_same (by decide +kernel),
    notOvertaken_of_same (by decide +kernel), notOvertaken_of_same (by decide +kernel),
    notOvertaken_of_same (by decide +kernel), ?_, notOvertaken_of_same (by decide +kernel),
    notOvertaken_of_same (by decide +kernel), notOvertaken_of_same (by decide +kernel),
    notOvertaken_of_same (by decide +kernel), notOvertaken_of_same (by decide +kernel),
    notOvertaken_of_same (by decide +kernel), trivial⟩
  · -- the vouch is stored before the other call begins
    rintro _ (_ | _) other rest session
    · exact absurd rfl other
    · cases session
      exact blockUser_not_inWindow
  · -- it is suspended when the first call has finished
    rintro _ (_ | _) other rest session
    · cases session
    · exact absurd rfl other

end VolunteerApi
