import VolunteerApi.Programs.Rely
import VolunteerApi.Properties.ConcurrentTaking

/-!
# Volunteers who leave a task while others take it

`withdrawAssignment` runs outside of a transaction: it marks the assignment,
counts the assigned ones that are left, and resets the task when there are none.
A volunteer whose `assignVolunteer` commits between the count and the reset is
overlooked and stays on a `TODO` task without a chat.  As long as no such commit
happens, nobody does.
-/

set_option autoImplicit false

namespace VolunteerApi

open Relational Programs
open TasksService

/-- Nobody on the task is on the way or on site. -/
def ActiveAssigned (db : Db) (taskId : TaskId) : Prop :=
  ∀ assignment ∈ db.assignments.rows, assignment.taskId = taskId → assignment.active = true →
    assignment.status = .assigned

/-- If the task is `TODO` and has no chat, nobody is active on it. -/
def TodoUnmanned (db : Db) (taskId : TaskId) : Prop :=
  ∀ task ∈ db.tasks.rows, task.id = taskId → task.status = .todo → task.chatId = none →
    db.Idle taskId

instance (db : Db) (taskId : TaskId) : Decidable (ActiveAssigned db taskId) :=
  inferInstanceAs (Decidable (∀ _ ∈ _, _))

instance (db : Db) (taskId : TaskId) : Decidable (TodoUnmanned db taskId) :=
  inferInstanceAs (Decidable (∀ _ ∈ _, _))

/-! ## What an assigning transaction does -/

/-- What others may do while a transaction holds the task row: the row stays as
it is, and nobody sets out for the task. -/
def Elsewhere (taskId : TaskId) (db later : Db) : Prop :=
  later.tasks = db.tasks ∧ (ActiveAssigned db taskId → ActiveAssigned later taskId)

theorem Elsewhere.refl (taskId : TaskId) (db : Db) : Elsewhere taskId db db := ⟨rfl, id⟩

theorem Elsewhere.trans {taskId : TaskId} {first second third : Db}
    (before : Elsewhere taskId first second) (after : Elsewhere taskId second third) :
    Elsewhere taskId first third :=
  ⟨after.1.trans before.1, after.2 ∘ before.2⟩

/-- A write that leaves the tasks alone and assigns at most. -/
def Calm (taskId : TaskId) (effect : Db → Db) : Prop := ∀ db, Elsewhere taskId db (effect db)

theorem calm_id (taskId : TaskId) : Calm taskId id := Elsewhere.refl taskId

theorem Calm.comp {taskId : TaskId} {second first : Db → Db} (after : Calm taskId second)
    (before : Calm taskId first) : Calm taskId (second ∘ first) :=
  fun db => (before db).trans (after (first db))

theorem calm_of_kept {taskId : TaskId} {effect : Db → Db}
    (tasks : ∀ db, (effect db).tasks = db.tasks)
    (assignments : ∀ db, (effect db).assignments = db.assignments) : Calm taskId effect := by
  intro db
  refine ⟨tasks db, ?_⟩
  intro orderly assignment member
  exact orderly assignment (assignments db ▸ member)

theorem calm_of_assigned {taskId : TaskId} {effect : Db → Db}
    (tasks : ∀ db, (effect db).tasks = db.tasks)
    (assignments : ∀ db, ∀ assignment ∈ (effect db).assignments.rows,
      assignment ∈ db.assignments.rows ∨ assignment.status = .assigned) : Calm taskId effect := by
  intro db
  refine ⟨tasks db, ?_⟩
  intro orderly assignment member same active
  rcases assignments db assignment member with old | assigned
  · exact orderly assignment old same active
  · exact assigned

theorem insertAssignment_calm (taskId : TaskId) (dto : AssignTaskDto) (volunteer : User)
    (now : Time) : (insertAssignment taskId dto volunteer now).Writes (Calm taskId) := by
  refine Prog.writes_execOr (calm_of_assigned ?_ ?_)
  · intro db
    cases db.assignments.insert (newAssignment taskId dto volunteer now) <;> rfl
  · intro db assignment member
    cases inserted : db.assignments.insert (newAssignment taskId dto volunteer now) with
    | none =>
        rw [inserted] at member
        exact Or.inl member
    | some assignments =>
        rw [inserted] at member
        rcases ((Table.added_insert inserted).mem assignment).mp member with old | rfl
        · exact Or.inl old
        · exact Or.inr rfl

theorem upsertAssignment_calm (taskId : TaskId) (dto : AssignTaskDto) (volunteer : User)
    (now : Time) : (upsertAssignment taskId dto volunteer now).Writes (Calm taskId) := by
  apply Prog.Writes.bind (Prog.writes_query (calm_id taskId))
  intro existing
  cases existing with
  | none => exact insertAssignment_calm taskId dto volunteer now
  | some existing =>
      refine Prog.Writes.bind Prog.writes_throwIf fun _ => ?_
      have retaken : Calm taskId fun db =>
          { db with assignments := db.assignments.saveAll [reassigned existing dto now] } := by
        refine calm_of_assigned (fun _ => rfl) ?_
        intro db assignment member
        rcases Table.mem_saveAll member with old | new
        · exact Or.inl old
        · rw [List.mem_singleton.mp new]
          exact Or.inr rfl
      exact Prog.Writes.bind (Prog.writes_exec retaken) fun _ => trivial

theorem checkAdmission_calm (required : Nat) (taskId : TaskId) (request : Request)
    (volunteer : User) : (checkAdmission required request volunteer).Writes (Calm taskId) := by
  unfold checkAdmission
  split
  · split
    · trivial
    · exact Prog.Writes.bind (Prog.writes_query (calm_id taskId)) fun _ => Prog.writes_throwIf
  · exact Prog.writes_throwIf

theorem calm_ensures {α : Type} {taskId : TaskId} {p : Service α}
    (writes : p.Writes (Calm taskId)) {pending : Db → Db} (calm : Calm taskId pending) (db : Db) :
    p.Ensures (Elsewhere taskId)
      (fun _ written later => Calm taskId written ∧ Elsewhere taskId db later) pending db :=
  writes.ensures (fun after before => after.comp before) (Elsewhere.refl taskId) Elsewhere.trans
    calm

/-- The task is taken: it is not `TODO`, and nobody is on the way or on site. -/
structure Settled (db : Db) (taskId : TaskId) : Prop where
  assigned : ActiveAssigned db taskId
  busy : ∀ task ∈ db.tasks.rows, task.id = taskId → task.status ≠ .todo

/-- Writes that settle the task once they are committed over `tasks`. -/
def Settling (taskId : TaskId) (tasks : Table Task.id Task.id) (pending : Db → Db) : Prop :=
  ∀ db, db.tasks = tasks → ActiveAssigned db taskId → Settled (pending db) taskId

theorem Settling.calm {taskId : TaskId} {tasks : Table Task.id Task.id} {effect pending : Db → Db}
    (calm : Calm taskId effect) (settling : Settling taskId tasks pending) :
    Settling taskId tasks (effect ∘ pending) := by
  intro db same orderly
  obtain ⟨assigned, busy⟩ := settling db same orderly
  obtain ⟨kept, quiet⟩ := calm (pending db)
  refine ⟨quiet assigned, ?_⟩
  intro task member
  exact busy task (kept ▸ member)

theorem settling_started {db : Db} {task : Task} (found : db.findTask task.id = some task)
    (chatId : ChatId) {pending : Db → Db} (calm : Calm task.id pending) :
    Settling task.id db.tasks
      ((fun now => { now with tasks := now.tasks.saveAll [started task chatId] }) ∘ pending) := by
  intro now same orderly
  obtain ⟨kept, quiet⟩ := calm now
  refine ⟨quiet orderly, ?_⟩
  have stored : task ∈ (pending now).tasks.rows := by
    rw [kept, same]
    exact (Db.findTask_some found).1
  have replaced := Table.replaced_save (started task chatId) stored rfl rfl
  intro row member sameId
  rw [replaced.eq_new member sameId]
  simp [started]

theorem settling_busy {db : Db} {task : Task} (found : db.findTask task.id = some task)
    (busy : task.status ≠ .todo) {pending : Db → Db} (calm : Calm task.id pending) :
    Settling task.id db.tasks pending := by
  intro now same orderly
  obtain ⟨kept, quiet⟩ := calm now
  refine ⟨quiet orderly, ?_⟩
  intro row member sameId
  rw [kept, same] at member
  rw [Table.eq_of_key member (Db.findTask_some found).1 sameId]
  exact busy

/-- The first taker starts the task, a later one finds it started. -/
theorem enterTask_settling {db now : Db} {task : Task} (found : db.findTask task.id = some task)
    (request : Request) (volunteer : User) (assignments : List TaskAssignment)
    {pending : Db → Db} (calm : Calm task.id pending) (along : Elsewhere task.id db now) :
    (enterTask task request volunteer assignments).Ensures (Elsewhere task.id)
      (fun _ written later => Settling task.id db.tasks written ∧ Elsewhere task.id db later)
      pending now := by
  unfold enterTask
  by_cases todo : task.status = .todo
  · rw [if_pos todo, createChatWithAssignments, Prog.bind_eq, Prog.bind_eq, Prog.bind_assoc]
    apply Prog.ensures_throwIf_bind
    intro first alongFirst second alongSecond
    have chatCalm : Calm task.id fun stored =>
        { stored with chats := stored.chats.append (newChat task request volunteer assignments) } :=
      calm_of_kept (fun _ => rfl) fun _ => rfl
    exact ⟨settling_started found _ (chatCalm.comp calm),
      (along.trans alongFirst).trans alongSecond⟩
  · rw [if_neg todo]
    cases task.chatId with
    | none => exact ⟨settling_busy found todo calm, along⟩
    | some chatId =>
        intro later alongLater
        have joinCalm : Calm task.id fun stored =>
            { stored with
              chats := stored.chats.update (fun chat => chat.id = chatId)
                (joinedPatch volunteer.id) } :=
          calm_of_kept (fun _ => rfl) fun _ => rfl
        exact ⟨settling_busy found todo (joinCalm.comp calm), along.trans alongLater⟩

/-- What an assigning transaction brings about when it commits. -/
def SettlesTask (taskId : TaskId) (pending : Db → Db) (db : Db) : Prop :=
  ∀ later, Elsewhere taskId db later → Settled (pending later) taskId

theorem assignLocked_ensures (required : Nat) {taskId : TaskId} (dto : AssignTaskDto)
    (volunteer : User) (now : Time) {db : Db} (orderly : ActiveAssigned db taskId) :
    (assignLocked required taskId dto volunteer now (db.findTask taskId)).Ensures
      (Elsewhere taskId) (fun _ => SettlesTask taskId) id db := by
  apply Prog.ensures_orThrow_bind
  intro task found
  obtain ⟨_, rfl, _⟩ := Db.findTask_some found
  apply Prog.ensures_query_bind
  intro first alongFirst
  apply Prog.ensures_query_bind
  intro second alongSecond
  apply Prog.ensures_orThrow_bind
  intro request _
  apply Prog.ensures_throwIf_bind
  refine (calm_ensures (checkAdmission_calm required task.id request volunteer)
    (calm_id task.id) second).bind ?_
  rintro _ admitted third ⟨admittedCalm, alongThird⟩
  apply Prog.ensures_throwIf_bind
  refine (calm_ensures (upsertAssignment_calm task.id dto volunteer now)
    admittedCalm third).bind ?_
  rintro assignment stored fourth ⟨storedCalm, alongFourth⟩
  have along : Elsewhere task.id db fourth :=
    ((alongFirst.trans alongSecond).trans alongThird).trans alongFourth
  refine (enterTask_settling found request volunteer _ storedCalm along).bind ?_
  rintro _ entered fifth ⟨settling, alongFifth⟩
  have requestCalm : (setRequestStatus request.id .inProgress).Writes (Calm task.id) :=
    Prog.writes_exec (calm_of_kept (fun _ => rfl) fun _ => rfl)
  refine ((Prog.writes_onlyIf requestCalm).ensures (fun after before => before.calm after)
    (Elsewhere.refl task.id) Elsewhere.trans settling).bind ?_
  rintro _ written sixth ⟨settled, alongSixth⟩ later alongLater
  have whole := (alongFifth.trans alongSixth).trans alongLater
  exact settled later whole.1 (whole.2 orderly)

/-! ## What a withdrawal does, statement by statement -/

def countAndReset (taskId : TaskId) : Service Unit := do
  let remaining ← Prog.query fun db => countAssigned db taskId
  Prog.onlyIf (remaining = 0) (resetTask taskId)

def markAndCount (taskId : TaskId) (assignmentId : AssignmentId) : Service Unit := do
  markWithdrawn assignmentId
  countAndReset taskId

/-- Where a withdrawal stands.  Before it resets the task, nobody is active on it. -/
inductive Leaving (taskId : TaskId) (db : Db) : Session Db TaskId HttpException Unit → Prop
  | asking (volunteer : User) : Leaving taskId db (.auto (withdrawAssignment taskId volunteer))
  | refused (error : HttpException) : Leaving taskId db (.auto (.fail error))
  | marking (assignmentId : AssignmentId) :
      Leaving taskId db (.auto (markAndCount taskId assignmentId))
  | counting : Leaving taskId db (.auto (countAndReset taskId))
  | resetting (idle : db.Idle taskId) : Leaving taskId db (.auto (resetTask taskId))
  | returning : Leaving taskId db (.auto (.ret ()))
  | gone (result : Except HttpException Unit) : Leaving taskId db (.done result)

/-- What each statement of a withdrawal keeps. -/
structure Mild (taskId : TaskId) (db after : Db) : Prop where
  assigned : ActiveAssigned db taskId → ActiveAssigned after taskId
  idle : db.Idle taskId → after.Idle taskId
  unmanned : TodoUnmanned db taskId → TodoUnmanned after taskId

theorem Mild.refl (taskId : TaskId) (db : Db) : Mild taskId db db := ⟨id, id, id⟩

theorem active_of_marked {db : Db} {assignmentId : AssignmentId} {assignment : TaskAssignment}
    (member : assignment ∈ (markedWithdrawn db assignmentId).assignments.rows)
    (active : assignment.active = true) : assignment ∈ db.assignments.rows := by
  obtain ⟨old, oldMember, rfl⟩ := (Table.mem_update _ _ _ _).mp member
  by_cases hit : decide (old.id = assignmentId) = true
  · rw [if_pos hit] at active
    cases active
  · rw [if_neg hit]
    exact oldMember

theorem mild_marked (taskId : TaskId) (db : Db) (assignmentId : AssignmentId) :
    Mild taskId db (markedWithdrawn db assignmentId) := by
  have idle : db.Idle taskId → (markedWithdrawn db assignmentId).Idle taskId := by
    intro idle assignment member same
    by_contra notIdle
    have active : assignment.active = true := by simpa using notIdle
    rw [idle assignment (active_of_marked member active) same] at active
    cases active
  refine ⟨?_, idle, ?_⟩
  · intro orderly assignment member same active
    exact orderly assignment (active_of_marked member active) same active
  · intro unmanned task member same todo noChat
    exact idle (unmanned task member same todo noChat)

theorem mild_reset {taskId : TaskId} {db : Db} (idle : db.Idle taskId) :
    Mild taskId db
      { db with tasks := db.tasks.update (fun task => task.id = taskId) resetPatch } :=
  ⟨id, id, fun _ _ _ _ _ _ => idle⟩

theorem idle_of_count {taskId : TaskId} {db : Db} (orderly : ActiveAssigned db taskId)
    (noneLeft : countAssigned db taskId = 0) : db.Idle taskId := by
  intro assignment member same
  have missed := Table.count_eq_zero.mp noneLeft assignment member
  by_contra notIdle
  have active : assignment.active = true := by simpa using notIdle
  rw [decide_eq_false_iff_not] at missed
  exact missed ⟨same, orderly assignment member same active⟩

theorem Leaving.statement {taskId : TaskId} {db : Db}
    {session : Session Db TaskId HttpException Unit} (leaving : Leaving taskId db session)
    (orderly : ActiveAssigned db taskId) {lock : Option TaskId} {effect : Db → Db}
    {next : Db → Service Unit} (here : session = .auto (.stmt lock effect next)) :
    Leaving taskId (effect db) (.auto (next db)) ∧ Mild taskId db (effect db) ∧
      (lock = some taskId ∨ (effect db).tasks = db.tasks) := by
  cases leaving with
  | refused error => cases here
  | returning => cases here
  | gone result => cases here
  | asking volunteer =>
      cases here
      refine ⟨?_, Mild.refl taskId db, Or.inr rfl⟩
      change Leaving taskId db (.auto (Prog.bind
        (Prog.orThrow (db.findAssignment taskId volunteer.id) _) fun assignment =>
          Prog.bind (Prog.throwIf (assignment.status = .completed) _) fun _ =>
            markAndCount taskId assignment.id))
      cases db.findAssignment taskId volunteer.id with
      | none => exact .refused _
      | some assignment =>
          by_cases finished : assignment.status = .completed
          · simp only [Prog.orThrow, Prog.throwIf, Prog.bind, if_pos finished]
            exact .refused _
          · simp only [Prog.orThrow, Prog.throwIf, Prog.bind, if_neg finished]
            exact .marking assignment.id
  | marking assignmentId =>
      cases here
      exact ⟨.counting, mild_marked taskId db assignmentId, Or.inr rfl⟩
  | counting =>
      cases here
      refine ⟨?_, Mild.refl taskId db, Or.inr rfl⟩
      change Leaving taskId db
        (.auto (Prog.onlyIf (countAssigned db taskId = 0) (resetTask taskId)))
      by_cases noneLeft : countAssigned db taskId = 0
      · rw [Prog.onlyIf, if_pos noneLeft]
        exact .resetting (idle_of_count orderly noneLeft)
      · rw [Prog.onlyIf, if_neg noneLeft]
        exact .returning
  | resetting idle =>
      cases here
      exact ⟨.returning, mild_reset idle, Or.inl rfl⟩

/-! ## Any interleaving -/

inductive MixedCall where
  | withdraw (volunteer : User)
  | assign (call : AssignCall)

/-- Calls on one task; no volunteer both leaves and takes it. -/
structure MixedCalls (ι : Type) where
  call : ι → MixedCall
  apart : ∀ i j leaver taker, call i = .withdraw leaver → call j = .assign taker →
    leaver.id ≠ taker.volunteer.id

def AssignCall.transaction (required : Nat) (taskId : TaskId) (call : AssignCall) : Service Unit :=
  (call.program required taskId).bind fun _ => .ret ()

def MixedCall.session (required : Nat) (taskId : TaskId) :
    MixedCall → Session Db TaskId HttpException Unit
  | .withdraw volunteer => .auto (withdrawAssignment taskId volunteer)
  | .assign call => .tx (call.transaction required taskId) id

section Mixed

variable {ι : Type}

abbrev MixedSessions (ι : Type) := Sessions ι Db TaskId HttpException Unit

def MixedCalls.opened (calls : MixedCalls ι) (required : Nat) (db : Db) (taskId : TaskId) :
    MixedSessions ι where
  store := db
  session i := (calls.call i).session required taskId
  holder _ := none

/-- The withdrawal has counted none left and will reset the task. -/
def AboutToReset (taskId : TaskId) (c : MixedSessions ι) (i : ι) : Prop :=
  c.session i = .auto (resetTask taskId)

def AboutToCommit (c : MixedSessions ι) (i : ι) : Prop :=
  ∃ value pending, c.session i = .tx (.ret value) pending

/-- No commit overtakes a reset. -/
def Undisturbed (taskId : TaskId) (c : MixedSessions ι) (i : ι) : Prop :=
  AboutToCommit c i → ∀ j, ¬ AboutToReset taskId c j

theorem undisturbed_of_auto {taskId : TaskId} {c : MixedSessions ι} {i : ι} {rest : Service Unit}
    (here : c.session i = .auto rest) : Undisturbed taskId c i := by
  rintro ⟨value, pending, committing⟩
  rw [here] at committing
  cases committing

inductive Standing (required : Nat) (taskId : TaskId) (c : MixedSessions ι) (i : ι) :
    MixedCall → Prop
  | leaving (volunteer : User) (stage : Leaving taskId c.store (c.session i))
      (outside : c.holder taskId ≠ some i) : Standing required taskId c i (.withdraw volunteer)
  | waiting (call : AssignCall) (here : c.session i = .tx (call.transaction required taskId) id)
      (outside : c.holder taskId ≠ some i) : Standing required taskId c i (.assign call)
  | running (call : AssignCall) (rest : Service Unit) (pending : Db → Db)
      (here : c.session i = .tx rest pending) (inside : c.holder taskId = some i)
      (ensures : rest.Ensures (Elsewhere taskId) (fun _ => SettlesTask taskId) pending c.store) :
      Standing required taskId c i (.assign call)
  | finished (call : AssignCall) (result : Except HttpException Unit)
      (here : c.session i = .done result) (outside : c.holder taskId ≠ some i) :
      Standing required taskId c i (.assign call)

structure Coherent (required : Nat) (taskId : TaskId) (calls : MixedCalls ι)
    (c : MixedSessions ι) : Prop where
  assigned : ActiveAssigned c.store taskId
  unmanned : TodoUnmanned c.store taskId
  standing : ∀ i, Standing required taskId c i (calls.call i)

theorem Leaving.mono {taskId : TaskId} {db after : Db}
    {session : Session Db TaskId HttpException Unit} (stage : Leaving taskId db session)
    (kept : session = .auto (resetTask taskId) → db.Idle taskId → after.Idle taskId) :
    Leaving taskId after session := by
  cases stage with
  | asking volunteer => exact .asking volunteer
  | refused error => exact .refused error
  | marking assignmentId => exact .marking assignmentId
  | counting => exact .counting
  | resetting idle => exact .resetting (kept rfl idle)
  | returning => exact .returning
  | gone result => exact .gone result

theorem Standing.away {required : Nat} {taskId : TaskId} {c later : MixedSessions ι} {j : ι}
    {call : MixedCall} (standing : Standing required taskId c j call)
    (same : later.session j = c.session j)
    (holder : later.holder taskId = some j ↔ c.holder taskId = some j)
    (idle : AboutToReset taskId c j → c.store.Idle taskId → later.store.Idle taskId)
    (elsewhere : c.holder taskId = some j → Elsewhere taskId c.store later.store) :
    Standing required taskId later j call := by
  cases standing with
  | leaving volunteer stage outside =>
      refine .leaving volunteer ?_ (mt holder.mp outside)
      rw [same]
      exact stage.mono idle
  | waiting call here outside => exact .waiting call (same.trans here) (mt holder.mp outside)
  | running call rest pending here inside ensures =>
      refine .running call rest pending (same.trans here) (holder.mpr inside) ?_
      refine Prog.Ensures.stable ?_ ?_ ensures (elsewhere inside)
      · intro _ _ _
        exact Elsewhere.trans
      · intro _ _ _ _ settles along final further
        exact settles final (along.trans further)
  | finished call result here outside =>
      exact .finished call result (same.trans here) (mt holder.mp outside)

variable {required : Nat} {taskId : TaskId} {calls : MixedCalls ι} {c : MixedSessions ι} {i : ι}

theorem Standing.of_auto {call : MixedCall} (standing : Standing required taskId c i call)
    {rest : Service Unit} (here : c.session i = .auto rest) :
    (∃ volunteer, call = .withdraw volunteer) ∧ Leaving taskId c.store (.auto rest) ∧
      c.holder taskId ≠ some i := by
  cases standing with
  | leaving volunteer stage outside => exact ⟨⟨volunteer, rfl⟩, here ▸ stage, outside⟩
  | waiting call begun outside => rw [here] at begun; cases begun
  | running call _ _ begun inside ensures => rw [here] at begun; cases begun
  | finished call result ended outside => rw [here] at ended; cases ended

theorem opened_coherent (required : Nat) {db : Db} (orderly : ActiveAssigned db taskId)
    (unmanned : TodoUnmanned db taskId) (calls : MixedCalls ι) :
    Coherent required taskId calls (calls.opened required db taskId) := by
  refine ⟨orderly, unmanned, ?_⟩
  intro i
  have outside : (calls.opened required db taskId).holder taskId ≠ some i := by
    simp [MixedCalls.opened]
  cases kind : calls.call i with
  | withdraw volunteer =>
      refine .leaving volunteer ?_ outside
      simp only [MixedCalls.opened, kind, MixedCall.session]
      exact .asking volunteer
  | assign call =>
      refine .waiting call ?_ outside
      simp only [MixedCalls.opened, kind, MixedCall.session]

theorem Standing.of_tx {call : MixedCall} (standing : Standing required taskId c i call)
    {rest : Service Unit} {pending : Db → Db} (here : c.session i = .tx rest pending) :
    ∃ taker, call = .assign taker ∧
      (rest = taker.transaction required taskId ∧ pending = id ∨
        c.holder taskId = some i ∧
          rest.Ensures (Elsewhere taskId) (fun _ => SettlesTask taskId) pending c.store) := by
  cases standing with
  | leaving volunteer stage outside =>
      rw [here] at stage
      cases stage
  | waiting call begun outside =>
      rw [here] at begun
      cases begun
      exact ⟨call, rfl, Or.inl ⟨rfl, rfl⟩⟩
  | running call _ _ begun inside ensures =>
      rw [here] at begun
      cases begun
      exact ⟨call, rfl, Or.inr ⟨inside, ensures⟩⟩
  | finished call result ended outside =>
      rw [here] at ended
      cases ended

theorem transaction_begins (required : Nat) (taskId : TaskId) (call : AssignCall) :
    call.transaction required taskId = .stmt (some taskId) id fun db =>
      (assignLocked required taskId call.dto call.volunteer call.now (db.findTask taskId)).bind
        fun _ => .ret () := rfl

variable [DecidableEq ι]

theorem Coherent.execute (coherent : Coherent required taskId calls c) {lock : Option TaskId}
    {effect : Db → Db} {next : Db → Service Unit}
    (here : c.session i = .auto (.stmt lock effect next)) (free : ¬ c.Blocked i lock) :
    Coherent required taskId calls
      { c with
        store := effect c.store
        session := Function.update c.session i (.auto (next c.store)) } := by
  obtain ⟨assigned, unmanned, standing⟩ := coherent
  obtain ⟨⟨volunteer, kind⟩, stage, outside⟩ := (standing i).of_auto here
  obtain ⟨stageNext, mild, row⟩ := stage.statement assigned rfl
  refine ⟨mild.assigned assigned, mild.unmanned unmanned, ?_⟩
  intro j
  by_cases same : j = i
  · subst same
    rw [kind]
    refine .leaving volunteer ?_ outside
    simpa using stageNext
  · refine (standing j).away (by simp [same]) Iff.rfl (fun _ => mild.idle) ?_
    intro held
    refine ⟨?_, mild.assigned⟩
    rcases row with locking | unchanged
    · -- the reset of the task waits for the transaction
      subst locking
      exact absurd (Sessions.free_lock free held) same
    · exact unchanged

theorem Coherent.leave (coherent : Coherent required taskId calls c) {rest : Service Unit}
    (here : c.session i = .auto rest) (result : Except HttpException Unit) :
    Coherent required taskId calls
      { c with session := Function.update c.session i (.done result) } := by
  obtain ⟨assigned, unmanned, standing⟩ := coherent
  obtain ⟨⟨volunteer, kind⟩, _, outside⟩ := (standing i).of_auto here
  refine ⟨assigned, unmanned, ?_⟩
  intro j
  by_cases same : j = i
  · subst same
    rw [kind]
    refine .leaving volunteer ?_ outside
    simpa using Leaving.gone result
  · exact (standing j).away (by simp [same]) Iff.rfl (fun _ idle => idle)
      fun _ => Elsewhere.refl taskId c.store

theorem Coherent.advance (coherent : Coherent required taskId calls c) {lock : Option TaskId}
    {effect : Db → Db} {next : Db → Service Unit} {pending : Db → Db}
    (here : c.session i = .tx (.stmt lock effect next) pending) (free : ¬ c.Blocked i lock) :
    Coherent required taskId calls
      { c with
        session := Function.update c.session i (.tx (next (pending c.store)) (effect ∘ pending))
        holder := c.acquired i lock } := by
  obtain ⟨assigned, unmanned, standing⟩ := coherent
  obtain ⟨call, kind, stage⟩ := (standing i).of_tx here
  have ensures : (next (pending c.store)).Ensures (Elsewhere taskId)
      (fun _ => SettlesTask taskId) (effect ∘ pending) c.store := by
    rcases stage with ⟨begins, rfl⟩ | ⟨_, ensures⟩
    · rw [transaction_begins] at begins
      cases begins
      refine (assignLocked_ensures required call.dto call.volunteer call.now assigned).bind ?_
      intro _ _ _ settles
      exact settles
    · exact ensures c.store (Elsewhere.refl taskId c.store)
  have inside : c.acquired i lock taskId = some i := by
    rcases stage with ⟨begins, _⟩ | ⟨held, _⟩
    · rw [transaction_begins] at begins
      cases begins
      exact Sessions.acquired_self c i taskId
    · exact Sessions.acquired_of_held lock held
  have alone : ∀ j, j ≠ i → c.holder taskId ≠ some j := by
    intro j other held
    rcases stage with ⟨begins, _⟩ | ⟨mine, _⟩
    · rw [transaction_begins] at begins
      cases begins
      exact other (Sessions.free_lock free held)
    · rw [mine] at held
      cases held
      exact other rfl
  refine ⟨assigned, unmanned, ?_⟩
  intro j
  by_cases same : j = i
  · subst same
    rw [kind]
    exact .running call _ _ (by simp) inside ensures
  · refine (standing j).away (by simp [same]) ?_ (fun _ idle => idle)
      fun _ => Elsewhere.refl taskId c.store
    change c.acquired i lock taskId = some j ↔ c.holder taskId = some j
    rw [inside]
    refine iff_of_false ?_ (alone j same)
    simpa using Ne.symm same

theorem Coherent.finish (coherent : Coherent required taskId calls c) {rest : Service Unit}
    {pending : Db → Db} (here : c.session i = .tx rest pending)
    (inside : c.holder taskId = some i) (result : Except HttpException Unit) {after : Db}
    (assigned : ActiveAssigned after taskId) (unmanned : TodoUnmanned after taskId)
    (idle : ∀ j, AboutToReset taskId c j → c.store.Idle taskId → after.Idle taskId) :
    Coherent required taskId calls
      { store := after
        session := Function.update c.session i (.done result)
        holder := c.released i } := by
  obtain ⟨call, kind, _⟩ := (coherent.standing i).of_tx here
  refine ⟨assigned, unmanned, ?_⟩
  intro j
  by_cases same : j = i
  · subst same
    rw [kind]
    exact .finished call result (by simp) (Sessions.released_ne c j taskId)
  · have elsewhere : c.holder taskId ≠ some j := by
      rw [inside]
      simpa using Ne.symm same
    refine (coherent.standing j).away (by simp [same]) ?_ (idle j) fun held => absurd held elsewhere
    exact iff_of_false (mt Sessions.holder_of_released elsewhere) elsewhere

theorem Coherent.step (coherent : Coherent required taskId calls c) (i : ι)
    (undisturbed : Undisturbed taskId c i) : Coherent required taskId calls (c.step i) := by
  have moves := c.step_moves i
  generalize c.step i = later at moves
  cases moves with
  | stays => exact coherent
  | returns value here => exact coherent.leave here (.ok value)
  | throws error here => exact coherent.leave here (.error error)
  | executes lock effect next here free => exact coherent.execute here free
  | stages lock effect next pending here free => exact coherent.advance here free
  | commits value pending here =>
      have noReset := undisturbed ⟨value, pending, here⟩
      obtain ⟨call, _, ⟨begins, _⟩ | ⟨inside, settles⟩⟩ := (coherent.standing i).of_tx here
      · rw [transaction_begins] at begins
        cases begins
      · have settled := settles c.store (Elsewhere.refl taskId c.store)
        refine coherent.finish here inside (.ok value) settled.assigned ?_ ?_
        · intro task member same todo
          exact absurd todo (settled.busy task member same)
        · intro j resetting
          exact absurd resetting (noReset j)
  | aborts error pending here =>
      obtain ⟨call, _, ⟨begins, _⟩ | ⟨inside, _⟩⟩ := (coherent.standing i).of_tx here
      · rw [transaction_begins] at begins
        cases begins
      · exact coherent.finish here inside (.error error) coherent.assigned coherent.unmanned
          fun _ _ idle => idle

/-- As long as no assigning transaction commits while a withdrawal is about to
reset the task, nobody is left on a `TODO` task without a chat. -/
theorem withdrawAssignment_concurrent (required : Nat) {db : Db}
    (orderly : ActiveAssigned db taskId) (unmanned : TodoUnmanned db taskId)
    (calls : MixedCalls ι) (schedule : List ι)
    (undisturbed : Throughout Sessions.step (Undisturbed taskId)
      (calls.opened required db taskId) schedule) :
    Always Sessions.step (fun c => TodoUnmanned c.store taskId)
      (calls.opened required db taskId) schedule := by
  have coherent : Always Sessions.step (Coherent required taskId calls) _ schedule :=
    always_of_preserved (fun c i inside allowed => inside.step i allowed)
      (opened_coherent required orderly unmanned calls) undisturbed
  exact coherent.mono fun c inside => inside.unmanned

end Mixed

/-- The small board after the first volunteer has taken the task. -/
def takenBoard : Db :=
  TasksOp.step 3 (exampleBoard .local) (.assignVolunteer 0 ⟨none⟩ firstVolunteer 1)

/-- The first volunteer leaves the task while the second one takes it. -/
def relay : MixedCalls Bool where
  call
    | false => .withdraw firstVolunteer
    | true => .assign ⟨⟨none⟩, secondVolunteer, 2⟩
  apart := by
    intro i j leaver taker leaves takes
    cases i with
    | true => cases leaves
    | false =>
        cases j with
        | false => cases takes
        | true =>
            cases leaves
            cases takes
            decide

/-- The taker's transaction between the leaver's count and its reset. -/
def overtaken : List Bool :=
  [false, false, false, true, true, true, true, true, true, true, false, false]

theorem withdrawAssignment_concurrent_fails :
    ActiveAssigned takenBoard 0 ∧ TodoUnmanned takenBoard 0 ∧
      (∀ i, ((execute Sessions.step (relay.opened 3 takenBoard 0) overtaken).session i).finished =
        true) ∧
      ¬ TodoUnmanned (execute Sessions.step (relay.opened 3 takenBoard 0) overtaken).store 0 := by
  refine ⟨?_, ?_, ?_, ?_⟩
  · decide +kernel
  · decide +kernel
  · decide +kernel
  · decide +kernel

theorem countAndReset_ne_resetTask (taskId : TaskId) : countAndReset taskId ≠ resetTask taskId := by
  intro same
  cases same

theorem undisturbed_of_counting {c : MixedSessions Bool} {rest : Service Unit} {pending : Db → Db}
    (counting : c.session false = .auto (countAndReset 0))
    (taking : c.session true = .tx rest pending) : Undisturbed 0 c true := by
  intro _ j resetting
  cases j with
  | false =>
      exact countAndReset_ne_resetTask 0 (Session.auto.inj (counting.symm.trans resetting))
  | true => cases taking.symm.trans resetting

/-- The taker's transaction between the leaver's mark and its count. -/
def takenBeforeCount : List Bool :=
  [false, false, true, true, true, true, true, true, true, false, false]

theorem withdrawAssignment_concurrent_beforeCount :
    Always Sessions.step (fun c => TodoUnmanned c.store 0) (relay.opened 3 takenBoard 0)
      takenBeforeCount := by
  apply withdrawAssignment_concurrent 3 (by decide +kernel) (by decide +kernel) relay _
  exact ⟨undisturbed_of_auto rfl, undisturbed_of_auto rfl, undisturbed_of_counting rfl rfl,
    undisturbed_of_counting rfl rfl, undisturbed_of_counting rfl rfl,
    undisturbed_of_counting rfl rfl, undisturbed_of_counting rfl rfl,
    undisturbed_of_counting rfl rfl, undisturbed_of_counting rfl rfl, undisturbed_of_auto rfl,
    undisturbed_of_auto rfl, trivial⟩

end VolunteerApi
