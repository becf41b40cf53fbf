import VolunteerApi.Effects.TasksEffects
import VolunteerApi.Programs.Sessions

/-!
# Volunteers who take one task at the same time

Calls of `assignVolunteer` on one task, each in its transaction, interleaved
statement by statement.  All of them begin by locking the task row, so they run
one after the other: the first that passes its checks starts the task and its
chat, each later one joins the chat, and a call that is refused leaves nothing.
-/

set_option autoImplicit false

namespace VolunteerApi

open Relational Programs
open TasksService

structure AssignCall where
  dto : AssignTaskDto
  volunteer : User
  now : Time

def AssignCall.program (required : Nat) (taskId : TaskId) (call : AssignCall) :
    Service TaskAssignment :=
  assignVolunteer required taskId call.dto call.volunteer call.now

/-- A task nobody is on: new, or left by everybody who ever took it. -/
structure Untaken (db : Db) (task : Task) : Prop where
  found : db.findTask task.id = some task
  todo : task.status = .todo
  free : ∀ assignment ∈ db.assignments.rows, assignment.taskId = task.id →
    assignment.status = .withdrawn

/-- Exactly one assignment of the volunteer on the task, in status `ASSIGNED`. -/
def Seated (db : Db) (taskId : TaskId) (userId : UserId) : Prop :=
  ∃! assignment, assignment ∈ db.assignments.rows ∧ assignment.taskId = taskId ∧
    assignment.userId = userId ∧ assignment.status = .assigned

/-- What `takers` leave behind who took the task of `db` together. -/
structure Taken (db after : Db) (task : Task) (request : Request) (takers : UserId → Prop)
    (chat : Chat) : Prop where
  inProgress : after.findTask task.id = some (started task chat.id)
  /-- One chat more than before, a new one. -/
  chats : after.chats.rows = db.chats.rows ++ [chat]
  fresh : chat.id = db.chats.next
  about : chat.type = .taskChat ∧ chat.relatedRequestId = some task.requestId
  participants : ∀ userId, userId ∈ chat.participants ↔ userId = request.creatorId ∨ takers userId
  seated : ∀ userId, takers userId → Seated after task.id userId
  others : ∀ assignment ∈ after.assignments.rows, assignment.taskId = task.id →
    assignment ∈ db.assignments.rows ∨ takers assignment.userId

theorem eq_of_seat {db : Db} {left right : TaskAssignment} (leftMember : left ∈ db.assignments.rows)
    (rightMember : right ∈ db.assignments.rows) (sameTask : left.taskId = right.taskId)
    (sameUser : left.userId = right.userId) : left = right :=
  Table.eq_of_uniq leftMember rightMember (by simp [TaskAssignment.slot, sameTask, sameUser])

theorem seated_of_mem {db : Db} {taskId : TaskId} {userId : UserId} {assignment : TaskAssignment}
    (member : assignment ∈ db.assignments.rows) (sameTask : assignment.taskId = taskId)
    (owner : assignment.userId = userId) (assigned : assignment.status = .assigned) :
    Seated db taskId userId := by
  refine ⟨assignment, ⟨member, sameTask, owner, assigned⟩, ?_⟩
  rintro other ⟨otherMember, otherTask, otherOwner, _⟩
  exact eq_of_seat otherMember member (otherTask.trans sameTask.symm)
    (otherOwner.trans owner.symm)

namespace TasksService.Upserted

variable {db : Db} {taskId : TaskId} {dto : AssignTaskDto} {volunteer : User} {now : Time}
  {assignments : Table TaskAssignment.id TaskAssignment.slot}

theorem assigned_mem (upserted : Upserted db taskId dto volunteer now assignments) :
    ∃ assignment ∈ assignments.rows, assignment.taskId = taskId ∧
      assignment.userId = volunteer.id ∧ assignment.status = .assigned := by
  cases upserted with
  | retaken existing found left =>
      obtain ⟨member, sameTask, owner⟩ := Db.findAssignment_some found
      have replaced := Table.replaced_save (reassigned existing dto now) member rfl rfl
      exact ⟨_, replaced.new_mem, sameTask, owner, rfl⟩
  | fresh _ missing inserted =>
      exact ⟨_, ((Table.added_insert inserted).mem _).mpr (Or.inr rfl), rfl, rfl, rfl⟩

theorem kept (upserted : Upserted db taskId dto volunteer now assignments)
    {assignment : TaskAssignment} (member : assignment ∈ db.assignments.rows)
    (other : assignment.userId ≠ volunteer.id) : assignment ∈ assignments.rows := by
  cases upserted with
  | retaken existing found left =>
      obtain ⟨existingMember, _, owner⟩ := Db.findAssignment_some found
      have replaced := Table.replaced_save (reassigned existing dto now) existingMember rfl rfl
      apply replaced.kept member
      rintro rfl
      exact other owner
  | fresh _ missing inserted =>
      exact ((Table.added_insert inserted).mem _).mpr (Or.inl member)

theorem mem_or_own (upserted : Upserted db taskId dto volunteer now assignments)
    (live : db.Takeable taskId) {assignment : TaskAssignment}
    (member : assignment ∈ assignments.rows) :
    assignment ∈ db.assignments.rows ∨
      assignment.userId = volunteer.id ∧ assignment.status = .assigned := by
  cases upserted.origin live member with
  | kept _ _ oldMember => exact Or.inl oldMember
  | retaken _ _ _ old _ _ owner _ => exact Or.inr ⟨owner, rfl⟩
  | fresh _ _ _ _ _ => exact Or.inr ⟨rfl, rfl⟩

end TasksService.Upserted

/-- The first taker starts the task and its chat. -/
theorem taken_first {required : Nat} {db after : Db} {task found : Task} {request : Request}
    {call : AssignCall} (untaken : Untaken db task)
    (assigned : Assigned required db task.id call.dto call.volunteer call.now found request after) :
    db.findRequest task.requestId = some request ∧
      ∃ chat, Taken db after task request (fun userId => userId = call.volunteer.id) chat := by
  have same := assigned.found
  rw [untaken.found] at same
  cases same
  refine ⟨assigned.present, ?_⟩
  obtain ⟨member, _, live⟩ := Db.findTask_some untaken.found
  obtain ⟨_, requestId, _⟩ := Db.findRequest_some assigned.present
  have takeable : db.Takeable task.id := ⟨task, request, untaken.found, assigned.present⟩
  obtain ⟨assignments, tasks, chats, upserted, entered, rfl⟩ := assigned.effect
  cases entered with
  | joins chatId busy hasChat => exact absurd untaken.todo busy
  | unheard busy noChat => exact absurd untaken.todo busy
  | starts todo =>
      have noActive : (db.assignmentsOf task.id).filter TaskAssignment.active = [] := by
        rw [List.filter_eq_nil_iff]
        intro assignment listed
        obtain ⟨stored, sameTask⟩ := Db.mem_assignmentsOf.mp listed
        simp [TaskAssignment.active, isActiveAssignmentStatus,
          untaken.free assignment stored sameTask]
      refine ⟨newChat task request call.volunteer (db.assignmentsOf task.id) db.chats.next, ?_⟩
      constructor
      · have replaced := Table.replaced_save (started task db.chats.next) member rfl rfl
        change Db.findTask _ (started task db.chats.next).id = _
        exact Db.findTask_of_mem replaced.new_mem live
      · exact Table.append_rows _ _ _
      · rfl
      · exact ⟨rfl, by simp [newChat, requestId]⟩
      · intro userId
        simp [newChat, chatParticipants, noActive, List.mem_eraseDups]
      · rintro _ rfl
        obtain ⟨assignment, stored, sameTask, owner, status⟩ := upserted.assigned_mem
        exact seated_of_mem stored sameTask owner status
      · intro assignment stored _
        rcases upserted.mem_or_own takeable stored with old | ⟨owner, _⟩
        · exact Or.inl old
        · exact Or.inr owner

theorem Taken.join {required : Nat} {db before after : Db} {task found : Task}
    {request other : Request} {call : AssignCall} {takers : UserId → Prop} {chat : Chat}
    (taken : Taken db before task request takers chat)
    (assigned : Assigned required before task.id call.dto call.volunteer call.now found other
      after) :
    Taken db after task request (fun userId => takers userId ∨ userId = call.volunteer.id)
      ((joinedPatch call.volunteer.id).run chat) := by
  have same := assigned.found
  rw [taken.inProgress] at same
  cases same
  have takeable : before.Takeable task.id := ⟨_, other, taken.inProgress, assigned.present⟩
  obtain ⟨assignments, tasks, chats, upserted, entered, rfl⟩ := assigned.effect
  cases entered with
  | starts todo => cases todo
  | unheard busy noChat => cases noChat
  | joins chatId busy hasChat =>
      cases hasChat
      constructor
      · exact taken.inProgress
      · have others : ∀ old ∈ db.chats.rows, old.id ≠ chat.id := by
          intro old member
          rw [taken.fresh]
          exact Table.key_ne_next member
        have unchanged : (db.chats.rows.map fun row =>
            if decide (row.id = chat.id) then (joinedPatch call.volunteer.id).run row else row) =
              db.chats.rows := by
          conv_rhs => rw [← List.map_id db.chats.rows]
          apply List.map_congr_left
          intro old member
          simp [others old member]
        simp only [Table.update, taken.chats, List.map_append, unchanged]
        simp
      · exact taken.fresh
      · exact taken.about
      · intro userId
        rw [mem_joined, taken.participants userId, or_assoc]
      · rintro userId (earlier | rfl)
        · obtain ⟨assignment, ⟨stored, sameTask, owner, status⟩, _⟩ := taken.seated userId earlier
          by_cases again : assignment.userId = call.volunteer.id
          · -- whoever is on the task already is refused
            have seat := Db.findAssignment_of_mem stored
            rw [sameTask, again] at seat
            have left := assigned.free assignment seat
            rw [status] at left
            cases left
          · exact seated_of_mem (upserted.kept stored again) sameTask owner status
        · obtain ⟨assignment, stored, sameTask, owner, status⟩ := upserted.assigned_mem
          exact seated_of_mem stored sameTask owner status
      · intro assignment stored sameTask
        rcases upserted.mem_or_own takeable stored with old | ⟨owner, _⟩
        · rcases taken.others assignment old sameTask with original | earlier
          · exact Or.inl original
          · exact Or.inr (Or.inl earlier)
        · exact Or.inr (Or.inr owner)

/-! ## Any interleaving -/

section Interleaved

variable {ι : Type} (required : Nat) (db : Db) (task : Task) (calls : ι → AssignCall)

abbrev AssignSessions (ι : Type) := Sessions ι Db TaskId HttpException TaskAssignment

def Succeeded (c : AssignSessions ι) (i : ι) : Prop :=
  ∃ assignment, c.session i = .done (.ok assignment)

/-- The volunteers whose calls have succeeded. -/
def Takers (c : AssignSessions ι) (userId : UserId) : Prop :=
  ∃ i, Succeeded c i ∧ userId = (calls i).volunteer.id

def transactions (i : ι) : Service TaskAssignment := (calls i).program required task.id

structure TakenInTurn (c : AssignSessions ι) : Prop where
  oneEach : ∀ left ∈ c.store.assignments.rows, ∀ right ∈ c.store.assignments.rows,
    left.taskId = task.id → right.taskId = task.id → left.userId = right.userId → left = right
  untouched : (∀ i, ¬ Succeeded c i) → c.store = db
  taken : (∃ i, Succeeded c i) → ∃ request chat, db.findRequest task.requestId = some request ∧
    Taken db c.store task request (Takers calls c) chat
  /-- A call that has ended without success was refused. -/
  refused : ∀ i, (c.session i).finished = true → ¬ Succeeded c i →
    ∃ error, c.session i = .done (.error error)
  /-- The successful calls alone, one after the other, leave the same database. -/
  effective : ∃ log, Sessions.Serial (transactions required task calls) db log c.store ∧
    ∀ i result, (i, result) ∈ log ↔ c.session i = .done result ∧ result.toBool = true

variable {required db task calls}

theorem transactions_lock_first (i : ι) :
    Sessions.LocksFirst task.id (transactions required task calls i) := ⟨_, _, rfl⟩

/-- The volunteers whose calls succeeded according to the log. -/
def LoggedTakers (calls : ι → AssignCall) (log : List (ι × Except HttpException TaskAssignment))
    (userId : UserId) : Prop :=
  ∃ i assignment, (i, .ok assignment) ∈ log ∧ userId = (calls i).volunteer.id

/-- What a log of calls run one after the other amounts to. -/
inductive Logged (db : Db) (task : Task) (calls : ι → AssignCall)
    (log : List (ι × Except HttpException TaskAssignment)) (after : Db) : Prop
  | untouched (noTaker : ∀ userId, ¬ LoggedTakers calls log userId) (same : after = db)
  | taken (request : Request) (chat : Chat)
      (present : db.findRequest task.requestId = some request)
      (taken : Taken db after task request (LoggedTakers calls log) chat)

variable (calls) in
theorem loggedTakers_ok (i : ι) (assignment : TaskAssignment)
    (log : List (ι × Except HttpException TaskAssignment)) (userId : UserId) :
    LoggedTakers calls ((i, .ok assignment) :: log) userId ↔
      LoggedTakers calls log userId ∨ userId = (calls i).volunteer.id := by
  constructor
  · rintro ⟨j, other, member, owner⟩
    rcases List.mem_cons.mp member with here | earlier
    · cases here
      exact Or.inr owner
    · exact Or.inl ⟨j, other, earlier, owner⟩
  · rintro (⟨j, other, member, owner⟩ | owner)
    · exact ⟨j, other, List.mem_cons_of_mem _ member, owner⟩
    · exact ⟨i, assignment, List.mem_cons_self, owner⟩

variable (calls) in
theorem loggedTakers_error (i : ι) (error : HttpException)
    (log : List (ι × Except HttpException TaskAssignment)) (userId : UserId) :
    LoggedTakers calls ((i, .error error) :: log) userId ↔ LoggedTakers calls log userId := by
  constructor
  · rintro ⟨j, other, member, owner⟩
    rcases List.mem_cons.mp member with here | earlier
    · cases here
    · exact ⟨j, other, earlier, owner⟩
  · rintro ⟨j, other, member, owner⟩
    exact ⟨j, other, List.mem_cons_of_mem _ member, owner⟩

theorem Taken.congr {after : Db} {request : Request} {takers others : UserId → Prop}
    {chat : Chat} (taken : Taken db after task request takers chat)
    (same : ∀ userId, others userId ↔ takers userId) :
    Taken db after task request others chat := by
  have equal : others = takers := funext fun userId => propext (same userId)
  rw [equal]
  exact taken

/-- By induction on the log: the first success starts the chat, the later ones join it. -/
theorem serial_logged (untaken : Untaken db task)
    {log : List (ι × Except HttpException TaskAssignment)} {after : Db}
    (serial : Sessions.Serial (transactions required task calls) db log after) :
    Logged db task calls log after := by
  induction serial with
  | start =>
      refine .untouched ?_ rfl
      rintro userId ⟨i, assignment, member, _⟩
      cases member
  | @next log before earlier i result after unused ran ih =>
      cases result with
      | error error =>
          have same : after = before := Prog.runTx_error ran
          rw [same]
          have takers := loggedTakers_error calls i error log
          cases ih with
          | untouched noTaker unchanged =>
              exact .untouched (fun userId => mt (takers userId).mp (noTaker userId)) unchanged
          | taken request chat present taken =>
              exact .taken request chat present (taken.congr takers)
      | ok assignment =>
          have takers := loggedTakers_ok calls i assignment log
          obtain ⟨found, other, assigned⟩ :=
            assignVolunteer_commits required task.id (calls i).dto (calls i).volunteer
              (calls i).now before assignment after (Prog.runTx_ok_iff.mp ran)
          cases ih with
          | untouched noTaker unchanged =>
              subst unchanged
              obtain ⟨present, chat, taken⟩ := taken_first untaken assigned
              refine .taken other chat present (taken.congr ?_)
              intro userId
              rw [takers userId, or_iff_right (noTaker userId)]
          | taken request chat present taken =>
              exact .taken request _ present ((taken.join assigned).congr takers)

variable (required) in
/-- Whatever the order of the statements, the task is taken in turn: one chat,
one assignment a volunteer, and no trace of a call that was refused. -/
theorem assignVolunteer_concurrent [DecidableEq ι] (untaken : Untaken db task)
    (calls : ι → AssignCall) (schedule : List ι) :
    TakenInTurn required db task calls
      (execute Sessions.step (Sessions.opened (transactions required task calls) db) schedule) := by
  have serializable : ∃ log, Sessions.Serial (transactions required task calls) db log _ ∧ _ :=
    Sessions.serializable transactions_lock_first schedule
  obtain ⟨log, serial, entries⟩ := serializable
  generalize execute Sessions.step (Sessions.opened (transactions required task calls) db)
    schedule = c at serial entries
  have succeeded : ∀ i, Succeeded c i ↔ ∃ assignment, (i, .ok assignment) ∈ log := by
    intro i
    exact exists_congr fun assignment => entries i (.ok assignment)
  have takers : ∀ userId, Takers calls c userId ↔ LoggedTakers calls log userId := by
    intro userId
    simp only [Takers, LoggedTakers, succeeded, exists_and_right]
  constructor
  · intro left leftMember right rightMember leftTask rightTask sameUser
    exact eq_of_seat leftMember rightMember (leftTask.trans rightTask.symm) sameUser
  · intro noSuccess
    have nothing : log.filter (fun entry => entry.2.toBool) = [] := by
      rw [List.filter_eq_nil_iff]
      rintro ⟨i, result⟩ member success
      cases result with
      | error error => cases success
      | ok assignment => exact noSuccess i ⟨assignment, (entries i _).mpr member⟩
    have alone := serial.successful
    rw [nothing] at alone
    cases alone
    rfl
  · rintro ⟨i, assignment, done⟩
    cases serial_logged untaken serial with
    | untouched noTaker unchanged =>
        exact absurd ⟨i, assignment, (entries i _).mp done, rfl⟩ (noTaker (calls i).volunteer.id)
    | taken request chat present taken => exact ⟨request, chat, present, taken.congr takers⟩
  · intro i finished failed
    cases ended : c.session i with
    | auto rest => rw [ended] at finished; cases finished
    | tx rest pending => rw [ended] at finished; cases finished
    | done result =>
        cases result with
        | error error => exact ⟨error, rfl⟩
        | ok assignment => exact absurd ⟨assignment, ended⟩ failed
  · refine ⟨_, serial.successful, ?_⟩
    intro i result
    simp [entries]

end Interleaved

/-- Two volunteers who want the same task. -/
def rivals : Bool → AssignCall
  | false => ⟨⟨none⟩, firstVolunteer, 1⟩
  | true => ⟨⟨none⟩, secondVolunteer, 2⟩

def exampleTask : Task := RequestsService.autoTask 0 author 0

theorem exampleTask_untaken : Untaken (exampleBoard .local) exampleTask where
  found := by decide
  todo := rfl
  free := by
    intro assignment member
    cases member

/-- The second volunteer asks first and waits for nobody; the first one comes
while the lock is held. -/
theorem assignVolunteer_concurrent_rivals :
    TakenInTurn 3 (exampleBoard .local) exampleTask rivals
      (execute Sessions.step
        (Sessions.opened (transactions 3 exampleTask rivals) (exampleBoard .local))
        [true, false, true, false, true, true, true, true, true, true, true, false, false]) :=
  assignVolunteer_concurrent 3 exampleTask_untaken rivals _

end VolunteerApi
