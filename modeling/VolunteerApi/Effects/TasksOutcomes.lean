import VolunteerApi.Model.System
import VolunteerApi.Programs.Guarded

/-!
# What each `TasksService` method leaves behind

One lemma for each method: it throws and leaves the database alone, or its
checks passed and the database changed as stated.  Saving a loaded task writes
back the assignments loaded with it; run alone, that undoes what the method did
to them in between.
-/

set_option autoImplicit false

namespace VolunteerApi

open Relational Programs

/-- No active assignment on the task. -/
def Db.Idle (db : Db) (taskId : TaskId) : Prop :=
  ∀ assignment ∈ db.assignments.rows, assignment.taskId = taskId → assignment.active = false

instance (db : Db) : DecidablePred db.Idle := fun _ => inferInstanceAs (Decidable (∀ _ ∈ _, _))

theorem Db.idle_of_any {db : Db} {taskId : TaskId}
    (noneActive : ¬ (db.assignmentsOf taskId).any TaskAssignment.active = true) :
    db.Idle taskId := by
  simpa [Db.Idle] using noneActive

/-- A stored task as `findOne` loads it with its relations. -/
def Db.loaded (db : Db) (task : Task) : LoadedTask where
  task := task
  request := db.findRequest task.requestId
  assignments := db.assignmentsOf task.id

theorem Db.loadTask_eq_some {db : Db} {id : TaskId} {loaded : LoadedTask} :
    db.loadTask id = some loaded ↔
      ∃ task, db.findTask id = some task ∧ loaded = db.loaded task := by
  rw [Db.loadTask, Option.map_eq_some_iff]
  simp only [Db.loaded, eq_comm]

def Db.withTask (db : Db) (task : Task) : Db := { db with tasks := db.tasks.saveAll [task] }

theorem Db.replaced_withTask {db : Db} {id : TaskId} {old : Task} (new : Task)
    (found : db.findTask id = some old) (same : new.id = old.id) :
    db.tasks.Replaced old new (db.withTask new).tasks :=
  Table.replaced_save new (Db.findTask_some found).1 same same

namespace TasksService

theorem guarded_loadTask_bind {α : Type} {db : Db} {taskId : TaskId} {error : HttpException}
    {f : LoadedTask → Service α} {Post : α → Db → Prop}
    (rest : ∀ task, db.findTask taskId = some task → (f (db.loaded task)).Guarded db Post) :
    ((Prog.query fun s => s.loadTask taskId).bind fun found =>
      (Prog.orThrow found error).bind f : Service α).Guarded db Post := by
  refine Prog.guarded_query_bind (Prog.guarded_orThrow_bind ?_)
  intro loaded hit
  obtain ⟨task, found, rfl⟩ := Db.loadTask_eq_some.mp hit
  exact rest task found

/-! ## Creating, editing and deleting -/

theorem create_guarded (requestId : RequestId) (dto : CreateTaskDto) (creator : User) (db : Db) :
    (create requestId dto creator).Guarded db fun _ after =>
      (∃ request, db.findRequest requestId = some request) ∧
        after = { db with tasks := db.tasks.append (newTask requestId dto creator) } := by
  refine Prog.guarded_query_bind (Prog.guarded_orThrow_bind ?_)
  intro request found
  apply Prog.guarded_throwIf_bind
  intro _
  exact Prog.guarded_of_run _ _ rfl ⟨⟨request, found⟩, rfl⟩

theorem saveTask_run (loaded : LoadedTask) {request : Request}
    (present : loaded.request = some request) (db : Db) :
    (saveTask loaded).run db =
      (.ok loaded.task,
        { db with
          tasks := db.tasks.saveAll [loaded.task]
          assignments := db.assignments.saveAll loaded.assignments }) := by
  simp [saveTask, present]

theorem saveTask_guarded {db : Db} {edited : Task} {request : Option Request} {taskId : TaskId} :
    (saveTask ⟨edited, request, db.assignmentsOf taskId⟩).Guarded db fun _ after =>
      request ≠ none ∧ after = db.withTask edited := by
  apply Prog.guarded_throwIf_bind
  intro present
  have kept : db.assignments.saveAll (db.assignmentsOf taskId) = db.assignments :=
    Table.saveAll_find _ _
  exact Prog.guarded_of_run _ _ rfl ⟨present, by simp [kept, Db.withTask]⟩

theorem update_guarded (id : TaskId) (dto : UpdateTaskDto) (user : User) (db : Db) :
    (update id dto user).Guarded db fun _ after =>
      ∃ task, db.findTask id = some task ∧ db.Idle task.id ∧
        after = db.withTask (UpdateTaskDto.assign dto task) := by
  apply guarded_loadTask_bind
  intro task found
  apply Prog.guarded_orThrow_bind
  intro request _
  apply Prog.guarded_throwIf_bind
  intro _
  apply Prog.guarded_throwIf_bind
  intro idle
  apply saveTask_guarded.mono
  intro _ _ post
  obtain ⟨_, rfl⟩ := post
  exact ⟨task, found, Db.idle_of_any idle, rfl⟩

theorem deleteTask_guarded (taskId : TaskId) (user : User) (now : Time) (db : Db) :
    (deleteTask taskId user now).Guarded db fun _ after =>
      ∃ task, db.findTask taskId = some task ∧ db.Idle task.id ∧
        after = { db with
          tasks := db.tasks.update (fun task => task.id = taskId) (deletedPatch now) } := by
  apply guarded_loadTask_bind
  intro task found
  apply Prog.guarded_orThrow_bind
  intro request _
  apply Prog.guarded_throwIf_bind
  intro _
  apply Prog.guarded_throwIf_bind
  intro idle
  exact Prog.guarded_of_run _ _ rfl ⟨task, found, Db.idle_of_any idle, rfl⟩

/-! ## Review -/

def mayComplete (loaded : LoadedTask) (user : User) : Prop :=
  isCompletingAssignee loaded user = true ∨ user.systemRole = .admin ∨
    user.systemRole = .coordinator

theorem completeTask_run {db : Db} {taskId : TaskId} {user : User} {now : Time} {task : Task}
    (found : db.findTask taskId = some task) (allowed : mayComplete (db.loaded task) user)
    (present : db.findRequest task.requestId ≠ none) :
    (completeTask taskId user now).run db =
      (.ok { task with status := .pendingReview, pendingReviewAt := some now },
        db.withTask { task with status := .pendingReview, pendingReviewAt := some now }) := by
  have loaded := Db.loadTask_eq_some.mpr ⟨task, found, rfl⟩
  have kept : db.assignments.saveAll (db.assignmentsOf task.id) = db.assignments :=
    Table.saveAll_find _ _
  have passed : ¬ (isCompletingAssignee (db.loaded task) user = false ∧
      user.systemRole ≠ .admin ∧ user.systemRole ≠ .coordinator) := by
    rintro ⟨notAssignee, notAdmin, notCoordinator⟩
    rcases allowed with assignee | admin | coordinator
    · rw [notAssignee] at assignee
      cases assignee
    · exact notAdmin admin
    · exact notCoordinator coordinator
  simp only [completeTask, Prog.bind_eq, Prog.run_query_bind, loaded, Prog.run_orThrow_bind,
    Prog.run_throwIf_bind, if_neg passed]
  simp [saveTask, Db.loaded, present, kept, Db.withTask]

theorem completeTask_guarded (taskId : TaskId) (user : User) (now : Time) (db : Db) :
    (completeTask taskId user now).Guarded db fun _ after =>
      ∃ task, db.findTask taskId = some task ∧ mayComplete (db.loaded task) user ∧
        db.findRequest task.requestId ≠ none ∧
        after = db.withTask
          { task with status := .pendingReview, pendingReviewAt := some now } := by
  apply guarded_loadTask_bind
  intro task found
  apply Prog.guarded_throwIf_bind
  intro allowed
  apply saveTask_guarded.mono
  intro _ _ post
  obtain ⟨present, rfl⟩ := post
  refine ⟨task, found, ?_, present, rfl⟩
  unfold mayComplete
  by_cases assignee : isCompletingAssignee (db.loaded task) user = true
  · exact Or.inl assignee
  · simp only [Bool.not_eq_true] at assignee
    simp only [assignee, true_and, not_and_or, not_not] at allowed
    exact Or.inr allowed

/-- The checks of `returnToProgress`. -/
structure Returnable (db : Db) (taskId : TaskId) (user : User) (now : Time) (task : Task) :
    Prop where
  found : db.findTask taskId = some task
  allowed : isReturningAssignee (db.loaded task) user = true ∨ user.systemRole = .admin
  reviewing : task.status = .pendingReview
  inTime : returnExpired task now = false ∨ user.systemRole = .admin
  present : db.findRequest task.requestId ≠ none

theorem returnToProgress_run {db : Db} {taskId : TaskId} {user : User} {now : Time} {task : Task}
    (returnable : Returnable db taskId user now task) :
    (returnToProgress taskId user now).run db =
      (.ok { task with status := .inProgress, pendingReviewAt := none },
        db.withTask { task with status := .inProgress, pendingReviewAt := none }) := by
  have loaded := Db.loadTask_eq_some.mpr ⟨task, returnable.found, rfl⟩
  have kept : db.assignments.saveAll (db.assignmentsOf task.id) = db.assignments :=
    Table.saveAll_find _ _
  have passed : ¬ (isReturningAssignee (db.loaded task) user = false ∧
      user.systemRole ≠ .admin) := by
    rintro ⟨notAssignee, notAdmin⟩
    rcases returnable.allowed with assignee | admin
    · rw [notAssignee] at assignee
      cases assignee
    · exact notAdmin admin
  have early : ¬ (returnExpired (db.loaded task).task now = true ∧ user.systemRole ≠ .admin) := by
    rintro ⟨expired, notAdmin⟩
    rcases returnable.inTime with inTime | admin
    · rw [show returnExpired (db.loaded task).task now = false from inTime] at expired
      cases expired
    · exact notAdmin admin
  simp only [returnToProgress, Prog.bind_eq, Prog.run_query_bind, loaded, Prog.run_orThrow_bind,
    Prog.run_throwIf_bind, if_neg passed, if_neg early]
  simp [saveTask, Db.loaded, returnable.reviewing, returnable.present, kept, Db.withTask]

theorem returnToProgress_checked (taskId : TaskId) (user : User) (now : Time) (db : Db) :
    (returnToProgress taskId user now).Guarded db fun _ after =>
      ∃ task, Returnable db taskId user now task ∧
        after = db.withTask { task with status := .inProgress, pendingReviewAt := none } := by
  apply guarded_loadTask_bind
  intro task found
  apply Prog.guarded_throwIf_bind
  intro allowed
  apply Prog.guarded_throwIf_bind
  intro reviewing
  apply Prog.guarded_throwIf_bind
  intro early
  apply saveTask_guarded.mono
  intro _ _ post
  obtain ⟨present, rfl⟩ := post
  rw [not_and_or, Bool.not_eq_false, not_not] at allowed
  rw [not_and_or, Bool.not_eq_true, not_not] at early
  exact ⟨task, ⟨found, allowed, not_not.mp reviewing, early, present⟩, rfl⟩

theorem returnToProgress_guarded (taskId : TaskId) (user : User) (now : Time) (db : Db) :
    (returnToProgress taskId user now).Guarded db fun _ after =>
      ∃ task, db.findTask taskId = some task ∧ task.status = .pendingReview ∧
        after = db.withTask { task with status := .inProgress, pendingReviewAt := none } := by
  apply (returnToProgress_checked taskId user now db).mono
  intro _ _ post
  obtain ⟨task, returnable, rfl⟩ := post
  exact ⟨task, returnable.found, returnable.reviewing, rfl⟩

def creditedUsers (db : Db) (userIds : List UserId) : Table User.id User.email :=
  if userIds ≠ [] then
    db.users.update (fun user => user.id ∈ userIds) boostedPatch
  else db.users

theorem boostVolunteerScores_run (userIds : List UserId) (db : Db) :
    (boostVolunteerScores userIds).run db =
      (.ok (), { db with users := creditedUsers db userIds }) := by
  unfold boostVolunteerScores creditedUsers
  rw [Prog.run_onlyIf]
  split <;> rfl

/-- Every task of the request is done, and there is one. -/
def AllDone (db : Db) (requestId : RequestId) : Prop :=
  countTasks db requestId > 0 ∧ countTasks db requestId = countDone db requestId

instance (db : Db) (requestId : RequestId) : Decidable (AllDone db requestId) :=
  inferInstanceAs (Decidable (_ ∧ _))

def checkedRequests (db : Db) (requestId : RequestId) : Table Request.id Request.id :=
  if AllDone db requestId then
    db.requests.update (fun request => request.id = requestId) (statusPatch .completed)
  else db.requests

theorem checkRequestCompletion_run (requestId : RequestId) (db : Db) :
    (checkRequestCompletion requestId).run db =
      (.ok (), { db with requests := checkedRequests db requestId }) := by
  simp only [checkRequestCompletion, Prog.bind_eq, Prog.run_query_bind, Prog.run_onlyIf]
  by_cases complete : AllDone db requestId
  · rw [checkedRequests, if_pos complete]
    exact if_pos complete
  · rw [checkedRequests, if_neg complete]
    exact if_neg complete

/-- Saving the assignments loaded with a task undoes an update of them. -/
theorem saveAll_assignmentsOf (db : Db) (taskId : TaskId) (touched : TaskAssignment → Bool)
    (patch : Patch TaskAssignment.id TaskAssignment.slot)
    (inside : ∀ assignment, touched assignment = true → assignment.taskId = taskId) :
    (db.assignments.update touched patch).saveAll (db.assignmentsOf taskId) = db.assignments := by
  apply Table.saveAll_update_find _ touched _ patch
  intro assignment _ hit
  simpa using inside assignment hit

/-- What a successful confirmation leaves: the assignments it completed are
written back as they were loaded. -/
def confirmed (db : Db) (task : Task) : Db :=
  { db with
    users := creditedUsers db ((db.assignmentsOf task.id).map TaskAssignment.userId)
    requests := checkedRequests db task.requestId
    tasks := db.tasks.saveAll [{ task with status := .done }] }

/-- The statements of `confirmTaskCompletion` after its checks. -/
theorem settle_run {db : Db} {task : Task} {request : Request}
    (present : db.findRequest task.requestId = some request) (now : Time) :
    Prog.run (do
      completeAssigned task.id now
      boostVolunteerScores ((db.loaded task).assignments.map TaskAssignment.userId)
      checkRequestCompletion (db.loaded task).task.requestId
      saveTask { db.loaded task with task := { task with status := .done } }) db =
      (.ok { task with status := .done }, confirmed db task) := by
  have undone := saveAll_assignmentsOf db task.id
    (fun assignment => assignment.taskId = task.id ∧ assignment.status = .assigned)
    (completedPatch now) (by simp +contextual)
  rw [Prog.bind_eq, completeAssigned, Prog.run_exec_bind, Prog.bind_eq,
    Prog.run_bind_of_ok (boostVolunteerScores_run _ _), Prog.bind_eq,
    Prog.run_bind_of_ok (checkRequestCompletion_run _ _)]
  refine (saveTask_run { db.loaded task with task := { task with status := .done } }
    present _).trans ?_
  simp only [Db.loaded, undone, confirmed]
  rfl

theorem confirmTaskCompletion_run {db : Db} {taskId : TaskId} {requester : User} {now : Time}
    {task : Task} {request : Request} (found : db.findTask taskId = some task)
    (present : db.findRequest task.requestId = some request)
    (allowed : mayReview request requester = true) (reviewing : task.status = .pendingReview) :
    (confirmTaskCompletion taskId requester now).run db =
      (.ok { task with status := .done }, confirmed db task) := by
  obtain ⟨_, rfl, _⟩ := Db.findTask_some found
  have loaded := Db.loadTask_eq_some.mpr ⟨task, found, rfl⟩
  have requested : (db.loaded task).request = some request := present
  have waiting : (db.loaded task).task.status = .pendingReview := reviewing
  simp only [confirmTaskCompletion, requestOf, Prog.bind_eq, Prog.run_query_bind, loaded,
    requested, Prog.run_orThrow_bind, Prog.run_throwIf_bind, allowed, waiting, reduceCtorEq,
    if_false, ne_eq, not_true_eq_false]
  rw [← requested]
  exact settle_run present now

theorem confirmTaskCompletion_guarded (taskId : TaskId) (requester : User) (now : Time)
    (db : Db) :
    (confirmTaskCompletion taskId requester now).Guarded db fun _ after =>
      ∃ task request, db.findTask taskId = some task ∧
        db.findRequest task.requestId = some request ∧ mayReview request requester = true ∧
        task.status = .pendingReview ∧ after = confirmed db task := by
  apply guarded_loadTask_bind
  intro task found
  apply Prog.guarded_orThrow_bind
  intro request present
  apply Prog.guarded_throwIf_bind
  intro allowed
  apply Prog.guarded_throwIf_bind
  intro reviewing
  obtain ⟨_, rfl, _⟩ := Db.findTask_some found
  exact Prog.guarded_of_run _ _ (settle_run present now)
    ⟨task, request, found, present, by simpa using allowed, not_not.mp reviewing, rfl⟩

theorem rejectTask_guarded (taskId : TaskId) (requester : User) (db : Db) :
    (rejectTask taskId requester).Guarded db fun _ after =>
      ∃ task, db.findTask taskId = some task ∧ task.status = .pendingReview ∧
        after = db.withTask { task with status := .inProgress } := by
  apply guarded_loadTask_bind
  intro task found
  apply Prog.guarded_orThrow_bind
  intro request present
  apply Prog.guarded_throwIf_bind
  intro _
  apply Prog.guarded_throwIf_bind
  intro reviewing
  obtain ⟨_, rfl, _⟩ := Db.findTask_some found
  refine Prog.guarded_of_run { task with status := .inProgress }
    (db.withTask { task with status := .inProgress }) ?_
    ⟨task, found, not_not.mp reviewing, rfl⟩
  have undone := saveAll_assignmentsOf db task.id
    (fun assignment => assignment.taskId = task.id ∧ assignment.status = .completed)
    reopenedPatch (by simp +contextual)
  rw [Prog.bind_eq, reopenCompleted, Prog.run_exec_bind]
  refine (saveTask_run { db.loaded task with task := { task with status := .inProgress } }
    present _).trans ?_
  simp only [Db.loaded, undone, Db.withTask]

theorem updateTaskStatusAdmin_guarded (taskId : TaskId) (status : TaskStatus) (user : User)
    (db : Db) :
    (updateTaskStatusAdmin taskId status user).Guarded db fun _ after =>
      ∃ task, db.findTask taskId = some task ∧ user.systemRole = .admin ∧
        after = db.withTask { task with status := status } := by
  apply Prog.guarded_throwIf_bind
  intro admin
  refine Prog.guarded_query_bind (Prog.guarded_orThrow_bind ?_)
  intro task found
  exact Prog.guarded_of_run _ _ rfl ⟨task, found, not_not.mp admin, rfl⟩

/-! ## Cancelling and renewing -/

theorem cancelTask_guarded (taskId : TaskId) (user : User) (db : Db) :
    (cancelTask taskId user).Guarded db fun _ after =>
      ∃ task, db.findTask taskId = some task ∧
        after = db.withTask { task with status := .cancelled } := by
  apply guarded_loadTask_bind
  intro task found
  apply Prog.guarded_orThrow_bind
  intro request _
  apply Prog.guarded_throwIf_bind
  intro _
  apply saveTask_guarded.mono
  intro _ _ post
  obtain ⟨_, rfl⟩ := post
  exact ⟨task, found, rfl⟩

theorem renewTask_run {db : Db} {taskId : TaskId} {user : User} {task : Task} {request : Request}
    (found : db.findTask taskId = some task)
    (present : db.findRequest task.requestId = some request)
    (allowed : mayCancel request user = true) (cancelled : task.status = .cancelled) :
    (renewTask taskId user).run db =
      (.ok { task with status := .todo }, db.withTask { task with status := .todo }) := by
  have loaded := Db.loadTask_eq_some.mpr ⟨task, found, rfl⟩
  simp only [renewTask, requestOf, Prog.bind_eq, Prog.run_query_bind, loaded, Db.loaded, present,
    Prog.run_orThrow_bind, Prog.run_throwIf_bind, allowed, cancelled, reduceCtorEq, if_false,
    ne_eq, not_true_eq_false]
  rfl

theorem renewTask_guarded (taskId : TaskId) (user : User) (db : Db) :
    (renewTask taskId user).Guarded db fun _ after =>
      ∃ task request, db.findTask taskId = some task ∧
        db.findRequest task.requestId = some request ∧ mayCancel request user = true ∧
        task.status = .cancelled ∧ after = db.withTask { task with status := .todo } := by
  apply guarded_loadTask_bind
  intro task found
  apply Prog.guarded_orThrow_bind
  intro request present
  apply Prog.guarded_throwIf_bind
  intro allowed
  apply Prog.guarded_throwIf_bind
  intro cancelled
  exact Prog.guarded_of_run _ _ rfl
    ⟨task, request, found, present, by simpa using allowed, not_not.mp cancelled, rfl⟩

/-! ## Leaving and moving -/

def markedWithdrawn (db : Db) (assignmentId : AssignmentId) : Db :=
  { db with
    assignments := db.assignments.update (fun assignment => assignment.id = assignmentId)
      withdrawnPatch }

/-- The database after a withdrawal: the task is reset when nobody is left in
status `ASSIGNED`. -/
def withdrawn (db : Db) (taskId : TaskId) (assignmentId : AssignmentId) : Db :=
  if countAssigned (markedWithdrawn db assignmentId) taskId = 0 then
    { markedWithdrawn db assignmentId with
      tasks := db.tasks.update (fun task => task.id = taskId) resetPatch }
  else markedWithdrawn db assignmentId

/-- The statements of `withdrawAssignment` after its checks. -/
theorem leave_run (db : Db) (taskId : TaskId) (assignmentId : AssignmentId) :
    Prog.run (do
      markWithdrawn assignmentId
      let remaining ← Prog.query fun db => countAssigned db taskId
      Prog.onlyIf (remaining = 0) (resetTask taskId)) db =
      (.ok (), withdrawn db taskId assignmentId) := by
  rw [Prog.bind_eq, markWithdrawn, Prog.run_exec_bind, Prog.bind_eq, Prog.run_query_bind,
    Prog.run_onlyIf]
  by_cases alone : countAssigned (markedWithdrawn db assignmentId) taskId = 0
  · rw [withdrawn, if_pos alone]
    exact if_pos alone
  · rw [withdrawn, if_neg alone]
    exact if_neg alone

theorem withdrawAssignment_run {db : Db} {taskId : TaskId} {volunteer : User}
    {assignment : TaskAssignment} (found : db.findAssignment taskId volunteer.id = some assignment)
    (unfinished : assignment.status ≠ .completed) :
    (withdrawAssignment taskId volunteer).run db =
      (.ok (), withdrawn db taskId assignment.id) := by
  simp only [withdrawAssignment, Prog.bind_eq, Prog.run_query_bind, found, Prog.run_orThrow_bind,
    Prog.run_throwIf_bind, if_neg unfinished]
  exact leave_run db taskId assignment.id

theorem withdrawAssignment_guarded (taskId : TaskId) (volunteer : User) (db : Db) :
    (withdrawAssignment taskId volunteer).Guarded db fun _ after =>
      ∃ assignment, db.findAssignment taskId volunteer.id = some assignment ∧
        assignment.status ≠ .completed ∧ after = withdrawn db taskId assignment.id := by
  refine Prog.guarded_query_bind (Prog.guarded_orThrow_bind ?_)
  intro assignment found
  apply Prog.guarded_throwIf_bind
  intro unfinished
  exact Prog.guarded_of_run _ _ (leave_run db taskId assignment.id)
    ⟨assignment, found, unfinished, rfl⟩

theorem updateAssignmentStatus_guarded (taskId : TaskId) (newStatus : String) (volunteer : User)
    (db : Db) :
    (updateAssignmentStatus taskId newStatus volunteer).Guarded db fun _ after =>
      ∃ assignment status, db.findAssignment taskId volunteer.id = some assignment ∧
        assignment.active = true ∧ isActiveAssignmentStatus status = true ∧
        after = { db with
          assignments := db.assignments.saveAll [{ assignment with status := status }] } := by
  apply Prog.guarded_orThrow_bind
  intro status accepted
  refine Prog.guarded_query_bind (Prog.guarded_orThrow_bind ?_)
  intro assignment found
  apply Prog.guarded_throwIf_bind
  intro unfinished
  have allowed : status ∈ allowedStatuses := List.mem_of_find?_eq_some accepted
  refine Prog.guarded_of_run _ _ rfl ⟨assignment, status, found, ?_, ?_, rfl⟩
  · simpa [TaskAssignment.active, isActiveAssignmentStatus] using unfinished
  · simp only [allowedStatuses, List.mem_cons, List.not_mem_nil, or_false] at allowed
    rcases allowed with rfl | rfl | rfl <;> decide

/-! ## Taking a task -/

/-- What step 2 of `assignVolunteer` asks for. -/
def Admitted (required : Nat) (db : Db) (request : Request) (volunteer : User) : Prop :=
  if request.requiredClearance = .frontline then
    volunteer.clearanceLevel = .frontline ∨ required ≤ db.receivedVouches volunteer.id
  else request.requiredClearance.rank ≤ volunteer.clearanceLevel.rank

theorem checkAdmission_guarded (required : Nat) (request : Request) (volunteer : User) (db : Db) :
    (checkAdmission required request volunteer).Guarded db fun _ after =>
      after = db ∧ Admitted required db request volunteer := by
  unfold checkAdmission Admitted
  by_cases frontline : request.requiredClearance = .frontline
  · rw [if_pos frontline, if_pos frontline]
    by_cases cleared : volunteer.clearanceLevel = .frontline
    · rw [if_pos cleared]
      exact Prog.guarded_ret ⟨rfl, Or.inl cleared⟩
    · rw [if_neg cleared]
      refine Prog.guarded_query_bind (Prog.guarded_throwIf ?_)
      intro enough
      exact ⟨rfl, Or.inr (Nat.le_of_not_lt enough)⟩
  · rw [if_neg frontline, if_neg frontline]
    apply Prog.guarded_throwIf
    intro enough
    exact ⟨rfl, Nat.le_of_not_lt enough⟩

/-- The volunteer has no assignment on the task, or a withdrawn one. -/
def SeatFree (db : Db) (taskId : TaskId) (userId : UserId) : Prop :=
  ∀ existing, db.findAssignment taskId userId = some existing → existing.status = .withdrawn

/-- The assignments after step 5: the withdrawn row taken up again, or a new row. -/
inductive Upserted (db : Db) (taskId : TaskId) (dto : AssignTaskDto) (volunteer : User)
    (now : Time) : Table TaskAssignment.id TaskAssignment.slot → Prop
  | retaken (existing : TaskAssignment)
      (found : db.findAssignment taskId volunteer.id = some existing)
      (left : existing.status = .withdrawn) :
      Upserted db taskId dto volunteer now (db.assignments.saveAll [reassigned existing dto now])
  | fresh (assignments : Table TaskAssignment.id TaskAssignment.slot)
      (missing : db.findAssignment taskId volunteer.id = none)
      (inserted : db.assignments.insert (newAssignment taskId dto volunteer now) =
        some assignments) :
      Upserted db taskId dto volunteer now assignments

theorem Upserted.free {db : Db} {taskId : TaskId} {dto : AssignTaskDto} {volunteer : User}
    {now : Time} {assignments : Table TaskAssignment.id TaskAssignment.slot}
    (upserted : Upserted db taskId dto volunteer now assignments) :
    SeatFree db taskId volunteer.id := by
  intro row rowFound
  cases upserted with
  | retaken existing found left =>
      rw [found] at rowFound
      cases rowFound
      exact left
  | fresh _ missing inserted =>
      rw [missing] at rowFound
      cases rowFound

theorem upsertAssignment_guarded (taskId : TaskId) (dto : AssignTaskDto) (volunteer : User)
    (now : Time) (db : Db) :
    (upsertAssignment taskId dto volunteer now).Guarded db fun _ after =>
      ∃ assignments, Upserted db taskId dto volunteer now assignments ∧
        after = { db with assignments := assignments } := by
  apply Prog.guarded_query_bind
  cases found : db.findAssignment taskId volunteer.id with
  | some existing =>
      apply Prog.guarded_throwIf_bind
      intro left
      exact Prog.guarded_of_run _ _ rfl
        ⟨_, Upserted.retaken existing found (not_not.mp left), rfl⟩
  | none =>
      cases inserted : db.assignments.insert (newAssignment taskId dto volunteer now) with
      | some assignments =>
          refine Prog.guarded_of_run (newAssignment taskId dto volunteer now db.assignments.next)
            { db with assignments := assignments } ?_
            ⟨_, Upserted.fresh assignments found inserted, rfl⟩
          simp [insertAssignment, inserted]
      | none =>
          unfold Prog.Guarded
          simp [insertAssignment, inserted]

/-- The tasks and chats after the volunteer entered: the first taker starts the
task with a new chat, a later one joins the chat there is. -/
inductive Entered (db : Db) (task : Task) (request : Request) (volunteer : User) :
    Table Task.id Task.id → Table Chat.id Chat.id → Prop
  | starts (todo : task.status = .todo) :
      Entered db task request volunteer
        (db.tasks.saveAll [{ task with status := .inProgress, chatId := some db.chats.next }])
        (db.chats.append (newChat task request volunteer (db.assignmentsOf task.id)))
  | joins (chatId : ChatId) (busy : task.status ≠ .todo) (chat : task.chatId = some chatId) :
      Entered db task request volunteer db.tasks
        (db.chats.update (fun chat => chat.id = chatId) (joinedPatch volunteer.id))
  | unheard (busy : task.status ≠ .todo) (chat : task.chatId = none) :
      Entered db task request volunteer db.tasks db.chats

/-- The column holds the name of the chat that the first taker of the task starts. -/
def Nameable (task : Task) : Prop :=
  task.status = .todo → (chatName task).length ≤ chatNameLength

theorem enterTask_run {db : Db} {task : Task} (nameable : Nameable task) (request : Request)
    (volunteer : User) (assignments : Table TaskAssignment.id TaskAssignment.slot) :
    ∃ tasks chats, Entered db task request volunteer tasks chats ∧
      (enterTask task request volunteer (db.assignmentsOf task.id)).run
          { db with assignments := assignments } =
        (.ok (), { db with assignments := assignments, tasks := tasks, chats := chats }) := by
  unfold enterTask
  by_cases todo : task.status = .todo
  · rw [if_pos todo]
    refine ⟨_, _, Entered.starts todo, ?_⟩
    rw [createChatWithAssignments, Prog.bind_eq, Prog.bind_eq, Prog.bind_assoc,
      Prog.run_throwIf_bind, if_neg (Nat.not_lt.mpr (nameable todo))]
    rfl
  · rw [if_neg todo]
    cases chat : task.chatId with
    | some chatId => exact ⟨_, _, Entered.joins chatId todo chat, rfl⟩
    | none => exact ⟨_, _, Entered.unheard todo chat, rfl⟩

theorem enterTask_nameable (task : Task) (request : Request) (volunteer : User)
    (assignments : List TaskAssignment) (db : Db) :
    (enterTask task request volunteer assignments).Commits db fun _ _ => Nameable task := by
  unfold enterTask
  by_cases todo : task.status = .todo
  · rw [if_pos todo, createChatWithAssignments, Prog.bind_eq, Prog.bind_eq, Prog.bind_assoc]
    apply Prog.commits_throwIf_bind
    intro short _ _ _ _
    exact Nat.not_lt.mp short
  · intro _ _ _ again
    exact absurd again todo

/-- The requests after the last statement of `assignVolunteer`. -/
def startedRequests (db : Db) (request : Request) : Table Request.id Request.id :=
  if request.status = .open then
    db.requests.update (fun stored => stored.id = request.id) (statusPatch .inProgress)
  else db.requests

/-- The statements of `assignVolunteer` after the assignment is stored. -/
theorem enter_run {db : Db} {task : Task} (nameable : Nameable task) (request : Request)
    (volunteer : User) (assignments : Table TaskAssignment.id TaskAssignment.slot)
    (assignment : TaskAssignment) :
    ∃ tasks chats, Entered db task request volunteer tasks chats ∧
      Prog.run (do
        enterTask task request volunteer (db.assignmentsOf task.id)
        Prog.onlyIf (request.status = .open) (setRequestStatus request.id .inProgress)
        return assignment) { db with assignments := assignments } =
      (.ok assignment,
        { db with
          assignments := assignments
          tasks := tasks
          chats := chats
          requests := startedRequests db request }) := by
  obtain ⟨tasks, chats, entered, ran⟩ := enterTask_run nameable request volunteer assignments
  refine ⟨tasks, chats, entered, ?_⟩
  rw [Prog.bind_eq, Prog.run_bind_of_ok ran, Prog.bind_eq, Prog.run_onlyIf_bind]
  unfold startedRequests
  split <;> rfl

/-- The checks of `assignVolunteer`, and what its statements ask for. -/
structure Assignable (required : Nat) (db : Db) (taskId : TaskId) (volunteer : User)
    (task : Task) (request : Request) : Prop where
  found : db.findTask taskId = some task
  present : db.findRequest task.requestId = some request
  role : volunteer.systemRole ≠ .requester
  admitted : Admitted required db request volunteer
  unfinished : ¬ (task.status = .done ∨ task.status = .cancelled)
  free : SeatFree db taskId volunteer.id
  nameable : Nameable task

/-- What a call of `assignVolunteer` that passed its checks leaves. -/
structure Assigned (required : Nat) (db : Db) (taskId : TaskId) (dto : AssignTaskDto)
    (volunteer : User) (now : Time) (task : Task) (request : Request) (after : Db) : Prop extends
    Assignable required db taskId volunteer task request where
  effect : ∃ assignments tasks chats, Upserted db taskId dto volunteer now assignments ∧
    Entered db task request volunteer tasks chats ∧
    after = { db with
      assignments := assignments
      tasks := tasks
      chats := chats
      requests := startedRequests db request }

/-- The statement that may fail last comes after the assignment has been written. -/
theorem assignVolunteer_commits (required : Nat) (taskId : TaskId) (dto : AssignTaskDto)
    (volunteer : User) (now : Time) (db : Db) :
    (assignVolunteer required taskId dto volunteer now).Commits db fun _ after =>
      ∃ task request, Assigned required db taskId dto volunteer now task request after := by
  refine Prog.commits_queryLocking_bind (Prog.commits_orThrow_bind ?_)
  intro task found
  refine Prog.commits_query_bind (Prog.commits_query_bind (Prog.commits_orThrow_bind ?_))
  intro request present
  apply Prog.commits_throwIf_bind
  intro role
  refine (checkAdmission_guarded required request volunteer db).commits.bind ?_
  rintro _ _ ⟨rfl, admitted⟩
  apply Prog.commits_throwIf_bind
  intro unfinished
  refine (upsertAssignment_guarded taskId dto volunteer now _).commits.bind ?_
  rintro assignment _ ⟨assignments, upserted, rfl⟩ value final finished
  obtain ⟨_, sameId, _⟩ := Db.findTask_some found
  have nameable : Nameable task :=
    (enterTask_nameable task request volunteer _ _).bind
      (fun _ _ nameable _ _ _ => nameable) value final finished
  obtain ⟨tasks, chats, entered, ran⟩ :=
    enter_run nameable request volunteer assignments assignment
  rw [sameId] at ran
  cases finished.symm.trans ran
  exact ⟨task, request, ⟨found, present, role, admitted, unfinished, upserted.free, nameable⟩,
    assignments, tasks, chats, upserted, entered, rfl⟩

end TasksService

end VolunteerApi
