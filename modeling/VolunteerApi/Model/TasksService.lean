import VolunteerApi.Model.Entities
import VolunteerApi.Programs.Prog

/-!
# `TasksService`

The methods of `modules/tasks/tasks.service.ts` that write, one program each,
statement by statement.  Reads that only build a response are left out, and so
are notifications and WebSocket messages, which no later statement reads.

Two facts about the ORM shape the programs.  `findOne` with `relations` holds
the loaded rows in memory, a soft-deleted `request` as `null`.  `save` writes
the held task back, and with it the held `assignments`, since `Task.assignments`
is declared with `cascade: true`: columns of an assignment that changed in the
database after the load are overwritten by the values in memory.
-/

set_option autoImplicit false

namespace VolunteerApi

open Relational Programs

abbrev Service (α : Type) := Prog Db TaskId HttpException α

/-- A task as `findOne` returns it with `relations: ['request', 'assignments']`. -/
structure LoadedTask where
  task : Task
  request : Option Request
  assignments : List TaskAssignment

def Db.loadTask (db : Db) (id : TaskId) : Option LoadedTask :=
  (db.findTask id).map fun task =>
    { task := task
      request := db.findRequest task.requestId
      assignments := db.assignmentsOf task.id }

structure CreateTaskDto where
  title : String
  neededPeopleCount : Option Nat
  deriving DecidableEq, Repr

structure UpdateTaskDto where
  title : Option String
  neededPeopleCount : Option Nat
  deriving DecidableEq, Repr

structure AssignTaskDto where
  fulfilledRole : Option String
  deriving DecidableEq, Repr

structure DelegateTaskDto where
  organizationId : OrgId
  message : Option String
  deriving DecidableEq, Repr

namespace TasksService

/-! ## The columns the `UPDATE` statements set -/

/-- `softDelete` -/
def deletedPatch (now : Time) : Patch Task.id Task.id where
  run task := { task with deletedAt := some now }

/-- `{ status: TODO, chatId: null }` -/
def resetPatch : Patch Task.id Task.id where
  run task := { task with status := .todo, chatId := none }

/-- `{ status: WITHDRAWN }` -/
def withdrawnPatch : Patch TaskAssignment.id TaskAssignment.slot where
  run assignment := { assignment with status := .withdrawn }

/-- `{ status: COMPLETED, completedAt: new Date() }` -/
def completedPatch (now : Time) : Patch TaskAssignment.id TaskAssignment.slot where
  run assignment := { assignment with status := .completed, completedAt := some now }

/-- `{ status: ASSIGNED, completedAt: undefined }`: an `undefined` column is left alone. -/
def reopenedPatch : Patch TaskAssignment.id TaskAssignment.slot where
  run assignment := { assignment with status := .assigned }

/-- A row more in `chat_participants`, `ON CONFLICT DO NOTHING`. -/
def joinedPatch (userId : UserId) : Patch Chat.id Chat.id where
  run chat :=
    { chat with
      participants :=
        if userId ∈ chat.participants then chat.participants else chat.participants ++ [userId] }

def statusPatch (status : RequestStatus) : Patch Request.id Request.id where
  run request := { request with status := status }

def managedPatch (organizationId : OrgId) : Patch Request.id Request.id where
  run request := { request with managingOrganizationId := some organizationId }

/-- `LEAST(trust_score + 5, 100)`, in hundredths. -/
def boostedScore (score : Nat) : Nat := min (score + 500) 10000

def boostedPatch : Patch User.id User.email where
  run user := { user with trustScore := boostedScore user.trustScore }

/-- `dto.message || null` -/
def DelegateTaskDto.note (dto : DelegateTaskDto) : Option String := dto.message.filter (· ≠ "")

def redelegatedPatch (dto : DelegateTaskDto) (coordinator : User) (now : Time) :
    Patch TaskDelegation.id TaskDelegation.slot where
  run delegation :=
    { delegation with
      delegatedByUserId := some coordinator.id
      delegatedAt := now
      isAccepted := none
      message := DelegateTaskDto.note dto }

/-! ## Saving a task -/

/-- `taskRepository.save(task)` for a task loaded without `assignments`. -/
def saveTaskRow (task : Task) : Service Unit :=
  Prog.execLocking task.id fun db => { db with tasks := db.tasks.saveAll [task] }

/-- `taskRepository.save(task)` for a task loaded with `request` and
`assignments`.  A `null` request is saved as `request_id = NULL`, which the
column refuses. -/
def saveTask (loaded : LoadedTask) : Service Task := do
  Prog.throwIf (loaded.request = none)
    (.queryFailed "null value in column request_id violates not-null constraint")
  Prog.execLocking loaded.task.id fun db =>
    { db with
      tasks := db.tasks.saveAll [loaded.task]
      assignments := db.assignments.saveAll loaded.assignments }
  return loaded.task

/-- `task.request`, read where the code takes a property of it. -/
def requestOf (loaded : LoadedTask) : Service Request :=
  Prog.orThrow loaded.request .typeError

/-! ## Creating, editing and deleting -/

def originOf (creator : User) : TaskOrigin :=
  if creator.systemRole = .admin then .admin
  else if creator.systemRole = .coordinator then .coordinator
  else .requester

/-- `taskRepository.create`, with the defaults of the columns. -/
def newTask (requestId : RequestId) (dto : CreateTaskDto) (creator : User) (id : TaskId) :
    Task where
  id := id
  requestId := requestId
  createdByUserId := some creator.id
  origin := originOf creator
  isAutoGenerated := false
  title := dto.title
  status := .todo
  neededPeopleCount := dto.neededPeopleCount.getD 1
  chatId := none
  pendingReviewAt := none
  deletedAt := none

def create (requestId : RequestId) (dto : CreateTaskDto) (creator : User) : Service Task := do
  let found ← Prog.query fun db => db.findRequest requestId
  let request ← Prog.orThrow found (.notFound "Заявку не знайдено")
  Prog.throwIf
    (request.creatorId ≠ creator.id ∧ creator.systemRole ≠ .admin ∧
      creator.systemRole ≠ .coordinator)
    (.forbidden "Лише координатор може декомпозувати заявку на підзадачі")
  Prog.execReturning
    (fun db => { db with tasks := db.tasks.append (newTask requestId dto creator) })
    (fun db => newTask requestId dto creator db.tasks.next)

/-- The author of the task, the owner of the request, an admin or a coordinator. -/
def mayEdit (task : Task) (request : Request) (user : User) : Bool :=
  task.createdByUserId = some user.id ∨ request.creatorId = user.id ∨
    user.systemRole = .admin ∨ user.systemRole = .coordinator

/-- `Object.assign(task, dto)` -/
def UpdateTaskDto.assign (dto : UpdateTaskDto) (task : Task) : Task :=
  { task with
    title := dto.title.getD task.title
    neededPeopleCount := dto.neededPeopleCount.getD task.neededPeopleCount }

def update (id : TaskId) (dto : UpdateTaskDto) (user : User) : Service Task := do
  let found ← Prog.query fun db => db.loadTask id
  let loaded ← Prog.orThrow found (.notFound "Підзадачу не знайдено")
  let request ← requestOf loaded
  Prog.throwIf (mayEdit loaded.task request user = false)
    (.forbidden "Немає прав для редагування цієї підзадачі")
  Prog.throwIf (loaded.assignments.any TaskAssignment.active = true)
    (.forbidden "Не можна редагувати підзадачу, яку вже взяли в роботу волонтери.")
  saveTask { loaded with task := UpdateTaskDto.assign dto loaded.task }

def deleteTask (taskId : TaskId) (user : User) (now : Time) : Service Unit := do
  let found ← Prog.query fun db => db.loadTask taskId
  let loaded ← Prog.orThrow found (.notFound "Підзадачу не знайдено")
  let request ← requestOf loaded
  Prog.throwIf (mayEdit loaded.task request user = false)
    (.forbidden "Немає прав для видалення цієї підзадачі")
  Prog.throwIf (loaded.assignments.any TaskAssignment.active = true)
    (.forbidden "Підзадачу з активними виконавцями не можна видалити. Скасуйте її.")
  Prog.execLocking taskId fun db =>
    { db with tasks := db.tasks.update (fun task => task.id = taskId) (deletedPatch now) }

/-! ## Taking a task -/

def checkClearanceAccess (required : ClearanceLevel) (user : User) : Service Unit :=
  Prog.throwIf (user.clearanceLevel.rank < required.rank)
    (.forbidden ("Потрібен рівень допуску: " ++ required.value))

/-- Step 2 of `assignVolunteer`.  The vouches are counted whether they are
suspended or not. -/
def checkAdmission (required : Nat) (request : Request) (volunteer : User) : Service Unit :=
  if request.requiredClearance = .frontline then
    if volunteer.clearanceLevel = .frontline then return ()
    else do
      let vouchCount ← Prog.query fun db =>
        db.vouches.count fun vouch => vouch.voucheeId = volunteer.id
      Prog.throwIf (vouchCount < required)
        (.forbidden ("Для цього завдання потрібно " ++ toString required ++
          " поручителі. У вас: " ++ toString vouchCount ++ "."))
  else checkClearanceAccess request.requiredClearance volunteer

/-- A withdrawn assignment taken up again. -/
def reassigned (existing : TaskAssignment) (dto : AssignTaskDto) (now : Time) : TaskAssignment :=
  { existing with
    status := .assigned
    fulfilledRole := dto.fulfilledRole.or existing.fulfilledRole
    assignedAt := now
    completedAt := none }

def newAssignment (taskId : TaskId) (dto : AssignTaskDto) (volunteer : User) (now : Time)
    (id : AssignmentId) : TaskAssignment where
  id := id
  taskId := taskId
  userId := volunteer.id
  fulfilledRole := dto.fulfilledRole
  status := .assigned
  assignedAt := now
  completedAt := none

def insertAssignment (taskId : TaskId) (dto : AssignTaskDto) (volunteer : User) (now : Time) :
    Service TaskAssignment :=
  Prog.execOr (.queryFailed "duplicate key value violates unique constraint") fun db =>
    (db.assignments.insert (newAssignment taskId dto volunteer now)).map fun assignments =>
      ({ db with assignments := assignments },
        newAssignment taskId dto volunteer now db.assignments.next)

/-- Step 5 of `assignVolunteer`: `UPDATE` of the withdrawn row, else `INSERT`. -/
def upsertAssignment (taskId : TaskId) (dto : AssignTaskDto) (volunteer : User) (now : Time) :
    Service TaskAssignment := do
  let existing ← Prog.query fun db => db.findAssignment taskId volunteer.id
  match existing with
  | some existing =>
      Prog.throwIf (existing.status ≠ .withdrawn)
        (.conflict "Ви вже призначені на цю підзадачу")
      Prog.exec fun db =>
        { db with assignments := db.assignments.saveAll [reassigned existing dto now] }
      return reassigned existing dto now
  | none => insertAssignment taskId dto volunteer now

/-- The set of the creator, the active assignees and the volunteer, in order of insertion. -/
def chatParticipants (request : Request) (volunteer : User) (assignments : List TaskAssignment) :
    List UserId :=
  ([request.creatorId] ++ (assignments.filter TaskAssignment.active).map TaskAssignment.userId ++
    [volunteer.id]).eraseDups

def chatName (task : Task) : String := "Задача: " ++ task.title

def newChat (task : Task) (request : Request) (volunteer : User)
    (assignments : List TaskAssignment) (id : ChatId) : Chat where
  id := id
  type := .taskChat
  relatedRequestId := some request.id
  name := chatName task
  participants := chatParticipants request volunteer assignments

def createChatWithAssignments (task : Task) (request : Request) (volunteer : User)
    (assignments : List TaskAssignment) : Service Chat := do
  Prog.throwIf (chatNameLength < (chatName task).length)
    (.queryFailed "value too long for type character varying(255)")
  Prog.execReturning
    (fun db => { db with chats := db.chats.append (newChat task request volunteer assignments) })
    (fun db => newChat task request volunteer assignments db.chats.next)

/-- `INSERT INTO chat_participants ... ON CONFLICT DO NOTHING` -/
def addParticipant (chatId : ChatId) (userId : UserId) : Service Unit :=
  Prog.exec fun db =>
    { db with chats := db.chats.update (fun chat => chat.id = chatId) (joinedPatch userId) }

/-- The status and chat part of `assignVolunteer`: the first taker starts the
task and its chat, a later one joins the chat. -/
def enterTask (task : Task) (request : Request) (volunteer : User)
    (assignments : List TaskAssignment) : Service Unit :=
  if task.status = .todo then do
    let chat ← createChatWithAssignments task request volunteer assignments
    saveTaskRow { task with status := .inProgress, chatId := some chat.id }
  else
    match task.chatId with
    | some chatId => addParticipant chatId volunteer.id
    | none => return ()

def setRequestStatus (requestId : RequestId) (status : RequestStatus) : Service Unit :=
  Prog.exec fun db =>
    { db with
      requests := db.requests.update (fun request => request.id = requestId)
        (statusPatch status) }

/-- What `assignVolunteer` does once it holds the lock on the task row.
`required` is `FRONTLINE_VOUCHES_REQUIRED`.  The count of filled places
(`isNowFull`) is computed there and never used. -/
def assignLocked (required : Nat) (taskId : TaskId) (dto : AssignTaskDto) (volunteer : User)
    (now : Time) (found : Option Task) : Service TaskAssignment := do
  let task ← Prog.orThrow found (.notFound "Підзадачу не знайдено")
  let assignments ← Prog.query fun db => db.assignmentsOf taskId
  let foundRequest ← Prog.query fun db => db.findRequest task.requestId
  let request ← Prog.orThrow foundRequest (.notFound "Батьківську заявку не знайдено")
  Prog.throwIf (volunteer.systemRole = .requester)
    (.forbidden ("Заявники (Requester) не можуть брати задачі в роботу. " ++
      "Будь ласка, зверніться до адміністратора для підвищення ролі до Волонтера."))
  checkAdmission required request volunteer
  Prog.throwIf (task.status = .done ∨ task.status = .cancelled)
    (.badRequest "Задачу вже завершено або скасовано")
  let assignment ← upsertAssignment taskId dto volunteer now
  enterTask task request volunteer assignments
  Prog.onlyIf (request.status = .open) (setRequestStatus request.id .inProgress)
  return assignment

/-- The body of the transaction `assignVolunteer` runs in. -/
def assignVolunteer (required : Nat) (taskId : TaskId) (dto : AssignTaskDto) (volunteer : User)
    (now : Time) : Service TaskAssignment := do
  let found ← Prog.queryLocking taskId fun db => db.findTask taskId
  assignLocked required taskId dto volunteer now found

/-! ## Leaving a task -/

def markWithdrawn (assignmentId : AssignmentId) : Service Unit :=
  Prog.exec fun db =>
    { db with
      assignments := db.assignments.update (fun assignment => assignment.id = assignmentId)
        withdrawnPatch }

/-- `taskRepository.update(taskId, { status: TODO, chatId: null })` -/
def resetTask (taskId : TaskId) : Service Unit :=
  Prog.execLocking taskId fun db =>
    { db with tasks := db.tasks.update (fun task => task.id = taskId) resetPatch }

def countAssigned (db : Db) (taskId : TaskId) : Nat :=
  db.assignments.count fun assignment =>
    assignment.taskId = taskId ∧ assignment.status = .assigned

def withdrawAssignment (taskId : TaskId) (volunteer : User) : Service Unit := do
  let found ← Prog.query fun db => db.findAssignment taskId volunteer.id
  let assignment ← Prog.orThrow found (.notFound "Призначення не знайдено")
  Prog.throwIf (assignment.status = .completed)
    (.badRequest "Не можна відмовитися від завершеного призначення")
  markWithdrawn assignment.id
  let remaining ← Prog.query fun db => countAssigned db taskId
  Prog.onlyIf (remaining = 0) (resetTask taskId)

/-- The statuses `updateAssignmentStatus` accepts. -/
def allowedStatuses : List AssignmentStatus := [.enRoute, .onSite, .assigned]

def updateAssignmentStatus (taskId : TaskId) (newStatus : String) (volunteer : User) :
    Service TaskAssignment := do
  let status ← Prog.orThrow (allowedStatuses.find? fun status => status.value = newStatus)
    (.badRequest "Дозволені статуси: en_route, on_site, assigned")
  let found ← Prog.query fun db => db.findAssignment taskId volunteer.id
  let assignment ← Prog.orThrow found (.notFound "Призначення не знайдено")
  Prog.throwIf (assignment.status = .withdrawn ∨ assignment.status = .completed)
    (.badRequest "Неможливо змінити статус завершеного або скасованого призначення")
  Prog.exec fun db =>
    { db with assignments := db.assignments.saveAll [{ assignment with status := status }] }
  return { assignment with status := status }

/-! ## Review -/

/-- Who may complete: an assignee in status `ASSIGNED` or `ON_SITE`. -/
def isCompletingAssignee (loaded : LoadedTask) (user : User) : Bool :=
  loaded.assignments.any fun assignment =>
    assignment.userId = user.id ∧
      (assignment.status = .assigned ∨ assignment.status = .onSite)

def completeTask (taskId : TaskId) (user : User) (now : Time) : Service Task := do
  let found ← Prog.query fun db => db.loadTask taskId
  let loaded ← Prog.orThrow found (.notFound "Підзадачу не знайдено")
  Prog.throwIf
    (isCompletingAssignee loaded user = false ∧ user.systemRole ≠ .admin ∧
      user.systemRole ≠ .coordinator)
    (.forbidden "Лише виконавець може завершити цю задачу")
  saveTask
    { loaded with
      task := { loaded.task with status := .pendingReview, pendingReviewAt := some now } }

/-- Who may return a task to work: a completing assignee, or a completed one. -/
def isReturningAssignee (loaded : LoadedTask) (user : User) : Bool :=
  loaded.assignments.any fun assignment =>
    assignment.userId = user.id ∧
      (assignment.status = .assigned ∨ assignment.status = .onSite ∨
        assignment.status = .completed)

def oneHourInMs : Nat := 60 * 60 * 1000

/-- Whether the hour for taking a submission back is over. -/
def returnExpired (task : Task) (now : Time) : Bool :=
  match task.pendingReviewAt with
  | some since => now - since > oneHourInMs
  | none => false

def returnToProgress (taskId : TaskId) (user : User) (now : Time) : Service Task := do
  let found ← Prog.query fun db => db.loadTask taskId
  let loaded ← Prog.orThrow found (.notFound "Підзадачу не знайдено")
  Prog.throwIf (isReturningAssignee loaded user = false ∧ user.systemRole ≠ .admin)
    (.forbidden "Лише виконавець або адміністратор може повернути задачу в роботу")
  Prog.throwIf (loaded.task.status ≠ .pendingReview)
    (.badRequest "Задача не знаходиться на перевірці")
  Prog.throwIf (returnExpired loaded.task now = true ∧ user.systemRole ≠ .admin)
    (.forbidden "Час для скасування відправки на перевірку вичерпано (1 година)")
  saveTask
    { loaded with
      task := { loaded.task with status := .inProgress, pendingReviewAt := none } }

def boostVolunteerScores (userIds : List UserId) : Service Unit :=
  Prog.onlyIf (userIds ≠ [])
    (Prog.exec fun db =>
      { db with users := db.users.update (fun user => user.id ∈ userIds) boostedPatch })

/-- `taskRepository.count({ where: { requestId } })` -/
def countTasks (db : Db) (requestId : RequestId) : Nat :=
  db.tasks.count fun task => task.requestId = requestId ∧ task.deletedAt = none

/-- `taskRepository.count({ where: { requestId, status: TaskStatus.DONE } })` -/
def countDone (db : Db) (requestId : RequestId) : Nat :=
  db.tasks.count fun task =>
    task.requestId = requestId ∧ task.status = .done ∧ task.deletedAt = none

def checkRequestCompletion (requestId : RequestId) : Service Unit := do
  let total ← Prog.query fun db => countTasks db requestId
  let done ← Prog.query fun db => countDone db requestId
  Prog.onlyIf (total > 0 ∧ total = done) (setRequestStatus requestId .completed)

/-- The author of the request or an admin. -/
def mayReview (request : Request) (user : User) : Bool :=
  request.creatorId = user.id ∨ user.systemRole = .admin

/-- `assignmentRepository.update({ taskId, status: ASSIGNED }, ...)` -/
def completeAssigned (taskId : TaskId) (now : Time) : Service Unit :=
  Prog.exec fun db =>
    { db with
      assignments := db.assignments.update
        (fun assignment => assignment.taskId = taskId ∧ assignment.status = .assigned)
        (completedPatch now) }

def confirmTaskCompletion (taskId : TaskId) (requester : User) (now : Time) : Service Task := do
  let found ← Prog.query fun db => db.loadTask taskId
  let loaded ← Prog.orThrow found (.notFound "Підзадачу не знайдено")
  let request ← requestOf loaded
  Prog.throwIf (mayReview request requester = false)
    (.forbidden "Лише автор заявки може підтвердити виконання")
  Prog.throwIf (loaded.task.status ≠ .pendingReview)
    (.badRequest "Задача не очікує підтвердження")
  completeAssigned taskId now
  boostVolunteerScores (loaded.assignments.map TaskAssignment.userId)
  checkRequestCompletion loaded.task.requestId
  saveTask { loaded with task := { loaded.task with status := .done } }

/-- `assignmentRepository.update({ taskId, status: COMPLETED }, ...)` -/
def reopenCompleted (taskId : TaskId) : Service Unit :=
  Prog.exec fun db =>
    { db with
      assignments := db.assignments.update
        (fun assignment => assignment.taskId = taskId ∧ assignment.status = .completed)
        reopenedPatch }

def rejectTask (taskId : TaskId) (requester : User) : Service Task := do
  let found ← Prog.query fun db => db.loadTask taskId
  let loaded ← Prog.orThrow found (.notFound "Підзадачу не знайдено")
  let request ← requestOf loaded
  Prog.throwIf (mayReview request requester = false)
    (.forbidden "Лише автор заявки може відхилити виконання")
  Prog.throwIf (loaded.task.status ≠ .pendingReview)
    (.badRequest "Задача не очікує підтвердження")
  reopenCompleted taskId
  saveTask { loaded with task := { loaded.task with status := .inProgress } }

def updateTaskStatusAdmin (taskId : TaskId) (status : TaskStatus) (user : User) :
    Service Task := do
  Prog.throwIf (user.systemRole ≠ .admin)
    (.forbidden "Лише адміністратор може примусово змінювати статус")
  let found ← Prog.query fun db => db.findTask taskId
  let task ← Prog.orThrow found (.notFound "Підзадачу не знайдено")
  saveTaskRow { task with status := status }
  return { task with status := status }

/-! ## Cancelling and renewing -/

/-- The owner of the request, an admin or a coordinator. -/
def mayCancel (request : Request) (user : User) : Bool :=
  request.creatorId = user.id ∨ user.systemRole = .admin ∨ user.systemRole = .coordinator

def cancelTask (taskId : TaskId) (user : User) : Service Task := do
  let found ← Prog.query fun db => db.loadTask taskId
  let loaded ← Prog.orThrow found (.notFound "Підзадачу не знайдено")
  let request ← requestOf loaded
  Prog.throwIf (mayCancel request user = false)
    (.forbidden "Немає прав для скасування цієї підзадачі")
  saveTask { loaded with task := { loaded.task with status := .cancelled } }

/-- `renewTask` loads the request only, so its save touches no assignment. -/
def renewTask (taskId : TaskId) (user : User) : Service Task := do
  let found ← Prog.query fun db => db.loadTask taskId
  let loaded ← Prog.orThrow found (.notFound "Підзадачу не знайдено")
  let request ← requestOf loaded
  Prog.throwIf (mayCancel request user = false)
    (.forbidden "Немає прав для поновлення цієї підзадачі")
  Prog.throwIf (loaded.task.status ≠ .cancelled) (.badRequest "Підзадача не скасована")
  saveTaskRow { loaded.task with status := .todo }
  return { loaded.task with status := .todo }

/-! ## Delegation -/

def isCoordinating (member : OrganizationMember) : Bool :=
  member.orgRole = .leader ∨ member.orgRole = .coordinator

def ensureOrgCoordinator (organizationId : OrgId) (user : User) : Service Unit :=
  if user.systemRole = .admin then return ()
  else do
    let membership ← Prog.query fun db =>
      db.members.findOne fun member =>
        member.organizationId = organizationId ∧ member.userId = user.id ∧ member.isActive = true
    Prog.throwIf ((membership.map isCoordinating).getD false = false)
      (.forbidden "Потрібні права лідера або координатора організації")

def findDelegation (db : Db) (taskId : TaskId) (organizationId : OrgId) : Option TaskDelegation :=
  db.delegations.findOne fun delegation =>
    delegation.taskId = taskId ∧ delegation.organizationId = organizationId

def newDelegation (taskId : TaskId) (dto : DelegateTaskDto) (coordinator : User) (now : Time)
    (id : DelegationId) : TaskDelegation where
  id := id
  taskId := taskId
  organizationId := dto.organizationId
  delegatedByUserId := some coordinator.id
  delegatedAt := now
  isAccepted := none
  message := DelegateTaskDto.note dto

@[simp] theorem newDelegation_id (taskId : TaskId) (dto : DelegateTaskDto) (coordinator : User)
    (now : Time) (id : DelegationId) : (newDelegation taskId dto coordinator now id).id = id := rfl

/-- `INSERT INTO task_delegations ... ON CONFLICT (task_id, organization_id) DO UPDATE`: a taken
pair is exactly when the insertion is refused. -/
def upserted (taskId : TaskId) (dto : DelegateTaskDto) (coordinator : User) (now : Time)
    (db : Db) : Db :=
  match db.delegations.insert (newDelegation taskId dto coordinator now)
      (newDelegation_id taskId dto coordinator now) with
  | some delegations => { db with delegations := delegations }
  | none =>
      { db with
        delegations := db.delegations.update
          (fun delegation =>
            delegation.taskId = taskId ∧ delegation.organizationId = dto.organizationId)
          (redelegatedPatch dto coordinator now) }

def upsertDelegation (taskId : TaskId) (dto : DelegateTaskDto) (coordinator : User) (now : Time) :
    Service Unit :=
  Prog.execOr (.queryFailed "insert on table task_delegations violates foreign key constraint")
    fun db =>
      if db.hasOrganization dto.organizationId = true ∧ db.hasUser coordinator.id = true then
        some (upserted taskId dto coordinator now db, ())
      else none

def delegateTask (taskId : TaskId) (dto : DelegateTaskDto) (coordinator : User) (now : Time) :
    Service Unit := do
  let found ← Prog.query fun db => db.findTask taskId
  let _task ← Prog.orThrow found (.notFound "Підзадачу не знайдено")
  let membership ← Prog.query fun db =>
    db.members.findOne fun member =>
      member.userId = coordinator.id ∧ member.isActive = true ∧ isCoordinating member = true
  Prog.throwIf (coordinator.systemRole ≠ .admin ∧ membership = none)
    (.forbidden "Потрібні права лідера або координатора організації")
  let existingState ← Prog.query fun db => findDelegation db taskId dto.organizationId
  Prog.throwIf (existingState.bind TaskDelegation.isAccepted = some true)
    (.conflict "Задача вже прийнята цією організацією. Скасуйте прийняття і спробуйте знову.")
  upsertDelegation taskId dto coordinator now

/-- A delegation as `findOne` returns it with `relations: ['task', 'task.request']`. -/
structure LoadedDelegation where
  delegation : TaskDelegation
  task : Option Task
  request : Option Request

/-- Neither relation finds a deleted row. -/
def loadDelegation (db : Db) (taskId : TaskId) (organizationId : OrgId) :
    Option LoadedDelegation :=
  (findDelegation db taskId organizationId).map fun delegation =>
    { delegation := delegation
      task := db.findTask taskId
      request := (db.findTask taskId).bind fun task => db.findRequest task.requestId }

/-- A delegation that went with its organization would be inserted again. -/
def saveDelegation (delegation : TaskDelegation) (isAccepted : Option Bool) : Service Unit :=
  Prog.execOr (.queryFailed "insert on table task_delegations violates foreign key constraint")
    fun db =>
      if db.hasOrganization delegation.organizationId = true then
        some ({ db with
            delegations := db.delegations.saveAll [{ delegation with isAccepted := isAccepted }] },
          ())
      else none

/-- The relation `task` is saved with the row: as `null` when the task has been deleted. -/
def setAccepted (loaded : LoadedDelegation) (isAccepted : Option Bool) : Service Unit := do
  Prog.throwIf (loaded.task = none)
    (.queryFailed "null value in column task_id violates not-null constraint")
  saveDelegation loaded.delegation isAccepted

def setManagingOrganization (requestId : RequestId) (organizationId : OrgId) : Service Unit :=
  Prog.execOr (.queryFailed "update on table requests violates foreign key constraint") fun db =>
    if db.hasOrganization organizationId = true then
      some ({ db with
          requests := db.requests.update (fun request => request.id = requestId)
            (managedPatch organizationId) },
        ())
    else none

def acceptDelegation (taskId : TaskId) (organizationId : OrgId) (user : User) :
    Service Unit := do
  ensureOrgCoordinator organizationId user
  let found ← Prog.query fun db => loadDelegation db taskId organizationId
  let loaded ← Prog.orThrow found (.notFound "Делегацію не знайдено")
  let alreadyAccepted ← Prog.query fun db =>
    db.delegations.findOne fun delegation =>
      delegation.taskId = taskId ∧ delegation.isAccepted = some true
  Prog.throwIf (alreadyAccepted.any (fun other => other.organizationId ≠ organizationId) = true)
    (.forbidden "Цей таск вже прийнято іншою організацією")
  setAccepted loaded (some true)
  match loaded.request with
  | some request => setManagingOrganization request.id organizationId
  | none => return ()

def unacceptDelegation (taskId : TaskId) (organizationId : OrgId) (user : User) :
    Service Unit := do
  ensureOrgCoordinator organizationId user
  let found ← Prog.query fun db => loadDelegation db taskId organizationId
  let loaded ← Prog.orThrow found (.notFound "Делегацію не знайдено")
  Prog.throwIf (loaded.delegation.isAccepted ≠ some true)
    (.badRequest "Делегація ще не була прийнята")
  setAccepted loaded none

/-- Only `task` is loaded here; the save does not look at the request. -/
def declineDelegation (taskId : TaskId) (organizationId : OrgId) (user : User) :
    Service Unit := do
  ensureOrgCoordinator organizationId user
  let found ← Prog.query fun db => loadDelegation db taskId organizationId
  let loaded ← Prog.orThrow found (.notFound "Делегацію не знайдено")
  setAccepted loaded (some false)

end TasksService

end VolunteerApi
