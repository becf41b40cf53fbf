import VolunteerApi.Model.TasksService

/-!
# `RequestsService`

The methods of `modules/requests/requests.service.ts` that write the request
row or create tasks.  Tags, media and coordinates are stored content that no method
here reads; access logs are a table of their own.
-/

set_option autoImplicit false

namespace VolunteerApi

open Relational Programs

structure CreateRequestDto where
  title : String
  requiredClearance : Option ClearanceLevel
  managingOrganizationId : Option OrgId
  description : Option String := none
  category : Option RequestCategory := none
  urgency : Option RequestUrgency := none
  deriving DecidableEq, Repr

structure UpdateRequestDto where
  title : Option String
  requiredClearance : Option ClearanceLevel
  managingOrganizationId : Option OrgId
  status : Option RequestStatus
  description : Option String := none
  category : Option RequestCategory := none
  urgency : Option RequestUrgency := none
  deriving DecidableEq, Repr

structure AddInfoRequestDto where
  text : String
  attachments : List InfoAttachment
  removedAttachments : List String
  deriving DecidableEq, Repr

namespace RequestsService

def newRequest (dto : CreateRequestDto) (creator : User) (now : Time) (id : RequestId) :
    Request where
  id := id
  creatorId := creator.id
  managingOrganizationId := dto.managingOrganizationId
  cancelledByUserId := none
  cancelledAt := none
  cancelReason := none
  title := dto.title
  status := .open
  requiredClearance := dto.requiredClearance.getD .local
  additionalInfo := []
  createdAt := now
  deletedAt := none
  description := dto.description
  category := dto.category.getD .other
  urgency := dto.urgency.getD .medium

/-- `softDelete` -/
def deletedPatch (now : Time) : Patch Request.id Request.id where
  run request := { request with deletedAt := some now }

/-- The task every new request starts with. -/
def autoTask (requestId : RequestId) (creator : User) (id : TaskId) : Task where
  id := id
  requestId := requestId
  createdByUserId := some creator.id
  origin := .system
  isAutoGenerated := true
  title := "Виконати заявку"
  status := .todo
  neededPeopleCount := 1
  chatId := none
  pendingReviewAt := none
  deletedAt := none

/-- `requestRepository.save(request)` of a new request -/
def insertRequest (new : RequestId → Request) (newId : ∀ n, (new n).id = n) : Service Request :=
  Prog.execOr (.queryFailed "insert on table requests violates foreign key constraint") fun db =>
    if db.hasManager (new db.requests.next).managingOrganizationId = true then
      some ({ db with requests := db.requests.append new newId }, new db.requests.next)
    else none

def create (dto : CreateRequestDto) (creator : User) (now : Time) : Service Request := do
  let saved ← insertRequest (newRequest dto creator now) fun _ => rfl
  Prog.exec fun db => { db with tasks := db.tasks.append (autoTask saved.id creator) }
  return saved

/-- `requestRepository.save(request)` -/
def saveRequestRow (request : Request) : Service Unit :=
  Prog.exec fun db => { db with requests := db.requests.saveAll [request] }

/-- The save of a request to which the body may have given the managing organization. -/
def saveManaged (given : Option OrgId) (request : Request) : Service Unit :=
  Prog.execOr (.queryFailed "update on table requests violates foreign key constraint") fun db =>
    if db.hasManager given = true then
      some ({ db with requests := db.requests.saveAll [request] }, ())
    else none

/-- The assignments of the request's tasks, as `relations: ['tasks', 'tasks.assignments']`
loads them: soft-deleted tasks are skipped. -/
def loadedAssignments (db : Db) (requestId : RequestId) : List TaskAssignment :=
  (db.tasks.find fun task => task.requestId = requestId ∧ task.deletedAt = none).flatMap
    fun task => db.assignmentsOf task.id

def isOwnerOrAdmin (request : Request) (user : User) : Bool :=
  request.creatorId = user.id ∨ user.systemRole = .admin

/-- `Object.assign(request, dto)`, for the columns of the model. -/
def UpdateRequestDto.assign (dto : UpdateRequestDto) (request : Request) : Request :=
  { request with
    title := dto.title.getD request.title
    requiredClearance := dto.requiredClearance.getD request.requiredClearance
    managingOrganizationId := dto.managingOrganizationId.or request.managingOrganizationId
    status := dto.status.getD request.status
    description := dto.description.or request.description
    category := dto.category.getD request.category
    urgency := dto.urgency.getD request.urgency }

/-- The tasks and assignments loaded with the request are saved with it.  They
were loaded by this call and not changed by it, so the save leaves them alone. -/
def update (id : RequestId) (dto : UpdateRequestDto) (requester : User) : Service Request := do
  let found ← Prog.query fun db =>
    (db.findRequest id).map fun request => (request, loadedAssignments db id)
  let loaded ← Prog.orThrow found (.notFound ("Заявку " ++ toString id ++ " не знайдено"))
  Prog.throwIf (isOwnerOrAdmin loaded.1 requester = false)
    (.forbidden "Немає прав для редагування цієї заявки")
  Prog.throwIf (loaded.2.any TaskAssignment.active = true ∧ requester.systemRole ≠ .admin)
    (.forbidden "Не можна редагувати заявку, яку вже взяли в роботу волонтери.")
  saveManaged dto.managingOrganizationId (UpdateRequestDto.assign dto loaded.1)
  return UpdateRequestDto.assign dto loaded.1

def tenMinutesInMs : Nat := 10 * 60 * 1000

def remove (id : RequestId) (requester : User) (now : Time) : Service Unit := do
  let found ← Prog.query fun db =>
    (db.findRequest id).map fun request => (request, loadedAssignments db id)
  let loaded ← Prog.orThrow found (.notFound ("Заявку " ++ toString id ++ " не знайдено"))
  Prog.throwIf (isOwnerOrAdmin loaded.1 requester = false)
    (.forbidden "Немає прав для видалення цієї заявки")
  Prog.throwIf
    (requester.systemRole ≠ .admin ∧
      (now - loaded.1.createdAt > tenMinutesInMs ∨ loaded.2.any TaskAssignment.active = true))
    (.forbidden ("Заявку можна видалити лише протягом 10 хвилин після створення і тільки " ++
      "якщо її ще не взяли в роботу. Після цього скасуйте заявку."))
  Prog.exec fun db =>
    { db with requests := db.requests.update (fun request => request.id = id) (deletedPatch now) }

/-! ## Additional information -/

/-- The load and the owner check that the methods below share. -/
def loadOwned (id : RequestId) (requester : User) (refusal : String) : Service Request := do
  let found ← Prog.query fun db => db.findRequest id
  let request ← Prog.orThrow found (.notFound ("Заявку " ++ toString id ++ " не знайдено"))
  Prog.throwIf (isOwnerOrAdmin request requester = false) (.forbidden refusal)
  return request

def addInfo (id : RequestId) (dto : AddInfoRequestDto) (requester : User) (infoId : InfoId)
    (now : Time) : Service Unit := do
  let request ← loadOwned id requester
    "Тільки власник або адміністратор може доповнювати інформацію"
  saveRequestRow
    { request with
      additionalInfo := request.additionalInfo ++
        [{ id := infoId
           text := dto.text
           attachments := dto.attachments
           createdAt := now
           updatedAt := none }] }

def thirtyMinutesInMs : Nat := 30 * 60 * 1000

/-- The entry's index, with the time limit for everybody but an admin. -/
def editableInfo (request : Request) (infoId : InfoId) (requester : User) (now : Time)
    (refusal : String) : Service AdditionalInfo := do
  let info ← Prog.orThrow (request.additionalInfo.find? fun info => info.id = infoId)
    (.notFound "Доповнення не знайдено")
  Prog.throwIf (requester.systemRole ≠ .admin ∧ now - info.createdAt > thirtyMinutesInMs)
    (.forbidden refusal)
  return info

def editedInfo (info : AdditionalInfo) (dto : AddInfoRequestDto) (now : Time) : AdditionalInfo :=
  { info with
    text := dto.text
    attachments :=
      (info.attachments.filter fun attachment =>
        attachment.url.all fun url => url ∉ dto.removedAttachments) ++ dto.attachments
    updatedAt := some now }

/-- Replaces the first entry with the id, as `findIndex` finds it. -/
def replaceInfo (infoId : InfoId) (edited : AdditionalInfo) :
    List AdditionalInfo → List AdditionalInfo
  | [] => []
  | info :: rest =>
      if info.id = infoId then edited :: rest else info :: replaceInfo infoId edited rest

def updateAdditionalInfo (id : RequestId) (infoId : InfoId) (dto : AddInfoRequestDto)
    (requester : User) (now : Time) : Service Unit := do
  let request ← loadOwned id requester
    "Тільки власник або адміністратор може редагувати доповнення"
  let info ← editableInfo request infoId requester now
    "Редагування можливе лише протягом 30 хвилин після створення"
  saveRequestRow
    { request with
      additionalInfo := replaceInfo infoId (editedInfo info dto now) request.additionalInfo }

def removeAdditionalInfo (id : RequestId) (infoId : InfoId) (requester : User) (now : Time) :
    Service Unit := do
  let request ← loadOwned id requester
    "Тільки власник або адміністратор може видаляти доповнення"
  let _info ← editableInfo request infoId requester now
    "Видалення можливе лише протягом 30 хвилин після створення"
  saveRequestRow
    { request with
      additionalInfo := request.additionalInfo.eraseP fun info => info.id = infoId }

/-! ## Status operations -/

def markAsPendingReview (id : RequestId) (user : User) : Service Unit := do
  let request ← loadOwned id user "Тільки власник або адмін може змінити статус"
  saveRequestRow { request with status := .pendingReview }

/-- `reason?.trim() || null` -/
def cancelReasonOf (reason : Option String) : Option String :=
  (reason.map trim).filter (· ≠ "")

def cancel (id : RequestId) (reason : Option String) (user : User) (now : Time) :
    Service Unit := do
  let found ← Prog.query fun db => db.findRequest id
  let request ← Prog.orThrow found (.notFound ("Заявку " ++ toString id ++ " не знайдено"))
  Prog.throwIf (TasksService.mayCancel request user = false)
    (.forbidden "Немає прав для скасування цієї заявки")
  Prog.throwIf (request.status = .completed)
    (.forbidden "Завершену заявку не можна скасувати")
  saveRequestRow
    { request with
      status := .cancelled
      cancelReason := cancelReasonOf reason
      cancelledAt := some now
      cancelledByUserId := some user.id }

def confirmCompletion (id : RequestId) (user : User) : Service Unit := do
  let request ← loadOwned id user "Тільки власник або адмін може підтвердити виконання"
  saveRequestRow { request with status := .completed }

def returnToProgress (id : RequestId) (user : User) (now : Time) : Service Unit := do
  let request ← loadOwned id user "Тільки власник або адмін може повернути в роботу"
  if request.status = .cancelled then do
    let cancelledAt ← Prog.orThrow request.cancelledAt
      (.forbidden "Неможливо визначити час скасування заявки")
    Prog.throwIf (now - cancelledAt > tenMinutesInMs)
      (.forbidden ("Час для відміни скасування вичерпано. " ++
        "Можливо повернути лише протягом 10 хвилин після скасування."))
    saveRequestRow
      { request with
        status := .inProgress
        cancelReason := none
        cancelledAt := none
        cancelledByUserId := none }
  else saveRequestRow { request with status := .inProgress }

end RequestsService

end VolunteerApi
