import VolunteerApi.Model.RequestsService
import VolunteerApi.Relational.Listing

/-!
# Reading requests and tasks

The endpoints that answer with requests or with tasks of requests, and the list
of saved requests that one of them reads.  An answer holds the rows; the counts and
the names of organizations that some endpoints add to them are left out, and the
location an answer shows is in `LocationReading`.
-/

set_option autoImplicit false

namespace VolunteerApi

open Relational Programs

/-! ## The database server -/

/-- What the server decides: how texts match, and the orders.  Coordinates and the
priority of a task are not among the columns of the model, so any order may stand
for the distance and for the priority. -/
structure Postgres where
  /-- `text ILIKE pattern` -/
  ilike : String → String → Bool
  /-- `created_at DESC` -/
  byCreation : OrderBy fun left right : Request => right.createdAt ≤ left.createdAt
  /-- `saved_at DESC` -/
  bySaving : OrderBy fun left right : SavedRequest => right.savedAt ≤ left.savedAt
  /-- `distance ASC NULLS LAST`, from a latitude and a longitude -/
  byDistance : Float → Float → OrderBy fun _ _ : Request => True
  /-- `priority DESC, createdAt ASC` -/
  byPriority : OrderBy fun _ _ : Task => True

/-- The clauses take neither `NaN` nor a negative number. -/
def natural : Option Int → Option Nat
  | some (.ofNat number) => some number
  | _ => none

/-! ## Query parameters -/

/-- A number among the query parameters, after the conversion from its text: what
`parseInt` reads of it and what a `LIMIT` clause rounds it to, if to anything. -/
inductive QueryNumber where
  | nan
  | zero
  | other (parsed rounded : Option Int)
  deriving DecidableEq, Repr

/-- A filter among the query parameters: none or an empty text, a value of the column's
type, or a text the server cannot read as one. -/
inductive QueryFilter (α : Type) where
  | off
  | value (wanted : α)
  | unreadable
  deriving DecidableEq, Repr

def QueryFilter.readable {α : Type} : QueryFilter α → Bool
  | .unreadable => false
  | _ => true

/-- The row's part of the `WHERE` clause. -/
def QueryFilter.passes {α : Type} (filter : QueryFilter α) (test : α → Bool) : Bool :=
  match filter with
  | .value wanted => test wanted
  | _ => true

structure RequestFilters where
  search : Option String
  status : QueryFilter RequestStatus
  urgency : QueryFilter RequestUrgency
  category : QueryFilter RequestCategory
  creatorId : QueryFilter UserId
  excludeCreatorId : QueryFilter UserId
  managingOrganizationId : QueryFilter OrgId
  deriving DecidableEq, Repr

/-- The server can read every filter as a value of its column. -/
def RequestFilters.readable (filters : RequestFilters) : Bool :=
  filters.status.readable ∧ filters.urgency.readable ∧ filters.category.readable ∧
    filters.creatorId.readable ∧ filters.excludeCreatorId.readable ∧
    filters.managingOrganizationId.readable

structure FindRequestsQuery extends RequestFilters where
  limit : Option QueryNumber
  offset : Option QueryNumber
  latitude : Option Float
  longitude : Option Float
  radiusKm : Option Float

structure PriorityParams extends RequestFilters where
  userLat : Option Float
  userLng : Option Float
  /-- As `parseInt` read it; `none` is its `NaN`. -/
  limit : Option Int
  offset : Option Int
  clearanceLevel : ClearanceLevel
  systemRole : SystemRole

/-- The rows an endpoint answers with. -/
structure Response where
  requests : List Request
  tasks : List Task
  deriving DecidableEq, Repr

/-- The tasks that `leftJoinAndSelect('request.tasks')` and `find({ where: { requestId } })`
load. -/
def Db.liveTasks (db : Db) (requestId : RequestId) : List Task :=
  db.tasks.find fun task => task.requestId = requestId ∧ task.deletedAt = none

@[simp] theorem Db.mem_liveTasks {db : Db} {requestId : RequestId} {task : Task} :
    task ∈ db.liveTasks requestId ↔
      task ∈ db.tasks.rows ∧ task.requestId = requestId ∧ task.deletedAt = none := by
  simp [liveTasks]

/-- `LIMIT $n OFFSET $m`.  A number beyond `bigint`, which the database refuses, is taken here. -/
def sqlPage (limit offset : Option Int) : Option Page := do
  let limit ← natural limit
  let offset ← natural offset
  return ⟨some limit, offset⟩

/-- `take` and `skip`: a zero writes no clause. -/
def typeormPage (take skip : Option Int) : Option Page := do
  let page ← sqlPage take skip
  return { page with limit := page.limit.filter (· ≠ 0) }

/-- A statement that is refused when it has no result. -/
def refusable {α : Type} (read : Db → Option α) : Service α := do
  let found ← Prog.query read
  Prog.orThrow found (.queryFailed "invalid query parameter")

namespace RequestsService

/-! ## Lists of requests -/

/-- The row's title or description contains the text. -/
def matchesSearch (pg : Postgres) (search : Option String) (request : Request) : Bool :=
  match search with
  | none => true
  | some text =>
      text = "" ∨ pg.ilike request.title ("%" ++ text ++ "%") ∨
        request.description.any fun description => pg.ilike description ("%" ++ text ++ "%")

def whereClauses (pg : Postgres) (params : PriorityParams) (request : Request) : Bool :=
  request.deletedAt = none ∧
    params.status.passes (fun wanted => request.status = wanted) ∧
    params.urgency.passes (fun wanted => request.urgency = wanted) ∧
    params.category.passes (fun wanted => request.category = wanted) ∧
    params.creatorId.passes (fun wanted => request.creatorId = wanted) ∧
    params.excludeCreatorId.passes (fun unwanted => request.creatorId ≠ unwanted) ∧
    matchesSearch pg params.search request ∧
    params.managingOrganizationId.passes
      (fun wanted => request.managingOrganizationId = some wanted) ∧
    (params.systemRole = .admin ∨ request.requiredClearance.rank ≤ params.clearanceLevel.rank)

/-- The requests that are not deleted, nearest first. -/
def nearestRequests (pg : Postgres) (lat lng : Float) (db : Db) : List Request :=
  (pg.byDistance lat lng).run (db.requests.find fun request => request.deletedAt = none)

/-- The requests that pass the filters, newest first. -/
def filteredRequests (pg : Postgres) (params : PriorityParams) (db : Db) : List Request :=
  pg.byCreation.run (db.requests.find (whereClauses pg params))

/-- The user's own requests, newest first. -/
def ownRequests (pg : Postgres) (creatorId : UserId) (db : Db) : List Request :=
  pg.byCreation.run (db.requests.find fun request =>
    request.creatorId = creatorId ∧ request.deletedAt = none)

def getRequestsWithPriority (pg : Postgres) (params : PriorityParams) : Service Response :=
  match params.userLat, params.userLng with
  | some lat, some lng => do
      -- sorted by distance, with none of the filters
      let requests ← refusable fun db =>
        (sqlPage params.limit params.offset).map fun page => page.of (nearestRequests pg lat lng db)
      return ⟨requests, []⟩
  | _, _ => do
      let requests ← refusable fun db =>
        if params.readable then
          (sqlPage params.limit params.offset).map fun page =>
            page.of (filteredRequests pg params db)
        else none
      return ⟨requests, []⟩

def getMyRequests (pg : Postgres) (creatorId : UserId) (limit offset : Option Int) :
    Service Response :=
  refusable fun db => (typeormPage limit offset).map fun page =>
    ⟨page.of (ownRequests pg creatorId db),
      (page.of (ownRequests pg creatorId db)).flatMap fun request => db.liveTasks request.id⟩

/-! ## One request -/

def checkClearanceAccess (request : Request) (user : User) : Service Unit :=
  Prog.throwIf
    (user.systemRole ≠ .admin ∧ user.systemRole ≠ .coordinator ∧
      user.clearanceLevel.rank < request.requiredClearance.rank)
    (.forbidden "Недостатній рівень допуску для перегляду цієї заявки")

def findOne (id : RequestId) (requester : User) : Service Response := do
  let found ← Prog.query fun db =>
    (db.findRequest id).map fun request => (request, db.liveTasks id)
  let loaded ← Prog.orThrow found (.notFound ("Заявку " ++ toString id ++ " не знайдено"))
  checkClearanceAccess loaded.1 requester
  return ⟨[loaded.1], loaded.2⟩

/-! ## Saved requests -/

def newSavedRequest (requestId : RequestId) (userId : UserId) (now : Time) (id : SavedId) :
    SavedRequest where
  id := id
  userId := userId
  requestId := requestId
  savedAt := now

/-- The foreign keys want a stored request, deleted or not, and a stored user. -/
def insertSavedRequest (requestId : RequestId) (userId : UserId) (now : Time) : Service Unit :=
  Prog.execOr (.queryFailed "insert or update on table saved_requests violates a constraint")
    fun db =>
      if (∃ request ∈ db.requests.rows, request.id = requestId) ∧
          ∃ user ∈ db.users.rows, user.id = userId then
        (db.savedRequests.insert (newSavedRequest requestId userId now)).map fun saved =>
          ({ db with savedRequests := saved }, ())
      else none

def saveRequest (requestId : RequestId) (userId : UserId) (now : Time) : Service Unit := do
  let existing ← Prog.query fun db => db.savedRequests.findOne fun saved =>
    saved.requestId = requestId ∧ saved.userId = userId
  Prog.onlyIf (existing = none) (insertSavedRequest requestId userId now)

def unsaveRequest (requestId : RequestId) (userId : UserId) : Service Unit :=
  Prog.exec fun db =>
    { db with
      savedRequests := db.savedRequests.delete fun saved =>
        saved.requestId = requestId ∧ saved.userId = userId }

/-- A `take` or `skip` that comes as the client sent it. -/
def clauseOf (default : Nat) : Option QueryNumber → Option (Option Nat)
  | none => some (some default)
  | some .nan => none
  | some .zero => some none
  | some (.other _ rounded) => (natural rounded).map some

def savedPage (limit offset : Option QueryNumber) : Option Page := do
  let take ← clauseOf 50 limit
  let skip ← clauseOf 0 offset
  return ⟨take, skip.getD 0⟩

/-- The user's saved requests, the last saved one first. -/
def savedOf (pg : Postgres) (userId : UserId) (db : Db) : List SavedRequest :=
  pg.bySaving.run (db.savedRequests.find fun saved => saved.userId = userId)

/-- A saved request that was deleted is an empty entry of the answer. -/
def getSavedRequests (pg : Postgres) (userId : UserId) (limit offset : Option QueryNumber) :
    Service Response :=
  refusable fun db => (savedPage limit offset).map fun page =>
    ⟨(page.of (savedOf pg userId db)).filterMap fun saved => db.findRequest saved.requestId, []⟩

end RequestsService

namespace RequestsController

/-- `limit ? parseInt(limit) : 20`, and the same for the offset. -/
def parsedOr (default : Nat) : Option QueryNumber → Option Int
  | some (.other parsed _) => parsed
  | _ => some default

/-- All three are given. -/
def useGeo (query : FindRequestsQuery) : Bool :=
  query.latitude.isSome ∧ query.longitude.isSome ∧ query.radiusKm.any fun radius => radius > 0

/-- What `findAll` hands to the service for everybody but a requester. -/
def priorityParams (query : FindRequestsQuery) (user : User) : PriorityParams where
  toRequestFilters := query.toRequestFilters
  userLat := if useGeo query then query.latitude else none
  userLng := if useGeo query then query.longitude else none
  limit := parsedOr 20 query.limit
  offset := parsedOr 0 query.offset
  clearanceLevel := user.clearanceLevel
  systemRole := user.systemRole

def findAll (pg : Postgres) (query : FindRequestsQuery) (user : User) : Service Response :=
  if user.systemRole = .requester then
    RequestsService.getMyRequests pg user.id (parsedOr 20 query.limit) (parsedOr 0 query.offset)
  else RequestsService.getRequestsWithPriority pg (priorityParams query user)

end RequestsController

namespace TasksService

/-- The user is not looked at. -/
def findByRequest (pg : Postgres) (requestId : RequestId) (_user : User) : Service Response :=
  Prog.query fun db => ⟨[], pg.byPriority.run (db.liveTasks requestId)⟩

/-- The task with its request. -/
def findById (id : TaskId) : Service Response := do
  let found ← Prog.query fun db =>
    (db.findTask id).map fun task => (task, db.findRequest task.requestId)
  let loaded ← Prog.orThrow found (.notFound "Підзадачу не знайдено")
  return ⟨loaded.2.toList, [loaded.1]⟩

end TasksService

/-! ## The calls -/

inductive ReadOp where
  | findAll (query : FindRequestsQuery)
  | findOne (id : RequestId)
  | getSavedRequests (limit offset : Option QueryNumber)
  | findById (taskId : TaskId)
  | findByRequest (requestId : RequestId)

/-- What the call answers, or the exception it ends with.  No read changes the database. -/
def ReadOp.run (pg : Postgres) (db : Db) (user : User) : ReadOp → Except HttpException Response
  | .findAll query => ((RequestsController.findAll pg query user).run db).1
  | .findOne id => ((RequestsService.findOne id user).run db).1
  | .getSavedRequests limit offset =>
      ((RequestsService.getSavedRequests pg user.id limit offset).run db).1
  | .findById taskId => ((TasksService.findById taskId).run db).1
  | .findByRequest requestId => ((TasksService.findByRequest pg requestId user).run db).1

/-- A `saveRequest` call: the request, the user who saves it, and the time. -/
structure SaveCall where
  requestId : RequestId
  userId : UserId
  now : Time

def SaveCall.step (db : Db) (call : SaveCall) : Db :=
  ((RequestsService.saveRequest call.requestId call.userId call.now).run db).2

end VolunteerApi
