import VolunteerApi.Model.RequestsReading
import VolunteerApi.Model.Server

/-!
# The log of accesses to frontline requests

`findOne` hands an entry to `logAccess`, which nobody waits for: the client has its answer before
the entry is stored, and an entry that cannot be stored is lost with a line on the console.  So an
`Audit` keeps the entries on their way beside the database and the log, and each of them is
written or lost at some later moment.  No other method writes the log.
-/

set_option autoImplicit false

namespace VolunteerApi

open Relational Programs

abbrev LogId := Nat

inductive AccessAction where
  | viewDetail
  | viewList
  | viewMedia
  | downloadMedia
  deriving DecidableEq, Repr

def AccessAction.text : AccessAction → String
  | .viewDetail => "view_detail"
  | .viewList => "view_list"
  | .viewMedia => "view_media"
  | .downloadMedia => "download_media"

/-- What `logAccess` hands to `save`. -/
structure AccessEntry where
  userId : UserId
  requestId : RequestId
  action : AccessAction
  clearanceAtAccess : ClearanceLevel
  deriving DecidableEq, Repr

structure AccessLog extends AccessEntry where
  id : LogId
  ip : Option String
  userAgent : Option String
  createdAt : Time
  deriving DecidableEq, Repr

abbrev AccessLogs := Table AccessLog.id AccessLog.id

def AccessEntry.row (entry : AccessEntry) (now : Time) (id : LogId) : AccessLog where
  toAccessEntry := entry
  id := id
  ip := none
  userAgent := none
  createdAt := now

namespace RequestsService

/-! ## Writing -/

/-- Only frontline requests, and not for their owner. -/
def logAccess (request : Request) (user : User) (action : AccessAction) : Option AccessEntry :=
  if request.requiredClearance ≠ .frontline then none
  else if request.creatorId = user.id then none
  else some ⟨user.id, request.id, action, user.clearanceLevel⟩

/-- `findOne` with the entry it leaves behind. -/
def findOneLogging (id : RequestId) (requester : User) :
    Service (Response × Option AccessEntry) := do
  let found ← Prog.query fun db =>
    (db.findRequest id).map fun request => (request, db.liveTasks id)
  let loaded ← Prog.orThrow found (.notFound ("Заявку " ++ toString id ++ " не знайдено"))
  checkClearanceAccess loaded.1 requester
  return (⟨[loaded.1], loaded.2⟩, logAccess loaded.1 requester .viewDetail)

/-! ## Reading -/

structure AccessLogFilters where
  requestId : QueryFilter RequestId
  userId : QueryFilter UserId
  action : Option String
  fromTime : QueryFilter Time
  toTime : QueryFilter Time
  limit : Option Int
  offset : Option Int

def AccessLogFilters.readable (filters : AccessLogFilters) : Bool :=
  filters.requestId.readable ∧ filters.userId.readable ∧ filters.fromTime.readable ∧
    filters.toTime.readable

def AccessLogFilters.passes (filters : AccessLogFilters) (log : AccessLog) : Bool :=
  filters.requestId.passes (fun wanted => log.requestId = wanted) ∧
    filters.userId.passes (fun wanted => log.userId = wanted) ∧
    (truthy filters.action).all (fun wanted => log.action.text = wanted) ∧
    filters.fromTime.passes (fun first => first ≤ log.createdAt) ∧
    filters.toTime.passes fun last => log.createdAt ≤ last

/-- A row of the answer; the title of a deleted request is not found. -/
structure LoggedAccess extends AccessLog where
  requestTitle : Option String
  deriving DecidableEq, Repr

def loggedAccess (db : Db) (log : AccessLog) : LoggedAccess where
  toAccessLog := log
  requestTitle := truthy ((db.findRequest log.requestId).map Request.title)

/-- `createdAt DESC` -/
abbrev ByLogging := OrderBy fun left right : AccessLog => right.createdAt ≤ left.createdAt

def matchingLogs (newest : ByLogging) (filters : AccessLogFilters) (logs : AccessLogs) :
    List AccessLog :=
  newest.run (logs.find filters.passes)

/-- The rows are a page of the log; `none` is a query that is refused. -/
def getAccessLogs (newest : ByLogging) (filters : AccessLogFilters) (db : Db) (logs : AccessLogs) :
    Option (List LoggedAccess) :=
  if filters.readable then
    (typeormPage filters.limit filters.offset).map fun page =>
      (page.of (matchingLogs newest filters logs)).map (loggedAccess db)
  else none

end RequestsService

namespace RequestsController

/-- `limit ? parseInt(limit) : 50`, and the same for the offset: what `parseInt` made of the
parameter, if there was one. -/
def parsedText (default : Nat) : Option (Option Int) → Option Int
  | some parsed => parsed
  | none => some default

/-- `RolesGuard` with `@Roles(SystemRole.ADMIN)` before the handler. -/
def getAccessLogs (newest : RequestsService.ByLogging)
    (filters : RequestsService.AccessLogFilters) (limit offset : Option (Option Int))
    (payload : JwtClaims) (db : Db) (logs : AccessLogs) :
    Except HttpException (List RequestsService.LoggedAccess) :=
  match ((JwtStrategy.validate payload).run db).1 with
  | .error error => .error error
  | .ok user =>
      if user.systemRole ≠ .admin then .error (.forbidden "Доступ заборонено. Потрібна роль: admin")
      else
        match RequestsService.getAccessLogs newest
          { filters with limit := parsedText 50 limit, offset := parsedText 0 offset } db logs with
        | some answer => .ok answer
        | none => .error (.queryFailed "invalid query parameter")

end RequestsController

/-! ## The server with its log -/

structure Audit where
  db : Db
  logs : AccessLogs
  /-- Entries on their way to the log. -/
  pending : List AccessEntry

inductive AuditEvent where
  | call (call : Call)
  /-- `GET /requests/:id` -/
  | view (payload : JwtClaims) (id : RequestId)
  /-- The insert of a pending entry is executed. -/
  | written (index : Nat) (now : Time)
  /-- It fails. -/
  | lost (index : Nat)

namespace Audit

def view (audit : Audit) (payload : JwtClaims) (id : RequestId) :
    Except HttpException (Response × Option AccessEntry) :=
  (((JwtStrategy.validate payload).bind (RequestsService.findOneLogging id)).run audit.db).1

/-- An exception is thrown before anything is logged. -/
def entryLeft : Except HttpException (Response × Option AccessEntry) → Option AccessEntry
  | .ok answer => answer.2
  | .error _ => none

/-- `request_id` has to be that of a stored request, deleted or not. -/
def write (audit : Audit) (entry : AccessEntry) (now : Time) : AccessLogs :=
  if ∃ request ∈ audit.db.requests.rows, request.id = entry.requestId then
    audit.logs.append (entry.row now)
  else audit.logs

def step (env : ServerEnv) (audit : Audit) : AuditEvent → Audit
  | .call call => { audit with db := call.step env audit.db }
  | .view payload id =>
      { audit with pending := audit.pending ++ (entryLeft (audit.view payload id)).toList }
  | .written index now =>
      match audit.pending[index]? with
      | some entry =>
          { audit with
            logs := audit.write entry now
            pending := audit.pending.eraseIdx index }
      | none => audit
  | .lost index => { audit with pending := audit.pending.eraseIdx index }

end Audit

end VolunteerApi
