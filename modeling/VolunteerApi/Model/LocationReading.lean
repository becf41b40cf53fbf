import VolunteerApi.Model.OrganizationRequests

/-!
# The location in an answer

The columns of the location in the answers that hold requests, and `obfuscateLocation`, which
one of the calls applies to them.  The other columns of an answer are those of the row.
-/

set_option autoImplicit false

namespace VolunteerApi

open Relational Programs

/-- `process.env.SERVER_SECRET_SALT`, and the number `parseInt` reads of
`process.env.LOCATION_OBFUSCATION_RADIUS_M`. -/
structure LocationEnv where
  serverSecretSalt : Option String
  obfuscationRadiusM : Float

/-- A `decimal` column arrives as text, a displaced coordinate as a number. -/
inductive Coordinate where
  | stored (tenMillionths : Int)
  | displaced (degrees : Float)

structure RequestView where
  id : RequestId
  isLocationHidden : Bool
  exactLocation : Option Point
  latitude : Option Coordinate
  longitude : Option Coordinate

/-- What `charCodeAt` sees of a character: its UTF-16 code units. -/
def charCodes (c : Char) : List Nat :=
  let n := c.toNat
  if n < 0x10000 then [n] else [0xd800 + (n - 0x10000) / 0x400, 0xdc00 + (n - 0x10000) % 0x400]

/-- `(hash * 33) ^ charCode`; the operator takes its operands modulo `2 ^ 32`, with a sign. -/
def mixSeed (hash : Int) (charCode : Nat) : Int :=
  (BitVec.ofInt 32 (hash * 33) ^^^ BitVec.ofNat 32 charCode).toInt

def getSeed (str : String) : Nat :=
  (BitVec.ofInt 32 ((str.toList.flatMap charCodes).foldl mixSeed 5381) &&& 0x7fffffff#32).toNat

/-- The row as it was loaded. -/
def entityView (request : Request) : RequestView where
  id := request.id
  isLocationHidden := request.isLocationHidden
  exactLocation := request.exactLocation
  latitude := request.latitude.map .stored
  longitude := request.longitude.map .stored

namespace RequestsService

/-- `Number` of the text of a column. -/
def degrees (tenMillionths : Int) : Float := Float.ofInt tenMillionths / 10000000

def pi : Float := 3.141592653589793

/-- The coordinates after the displacement, from the number of the request and the stored ones. -/
def displacedLocation (env : LocationEnv) (id : RequestId) (latitude longitude : Int) :
    Float × Float :=
  let lat := degrees latitude
  let lng := degrees longitude
  let salt := env.serverSecretSalt.getD "undefined"
  let angle := Float.ofNat (getSeed (toString id ++ "angle" ++ salt)) / 0x7fffffff * 2 * pi
  let offsetMeters :=
    Float.ofNat (getSeed (toString id ++ "offset" ++ salt)) / 0x7fffffff * env.obfuscationRadiusM
  let earthRadius : Float := 6371000
  let latOffset := offsetMeters / earthRadius * (180 / pi)
  let cosLat := Float.cos (lat * pi / 180)
  let lngOffset := if cosLat != 0 then offsetMeters / earthRadius * (180 / pi) / cosLat else 0
  (lat + Float.cos angle * latOffset, lng + Float.sin angle * lngOffset)

/-- The viewers who see the exact point. -/
def seesExactLocation (request : Request) (viewer : User) : Bool :=
  viewer.id = request.creatorId ∨ viewer.systemRole = .coordinator ∨
    viewer.systemRole = .admin ∨ viewer.clearanceLevel = .frontline

/-- The number of a missing coordinate is zero. -/
def obfuscateLocation (env : LocationEnv) (request : Request) (viewer : User) : RequestView :=
  if seesExactLocation request viewer = true then entityView request
  else if request.isLocationHidden = false then entityView request
  else
    let lat := request.latitude.getD 0
    let lng := request.longitude.getD 0
    if lat = 0 ∨ lng = 0 then entityView request
    else
      { entityView request with
        latitude := some (.displaced (displacedLocation env request.id lat lng).1)
        longitude := some (.displaced (displacedLocation env request.id lat lng).2) }

def findOneView (env : LocationEnv) (id : RequestId) (requester : User) :
    Service (List RequestView) := do
  let response ← findOne id requester
  return response.requests.map fun request => obfuscateLocation env request requester

/-- The statements select no `exact_location`. -/
def selectedView (request : Request) : RequestView :=
  { entityView request with exactLocation := none }

def getRequestsWithPriorityView (pg : Postgres) (params : PriorityParams) :
    Service (List RequestView) := do
  let response ← getRequestsWithPriority pg params
  return response.requests.map selectedView

def getSavedRequestsView (pg : Postgres) (userId : UserId) (limit offset : Option QueryNumber) :
    Service (List RequestView) := do
  let response ← getSavedRequests pg userId limit offset
  return response.requests.map entityView

end RequestsService

namespace TasksService

def findByIdView (id : TaskId) : Service (List RequestView) := do
  let response ← findById id
  return response.requests.map entityView

end TasksService

namespace OrganizationsService

def getOrganizationRequestsView (pg : Postgres)
    (byNews : OrderBy fun _ _ : TaskDelegation => True) (organizationId : OrgId) (user : User) :
    Service (List RequestView) := do
  let requests ← getOrganizationRequests pg byNews organizationId user
  return requests.map fun row => entityView row.request

end OrganizationsService

/-! ## The calls -/

inductive LocationOp where
  | findOne (id : RequestId)
  | getRequestsWithPriority (params : PriorityParams)
  | getSavedRequests (limit offset : Option QueryNumber)
  | findById (taskId : TaskId)
  | getOrganizationRequests (organizationId : OrgId)

/-- What the call answers the viewer, or the exception it ends with. -/
def LocationOp.run (pg : Postgres) (byNews : OrderBy fun _ _ : TaskDelegation => True)
    (env : LocationEnv) (db : Db) (viewer : User) :
    LocationOp → Except HttpException (List RequestView)
  | .findOne id => ((RequestsService.findOneView env id viewer).run db).1
  | .getRequestsWithPriority params =>
      ((RequestsService.getRequestsWithPriorityView pg params).run db).1
  | .getSavedRequests limit offset =>
      ((RequestsService.getSavedRequestsView pg viewer.id limit offset).run db).1
  | .findById taskId => ((TasksService.findByIdView taskId).run db).1
  | .getOrganizationRequests organizationId =>
      ((OrganizationsService.getOrganizationRequestsView pg byNews organizationId viewer).run db).1

end VolunteerApi
