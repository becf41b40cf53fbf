import VolunteerApi.Model.RequestContent

/-!
# Coordinates of an edited request

`update` of `modules/requests/requests.service.ts` with the coordinates, which `editRequest`
leaves out.  The position is stored in two columns of decimals and once more as a geometry,
which a statement of its own sets.
-/

set_option autoImplicit false

namespace VolunteerApi

open Relational Programs

/-- A coordinate is absent, `null` or a number. -/
structure LocatedEditDto extends EditRequestDto where
  latitude : Option (Option Rat) := none
  longitude : Option (Option Rat) := none
  isLocationHidden : BodyValue Bool := .absent
  deriving DecidableEq, Repr

/-- The number that a `decimal(10, 7)` stands for. -/
def toDegrees (tenMillionths : Int) : Rat := tenMillionths / 10000000

namespace RequestsService

/-- `Object.assign(request, dto)`, for one of the two columns. -/
def assignCoordinate (sent : Option (Option Rat)) (column : Option Int) : Option Int :=
  sent.elim column fun given => given.map tenMillionths

/-- `dto.latitude ?? request.latitude`, after the assignment. -/
def coordinate (sent : Option (Option Rat)) (column : Option Int) : Option Rat :=
  sent.join.or ((assignCoordinate sent column).map toDegrees)

/-- The request as `update` saves it. -/
def LocatedEditDto.edit (dto : LocatedEditDto) (request : Request) : Option Request := do
  let edited ← EditRequestDto.edit dto.toEditRequestDto request
  let isLocationHidden ← dto.isLocationHidden.over request.isLocationHidden
  return { edited with
    latitude := assignCoordinate dto.latitude request.latitude
    longitude := assignCoordinate dto.longitude request.longitude
    isLocationHidden := isLocationHidden }

/-- The point that `update` writes, where neither coordinate is `null`. -/
def LocatedEditDto.location (dto : LocatedEditDto) (request : Request) : Option Point := do
  let latitude ← coordinate dto.latitude request.latitude
  let longitude ← coordinate dto.longitude request.longitude
  return ⟨longitude, latitude⟩

/-- Two statements, not one transaction. -/
def updateRequest (id : RequestId) (dto : LocatedEditDto) (requester : User) :
    Service Request := do
  let found ← Prog.query fun db =>
    (db.findRequest id).map fun request => (request, loadedAssignments db id)
  let loaded ← Prog.orThrow found (.notFound ("Заявку " ++ toString id ++ " не знайдено"))
  Prog.throwIf (isOwnerOrAdmin loaded.1 requester = false)
    (.forbidden "Немає прав для редагування цієї заявки")
  Prog.throwIf (loaded.2.any TaskAssignment.active = true ∧ requester.systemRole ≠ .admin)
    (.forbidden "Не можна редагувати заявку, яку вже взяли в роботу волонтери.")
  let saved ← Prog.orThrow (LocatedEditDto.edit dto loaded.1)
    (.queryFailed "update of table requests violates a constraint")
  saveManaged dto.managingOrganizationId.join saved
  Prog.onlyIf (LocatedEditDto.location dto loaded.1 ≠ none)
    (Prog.exec fun db =>
      { db with
        requests := db.requests.update (fun request => request.id = id)
          (locatedPatch (LocatedEditDto.location dto loaded.1)) })
  return saved

end RequestsService

end VolunteerApi
