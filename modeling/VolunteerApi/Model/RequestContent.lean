import VolunteerApi.Model.RequestsService

/-!
# The content of a request

`create` and `update` of `modules/requests/requests.service.ts` with the columns that
`RequestsService.create` and `RequestsService.update` leave out: the tags, which the service
derives from the text and the category, and on creation the coordinates.  The address, the
deadline, the media and the link to a fundraiser are stored as they are given.
-/

set_option autoImplicit false

namespace VolunteerApi

open Relational Programs

/-! ## Columns -/

/-- How TypeORM writes a `simple-array`. -/
def simpleArrayToString (elements : List String) : String := ",".intercalate elements

/-- How it reads one. -/
def stringToSimpleArray (text : String) : List String :=
  if text = "" then [] else split text ','

/-- A number in a `decimal(10, 7)`, in ten-millionths. -/
def tenMillionths (degrees : Rat) : Int :=
  if 0 ≤ degrees then (degrees * 10000000 + 1 / 2).floor
  else (degrees * 10000000 - 1 / 2).ceil

/-- The tags of a loaded request. -/
def Request.tagList (request : Request) : List String :=
  (request.tags.map stringToSimpleArray).getD []

/-! ## What the endpoints are sent -/

/-- `tags` is empty where it is absent, `null` or empty: the code asks for its length. -/
structure NewRequestDto extends CreateRequestDto where
  tags : List String := []
  latitude : Option Rat := none
  longitude : Option Rat := none
  isLocationHidden : Option Bool := none
  deriving DecidableEq, Repr

/-- A column that can be `null` may be given as `null`. -/
structure EditRequestDto where
  title : BodyValue String := .absent
  description : Option (Option String) := none
  category : BodyValue RequestCategory := .absent
  urgency : BodyValue RequestUrgency := .absent
  requiredClearance : BodyValue ClearanceLevel := .absent
  managingOrganizationId : Option (Option OrgId) := none
  status : BodyValue RequestStatus := .absent
  tags : Option (Option (List String)) := none
  deriving DecidableEq, Repr

namespace RequestsService

/-! ## Automatic tags -/

/-- `CATEGORY_KEYWORDS` -/
def categoryKeywords : List (String × List String) :=
  [("#Медицина", ["медик", "лікар", "аптека", "ліки", "перев\x27язка", "медична"]),
    ("#Евакуація", ["евакуація", "евакуювати", "вивезти", "виїхати", "перевезти"]),
    ("#Термінова", ["терміново", "критично", "негайно"]),
    ("#Продовольство", ["їжа", "продукти", "харчування", "вода"]),
    ("#Логістика", ["доставка", "перевезення", "транспорт"]),
    ("#Військо", ["армія", "зсу", "підрозділ", "бойовий", "фронт"])]

/-- `CATEGORY_TO_TAG` -/
def categoryToTag : RequestCategory → Option String
  | .medical => some "#Медицина"
  | .evacuation => some "#Евакуація"
  | .logistics => some "#Логістика"
  | .military => some "#Військо"
  | .humanitarian => some "#Гуманітарна"
  | .shelter => some "#Житло"
  | .psychological => some "#Психологічна"
  | .other => none

def autoCategorizeTags (text : String) : List String :=
  let lower := toLowerCase text
  (categoryKeywords.filter fun entry => entry.2.any fun keyword => includes lower keyword).map
    Prod.fst

/-- `[...new Set([...textTags, ...(categoryTag ? [categoryTag] : [])])]` -/
def autoTags (text : String) (category : Option RequestCategory) : List String :=
  (autoCategorizeTags text ++ (category.bind categoryToTag).toList).eraseDups

/-! ## Creating -/

def NewRequestDto.allTags (dto : NewRequestDto) : List String :=
  let automatic := autoTags (dto.title ++ " " ++ dto.description.getD "") dto.category
  if dto.tags = [] then automatic else (automatic ++ dto.tags).eraseDups

def newRequestRow (dto : NewRequestDto) (creator : User) (now : Time) (id : RequestId) :
    Request :=
  { newRequest dto.toCreateRequestDto creator now id with
    tags := some (simpleArrayToString (NewRequestDto.allTags dto))
    latitude := dto.latitude.map tenMillionths
    longitude := dto.longitude.map tenMillionths
    isLocationHidden := dto.isLocationHidden.getD false }

theorem newRequestRow_id (dto : NewRequestDto) (creator : User) (now : Time) (n : Nat) :
    (newRequestRow dto creator now n).id = n := rfl

theorem newRequestRow_managed (dto : NewRequestDto) (creator : User) (now : Time) (n : Nat) :
    (newRequestRow dto creator now n).managingOrganizationId = dto.managingOrganizationId := rfl

theorem autoTask_id (requestId : RequestId) (creator : User) (n : Nat) :
    (autoTask requestId creator n).id = n := rfl

/-- `ST_MakePoint`, where both coordinates are given. -/
def NewRequestDto.location (dto : NewRequestDto) : Option Point := do
  let latitude ← dto.latitude
  let longitude ← dto.longitude
  return ⟨longitude, latitude⟩

def locatedPatch (location : Option Point) : Patch Request.id Request.id where
  run request := { request with exactLocation := location }

/-- Three statements, not one transaction. -/
def createRequest (dto : NewRequestDto) (creator : User) (now : Time) : Service Request := do
  let saved ← insertRequest (newRequestRow dto creator now) (newRequestRow_id dto creator now)
  Prog.exec fun db =>
    { db with
      tasks := db.tasks.append (autoTask saved.id creator) (autoTask_id saved.id creator) }
  Prog.onlyIf (NewRequestDto.location dto ≠ none)
    (Prog.exec fun db =>
      { db with
        requests := db.requests.update (fun request => request.id = saved.id)
          (locatedPatch (NewRequestDto.location dto)) })
  return saved

/-- What `create` answers: the entity it saved. -/
structure CreatedRequest where
  saved : Request
  tags : List String
  deriving DecidableEq, Repr

/-- The column of the tags has a default, so the `INSERT` returns its text, and the ORM sets the
tags of the entity to what it reads there. -/
def createAnswer (dto : NewRequestDto) (creator : User) (now : Time) : Service CreatedRequest := do
  let saved ← createRequest dto creator now
  return ⟨saved, saved.tagList⟩

/-! ## Editing -/

/-- `Object.assign(request, dto)`, or nothing when the database is going to refuse the row. -/
def EditRequestDto.assign (dto : EditRequestDto) (request : Request) : Option Request := do
  let title ← dto.title.over request.title
  let category ← dto.category.over request.category
  let urgency ← dto.urgency.over request.urgency
  let requiredClearance ← dto.requiredClearance.over request.requiredClearance
  let status ← dto.status.over request.status
  return { request with
    title := title
    description := dto.description.getD request.description
    category := category
    urgency := urgency
    requiredClearance := requiredClearance
    managingOrganizationId := dto.managingOrganizationId.getD request.managingOrganizationId
    status := status
    tags := dto.tags.elim request.tags fun given => given.map simpleArrayToString }

/-- What `dto.title || ...` takes of the title. -/
def EditRequestDto.givenTitle (dto : EditRequestDto) : Option String :=
  match dto.title with
  | .value title => truthy (some title)
  | _ => none

def EditRequestDto.givenDescription (dto : EditRequestDto) : Option String :=
  truthy dto.description.join

def EditRequestDto.givenCategory (dto : EditRequestDto) : Option RequestCategory :=
  match dto.category with
  | .value category => some category
  | _ => none

/-- `dto.title || dto.description || dto.category` -/
def EditRequestDto.recategorizes (dto : EditRequestDto) : Bool :=
  (EditRequestDto.givenTitle dto).isSome || (EditRequestDto.givenDescription dto).isSome ||
    (EditRequestDto.givenCategory dto).isSome

/-- The tags of an assigned request, computed anew. -/
def EditRequestDto.allTags (dto : EditRequestDto) (request : Request) : List String :=
  let title := (EditRequestDto.givenTitle dto).getD request.title
  let description :=
    ((EditRequestDto.givenDescription dto).or (truthy request.description)).getD ""
  let category := (EditRequestDto.givenCategory dto).getD request.category
  (autoCategorizeTags (title ++ " " ++ description) ++ (categoryToTag category).toList ++
    dto.tags.join.getD []).eraseDups

/-- The request as `update` saves it. -/
def EditRequestDto.edit (dto : EditRequestDto) (request : Request) : Option Request :=
  (EditRequestDto.assign dto request).map fun assigned =>
    if EditRequestDto.recategorizes dto then
      { assigned with tags := some (simpleArrayToString (EditRequestDto.allTags dto assigned)) }
    else assigned

/-- The coordinates, which the call may set as well, are left out. -/
def editRequest (id : RequestId) (dto : EditRequestDto) (requester : User) : Service Request := do
  let found ← Prog.query fun db =>
    (db.findRequest id).map fun request => (request, loadedAssignments db id)
  let loaded ← Prog.orThrow found (.notFound ("Заявку " ++ toString id ++ " не знайдено"))
  Prog.throwIf (isOwnerOrAdmin loaded.1 requester = false)
    (.forbidden "Немає прав для редагування цієї заявки")
  Prog.throwIf (loaded.2.any TaskAssignment.active = true ∧ requester.systemRole ≠ .admin)
    (.forbidden "Не можна редагувати заявку, яку вже взяли в роботу волонтери.")
  let edited ← Prog.orThrow (EditRequestDto.edit dto loaded.1)
    (.queryFailed "update of table requests violates a constraint")
  saveManaged dto.managingOrganizationId.join edited
  return edited

end RequestsService

end VolunteerApi
