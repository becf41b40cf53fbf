import VolunteerApi.Model.RequestCoordinates
import VolunteerApi.Relational.Evolution

/-!
# Saving a request with what it holds

`update` loads a request with its tasks and their assignments, and `Request.tasks` is declared
with `cascade: true` as `Task.assignments` is: the save writes the held tasks and assignments
back.  Alone that changes nothing, so that `updateRequest` leaves it out; between the statements
of other calls it may overwrite what they have written.
-/

set_option autoImplicit false

namespace VolunteerApi

open Relational Programs

/-- A request as `findOne` returns it with `relations: ['tasks', 'tasks.assignments']`. -/
structure LoadedRequest where
  request : Request
  tasks : List Task
  assignments : List TaskAssignment

def Db.loadRequest (db : Db) (id : RequestId) : Option LoadedRequest :=
  (db.findRequest id).map fun request =>
    { request := request
      tasks := db.tasks.find fun task => task.requestId = id ∧ task.deletedAt = none
      assignments := RequestsService.loadedAssignments db id }

namespace RequestsService

/-- `requestRepository.save(request)` -/
def saveLoaded (given : Option OrgId) (loaded : LoadedRequest) : Service Unit :=
  Prog.execOr (.queryFailed "update on table requests violates foreign key constraint") fun db =>
    if db.hasManager given = true then
      some ({ db with
          requests := db.requests.saveAll [loaded.request]
          tasks := db.tasks.saveAll loaded.tasks
          assignments := db.assignments.saveAll loaded.assignments },
        ())
    else none

def updateCascading (id : RequestId) (dto : LocatedEditDto) (requester : User) :
    Service Request := do
  let found ← Prog.query fun db => db.loadRequest id
  let loaded ← Prog.orThrow found (.notFound ("Заявку " ++ toString id ++ " не знайдено"))
  Prog.throwIf (isOwnerOrAdmin loaded.request requester = false)
    (.forbidden "Немає прав для редагування цієї заявки")
  Prog.throwIf
    (loaded.assignments.any TaskAssignment.active = true ∧ requester.systemRole ≠ .admin)
    (.forbidden "Не можна редагувати заявку, яку вже взяли в роботу волонтери.")
  let saved ← Prog.orThrow (LocatedEditDto.edit dto loaded.request)
    (.queryFailed "update of table requests violates a constraint")
  saveLoaded dto.managingOrganizationId.join { loaded with request := saved }
  Prog.onlyIf (LocatedEditDto.location dto loaded.request ≠ none)
    (Prog.exec fun db =>
      { db with
        requests := db.requests.update (fun request => request.id = id)
          (locatedPatch (LocatedEditDto.location dto loaded.request)) })
  return saved

/-- Alone, the tasks and assignments are saved as they are. -/
theorem run_saveLoaded {db : Db} {id : RequestId} {loaded : LoadedRequest}
    (found : db.loadRequest id = some loaded) (given : Option OrgId) (request : Request) :
    (saveLoaded given { loaded with request := request }).run db =
      (saveManaged given request).run db := by
  obtain ⟨stored, _, rfl⟩ := Option.map_eq_some_iff.mp found
  have assignments : ∀ assignment ∈ loadedAssignments db id, assignment ∈ db.assignments.rows := by
    intro assignment held
    obtain ⟨task, _, ofTask⟩ := List.mem_flatMap.mp held
    exact (Db.mem_assignmentsOf.mp ofTask).1
  simp only [saveLoaded, saveManaged, Prog.run_execOr, Table.saveAll_find,
    Table.saveAll_of_mem assignments]

theorem updateCascading_run (id : RequestId) (dto : LocatedEditDto) (requester : User) (db : Db) :
    (updateCascading id dto requester).run db = (updateRequest id dto requester).run db := by
  simp only [updateCascading, updateRequest, Prog.bind_eq, Prog.pure_eq, Prog.run_query_bind,
    Db.loadRequest, Prog.run_orThrow_bind]
  cases found : db.findRequest id with
  | none => rfl
  | some request =>
      have loads : db.loadRequest id = some
          { request := request
            tasks := db.tasks.find fun task => task.requestId = id ∧ task.deletedAt = none
            assignments := loadedAssignments db id } := by
        rw [Db.loadRequest, found]
        rfl
      simp only [Option.map_some, Prog.run_throwIf_bind, Prog.run_orThrow_bind]
      split
      · rfl
      · split
        · rfl
        · cases LocatedEditDto.edit dto request with
          | none => rfl
          | some saved =>
              have same := run_saveLoaded loads dto.managingOrganizationId.join saved
              simp only [Prog.run_bind (saveLoaded _ _), Prog.run_bind (saveManaged _ _), same]

end RequestsService

end VolunteerApi
