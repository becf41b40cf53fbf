import VolunteerApi.Model.RequestsReading

/-!
# What the reading calls answer

One lemma for each way to an answer: when the call ends in a result, and which
rows the result holds.
-/

set_option autoImplicit false

namespace VolunteerApi

open Relational Programs
open RequestsService RequestsController

variable {pg : Postgres} {db : Db} {user : User} {response : Response}

/-- The viewers that `checkClearanceAccess` lets through. -/
def MayView (user : User) (request : Request) : Prop :=
  user.systemRole = .admin ∨ user.systemRole = .coordinator ∨
    request.requiredClearance.rank ≤ user.clearanceLevel.rank

@[simp] theorem run_refusable_iff {α : Type} {read : Db → Option α} {value : α} :
    ((refusable read).run db).1 = .ok value ↔ read db = some value := by
  simp only [refusable, Prog.bind_eq, Prog.run_query_bind, Prog.run_orThrow]
  cases read db <;> simp

@[simp] theorem run_refusable_bind_iff {α β : Type} {read : Db → Option α}
    {next : α → Service β} {result : β} :
    (((refusable read).bind next).run db).1 = .ok result ↔
      ∃ value, read db = some value ∧ ((next value).run db).1 = .ok result := by
  simp only [refusable, Prog.bind_eq, Prog.bind_assoc, Prog.run_query_bind, Prog.run_orThrow_bind]
  cases read db <;> simp

theorem findOne_answers_iff (id : RequestId) :
    ReadOp.run pg db user (.findOne id) = .ok response ↔
      ∃ request, db.findRequest id = some request ∧ MayView user request ∧
        ⟨[request], db.liveTasks id⟩ = response := by
  simp only [ReadOp.run, findOne, checkClearanceAccess, Prog.bind_eq, Prog.pure_eq,
    Prog.run_query_bind, Prog.run_orThrow_bind]
  cases db.findRequest id with
  | none => simp
  | some request =>
      simp only [Option.map_some, Prog.run_throwIf_bind, Prog.run_ret, Option.some.injEq,
        exists_eq_left']
      split
      · rename_i refused
        obtain ⟨notAdmin, notCoordinator, below⟩ := refused
        have mayNot : ¬ MayView user request := by
          simp [MayView, notAdmin, notCoordinator, below]
        simp [mayNot]
      · rename_i passes
        have may : MayView user request := by
          by_contra out
          simp only [MayView, not_or, Nat.not_le] at out
          exact passes out
        simp [may]

theorem findById_answers_iff (taskId : TaskId) :
    ReadOp.run pg db user (.findById taskId) = .ok response ↔
      ∃ task, db.findTask taskId = some task ∧
        ⟨(db.findRequest task.requestId).toList, [task]⟩ = response := by
  simp only [ReadOp.run, TasksService.findById, Prog.bind_eq, Prog.pure_eq, Prog.run_query_bind,
    Prog.run_orThrow_bind]
  cases db.findTask taskId <;> simp

theorem findByRequest_answers_iff (requestId : RequestId) :
    ReadOp.run pg db user (.findByRequest requestId) = .ok response ↔
      ⟨[], pg.byPriority.run (db.liveTasks requestId)⟩ = response := by
  simp [ReadOp.run, TasksService.findByRequest]

theorem getSavedRequests_answers_iff (limit offset : Option QueryNumber) :
    ReadOp.run pg db user (.getSavedRequests limit offset) = .ok response ↔
      ∃ page, savedPage limit offset = some page ∧
        ⟨(page.of (savedOf pg user.id db)).filterMap fun saved => db.findRequest saved.requestId,
          []⟩ = response := by
  simp only [ReadOp.run, getSavedRequests, run_refusable_iff, Option.map_eq_some_iff]

/-! ## `findAll` -/

theorem ownRequests_answers_iff (query : FindRequestsQuery)
    (requester : user.systemRole = .requester) :
    ReadOp.run pg db user (.findAll query) = .ok response ↔
      ∃ page, typeormPage (parsedOr 20 query.limit) (parsedOr 0 query.offset) = some page ∧
        ⟨page.of (ownRequests pg user.id db), (page.of (ownRequests pg user.id db)).flatMap
          fun request => db.liveTasks request.id⟩ = response := by
  simp only [ReadOp.run, findAll, if_pos requester, getMyRequests, run_refusable_iff,
    Option.map_eq_some_iff]

/-- With a place and a radius, `findAll` sorts by the distance. -/
theorem nearestRequests_answers_iff (query : FindRequestsQuery)
    (other : user.systemRole ≠ .requester) {lat lng : Float} (geo : useGeo query = true)
    (latitude : query.latitude = some lat) (longitude : query.longitude = some lng) :
    ReadOp.run pg db user (.findAll query) = .ok response ↔
      ∃ page, sqlPage (parsedOr 20 query.limit) (parsedOr 0 query.offset) = some page ∧
        ⟨page.of (nearestRequests pg lat lng db), []⟩ = response := by
  simp only [ReadOp.run, findAll, if_neg other, getRequestsWithPriority, priorityParams, if_pos geo,
    latitude, longitude, Prog.bind_eq, Prog.pure_eq, run_refusable_bind_iff, Prog.run_ret]
  simp

/-- Without them, it filters. -/
theorem filteredRequests_answers (query : FindRequestsQuery)
    (other : user.systemRole ≠ .requester) (plain : useGeo query = false)
    (answers : ReadOp.run pg db user (.findAll query) = .ok response) :
    ∃ page : Page,
      ⟨page.of (filteredRequests pg (priorityParams query user) db), []⟩ = response := by
  have lat : (priorityParams query user).userLat = none := by simp [priorityParams, plain]
  simp only [ReadOp.run, findAll, if_neg other, getRequestsWithPriority, lat, Prog.bind_eq,
    Prog.pure_eq, run_refusable_bind_iff, Prog.run_ret] at answers
  obtain ⟨requests, found, same⟩ := answers
  split at found
  · obtain ⟨page, _, rfl⟩ := Option.map_eq_some_iff.mp found
    exact ⟨page, by simpa using same⟩
  · cases found

end VolunteerApi
