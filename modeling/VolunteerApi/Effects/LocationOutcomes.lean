import VolunteerApi.Effects.ReadingOutcomes
import VolunteerApi.Model.LocationReading

/-!
# Which requests a call answers with

A call that answers with locations lists some stored requests and shows each of them in one
way.
-/

set_option autoImplicit false

namespace VolunteerApi

open Relational Programs
open RequestsService OrganizationsService

/-- What `ensureMemberOrAdmin` asks for. -/
def MemberOrAdmin (db : Db) (organizationId : OrgId) (user : User) : Prop :=
  user.systemRole = .admin ∨ ∃ member ∈ db.members.rows,
    member.organizationId = organizationId ∧ member.userId = user.id ∧ member.isActive = true

/-- The organization manages the request, or a task of the request was delegated to it. -/
def ServedBy (db : Db) (organizationId : OrgId) (request : Request) : Prop :=
  request ∈ db.requests.rows ∧ request.deletedAt = none ∧
    (request.managingOrganizationId = some organizationId ∨
      ∃ delegation ∈ db.delegations.rows, delegation.organizationId = organizationId ∧
        ∃ task, db.findTask delegation.taskId = some task ∧ task.requestId = request.id)

section Listed

variable (pg : Postgres) (byNews : OrderBy fun _ _ : TaskDelegation => True) (db : Db)
  (viewer : User)

/-- The rows of `getRequestsWithPriority`, as far as the parameters can be read. -/
def selectedRequests (params : PriorityParams) : Option (List Request) :=
  match params.userLat, params.userLng with
  | some lat, some lng =>
      (sqlPage params.limit params.offset).map fun page => page.of (nearestRequests pg lat lng db)
  | _, _ =>
      if params.readable then
        (sqlPage params.limit params.offset).map fun page =>
          page.of (filteredRequests pg params db)
      else none

def savedRequestRows (limit offset : Option QueryNumber) : Option (List Request) :=
  (savedPage limit offset).map fun page =>
    (page.of (savedOf pg viewer.id db)).filterMap fun saved => db.findRequest saved.requestId

def organizationRows (organizationId : OrgId) : List Request :=
  (mergedRequests (managedRequests pg organizationId db)
    (delegatedTasks byNews organizationId db)).map OrganizationRequest.request

namespace LocationOp

/-- The call answers with these rows. -/
def Lists (rows : List Request) : LocationOp → Prop
  | .findOne id => ∃ request, db.findRequest id = some request ∧ MayView viewer request ∧
      rows = [request]
  | .getRequestsWithPriority params => selectedRequests pg db params = some rows
  | .getSavedRequests limit offset => savedRequestRows pg db viewer limit offset = some rows
  | .findById taskId => ∃ task, db.findTask taskId = some task ∧
      rows = (db.findRequest task.requestId).toList
  | .getOrganizationRequests organizationId => MemberOrAdmin db organizationId viewer ∧
      rows = organizationRows pg byNews db organizationId

def view (env : LocationEnv) : LocationOp → Request → RequestView
  | .findOne _ => fun request => obfuscateLocation env request viewer
  | .getRequestsWithPriority _ => selectedView
  | _ => entityView

end LocationOp

end Listed

section Answers

variable {pg : Postgres} {byNews : OrderBy fun _ _ : TaskDelegation => True} {env : LocationEnv}
  {db : Db} {viewer : User}

theorem run_map_iff {α β : Type} (call : Service α) (shown : α → β) (value : β) :
    ((call.bind fun found => Prog.ret (shown found)).run db).1 = .ok value ↔
      ∃ found, (call.run db).1 = .ok found ∧ shown found = value := by
  rw [Prog.run_bind]
  rcases call.run db with ⟨_ | _, _⟩ <;> simp

theorem getRequestsWithPriority_answers_iff (params : PriorityParams) {response : Response} :
    ((getRequestsWithPriority pg params).run db).1 = .ok response ↔
      ∃ rows, selectedRequests pg db params = some rows ∧ ⟨rows, []⟩ = response := by
  cases lat : params.userLat <;> cases lng : params.userLng <;>
    simp only [getRequestsWithPriority, selectedRequests, lat, lng, Prog.bind_eq, Prog.pure_eq,
      run_refusable_bind_iff, Prog.run_ret, Except.ok.injEq]

theorem selectedRequests_stored {params : PriorityParams} {rows : List Request}
    (selected : selectedRequests pg db params = some rows) :
    ∀ request ∈ rows, request ∈ db.requests.rows := by
  intro request member
  unfold selectedRequests at selected
  split at selected
  · obtain ⟨page, _, rfl⟩ := Option.map_eq_some_iff.mp selected
    have nearest := Page.mem_of member
    simp only [nearestRequests, OrderBy.mem_run, Table.mem_find] at nearest
    exact nearest.1
  · split at selected
    · obtain ⟨page, _, rfl⟩ := Option.map_eq_some_iff.mp selected
      have filtered := Page.mem_of member
      simp only [filteredRequests, OrderBy.mem_run, Table.mem_find] at filtered
      exact filtered.1
    · cases selected

theorem memberOrAdmin_iff (organizationId : OrgId) (user : User) :
    MemberOrAdmin db organizationId user ↔ ¬ (user.systemRole ≠ .admin ∧
      (db.members.findOne fun member => decide (member.organizationId = organizationId ∧
        member.userId = user.id ∧ member.isActive = true)) = none) := by
  rw [Table.findOne_none]
  simp only [MemberOrAdmin, decide_eq_false_iff_not]
  constructor
  · rintro (admin | ⟨member, stored, found⟩) ⟨notAdmin, missing⟩
    · exact notAdmin admin
    · exact missing member stored found
  · intro passes
    by_contra neither
    obtain ⟨notAdmin, nobody⟩ := not_or.mp neither
    exact passes ⟨notAdmin, fun member stored found => nobody ⟨member, stored, found⟩⟩

theorem ensureMemberOrAdmin_bind_iff {α : Type} (organizationId : OrgId) (user : User)
    (next : Service α) (value : α) :
    (((ensureMemberOrAdmin organizationId user).bind fun _ => next).run db).1 = .ok value ↔
      MemberOrAdmin db organizationId user ∧ (next.run db).1 = .ok value := by
  rw [memberOrAdmin_iff, ensureMemberOrAdmin, Prog.bind_eq, Prog.bind_assoc, Prog.run_query_bind,
    Prog.run_throwIf_bind]
  split
  · next refused =>
    refine iff_of_false (by simp) ?_
    rintro ⟨passes, _⟩
    exact passes refused
  · next passes => exact (and_iff_right passes).symm

theorem getOrganizationRequests_answers_iff (organizationId : OrgId) (user : User)
    (rows : List OrganizationRequest) :
    ((getOrganizationRequests pg byNews organizationId user).run db).1 = .ok rows ↔
      MemberOrAdmin db organizationId user ∧
        mergedRequests (managedRequests pg organizationId db)
          (delegatedTasks byNews organizationId db) = rows := by
  simp only [getOrganizationRequests, getOrganizationTasks, Prog.bind_eq, Prog.pure_eq,
    ensureMemberOrAdmin_bind_iff, Prog.run_query_bind, Prog.bind_assoc, Prog.run_ret,
    Except.ok.injEq, and_self_left]

/-- A call answers with the rows it lists, each shown its way. -/
theorem answers_iff (op : LocationOp) (views : List RequestView) :
    op.run pg byNews env db viewer = .ok views ↔
      ∃ rows, op.Lists pg byNews db viewer rows ∧ rows.map (op.view viewer env) = views := by
  cases op with
  | findOne id =>
      have answers := @findOne_answers_iff pg db viewer
      simp only [ReadOp.run] at answers
      simp only [LocationOp.run, findOneView, Prog.bind_eq, Prog.pure_eq, run_map_iff, answers,
        LocationOp.Lists]
      constructor
      · rintro ⟨_, ⟨request, found, may, rfl⟩, rfl⟩
        exact ⟨_, ⟨request, found, may, rfl⟩, rfl⟩
      · rintro ⟨_, ⟨request, found, may, rfl⟩, rfl⟩
        exact ⟨_, ⟨request, found, may, rfl⟩, rfl⟩
  | getRequestsWithPriority params =>
      simp only [LocationOp.run, getRequestsWithPriorityView, Prog.bind_eq, Prog.pure_eq,
        run_map_iff, getRequestsWithPriority_answers_iff, LocationOp.Lists]
      constructor
      · rintro ⟨_, ⟨rows, selected, rfl⟩, rfl⟩
        exact ⟨rows, selected, rfl⟩
      · rintro ⟨rows, selected, rfl⟩
        exact ⟨_, ⟨rows, selected, rfl⟩, rfl⟩
  | getSavedRequests limit offset =>
      have answers := @getSavedRequests_answers_iff pg db viewer
      simp only [ReadOp.run] at answers
      simp only [LocationOp.run, getSavedRequestsView, Prog.bind_eq, Prog.pure_eq, run_map_iff,
        answers, LocationOp.Lists, savedRequestRows, Option.map_eq_some_iff]
      constructor
      · rintro ⟨_, ⟨page, paged, rfl⟩, rfl⟩
        exact ⟨_, ⟨page, paged, rfl⟩, rfl⟩
      · rintro ⟨_, ⟨page, paged, rfl⟩, rfl⟩
        exact ⟨_, ⟨page, paged, rfl⟩, rfl⟩
  | findById taskId =>
      have answers := @findById_answers_iff pg db viewer
      simp only [ReadOp.run] at answers
      simp only [LocationOp.run, TasksService.findByIdView, Prog.bind_eq, Prog.pure_eq,
        run_map_iff, answers, LocationOp.Lists]
      constructor
      · rintro ⟨_, ⟨task, found, rfl⟩, rfl⟩
        exact ⟨_, ⟨task, found, rfl⟩, rfl⟩
      · rintro ⟨_, ⟨task, found, rfl⟩, rfl⟩
        exact ⟨_, ⟨task, found, rfl⟩, rfl⟩
  | getOrganizationRequests organizationId =>
      simp only [LocationOp.run, getOrganizationRequestsView, Prog.bind_eq, Prog.pure_eq,
        run_map_iff, getOrganizationRequests_answers_iff, LocationOp.Lists]
      constructor
      · rintro ⟨_, ⟨may, rfl⟩, rfl⟩
        refine ⟨_, ⟨may, rfl⟩, ?_⟩
        rw [organizationRows, List.map_map]
        rfl
      · rintro ⟨_, ⟨may, rfl⟩, rfl⟩
        refine ⟨_, ⟨may, rfl⟩, ?_⟩
        rw [organizationRows, List.map_map]
        rfl

/-! ## The rows -/

theorem mem_managedRequests (organizationId : OrgId) (row : OrganizationRequest) :
    row ∈ managedRequests pg organizationId db ↔
      (row.request ∈ db.requests.rows ∧ row.request.managingOrganizationId = some organizationId ∧
        row.request.deletedAt = none) ∧ row.tasks = some (db.liveTasks row.request.id) := by
  simp only [managedRequests, List.mem_map, OrderBy.mem_run, Table.mem_find, decide_eq_true_eq]
  constructor
  · rintro ⟨request, managed, rfl⟩
    exact ⟨managed, rfl⟩
  · rintro ⟨managed, tasks⟩
    exact ⟨row.request, managed, by rw [← tasks]⟩

theorem mem_delegatedRequests (organizationId : OrgId) (row : OrganizationRequest) :
    row ∈ (delegatedTasks byNews organizationId db).filterMap requestOf ↔
      (∃ delegation ∈ db.delegations.rows, delegation.organizationId = organizationId ∧
        ∃ task, db.findTask delegation.taskId = some task ∧
          db.findRequest task.requestId = some row.request) ∧ row.tasks = none := by
  simp only [delegatedTasks, requestOf, List.mem_filterMap, OrderBy.mem_run, Table.mem_find,
    decide_eq_true_eq, Option.map_eq_some_iff]
  constructor
  · rintro ⟨_, ⟨delegation, ⟨stored, here⟩, task, found, rfl⟩, request, loaded, rfl⟩
    exact ⟨⟨delegation, stored, here, task, found, loaded⟩, rfl⟩
  · rintro ⟨⟨delegation, stored, here, task, found, loaded⟩, tasks⟩
    exact ⟨_, ⟨delegation, ⟨stored, here⟩, task, found, rfl⟩, row.request, loaded, by rw [← tasks]⟩

/-- Whatever the map keeps and the sort does, every request is there. -/
theorem mem_organizationRows (organizationId : OrgId) (request : Request) :
    request ∈ organizationRows pg byNews db organizationId ↔
      ServedBy db organizationId request := by
  have stored : ∀ row ∈ managedRequests pg organizationId db ++
      (delegatedTasks byNews organizationId db).filterMap requestOf,
        row.request ∈ db.requests.rows := by
    intro row member
    rcases List.mem_append.mp member with managed | delegated
    · exact ((mem_managedRequests organizationId row).mp managed).1.1
    · obtain ⟨⟨_, _, _, _, _, loaded⟩, _⟩ := (mem_delegatedRequests organizationId row).mp delegated
      exact (Db.findRequest_some loaded).1
  have kept : request ∈ organizationRows pg byNews db organizationId ↔
      ∃ row ∈ managedRequests pg organizationId db ++
        (delegatedTasks byNews organizationId db).filterMap requestOf, row.request = request := by
    have decided : ∀ left right : OrganizationRequest, left.request ∈ db.requests.rows →
        right.request ∈ db.requests.rows → left.request.id = right.request.id →
          left.request = right.request := fun _ _ => Table.eq_of_key
    have nothingYet : ∀ row ∈ ([] : List OrganizationRequest), row.request ∈ db.requests.rows := by
      intro row member
      cases member
    have folded := image_mem_foldl_setKey decided stored nothingYet request
    simp only [List.map_nil, List.not_mem_nil, false_or, List.mem_map] at folded
    simp only [organizationRows, mergedRequests, List.mem_map, List.mem_mergeSort]
    exact folded
  rw [kept]
  constructor
  · rintro ⟨row, member, rfl⟩
    rcases List.mem_append.mp member with managed | delegated
    · obtain ⟨⟨here, manages, live⟩, _⟩ := (mem_managedRequests organizationId row).mp managed
      exact ⟨here, live, Or.inl manages⟩
    · obtain ⟨⟨delegation, known, toOrganization, task, found, loaded⟩, _⟩ :=
        (mem_delegatedRequests organizationId row).mp delegated
      obtain ⟨here, sameId, live⟩ := Db.findRequest_some loaded
      exact ⟨here, live, Or.inr ⟨delegation, known, toOrganization, task, found, sameId.symm⟩⟩
  · rintro ⟨here, live, manages | ⟨delegation, known, toOrganization, task, found, sameId⟩⟩
    · exact ⟨⟨request, some (db.liveTasks request.id)⟩,
        List.mem_append_left _ ((mem_managedRequests organizationId _).mpr
          ⟨⟨here, manages, live⟩, rfl⟩), rfl⟩
    · refine ⟨⟨request, none⟩, List.mem_append_right _
        ((mem_delegatedRequests organizationId _).mpr
          ⟨⟨delegation, known, toOrganization, task, found, ?_⟩, rfl⟩), rfl⟩
      rw [sameId]
      exact Db.findRequest_of_mem here live

end Answers

end VolunteerApi
