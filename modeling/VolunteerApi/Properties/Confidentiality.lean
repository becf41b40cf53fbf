import VolunteerApi.Effects.ReadingOutcomes
import VolunteerApi.Model.System

/-!
# Who gets to see a request

A request names the clearance level its readers need.  `findOne` checks it, the
filtered list selects by it, and a requester gets nothing but own requests.  The
list sorted by distance, the saved requests and both reads of tasks do not look
at it.
-/

set_option autoImplicit false

namespace VolunteerApi

open Relational Programs
open RequestsService RequestsController

/-- The user may see the request. -/
def Cleared (user : User) (request : Request) : Prop :=
  request.requiredClearance.rank ≤ user.clearanceLevel.rank ∨ user.systemRole = .admin ∨
    user.systemRole = .coordinator ∨ request.creatorId = user.id

/-- The user may see the request with this number, deleted or not. -/
def ClearedFor (db : Db) (user : User) (requestId : RequestId) : Prop :=
  ∀ request ∈ db.requests.rows, request.id = requestId → Cleared user request

/-- Every request of the response, and every request that one of its tasks belongs to, is
for the user. -/
structure Confidential (db : Db) (user : User) (response : Response) : Prop where
  requests : ∀ request ∈ response.requests, Cleared user request
  tasks : ∀ task ∈ response.tasks, ClearedFor db user task.requestId

def FindRequestsQuery.onPage (query : FindRequestsQuery) (limit offset : Option QueryNumber) :
    FindRequestsQuery :=
  { query with limit := limit, offset := offset }

/-- The same call for another page. -/
def ReadOp.onPage (limit offset : Option QueryNumber) : ReadOp → ReadOp
  | .findAll query => .findAll (query.onPage limit offset)
  | .getSavedRequests _ _ => .getSavedRequests limit offset
  | op => op

/-- What the call answers the user, if it does, is for the user, on whatever page. -/
def KeepsClearance (pg : Postgres) (db : Db) (user : User) (op : ReadOp) : Prop :=
  ∀ limit offset response, (op.onPage limit offset).run pg db user = .ok response →
    Confidential db user response

/-- The stored rows that a call finds without a look at the level are for the user. -/
def UncheckedCleared (db : Db) (user : User) : ReadOp → Prop
  | .findAll query =>
      user.systemRole ≠ .requester → useGeo query = true →
        ∀ request ∈ db.requests.rows, request.deletedAt = none → Cleared user request
  | .findOne _ => True
  | .getSavedRequests _ _ =>
      ∀ saved ∈ db.savedRequests.rows, saved.userId = user.id →
        ∀ request, db.findRequest saved.requestId = some request → Cleared user request
  | .findById taskId => ∀ task, db.findTask taskId = some task → ClearedFor db user task.requestId
  | .findByRequest requestId => db.liveTasks requestId ≠ [] → ClearedFor db user requestId

variable {pg : Postgres} {db : Db} {user : User}

/-! ## Rows and their requests -/

theorem clearedFor_of_mem {request : Request} (member : request ∈ db.requests.rows)
    (cleared : Cleared user request) : ClearedFor db user request.id := by
  intro other otherMember same
  rw [Table.eq_of_key otherMember member same]
  exact cleared

theorem cleared_of_mayView {request : Request} (may : MayView user request) :
    Cleared user request := by
  rcases may with admin | coordinator | level
  · exact Or.inr (Or.inl admin)
  · exact Or.inr (Or.inr (Or.inl coordinator))
  · exact Or.inl level

theorem confidential_requests {requests : List Request} :
    Confidential db user ⟨requests, []⟩ ↔ ∀ request ∈ requests, Cleared user request := by
  constructor
  · exact fun confidential => confidential.requests
  · intro all
    exact ⟨all, by simp⟩

theorem confidential_withTasks {requests : List Request} {tasks : List Task}
    (stored : ∀ request ∈ requests, request ∈ db.requests.rows)
    (all : ∀ request ∈ requests, Cleared user request)
    (parts : ∀ task ∈ tasks, ∃ request ∈ requests, task.requestId = request.id) :
    Confidential db user ⟨requests, tasks⟩ := by
  refine ⟨all, ?_⟩
  intro task member
  obtain ⟨request, listed, same⟩ := parts task member
  rw [same]
  exact clearedFor_of_mem (stored request listed) (all request listed)

/-! ## The calls that check -/

theorem keepsClearance_findOne (id : RequestId) : KeepsClearance pg db user (.findOne id) := by
  intro _ _ response answers
  obtain ⟨request, found, may, rfl⟩ := (findOne_answers_iff id).mp answers
  obtain ⟨member, sameId, _⟩ := Db.findRequest_some found
  apply confidential_withTasks
  · simpa using member
  · simpa using cleared_of_mayView may
  · intro task listed
    obtain ⟨_, sameRequest, _⟩ := Db.mem_liveTasks.mp listed
    exact ⟨request, by simp, sameRequest.trans sameId.symm⟩

theorem mem_ownRequests {request : Request} :
    request ∈ ownRequests pg user.id db ↔
      request ∈ db.requests.rows ∧ request.creatorId = user.id ∧ request.deletedAt = none := by
  simp [ownRequests]

theorem keepsClearance_ownRequests (query : FindRequestsQuery)
    (requester : user.systemRole = .requester) : KeepsClearance pg db user (.findAll query) := by
  intro limit offset response answers
  obtain ⟨page, _, rfl⟩ :=
    (ownRequests_answers_iff (query.onPage limit offset) requester).mp answers
  apply confidential_withTasks
  · intro request listed
    exact (mem_ownRequests.mp (Page.mem_of listed)).1
  · intro request listed
    exact Or.inr (Or.inr (Or.inr (mem_ownRequests.mp (Page.mem_of listed)).2.1))
  · intro task listed
    obtain ⟨request, requestListed, loaded⟩ := List.mem_flatMap.mp listed
    exact ⟨request, requestListed, (Db.mem_liveTasks.mp loaded).2.1⟩

theorem cleared_of_filtered {query : FindRequestsQuery} {request : Request}
    (listed : request ∈ filteredRequests pg (priorityParams query user) db) :
    Cleared user request := by
  simp only [filteredRequests, OrderBy.mem_run, Table.mem_find, whereClauses,
    decide_eq_true_eq] at listed
  obtain ⟨_, _, _, _, _, _, _, _, _, readable⟩ := listed
  rcases readable with admin | level
  · exact Or.inr (Or.inl admin)
  · exact Or.inl level

theorem keepsClearance_filtered (query : FindRequestsQuery)
    (other : user.systemRole ≠ .requester) (plain : useGeo query = false) :
    KeepsClearance pg db user (.findAll query) := by
  intro limit offset response answers
  obtain ⟨page, rfl⟩ :=
    filteredRequests_answers (query.onPage limit offset) other plain answers
  apply confidential_requests.mpr
  intro request listed
  exact cleared_of_filtered (Page.mem_of listed)

/-! ## The calls that do not -/

theorem mem_nearestRequests {lat lng : Float} {request : Request} :
    request ∈ nearestRequests pg lat lng db ↔
      request ∈ db.requests.rows ∧ request.deletedAt = none := by
  simp [nearestRequests]

theorem mem_savedOf {saved : SavedRequest} :
    saved ∈ savedOf pg user.id db ↔ saved ∈ db.savedRequests.rows ∧ saved.userId = user.id := by
  simp [savedOf]

/-- The `limit` that takes in so many rows. -/
def QueryNumber.ofNat (number : Nat) : QueryNumber :=
  .other (some (.ofNat number)) (some (.ofNat number))

theorem mem_wholePage {Row : Type} {rows : List Row} {row : Row} (listed : row ∈ rows) :
    row ∈ (Page.mk (some rows.length) 0).of rows := by
  simpa [Page.of] using listed

/-- Every request that is not deleted is on some page by distance. -/
theorem nearestPage_answers (query : FindRequestsQuery) (other : user.systemRole ≠ .requester)
    (geo : useGeo query = true) {request : Request} (stored : request ∈ db.requests.rows)
    (live : request.deletedAt = none) :
    ∃ limit response,
      ReadOp.run pg db user (.findAll (query.onPage limit (some .zero))) = .ok response ∧
        request ∈ response.requests := by
  have given := geo
  simp only [useGeo, decide_eq_true_eq, Option.isSome_iff_exists] at given
  obtain ⟨⟨lat, latitude⟩, ⟨lng, longitude⟩, _⟩ := given
  have nearest : request ∈ nearestRequests pg lat lng db := mem_nearestRequests.mpr ⟨stored, live⟩
  refine ⟨some (.ofNat (nearestRequests pg lat lng db).length), ⟨_, []⟩, ?_,
    mem_wholePage nearest⟩
  exact (nearestRequests_answers_iff
    (query.onPage (some (.ofNat (nearestRequests pg lat lng db).length)) (some .zero))
    other geo latitude longitude).mpr ⟨_, rfl, rfl⟩

theorem nearestPage_live (query : FindRequestsQuery) (other : user.systemRole ≠ .requester)
    (geo : useGeo query = true) {response : Response}
    (answers : ReadOp.run pg db user (.findAll query) = .ok response) :
    response.tasks = [] ∧ ∀ request ∈ response.requests,
      request ∈ db.requests.rows ∧ request.deletedAt = none := by
  have given := geo
  simp only [useGeo, decide_eq_true_eq, Option.isSome_iff_exists] at given
  obtain ⟨⟨lat, latitude⟩, ⟨lng, longitude⟩, _⟩ := given
  obtain ⟨page, _, rfl⟩ :=
    (nearestRequests_answers_iff query other geo latitude longitude).mp answers
  exact ⟨rfl, fun request listed => mem_nearestRequests.mp (Page.mem_of listed)⟩

theorem keepsClearance_nearest_iff (query : FindRequestsQuery)
    (other : user.systemRole ≠ .requester) (geo : useGeo query = true) :
    KeepsClearance pg db user (.findAll query) ↔ UncheckedCleared db user (.findAll query) := by
  constructor
  · intro keeps _ _ request stored live
    obtain ⟨limit, response, answers, listed⟩ :=
      @nearestPage_answers pg db user query other geo request stored live
    exact (keeps limit (some .zero) response answers).requests request listed
  · intro cleared limit offset response answers
    obtain ⟨none_, found⟩ := nearestPage_live (query.onPage limit offset) other geo answers
    obtain ⟨requests, tasks⟩ := response
    obtain rfl : tasks = [] := none_
    apply confidential_requests.mpr
    intro request listed
    obtain ⟨stored, live⟩ := found request listed
    exact cleared other geo request stored live

theorem keepsClearance_findAll_iff (query : FindRequestsQuery) :
    KeepsClearance pg db user (.findAll query) ↔ UncheckedCleared db user (.findAll query) := by
  by_cases requester : user.systemRole = .requester
  · refine iff_of_true (keepsClearance_ownRequests query requester) ?_
    intro other
    exact absurd requester other
  · cases geo : useGeo query with
    | true => exact keepsClearance_nearest_iff query requester geo
    | false =>
        refine iff_of_true (keepsClearance_filtered query requester geo) ?_
        intro _ given
        rw [geo] at given
        cases given

theorem keepsClearance_saved_iff (limit offset : Option QueryNumber) :
    KeepsClearance pg db user (.getSavedRequests limit offset) ↔
      UncheckedCleared db user (.getSavedRequests limit offset) := by
  constructor
  · intro keeps saved stored own request found
    have inside : saved ∈ savedOf pg user.id db := mem_savedOf.mpr ⟨stored, own⟩
    have all := mem_wholePage inside
    have confidential := keeps (some (.ofNat (savedOf pg user.id db).length)) (some .zero) _
      ((getSavedRequests_answers_iff _ _).mpr ⟨_, rfl, rfl⟩)
    exact confidential.requests request (List.mem_filterMap.mpr ⟨saved, all, found⟩)
  · intro cleared _ _ response answers
    obtain ⟨page, paged, rfl⟩ := (getSavedRequests_answers_iff _ _).mp answers
    apply confidential_requests.mpr
    intro request listed
    obtain ⟨saved, savedListed, found⟩ := List.mem_filterMap.mp listed
    obtain ⟨stored, own⟩ := mem_savedOf.mp (Page.mem_of savedListed)
    exact cleared saved stored own request found

theorem keepsClearance_findById_iff (taskId : TaskId) :
    KeepsClearance pg db user (.findById taskId) ↔
      UncheckedCleared db user (.findById taskId) := by
  constructor
  · intro keeps task found
    have confidential := keeps none none _ ((findById_answers_iff taskId).mpr ⟨task, found, rfl⟩)
    exact confidential.tasks task (by simp)
  · intro cleared _ _ response answers
    obtain ⟨task, found, rfl⟩ := (findById_answers_iff taskId).mp answers
    have clearedFor := cleared task found
    refine ⟨?_, by simpa using clearedFor⟩
    intro request listed
    obtain ⟨member, sameId, _⟩ := Db.findRequest_some (Option.mem_toList.mp listed)
    exact clearedFor request member sameId

theorem keepsClearance_findByRequest_iff (requestId : RequestId) :
    KeepsClearance pg db user (.findByRequest requestId) ↔
      UncheckedCleared db user (.findByRequest requestId) := by
  constructor
  · intro keeps some
    obtain ⟨task, loaded⟩ := List.exists_mem_of_ne_nil _ some
    have confidential := keeps none none _ ((findByRequest_answers_iff requestId).mpr rfl)
    have clearedFor := confidential.tasks task (by simpa using loaded)
    rwa [(Db.mem_liveTasks.mp loaded).2.1] at clearedFor
  · intro cleared _ _ response answers
    rw [← (findByRequest_answers_iff requestId).mp answers]
    refine ⟨by simp, ?_⟩
    intro task listed
    have loaded : task ∈ db.liveTasks requestId := by simpa using listed
    rw [(Db.mem_liveTasks.mp loaded).2.1]
    exact cleared (List.ne_nil_of_mem loaded)

/-- Whatever was saved before, a read shows the user on its pages only what the user may see,
exactly when the stored rows that it does not check are such. -/
theorem keepsClearance_iff (pg : Postgres) (db : Db) (saves : List SaveCall) (user : User)
    (op : ReadOp) :
    KeepsClearance pg (execute SaveCall.step db saves) user op ↔
      UncheckedCleared (execute SaveCall.step db saves) user op := by
  cases op with
  | findAll query => exact keepsClearance_findAll_iff query
  | findOne id => exact iff_of_true (keepsClearance_findOne id) trivial
  | getSavedRequests limit offset => exact keepsClearance_saved_iff limit offset
  | findById taskId => exact keepsClearance_findById_iff taskId
  | findByRequest requestId => exact keepsClearance_findByRequest_iff requestId

/-- A server that finds whole texts only. -/
def examplePostgres : Postgres where
  ilike text pattern := pattern = "%" ++ text ++ "%"
  byCreation := .descending Request.createdAt
  bySaving := .descending SavedRequest.savedAt
  byDistance _ _ := .asStored
  byPriority := .asStored

/-- A `LOCAL` volunteer gets the tasks of a `FRONTLINE` request, one of them by its number,
and the request itself after saving it. -/
theorem keepsClearance_fails :
    ¬ KeepsClearance examplePostgres (exampleBoard .frontline) firstVolunteer (.findByRequest 0) ∧
      ¬ KeepsClearance examplePostgres (exampleBoard .frontline) firstVolunteer (.findById 0) ∧
      ¬ KeepsClearance examplePostgres
        (execute SaveCall.step (exampleBoard .frontline) [⟨0, 1, 0⟩]) firstVolunteer
        (.getSavedRequests none none) := by
  have notCleared : ¬ Cleared firstVolunteer (exampleRequest .frontline) := by
    unfold Cleared
    decide
  refine ⟨?_, ?_, ?_⟩
  · intro keeps
    have confidential := keeps none none _ rfl
    exact notCleared (confidential.tasks _ List.mem_cons_self _ List.mem_cons_self rfl)
  · intro keeps
    have confidential := keeps none none _ rfl
    exact notCleared (confidential.tasks _ List.mem_cons_self _ List.mem_cons_self rfl)
  · intro keeps
    have confidential := keeps none none _ rfl
    exact notCleared (confidential.requests _ List.mem_cons_self)

end VolunteerApi
