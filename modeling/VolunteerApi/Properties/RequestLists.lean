import VolunteerApi.Properties.Confidentiality

/-!
# What the lists of requests hold

With a position, `getRequestsWithPriority` sorts by the distance and leaves it at that: neither
the radius nor any filter of the other branch reaches the query.  And a list may hold what
`findOne` refuses: the requester's own requests, and whatever is near.
-/

set_option autoImplicit false

namespace VolunteerApi

open Relational Programs
open RequestsService RequestsController

/-- `ST_DWithin` on geographies: latitude, longitude and metres, and the stored point. -/
structure PostGis where
  dWithin : Float → Float → Float → Point → Bool

section Search

variable (pg : Postgres) (gis : PostGis) (db : Db) (params : PriorityParams)

namespace PriorityParams

def withPosition (params : PriorityParams) (lat lng : Float) : PriorityParams :=
  { params with userLat := some lat, userLng := some lng }

def withoutPosition (params : PriorityParams) : PriorityParams :=
  { params with userLat := none, userLng := none }

end PriorityParams

/-- Some page holds the request. -/
def Returned (request : Request) : Prop :=
  ∃ limit offset response,
    ((getRequestsWithPriority pg { params with limit := limit, offset := offset }).run db).1 =
      .ok response ∧ request ∈ response.requests

def isNear (lat lng radiusKm : Float) (request : Request) : Bool :=
  request.exactLocation.any fun point => gis.dWithin lat lng (radiusKm * 1000) point

/-- The position restricts what is returned without it to the radius, and does nothing else. -/
def SearchesAlike (lat lng radiusKm : Float) : Prop :=
  ∀ request, Returned pg db (params.withPosition lat lng) request ↔
    Returned pg db params.withoutPosition request ∧ isNear gis lat lng radiusKm request = true

/-- There is nothing the radius or the filters would keep back. -/
def NothingKeptBack (lat lng radiusKm : Float) : Prop :=
  ∀ request ∈ db.requests.rows, request.deletedAt = none →
    params.readable = true ∧ whereClauses pg params request = true ∧
      isNear gis lat lng radiusKm request = true

variable {pg gis db params}

theorem exists_page {rows : List Request} {request : Request} :
    (∃ limit offset page, sqlPage limit offset = some page ∧ request ∈ page.of rows) ↔
      request ∈ rows := by
  constructor
  · rintro ⟨_, _, page, _, listed⟩
    exact Page.mem_of listed
  · intro listed
    refine ⟨some (.ofNat rows.length), some (.ofNat 0), ⟨some rows.length, 0⟩, rfl, ?_⟩
    simpa [Page.of] using listed

theorem position_answers_iff {lat lng : Float} (latitude : params.userLat = some lat)
    (longitude : params.userLng = some lng) {response : Response} :
    ((getRequestsWithPriority pg params).run db).1 = .ok response ↔
      ∃ page, sqlPage params.limit params.offset = some page ∧
        ⟨page.of (nearestRequests pg lat lng db), []⟩ = response := by
  simp only [getRequestsWithPriority, latitude, longitude, Prog.bind_eq, Prog.pure_eq,
    run_refusable_bind_iff, Prog.run_ret]
  simp

theorem plain_answers_iff (latitude : params.userLat = none) {response : Response} :
    ((getRequestsWithPriority pg params).run db).1 = .ok response ↔
      params.readable = true ∧ ∃ page, sqlPage params.limit params.offset = some page ∧
        ⟨page.of (filteredRequests pg params db), []⟩ = response := by
  simp only [getRequestsWithPriority, latitude, Prog.bind_eq, Prog.pure_eq,
    run_refusable_bind_iff, Prog.run_ret, Option.ite_none_right_eq_some, Option.map_eq_some_iff]
  constructor
  · rintro ⟨_, ⟨readable, page, paged, rfl⟩, ⟨⟩⟩
    exact ⟨readable, page, paged, rfl⟩
  · rintro ⟨readable, page, paged, rfl⟩
    exact ⟨_, ⟨readable, page, paged, rfl⟩, rfl⟩

theorem returned_withPosition (lat lng : Float) {request : Request} :
    Returned pg db (params.withPosition lat lng) request ↔
      request ∈ db.requests.rows ∧ request.deletedAt = none := by
  have nearest : request ∈ nearestRequests pg lat lng db ↔
      request ∈ db.requests.rows ∧ request.deletedAt = none := by
    simp [nearestRequests]
  rw [← nearest, ← exists_page]
  constructor
  · rintro ⟨limit, offset, response, answers, listed⟩
    obtain ⟨page, paged, rfl⟩ := (position_answers_iff rfl rfl).mp answers
    exact ⟨limit, offset, page, paged, listed⟩
  · rintro ⟨limit, offset, page, paged, listed⟩
    exact ⟨limit, offset, _, (position_answers_iff rfl rfl).mpr ⟨page, paged, rfl⟩, listed⟩

theorem returned_withoutPosition {request : Request} :
    Returned pg db params.withoutPosition request ↔
      params.readable = true ∧ request ∈ db.requests.rows ∧
        whereClauses pg params request = true := by
  have filtered : request ∈ filteredRequests pg params db ↔
      request ∈ db.requests.rows ∧ whereClauses pg params request = true := by
    simp [filteredRequests]
  rw [← filtered, ← exists_page]
  constructor
  · rintro ⟨limit, offset, response, answers, listed⟩
    obtain ⟨readable, page, paged, rfl⟩ := (plain_answers_iff rfl).mp answers
    exact ⟨readable, limit, offset, page, paged, listed⟩
  · rintro ⟨readable, limit, offset, page, paged, listed⟩
    exact ⟨limit, offset, _, (plain_answers_iff rfl).mpr ⟨readable, page, paged, rfl⟩, listed⟩

/-- The branch with the position answers as the other one does within the radius, exactly if
neither the radius nor a filter had anything to keep back. -/
theorem searchesAlike_iff (pg : Postgres) (gis : PostGis) (db : Db) (params : PriorityParams)
    (lat lng radiusKm : Float) :
    SearchesAlike pg gis db params lat lng radiusKm ↔
      NothingKeptBack pg gis db params lat lng radiusKm := by
  unfold SearchesAlike NothingKeptBack
  simp only [returned_withPosition, returned_withoutPosition]
  constructor
  · intro alike request stored live
    obtain ⟨⟨readable, _, passes⟩, near⟩ := (alike request).mp ⟨stored, live⟩
    exact ⟨readable, passes, near⟩
  · intro nothing request
    constructor
    · rintro ⟨stored, live⟩
      obtain ⟨readable, passes, near⟩ := nothing request stored live
      exact ⟨⟨readable, stored, passes⟩, near⟩
    · rintro ⟨⟨_, stored, passes⟩, _⟩
      have clauses := of_decide_eq_true passes
      exact ⟨stored, clauses.1⟩

end Search

def noFilters : RequestFilters where
  search := none
  status := .off
  urgency := .off
  category := .off
  creatorId := .off
  excludeCreatorId := .off
  managingOrganizationId := .off

/-- A volunteer with the lowest clearance looks around. -/
def lookAround : PriorityParams where
  toRequestFilters := noFilters
  userLat := none
  userLng := none
  limit := some 20
  offset := some 0
  clearanceLevel := .local
  systemRole := .volunteer

/-- A request without a location, for readers with the highest clearance, is returned. -/
theorem searchesAlike_fails :
    ¬ SearchesAlike examplePostgres ⟨fun _ _ _ _ => false⟩ (exampleBoard .frontline) lookAround
      50.45 30.52 5 := by
  intro alike
  have returned : Returned examplePostgres (exampleBoard .frontline)
      (lookAround.withPosition 50.45 30.52) { exampleRequest .frontline with id := 0 } :=
    (returned_withPosition 50.45 30.52).mpr ⟨List.mem_cons_self, rfl⟩
  obtain ⟨_, near⟩ := (alike _).mp returned
  cases near

/-! ## Opening what a list holds -/

/-- Whatever the list answers on some page, the user can open. -/
def ListsOpenable (pg : Postgres) (db : Db) (user : User) (query : FindRequestsQuery) : Prop :=
  ∀ limit offset response,
    ReadOp.run pg db user (.findAll (query.onPage limit offset)) = .ok response →
      ∀ request ∈ response.requests,
        ∃ opened, ReadOp.run pg db user (.findOne request.id) = .ok opened

/-- No stored request that is listed without a look at its level needs more than the user has: for
a requester none of his own, for anybody else, where the list goes by distance, none at all. -/
def UncheckedReadable (db : Db) (user : User) (query : FindRequestsQuery) : Prop :=
  if user.systemRole = .requester then
    ∀ request ∈ db.requests.rows, request.creatorId = user.id → request.deletedAt = none →
      request.requiredClearance.rank ≤ user.clearanceLevel.rank
  else
    useGeo query = true → user.systemRole ≠ .admin → user.systemRole ≠ .coordinator →
      ∀ request ∈ db.requests.rows, request.deletedAt = none →
        request.requiredClearance.rank ≤ user.clearanceLevel.rank

section Opening

variable {pg : Postgres} {db : Db} {user : User}

theorem opens_iff {request : Request} (stored : request ∈ db.requests.rows)
    (live : request.deletedAt = none) :
    (∃ opened, ReadOp.run pg db user (.findOne request.id) = .ok opened) ↔
      MayView user request := by
  simp only [findOne_answers_iff, Db.findRequest_of_mem stored live, Option.some.injEq,
    exists_eq_left']
  exact ⟨fun ⟨_, may, _⟩ => may, fun may => ⟨_, may, rfl⟩⟩

theorem mayView_iff {request : Request} (notAdmin : user.systemRole ≠ .admin)
    (notCoordinator : user.systemRole ≠ .coordinator) :
    MayView user request ↔ request.requiredClearance.rank ≤ user.clearanceLevel.rank := by
  simp [MayView, notAdmin, notCoordinator]

theorem ownPage_answers (query : FindRequestsQuery) (requester : user.systemRole = .requester)
    {request : Request} (stored : request ∈ db.requests.rows) (own : request.creatorId = user.id)
    (live : request.deletedAt = none) :
    ∃ limit response,
      ReadOp.run pg db user (.findAll (query.onPage limit (some .zero))) = .ok response ∧
        request ∈ response.requests := by
  have inside : request ∈ ownRequests pg user.id db := mem_ownRequests.mpr ⟨stored, own, live⟩
  -- a `take` of 0 is none, so the number of the rows has to be positive
  have positive : (ownRequests pg user.id db).length ≠ 0 :=
    fun empty => List.ne_nil_of_mem inside (List.length_eq_zero_iff.mp empty)
  have paged : typeormPage (some (.ofNat (ownRequests pg user.id db).length)) (some 0) =
      some ⟨some (ownRequests pg user.id db).length, 0⟩ := by
    simp [typeormPage, sqlPage, natural, positive]
  have answered := (@ownRequests_answers_iff pg db user _
    (query.onPage (some (.ofNat (ownRequests pg user.id db).length)) (some .zero))
    requester).mpr ⟨_, paged, rfl⟩
  exact ⟨_, _, answered, mem_wholePage inside⟩

theorem listsOpenable_own_iff (query : FindRequestsQuery)
    (requester : user.systemRole = .requester) :
    ListsOpenable pg db user query ↔ UncheckedReadable db user query := by
  rw [UncheckedReadable, if_pos requester]
  have readable : ∀ {request : Request}, MayView user request ↔
      request.requiredClearance.rank ≤ user.clearanceLevel.rank :=
    mayView_iff (by simp [requester]) (by simp [requester])
  constructor
  · intro openable request stored own live
    obtain ⟨limit, response, answers, listed⟩ :=
      @ownPage_answers pg db user query requester request stored own live
    rw [← readable, ← opens_iff stored live]
    exact openable limit (some .zero) response answers request listed
  · intro checked limit offset response answers request listed
    obtain ⟨page, paged, rfl⟩ :=
      (ownRequests_answers_iff (query.onPage limit offset) requester).mp answers
    obtain ⟨stored, own, live⟩ := mem_ownRequests.mp (Page.mem_of listed)
    rw [opens_iff stored live, readable]
    exact checked request stored own live

theorem listsOpenable_nearest_iff (query : FindRequestsQuery)
    (other : user.systemRole ≠ .requester) (geo : useGeo query = true) :
    ListsOpenable pg db user query ↔ UncheckedReadable db user query := by
  rw [UncheckedReadable, if_neg other]
  constructor
  · intro openable _ notAdmin notCoordinator request stored live
    obtain ⟨limit, response, answers, listed⟩ :=
      @nearestPage_answers pg db user query other geo request stored live
    rw [← mayView_iff notAdmin notCoordinator, ← opens_iff stored live]
    exact openable limit (some .zero) response answers request listed
  · intro checked limit offset response answers request listed
    obtain ⟨_, found⟩ := nearestPage_live (query.onPage limit offset) other geo answers
    obtain ⟨stored, live⟩ := found request listed
    rw [opens_iff stored live]
    by_cases admin : user.systemRole = .admin
    · exact Or.inl admin
    · by_cases coordinator : user.systemRole = .coordinator
      · exact Or.inr (Or.inl coordinator)
      · exact Or.inr (Or.inr (checked geo admin coordinator request stored live))

/-- The other filters select by the level that `findOne` checks. -/
theorem listsOpenable_filtered (query : FindRequestsQuery)
    (other : user.systemRole ≠ .requester) (plain : useGeo query = false) :
    ListsOpenable pg db user query := by
  intro limit offset response answers request listed
  obtain ⟨page, rfl⟩ :=
    filteredRequests_answers (query.onPage limit offset) other plain answers
  have selected := Page.mem_of listed
  simp only [filteredRequests, OrderBy.mem_run, Table.mem_find, whereClauses,
    decide_eq_true_eq] at selected
  obtain ⟨stored, live, _, _, _, _, _, _, _, readable⟩ := selected
  rw [opens_iff stored live]
  rcases readable with admin | level
  · exact Or.inl admin
  · exact Or.inr (Or.inr level)

end Opening

/-- A user can open everything that `GET /requests` returns to him, on whatever page, exactly if
nothing above his level is stored that the two lists select without a look at it. -/
theorem listsOpenable_iff (pg : Postgres) (db : Db) (user : User) (query : FindRequestsQuery) :
    ListsOpenable pg db user query ↔ UncheckedReadable db user query := by
  by_cases requester : user.systemRole = .requester
  · exact listsOpenable_own_iff query requester
  · cases geo : useGeo query with
    | true => exact listsOpenable_nearest_iff query requester geo
    | false =>
        refine iff_of_true (listsOpenable_filtered query requester geo) ?_
        rw [UncheckedReadable, if_neg requester]
        intro given
        rw [geo] at given
        cases given

def plainQuery : FindRequestsQuery where
  toRequestFilters := noFilters
  limit := none
  offset := none
  latitude := none
  longitude := none
  radiusKm := none

/-- The author of a `FRONTLINE` request finds it in his list and cannot open it. -/
theorem listsOpenable_fails :
    ¬ ListsOpenable examplePostgres (exampleBoard .frontline) author plainQuery := by
  intro openable
  have answered : ReadOp.run examplePostgres (exampleBoard .frontline) author
      (.findAll plainQuery) =
      .ok ⟨[{ exampleRequest .frontline with id := 0 }],
        [RequestsService.autoTask 0 author 0]⟩ := rfl
  obtain ⟨opened, answers⟩ := openable none none _ answered _ List.mem_cons_self
  obtain ⟨request, found, may, _⟩ := (findOne_answers_iff 0).mp answers
  cases found
  revert may
  unfold MayView
  decide

end VolunteerApi
