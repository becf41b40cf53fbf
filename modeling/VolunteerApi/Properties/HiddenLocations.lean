import VolunteerApi.Effects.LocationOutcomes
import VolunteerApi.Properties.Confidentiality

/-!
# Who gets to see a hidden location

Only `findOne` calls `obfuscateLocation`, which moves the two numbers and leaves the point of
`exactLocation` where it is, and moves nothing where a coordinate is zero.  The lists and the
reads over a task, a saved request or an organization show the columns as they are stored.
-/

set_option autoImplicit false

namespace VolunteerApi

open Relational Programs
open RequestsService OrganizationsService

/-- The location of the request is hidden from the viewer. -/
structure HiddenFrom (viewer : User) (request : Request) : Prop where
  hidden : request.isLocationHidden = true
  latitude : request.latitude ≠ none
  longitude : request.longitude ≠ none
  notCreator : viewer.id ≠ request.creatorId
  notAdmin : viewer.systemRole ≠ .admin
  notCoordinator : viewer.systemRole ≠ .coordinator
  notFrontline : viewer.clearanceLevel ≠ .frontline

/-- The view has no point, and the displaced coordinates. -/
structure Masked (env : LocationEnv) (request : Request) (view : RequestView) : Prop where
  exactLocation : view.exactLocation = none
  displaced : ∀ lat lng, request.latitude = some lat → request.longitude = some lng →
    view.latitude = some (.displaced (displacedLocation env request.id lat lng).1) ∧
      view.longitude = some (.displaced (displacedLocation env request.id lat lng).2)

section Viewers

variable (pg : Postgres) (byNews : OrderBy fun _ _ : TaskDelegation => True) (env : LocationEnv)
  (db : Db) (viewer : User)

/-- What the call answers, if it does, masks every request that is hidden from the viewer. -/
def MasksLocations (op : LocationOp) : Prop :=
  ∀ views, op.run pg byNews env db viewer = .ok views →
    ∀ request ∈ db.requests.rows, HiddenFrom viewer request →
      ∀ view ∈ views, view.id = request.id → Masked env request view

/-- A hidden request that `findOne` shows has no point and no zero among its coordinates, and
the rows of the other calls are not hidden. -/
def NothingExposed : LocationOp → Prop
  | .findOne id => ∀ request, db.findRequest id = some request → MayView viewer request →
      HiddenFrom viewer request → request.exactLocation = none ∧
        request.latitude ≠ some 0 ∧ request.longitude ≠ some 0
  | .getRequestsWithPriority params => ∀ rows, selectedRequests pg db params = some rows →
      ∀ request ∈ rows, ¬ HiddenFrom viewer request
  | .getSavedRequests limit offset => ∀ rows,
      savedRequestRows pg db viewer limit offset = some rows →
        ∀ request ∈ rows, ¬ HiddenFrom viewer request
  | .findById taskId => ∀ task, db.findTask taskId = some task →
      ∀ request, db.findRequest task.requestId = some request → ¬ HiddenFrom viewer request
  | .getOrganizationRequests organizationId => MemberOrAdmin db organizationId viewer →
      ∀ request, ServedBy db organizationId request → ¬ HiddenFrom viewer request

variable {pg byNews env db viewer}

theorem lists_stored {op : LocationOp} {rows : List Request}
    (lists : op.Lists pg byNews db viewer rows) : ∀ request ∈ rows, request ∈ db.requests.rows := by
  intro request member
  cases op with
  | findOne id =>
      obtain ⟨_, found, _, rfl⟩ := lists
      obtain rfl := List.mem_singleton.mp member
      exact (Db.findRequest_some found).1
  | getRequestsWithPriority params => exact selectedRequests_stored lists request member
  | getSavedRequests limit offset =>
      obtain ⟨page, _, rfl⟩ := Option.map_eq_some_iff.mp lists
      obtain ⟨_, _, found⟩ := List.mem_filterMap.mp member
      exact (Db.findRequest_some found).1
  | findById taskId =>
      obtain ⟨task, _, rfl⟩ := lists
      exact (Db.findRequest_some (Option.mem_toList.mp member)).1
  | getOrganizationRequests organizationId =>
      obtain ⟨_, rfl⟩ := lists
      exact ((mem_organizationRows organizationId request).mp member).1

theorem view_id (op : LocationOp) (request : Request) :
    (op.view viewer env request).id = request.id := by
  cases op with
  | findOne id =>
      simp only [LocationOp.view, obfuscateLocation]
      split
      · rfl
      · split
        · rfl
        · split <;> rfl
  | _ => rfl

/-- A call masks what it has to exactly if it masks every hidden row it lists. -/
theorem masksLocations_iff_rows (op : LocationOp) :
    MasksLocations pg byNews env db viewer op ↔
      ∀ rows, op.Lists pg byNews db viewer rows → ∀ request ∈ rows, HiddenFrom viewer request →
        Masked env request (op.view viewer env request) := by
  constructor
  · intro masks rows lists request member hidden
    exact masks _ ((answers_iff op _).mpr ⟨rows, lists, rfl⟩) request
      (lists_stored lists request member) hidden _ (List.mem_map_of_mem member) (view_id op request)
  · intro masked views answers request stored hidden view member same
    obtain ⟨rows, lists, rfl⟩ := (answers_iff op views).mp answers
    obtain ⟨row, listed, rfl⟩ := List.mem_map.mp member
    rw [view_id] at same
    obtain rfl := Table.eq_of_key (lists_stored lists row listed) stored same
    exact masked rows lists row listed hidden

theorem not_masked_stored {request : Request} {view : RequestView}
    (hidden : HiddenFrom viewer request) (stored : view.latitude = request.latitude.map .stored) :
    ¬ Masked env request view := by
  intro masked
  obtain ⟨lat, latitude⟩ := Option.ne_none_iff_exists'.mp hidden.latitude
  obtain ⟨lng, longitude⟩ := Option.ne_none_iff_exists'.mp hidden.longitude
  have displaced := (masked.displaced lat lng latitude longitude).1
  rw [stored, latitude] at displaced
  cases displaced

theorem seesExactLocation_hidden {request : Request} (hidden : HiddenFrom viewer request) :
    seesExactLocation request viewer = false := by
  simp [seesExactLocation, hidden.notCreator, hidden.notCoordinator, hidden.notAdmin,
    hidden.notFrontline]

theorem masked_obfuscateLocation_iff {request : Request} (hidden : HiddenFrom viewer request) :
    Masked env request (obfuscateLocation env request viewer) ↔
      request.exactLocation = none ∧ request.latitude ≠ some 0 ∧ request.longitude ≠ some 0 := by
  obtain ⟨lat, latitude⟩ := Option.ne_none_iff_exists'.mp hidden.latitude
  obtain ⟨lng, longitude⟩ := Option.ne_none_iff_exists'.mp hidden.longitude
  have sees := seesExactLocation_hidden hidden
  simp only [obfuscateLocation, sees, hidden.hidden, latitude, longitude, Option.getD_some,
    Bool.false_eq_true, Bool.true_eq_false, if_false, ne_eq, Option.some.injEq]
  by_cases zero : lat = 0 ∨ lng = 0
  · rw [if_pos zero]
    refine iff_of_false (not_masked_stored hidden rfl) ?_
    rintro ⟨_, notLat, notLng⟩
    exact zero.elim notLat notLng
  · rw [if_neg zero]
    constructor
    · intro masked
      exact ⟨masked.exactLocation, not_or.mp zero⟩
    · rintro ⟨noPoint, _⟩
      refine ⟨noPoint, ?_⟩
      intro otherLat otherLng sameLat sameLng
      obtain rfl := Option.some.inj (latitude.symm.trans sameLat)
      obtain rfl := Option.some.inj (longitude.symm.trans sameLng)
      exact ⟨rfl, rfl⟩

/-- Rows whose coordinates are shown as they are stored are masked only where none is hidden. -/
theorem masked_stored_iff {view : Request → RequestView} (rows : List Request)
    (stored : ∀ request, (view request).latitude = request.latitude.map .stored) :
    (∀ request ∈ rows, HiddenFrom viewer request → Masked env request (view request)) ↔
      ∀ request ∈ rows, ¬ HiddenFrom viewer request := by
  constructor
  · intro masked request member hidden
    exact not_masked_stored hidden (stored request) (masked request member hidden)
  · intro shown request member hidden
    exact absurd hidden (shown request member)

/-! ## The calls -/

theorem masksLocations_findOne_iff (id : RequestId) :
    MasksLocations pg byNews env db viewer (.findOne id) ↔
      NothingExposed pg db viewer (.findOne id) := by
  rw [masksLocations_iff_rows]
  constructor
  · intro masked request found may hidden
    exact (masked_obfuscateLocation_iff hidden).mp
      (masked _ ⟨request, found, may, rfl⟩ request List.mem_cons_self hidden)
  · rintro safe _ ⟨request, found, may, rfl⟩ row member hidden
    obtain rfl := List.mem_singleton.mp member
    exact (masked_obfuscateLocation_iff hidden).mpr (safe row found may hidden)

theorem masksLocations_findById_iff (taskId : TaskId) :
    MasksLocations pg byNews env db viewer (.findById taskId) ↔
      NothingExposed pg db viewer (.findById taskId) := by
  rw [masksLocations_iff_rows]
  constructor
  · intro masked task found request loaded
    exact (masked_stored_iff _ fun _ => rfl).mp (masked _ ⟨task, found, rfl⟩) request
      (Option.mem_toList.mpr loaded)
  · rintro shown _ ⟨task, found, rfl⟩
    apply (masked_stored_iff _ fun _ => rfl).mpr
    intro request member
    exact shown task found request (Option.mem_toList.mp member)

theorem masksLocations_organization_iff (organizationId : OrgId) :
    MasksLocations pg byNews env db viewer (.getOrganizationRequests organizationId) ↔
      NothingExposed pg db viewer (.getOrganizationRequests organizationId) := by
  rw [masksLocations_iff_rows]
  constructor
  · intro masked may request served
    exact (masked_stored_iff _ fun _ => rfl).mp (masked _ ⟨may, rfl⟩) request
      ((mem_organizationRows organizationId request).mpr served)
  · rintro shown _ ⟨may, rfl⟩
    apply (masked_stored_iff _ fun _ => rfl).mpr
    intro request member
    exact shown may request ((mem_organizationRows organizationId request).mp member)

/-- A call keeps the hidden locations hidden exactly if it shows none that it does not mask. -/
theorem masksLocations_iff (pg : Postgres) (byNews : OrderBy fun _ _ : TaskDelegation => True)
    (env : LocationEnv) (db : Db) (viewer : User) (op : LocationOp) :
    MasksLocations pg byNews env db viewer op ↔ NothingExposed pg db viewer op := by
  cases op with
  | findOne id => exact masksLocations_findOne_iff id
  | getRequestsWithPriority params =>
      rw [masksLocations_iff_rows]
      exact forall₂_congr fun rows _ => masked_stored_iff rows fun _ => rfl
  | getSavedRequests limit offset =>
      rw [masksLocations_iff_rows]
      exact forall₂_congr fun rows _ => masked_stored_iff rows fun _ => rfl
  | findById taskId => exact masksLocations_findById_iff taskId
  | getOrganizationRequests organizationId =>
      exact masksLocations_organization_iff organizationId

/-! ## Every page -/

def LocationOp.onPage (limit offset : Option QueryNumber) : LocationOp → LocationOp
  | .getRequestsWithPriority params =>
      .getRequestsWithPriority { params with
        limit := RequestsController.parsedOr 20 limit
        offset := RequestsController.parsedOr 0 offset }
  | .getSavedRequests _ _ => .getSavedRequests limit offset
  | op => op

/-- The stored requests that `getRequestsWithPriority` selects, before it cuts out a page. -/
def Selects (pg : Postgres) (db : Db) (params : PriorityParams) (request : Request) : Prop :=
  request ∈ db.requests.rows ∧
    if params.userLat.isSome ∧ params.userLng.isSome then request.deletedAt = none
    else params.readable = true ∧ whereClauses pg params request = true

/-- `NothingExposed` of the stored rows that the two lists select. -/
def NoneExposed (pg : Postgres) (db : Db) (viewer : User) : LocationOp → Prop
  | .getRequestsWithPriority params => ∀ request, Selects pg db params request →
      ¬ HiddenFrom viewer request
  | .getSavedRequests _ _ => ∀ saved ∈ db.savedRequests.rows, saved.userId = viewer.id →
      ∀ request, db.findRequest saved.requestId = some request → ¬ HiddenFrom viewer request
  | op => NothingExposed pg db viewer op

theorem selectedRequests_page_iff {params : PriorityParams} {request : Request} :
    (∃ limit offset rows,
      selectedRequests pg db { params with
        limit := RequestsController.parsedOr 20 limit
        offset := RequestsController.parsedOr 0 offset } = some rows ∧ request ∈ rows) ↔
      Selects pg db params request := by
  unfold selectedRequests Selects
  dsimp only
  split
  · next lat lng latitude longitude =>
    rw [if_pos (by simp [latitude, longitude]), ← @mem_nearestRequests pg db lat lng request]
    constructor
    · rintro ⟨limit, offset, rows, selected, listed⟩
      obtain ⟨page, _, rfl⟩ := Option.map_eq_some_iff.mp selected
      exact Page.mem_of listed
    · intro listed
      exact ⟨some (.ofNat (nearestRequests pg lat lng db).length), some .zero, _, rfl,
        mem_wholePage listed⟩
  · next noPosition =>
    have filtered : request ∈ filteredRequests pg params db ↔
        request ∈ db.requests.rows ∧ whereClauses pg params request = true := by
      simp [filteredRequests]
    have plain : ¬ (params.userLat.isSome = true ∧ params.userLng.isSome = true) := by
      rintro ⟨latitude, longitude⟩
      exact noPosition _ _ (Option.some_get latitude).symm (Option.some_get longitude).symm
    rw [if_neg plain, and_left_comm, ← filtered]
    constructor
    · rintro ⟨limit, offset, rows, selected, listed⟩
      obtain ⟨readable, paged⟩ := Option.ite_none_right_eq_some.mp selected
      obtain ⟨page, _, rfl⟩ := Option.map_eq_some_iff.mp paged
      exact ⟨readable, Page.mem_of listed⟩
    · rintro ⟨readable, listed⟩
      exact ⟨some (.ofNat (filteredRequests pg params db).length), some .zero, _, if_pos readable,
        mem_wholePage listed⟩

/-- On all its pages a call keeps the hidden locations hidden exactly if no stored row is hidden
that it selects and does not mask. -/
theorem masksLocations_everyPage_iff (op : LocationOp) :
    (∀ limit offset, MasksLocations pg byNews env db viewer (op.onPage limit offset)) ↔
      NoneExposed pg db viewer op := by
  simp only [masksLocations_iff]
  cases op with
  | getRequestsWithPriority params =>
      constructor
      · intro pages request selects
        obtain ⟨limit, offset, rows, selected, listed⟩ := selectedRequests_page_iff.mpr selects
        exact pages limit offset rows selected request listed
      · intro none_ limit offset rows selected request listed
        exact none_ request (selectedRequests_page_iff.mp ⟨limit, offset, rows, selected, listed⟩)
  | getSavedRequests _ _ =>
      constructor
      · intro pages saved stored own request found
        have inside : saved ∈ savedOf pg viewer.id db := mem_savedOf.mpr ⟨stored, own⟩
        exact pages (some (.ofNat (savedOf pg viewer.id db).length)) (some .zero) _ rfl request
          (List.mem_filterMap.mpr ⟨saved, mem_wholePage inside, found⟩)
      · intro none_ limit offset rows selected request listed
        obtain ⟨page, _, rfl⟩ := Option.map_eq_some_iff.mp selected
        obtain ⟨saved, savedListed, found⟩ := List.mem_filterMap.mp listed
        obtain ⟨stored, own⟩ := mem_savedOf.mp (Page.mem_of savedListed)
        exact none_ saved stored own request found
  | _ => exact ⟨fun pages => pages none none, fun none_ _ _ => none_⟩

end Viewers

/-- A request in Kyiv whose author hides the place. -/
def hiddenRequest : Request :=
  { exampleRequest .local with
    latitude := some 504500000
    longitude := some 305234000
    isLocationHidden := true
    exactLocation := some ⟨305234 / 10000, 5045 / 100⟩ }

def hiddenBoard : Db :=
  { exampleBoard .local with
    requests := Table.empty.append fun id => { hiddenRequest with id := id } }

def exampleLocationEnv : LocationEnv where
  serverSecretSalt := some "salt"
  obfuscationRadiusM := 3000

/-- A `LOCAL` volunteer gets the point from `findOne`, and everything over the task or after
saving the request. -/
theorem masksLocations_fails :
    ¬ MasksLocations examplePostgres .asStored exampleLocationEnv hiddenBoard firstVolunteer
        (.findOne 0) ∧
      ¬ MasksLocations examplePostgres .asStored exampleLocationEnv hiddenBoard firstVolunteer
        (.findById 0) ∧
      ¬ MasksLocations examplePostgres .asStored exampleLocationEnv
        (execute SaveCall.step hiddenBoard [⟨0, 1, 0⟩]) firstVolunteer
        (.getSavedRequests none none) := by
  have hidden : HiddenFrom firstVolunteer hiddenRequest := by
    constructor <;> decide
  have point : ∀ {view : RequestView}, view.exactLocation = hiddenRequest.exactLocation →
      ¬ Masked exampleLocationEnv hiddenRequest view := by
    intro view shown masked
    rw [masked.exactLocation] at shown
    cases shown
  refine ⟨?_, ?_, ?_⟩
  · intro masks
    exact point rfl (masks _ rfl hiddenRequest List.mem_cons_self hidden _ List.mem_cons_self rfl)
  · intro masks
    exact point rfl (masks _ rfl hiddenRequest List.mem_cons_self hidden _ List.mem_cons_self rfl)
  · intro masks
    exact point rfl (masks _ rfl hiddenRequest List.mem_cons_self hidden _ List.mem_cons_self rfl)

end VolunteerApi
