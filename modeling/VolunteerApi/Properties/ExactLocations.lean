import Mathlib.Data.Rat.Floor
import Mathlib.Tactic.Linarith
import Mathlib.Tactic.Ring
import VolunteerApi.Effects.ContentWrites
import VolunteerApi.Model.RequestCoordinates
import VolunteerApi.Model.System
import VolunteerApi.Programs.Runs

/-!
# The stored position of a request

The columns round a coordinate to seven decimals, the geometry takes it as it was sent; and an
update that clears a coordinate leaves the geometry where it was.  In every other case the two
agree.
-/

set_option autoImplicit false

namespace VolunteerApi

open Relational Programs RequestsService

/-! ## Runs -/

inductive LocationCall where
  | create (dto : NewRequestDto) (creator : User) (now : Time)
  | update (id : RequestId) (dto : LocatedEditDto) (requester : User)

def LocationCall.step (db : Db) : LocationCall → Db
  | .create dto creator now => ((createRequest dto creator now).run db).2
  | .update id dto requester => ((updateRequest id dto requester).run db).2

/-- The point of the two columns, if neither is `null`. -/
def Request.columnPoint (request : Request) : Option Point := do
  let latitude ← request.latitude
  let longitude ← request.longitude
  return ⟨toDegrees longitude, toDegrees latitude⟩

def PointAgrees (request : Request) : Prop := request.exactLocation = request.columnPoint

def AllPointsAgree (db : Db) : Prop := ∀ request ∈ db.requests.rows, PointAgrees request

/-- A number with at most seven decimals. -/
def SevenDecimals (degrees : Rat) : Prop := ∃ whole : Int, degrees = toDegrees whole

/-- No property that must have a value is `null`. -/
structure Storable (dto : LocatedEditDto) : Prop where
  title : dto.title ≠ .unreadable
  category : dto.category ≠ .unreadable
  urgency : dto.urgency ≠ .unreadable
  requiredClearance : dto.requiredClearance ≠ .unreadable
  status : dto.status ≠ .unreadable
  isLocationHidden : dto.isLocationHidden ≠ .unreadable

/-- The coordinate that was stored or is sent, as the call leaves it, is not `null`. -/
def LeavesCoordinate (sent : Option (Option Rat)) (column : Option Int) : Prop :=
  match sent with
  | none => column ≠ none
  | some given => given ≠ none

instance (sent : Option (Option Rat)) (column : Option Int) :
    Decidable (LeavesCoordinate sent column) := by
  unfold LeavesCoordinate
  cases sent <;> infer_instance

/-- A creation with both coordinates rounds neither.  An update that leaves both rounds none
that it was sent, and one that leaves a coordinate `null` finds one that was `null`. -/
def PositionKept (db : Db) : LocationCall → Prop
  | .create dto _ _ => db.hasManager dto.managingOrganizationId = true →
      ∀ latitude ∈ dto.latitude, ∀ longitude ∈ dto.longitude,
        SevenDecimals latitude ∧ SevenDecimals longitude
  | .update id dto requester => Storable dto →
      ∀ request, editableFor db id requester dto.managingOrganizationId.join = some request →
        if LeavesCoordinate dto.latitude request.latitude ∧
            LeavesCoordinate dto.longitude request.longitude then
          (∀ latitude, dto.latitude = some (some latitude) → SevenDecimals latitude) ∧
            ∀ longitude, dto.longitude = some (some longitude) → SevenDecimals longitude
        else request.latitude = none ∨ request.longitude = none

/-! ## Rounding -/

theorem tenMillionths_toDegrees (whole : Int) : tenMillionths (toDegrees whole) = whole := by
  have scaled : toDegrees whole * 10000000 = whole := by
    unfold toDegrees
    ring
  have below : ((1 : Rat) / 2).floor = 0 := by decide +kernel
  have above : (-(1 : Rat) / 2).ceil = 0 := by decide +kernel
  unfold tenMillionths
  rw [scaled]
  split
  · rw [add_comm, Rat.floor_add_intCast, below, Int.zero_add]
  · have shifted : (whole : Rat) - 1 / 2 = -1 / 2 + whole := by ring
    rw [shifted, Rat.ceil_add_intCast, above, Int.zero_add]

/-- What is not rounded is what has seven decimals. -/
theorem toDegrees_tenMillionths_iff (degrees : Rat) :
    degrees = toDegrees (tenMillionths degrees) ↔ SevenDecimals degrees := by
  constructor
  · intro same
    exact ⟨tenMillionths degrees, same⟩
  · rintro ⟨whole, rfl⟩
    rw [tenMillionths_toDegrees]

/-! ## Coordinates -/

section Coordinates

variable {sent : Option (Option Rat)} {column : Option Int}

theorem assignCoordinate_none_iff :
    assignCoordinate sent column = none ↔ ¬ LeavesCoordinate sent column := by
  cases sent with
  | none => simp [assignCoordinate, LeavesCoordinate]
  | some given => simp [assignCoordinate, LeavesCoordinate]

theorem coordinate_none_iff :
    coordinate sent column = none ↔ ¬ LeavesCoordinate sent column := by
  obtain _ | _ | given := sent
  · simp [coordinate, assignCoordinate, LeavesCoordinate]
  · simp [coordinate, assignCoordinate, LeavesCoordinate]
  · simp [coordinate, LeavesCoordinate]

/-- The number that goes into the geometry is the one in the column, unless it was sent with
more decimals. -/
theorem coordinate_eq_iff {whole : Int} (assigned : assignCoordinate sent column = some whole) :
    coordinate sent column = some (toDegrees whole) ↔
      ∀ degrees, sent = some (some degrees) → SevenDecimals degrees := by
  obtain _ | _ | given := sent
  · have kept : coordinate none column = some (toDegrees whole) := by
      rw [coordinate, assigned]
      rfl
    exact iff_of_true kept fun _ never => nomatch never
  · cases assigned
  · obtain rfl : tenMillionths given = whole := Option.some.inj assigned
    have here : coordinate (some (some given)) column = some given := rfl
    rw [here, Option.some.injEq, toDegrees_tenMillionths_iff]
    simp

end Coordinates

/-! ## Creating -/

theorem createdRow_agrees_iff (dto : NewRequestDto) (creator : User) (now : Time)
    (id : RequestId) :
    PointAgrees (createdRow dto creator now id) ↔
      ∀ latitude ∈ dto.latitude, ∀ longitude ∈ dto.longitude,
        SevenDecimals latitude ∧ SevenDecimals longitude := by
  have stored : (createdRow dto creator now id).exactLocation = NewRequestDto.location dto := rfl
  have column : (createdRow dto creator now id).columnPoint = do
      let latitude ← dto.latitude.map tenMillionths
      let longitude ← dto.longitude.map tenMillionths
      return ⟨toDegrees longitude, toDegrees latitude⟩ := rfl
  rw [PointAgrees, stored, column, NewRequestDto.location]
  cases dto.latitude with
  | none => simp
  | some latitude =>
      cases dto.longitude with
      | none => simp
      | some longitude =>
          simp [toDegrees_tenMillionths_iff, and_comm]

/-! ## Editing -/

/-- The row that `update` leaves. -/
def LocatedEditDto.row (dto : LocatedEditDto) (request : Request) : Option Request :=
  (LocatedEditDto.edit dto request).map fun saved =>
    { saved with
      exactLocation := (LocatedEditDto.location dto request).or request.exactLocation }

section Editing

variable {dto : LocatedEditDto} {request saved : Request}

/-- What an edit does to the position. -/
structure PositionAssigned (dto : LocatedEditDto) (request saved : Request) : Prop where
  id : saved.id = request.id
  exactLocation : saved.exactLocation = request.exactLocation
  latitude : saved.latitude = assignCoordinate dto.latitude request.latitude
  longitude : saved.longitude = assignCoordinate dto.longitude request.longitude

theorem positionAssigned_of (done : LocatedEditDto.edit dto request = some saved) :
    PositionAssigned dto request saved := by
  simp only [LocatedEditDto.edit, Option.bind_eq_bind, Option.bind_eq_some_iff,
    Option.pure_def, Option.some.injEq] at done
  obtain ⟨edited, editedGiven, _, _, rfl⟩ := done
  obtain ⟨assigned, assignedGiven, same⟩ := Option.map_eq_some_iff.mp editedGiven
  simp only [EditRequestDto.assign, Option.bind_eq_bind, Option.bind_eq_some_iff,
    Option.pure_def, Option.some.injEq] at assignedGiven
  obtain ⟨_, _, _, _, _, _, _, _, _, _, rfl⟩ := assignedGiven
  split at same
  · subst same
    exact ⟨rfl, rfl, rfl, rfl⟩
  · subst same
    exact ⟨rfl, rfl, rfl, rfl⟩

theorem readable_iff {α : Type} (body : BodyValue α) (old : α) :
    (∃ value, body.over old = some value) ↔ body ≠ .unreadable := by
  cases body <;> simp [BodyValue.over]

/-- The row is refused exactly if a value is missing that it must have. -/
theorem edit_iff_storable (dto : LocatedEditDto) (request : Request) :
    (∃ saved, LocatedEditDto.edit dto request = some saved) ↔ Storable dto := by
  constructor
  · rintro ⟨saved, done⟩
    simp only [LocatedEditDto.edit, Option.bind_eq_bind, Option.bind_eq_some_iff] at done
    obtain ⟨_, edited, hidden, hiddenGiven, _⟩ := done
    obtain ⟨_, assigned, _⟩ := Option.map_eq_some_iff.mp edited
    simp only [EditRequestDto.assign, Option.bind_eq_bind, Option.bind_eq_some_iff] at assigned
    obtain ⟨title, titleGiven, category, categoryGiven, urgency, urgencyGiven, level, levelGiven,
      status, statusGiven, _⟩ := assigned
    exact
      { title := (readable_iff _ _).mp ⟨title, titleGiven⟩
        category := (readable_iff _ _).mp ⟨category, categoryGiven⟩
        urgency := (readable_iff _ _).mp ⟨urgency, urgencyGiven⟩
        requiredClearance := (readable_iff _ _).mp ⟨level, levelGiven⟩
        status := (readable_iff _ _).mp ⟨status, statusGiven⟩
        isLocationHidden := (readable_iff _ _).mp ⟨hidden, hiddenGiven⟩ }
  · intro storable
    obtain ⟨title, titleGiven⟩ := (readable_iff _ request.title).mpr storable.title
    obtain ⟨category, categoryGiven⟩ := (readable_iff _ request.category).mpr storable.category
    obtain ⟨urgency, urgencyGiven⟩ := (readable_iff _ request.urgency).mpr storable.urgency
    obtain ⟨level, levelGiven⟩ :=
      (readable_iff _ request.requiredClearance).mpr storable.requiredClearance
    obtain ⟨status, statusGiven⟩ := (readable_iff _ request.status).mpr storable.status
    obtain ⟨hidden, hiddenGiven⟩ :=
      (readable_iff _ request.isLocationHidden).mpr storable.isLocationHidden
    simp only [LocatedEditDto.edit, EditRequestDto.edit, EditRequestDto.assign, titleGiven,
      categoryGiven, urgencyGiven, levelGiven, statusGiven, hiddenGiven, Option.bind_eq_bind,
      Option.bind_some, Option.pure_def, Option.map_some]
    exact ⟨_, rfl⟩

theorem point_none_iff {α : Type} {latitude longitude : Option α} {build : α → α → Point} :
    (do
        let latitude ← latitude
        let longitude ← longitude
        return build latitude longitude : Option Point) = none ↔
      latitude = none ∨ longitude = none := by
  cases latitude <;> cases longitude <;> simp

/-- The row agrees afterwards exactly if nothing was rounded and no coordinate cleared. -/
theorem row_agrees_iff {row : Request} (agrees : PointAgrees request)
    (left : LocatedEditDto.row dto request = some row) :
    PointAgrees row ↔
      if LeavesCoordinate dto.latitude request.latitude ∧
          LeavesCoordinate dto.longitude request.longitude then
        (∀ latitude, dto.latitude = some (some latitude) → SevenDecimals latitude) ∧
          ∀ longitude, dto.longitude = some (some longitude) → SevenDecimals longitude
      else request.latitude = none ∨ request.longitude = none := by
  obtain ⟨saved, done, rfl⟩ := Option.map_eq_some_iff.mp left
  have assigned := positionAssigned_of done
  show (LocatedEditDto.location dto request).or request.exactLocation = saved.columnPoint ↔ _
  rw [Request.columnPoint, assigned.latitude, assigned.longitude]
  split
  · next both =>
    obtain ⟨latitude, latitudeColumn⟩ := Option.ne_none_iff_exists'.mp
      (assignCoordinate_none_iff.not.mpr (not_not.mpr both.1))
    obtain ⟨longitude, longitudeColumn⟩ := Option.ne_none_iff_exists'.mp
      (assignCoordinate_none_iff.not.mpr (not_not.mpr both.2))
    obtain ⟨north, northGiven⟩ := Option.ne_none_iff_exists'.mp
      (coordinate_none_iff.not.mpr (not_not.mpr both.1))
    obtain ⟨east, eastGiven⟩ := Option.ne_none_iff_exists'.mp
      (coordinate_none_iff.not.mpr (not_not.mpr both.2))
    have location : LocatedEditDto.location dto request = some ⟨east, north⟩ := by
      rw [LocatedEditDto.location, northGiven, eastGiven]
      rfl
    rw [location, latitudeColumn, longitudeColumn, ← coordinate_eq_iff latitudeColumn,
      ← coordinate_eq_iff longitudeColumn, northGiven, eastGiven]
    simp [and_comm]
  · next cleared =>
    have noPoint : LocatedEditDto.location dto request = none := by
      rw [LocatedEditDto.location, point_none_iff, coordinate_none_iff, coordinate_none_iff]
      exact not_and_or.mp cleared
    have noColumn : (do
        let latitude ← assignCoordinate dto.latitude request.latitude
        let longitude ← assignCoordinate dto.longitude request.longitude
        return ⟨toDegrees longitude, toDegrees latitude⟩ : Option Point) = none := by
      rw [point_none_iff, assignCoordinate_none_iff, assignCoordinate_none_iff]
      exact not_and_or.mp cleared
    rw [noPoint, noColumn, Option.none_or, agrees, Request.columnPoint, point_none_iff]

end Editing

theorem row_id {dto : LocatedEditDto} {request row : Request}
    (left : LocatedEditDto.row dto request = some row) : row.id = request.id := by
  obtain ⟨saved, done, rfl⟩ := Option.map_eq_some_iff.mp left
  exact (positionAssigned_of done).id

/-- The two statements of `update` leave the row as if it had been saved at once. -/
theorem updateRequest_savesRow (db : Db) (id : RequestId) (dto : LocatedEditDto)
    (requester : User) :
    SavesRow (updateRequest id dto requester) db
      ((editableFor db id requester dto.managingOrganizationId.join).bind
        (LocatedEditDto.row dto)) := by
  apply savesRow_loadEditable
  · intro refused
    rw [editableFor_none (Or.inl refused)]
    rfl
  · intro request passes
    have found := Db.findRequest_some (editable_some passes)
    apply savesRow_assign passes
    · intro missing
      rw [LocatedEditDto.row, missing]
      rfl
    · intro saved done
      have assigned := positionAssigned_of done
      obtain rfl : id = saved.id := found.2.1.symm.trans assigned.id.symm
      rw [LocatedEditDto.row, done, Option.map_some]
      refine ⟨saved, ?_⟩
      simp only [saveRequestRow, Prog.bind_eq, Prog.pure_eq, Prog.run_exec_bind,
        Prog.run_onlyIf_bind, Prog.run_ret]
      by_cases located : LocatedEditDto.location dto request = none
      · rw [if_neg (not_not.mpr located), located, Option.none_or, ← assigned.exactLocation]
        rfl
      · obtain ⟨point, given⟩ := Option.ne_none_iff_exists'.mp located
        rw [if_pos located, given, Option.some_or,
          Table.update_saveAll_key _ _ fun _ _ same => same]
        rfl

/-! ## Every run -/

theorem allPointsAgree_update_iff {db : Db} (every : AllPointsAgree db) (id : RequestId)
    (dto : LocatedEditDto) (requester : User) :
    AllPointsAgree (LocationCall.step db (.update id dto requester)) ↔
      PositionKept db (.update id dto requester) := by
  have saves := updateRequest_savesRow db id dto requester
  rw [LocationCall.step]
  cases row : (editableFor db id requester dto.managingOrganizationId.join).bind
      (LocatedEditDto.row dto) with
  | none =>
      rw [row] at saves
      obtain ⟨error, ran⟩ := saves
      rw [ran]
      refine iff_of_true every ?_
      intro storable request passes
      obtain ⟨saved, done⟩ := (edit_iff_storable dto request).mpr storable
      rw [passes, Option.bind_some, LocatedEditDto.row, done] at row
      cases row
  | some new =>
      rw [row] at saves
      obtain ⟨value, ran⟩ := saves
      obtain ⟨request, passes, left⟩ := Option.bind_eq_some_iff.mp row
      obtain ⟨saved, done, _⟩ := Option.map_eq_some_iff.mp left
      have found := editable_some (editableFor_some passes).1
      have storable := (edit_iff_storable dto request).mp ⟨saved, done⟩
      rw [ran]
      refine (everyRequest_saved_iff every (Db.findRequest_self found) (row_id left)).trans ?_
      rw [row_agrees_iff (every request (Db.findRequest_some found).1) left]
      constructor
      · intro kept _ other otherPasses
        rw [passes] at otherPasses
        cases otherPasses
        exact kept
      · intro kept
        exact kept storable request passes

theorem allPointsAgree_step_iff {db : Db} (every : AllPointsAgree db) (call : LocationCall) :
    AllPointsAgree (call.step db) ↔ PositionKept db call := by
  cases call with
  | create dto creator now =>
      refine (everyRequest_created_iff every).trans (imp_congr_right fun _ => ?_)
      exact createdRow_agrees_iff dto creator now db.requests.next
  | update id dto requester => exact allPointsAgree_update_iff every id dto requester

/-- In a run, the geometry of every request is the point of its columns, exactly if no call
sends more decimals than the columns have beside a second coordinate, and none clears a
coordinate of a request that has both. -/
theorem allPointsAgree_always_iff {db : Db} (every : AllPointsAgree db)
    (calls : List LocationCall) :
    Always LocationCall.step AllPointsAgree db calls ↔
      Throughout LocationCall.step PositionKept db calls :=
  always_iff_throughout_while (I := fun _ => True) (fun _ _ _ _ _ => trivial)
    (fun _ call _ here => allPointsAgree_step_iff here call) trivial every

theorem exampleBoard_pointsAgree : AllPointsAgree (exampleBoard .local) := by
  have alone : (exampleBoard .local).requests.rows = [exampleRequest .local] := rfl
  intro request stored
  rw [alone] at stored
  obtain rfl := List.mem_singleton.mp stored
  rfl

def onTheMap : NewRequestDto where
  title := "Потрібна вода"
  requiredClearance := none
  managingOrganizationId := none
  latitude := some (484647 / 10000)
  longitude := some (350462 / 10000)

/-- A request is created with a position, which its author takes back. -/
def takenOffTheMap : List LocationCall :=
  [.create onTheMap author 1,
    .update 1 { latitude := some none, longitude := some none } author]

theorem allPointsAgree_always_iff_witness :
    Always LocationCall.step AllPointsAgree (exampleBoard .local) takenOffTheMap ↔
      Throughout LocationCall.step PositionKept (exampleBoard .local) takenOffTheMap :=
  allPointsAgree_always_iff exampleBoard_pointsAgree takenOffTheMap

/-- The geometry stays behind. -/
theorem allPointsAgree_always_fails :
    AllPointsAgree (exampleBoard .local) ∧
      ¬ Always LocationCall.step AllPointsAgree (exampleBoard .local) takenOffTheMap := by
  refine ⟨exampleBoard_pointsAgree, ?_⟩
  intro always
  have stored : ∃ request ∈
      (execute LocationCall.step (exampleBoard .local) takenOffTheMap).requests.rows,
        request.exactLocation ≠ request.columnPoint := by
    decide +kernel
  obtain ⟨request, member, different⟩ := stored
  exact different (always_end always request member)

end VolunteerApi
