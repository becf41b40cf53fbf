import VolunteerApi.Effects.RequestWrites
import VolunteerApi.Model.RequestContent

/-!
# The row that a creation leaves

`create` inserts the row of a request and sets its location by a second statement.
-/

set_option autoImplicit false

namespace VolunteerApi

open Relational Programs RequestsService

variable {db after : Db} {dto : NewRequestDto} {creator : User} {now : Time}

def createdRow (dto : NewRequestDto) (creator : User) (now : Time) (id : RequestId) : Request :=
  (locatedPatch (NewRequestDto.location dto)).run (newRequestRow dto creator now id)

@[simp] theorem createdRow_id (dto : NewRequestDto) (creator : User) (now : Time)
    (id : RequestId) : (createdRow dto creator now id).id = id := rfl

theorem createdRow_unlocated (none_ : NewRequestDto.location dto = none) (id : RequestId) :
    createdRow dto creator now id = newRequestRow dto creator now id := by
  rw [createdRow, none_]
  rfl

def insertedRequests (db : Db) (dto : NewRequestDto) (creator : User) (now : Time) :
    Table Request.id Request.id :=
  db.requests.append (newRequestRow dto creator now) (newRequestRow_id dto creator now)

def createdDb (db : Db) (dto : NewRequestDto) (creator : User) (now : Time) : Db :=
  ((createRequest dto creator now).run db).2

/-- The foreign key of the organization that is to manage the request refuses the row. -/
theorem createRequest_unmanaged (unstored : db.hasManager dto.managingOrganizationId = false) :
    (createRequest dto creator now).run db =
      (.error (.queryFailed "insert on table requests violates foreign key constraint"), db) := by
  have unmanaged :
      ¬ db.hasManager (newRequestRow dto creator now db.requests.next).managingOrganizationId
        = true := by
    rw [newRequestRow_managed, unstored]
    exact Bool.false_ne_true
  simp only [createRequest, insertRequest, Prog.bind_eq, Prog.pure_eq, Prog.run_bind,
    Prog.run_execOr, if_neg unmanaged]

theorem createdDb_unmanaged (unstored : db.hasManager dto.managingOrganizationId = false) :
    createdDb db dto creator now = db := by
  rw [createdDb, createRequest_unmanaged unstored]

/-- Past the foreign key, the three statements. -/
theorem createRequest_written (managed : db.hasManager dto.managingOrganizationId = true) :
    (createRequest dto creator now).run db =
      (.ok (newRequestRow dto creator now db.requests.next),
        { db with
          requests := if NewRequestDto.location dto ≠ none then
              (insertedRequests db dto creator now).update
                (fun request => request.id = db.requests.next)
                (locatedPatch (NewRequestDto.location dto))
            else insertedRequests db dto creator now
          tasks := db.tasks.append (autoTask db.requests.next creator)
            (autoTask_id db.requests.next creator) }) := by
  have stored :
      db.hasManager (newRequestRow dto creator now db.requests.next).managingOrganizationId
        = true := managed
  simp only [createRequest, insertRequest, Prog.bind_eq, Prog.pure_eq, Prog.run_bind,
    Prog.run_execOr, if_pos stored, Prog.run_exec, Prog.run_onlyIf, Prog.run_ret]
  by_cases located : NewRequestDto.location dto = none
  · simp only [if_neg (not_not.mpr located)]
    rfl
  · simp only [if_pos located]
    rfl

theorem createRequest_run (managed : db.hasManager dto.managingOrganizationId = true) :
    (createRequest dto creator now).run db =
      (.ok (newRequestRow dto creator now db.requests.next), createdDb db dto creator now) := by
  rw [createdDb, createRequest_written managed]

theorem mem_createdDb (managed : db.hasManager dto.managingOrganizationId = true)
    (row : Request) :
    row ∈ (createdDb db dto creator now).requests.rows ↔
      row ∈ db.requests.rows ∨ row = createdRow dto creator now db.requests.next := by
  have added : ∀ row, row ∈ (insertedRequests db dto creator now).rows ↔
        row ∈ db.requests.rows ∨ row = newRequestRow dto creator now db.requests.next := by
    intro row
    rw [insertedRequests, Table.append_rows, List.mem_append, List.mem_singleton]
  rw [createdDb, createRequest_written managed]
  by_cases located : NewRequestDto.location dto = none
  · rw [if_neg (not_not.mpr located), createdRow_unlocated located]
    exact added row
  · rw [if_pos located, Table.mem_update]
    -- the last statement rewrites the row that was just inserted, and no other
    have other : ∀ old ∈ db.requests.rows,
        ¬ (decide (old.id = db.requests.next) = true) := by
      intro old stored hit
      exact Table.key_ne_next stored (of_decide_eq_true hit)
    constructor
    · rintro ⟨old, stored, rfl⟩
      rcases (added old).mp stored with before | rfl
      · rw [if_neg (other old before)]
        exact Or.inl before
      · rw [if_pos (decide_eq_true (newRequestRow_id dto creator now _))]
        exact Or.inr rfl
    · rintro (before | rfl)
      · exact ⟨row, (added row).mpr (Or.inl before), (if_neg (other row before)).symm⟩
      · exact ⟨_, (added _).mpr (Or.inr rfl), (if_pos (decide_eq_true rfl)).symm⟩

theorem of_mem_createdDb {row : Request}
    (stored : row ∈ (createdDb db dto creator now).requests.rows) :
    row ∈ db.requests.rows ∨ row = createdRow dto creator now db.requests.next := by
  cases managed : db.hasManager dto.managingOrganizationId with
  | false =>
      rw [createdDb_unmanaged managed] at stored
      exact Or.inl stored
  | true => exact (mem_createdDb managed row).mp stored

theorem createdDb_tasks (managed : db.hasManager dto.managingOrganizationId = true) :
    (createdDb db dto creator now).tasks =
      db.tasks.append (autoTask db.requests.next creator) := by
  rw [createdDb, createRequest_written managed]

theorem of_mem_createdDb_tasks {task : Task}
    (stored : task ∈ (createdDb db dto creator now).tasks.rows) :
    task ∈ db.tasks.rows ∨ task = autoTask db.requests.next creator db.tasks.next := by
  cases managed : db.hasManager dto.managingOrganizationId with
  | false =>
      rw [createdDb_unmanaged managed] at stored
      exact Or.inl stored
  | true =>
      rw [createdDb_tasks managed] at stored
      exact ((Table.added_append db.tasks (autoTask db.requests.next creator)
        fun _ => rfl).mem task).mp stored

theorem eq_createdRow (managed : db.hasManager dto.managingOrganizationId = true) {row : Request}
    (stored : row ∈ (createdDb db dto creator now).requests.rows)
    (same : row.id = db.requests.next) : row = createdRow dto creator now db.requests.next := by
  rcases (mem_createdDb managed row).mp stored with before | new
  · exact absurd same (Table.key_ne_next before)
  · exact new

/-- What holds of every stored request still does, exactly if it holds of the new row, where
there is one. -/
theorem everyRequest_created_iff {P : Request → Prop}
    (every : ∀ request ∈ db.requests.rows, P request) :
    (∀ request ∈ (createdDb db dto creator now).requests.rows, P request) ↔
      (db.hasManager dto.managingOrganizationId = true →
        P (createdRow dto creator now db.requests.next)) := by
  cases managed : db.hasManager dto.managingOrganizationId with
  | false =>
      rw [createdDb_unmanaged managed]
      exact iff_of_true every fun stored => absurd stored Bool.false_ne_true
  | true =>
      constructor
      · intro all _
        exact all _ ((mem_createdDb managed _).mpr (Or.inr rfl))
      · intro new row member
        rcases (mem_createdDb managed row).mp member with stored | rfl
        · exact every row stored
        · exact new rfl

end VolunteerApi
