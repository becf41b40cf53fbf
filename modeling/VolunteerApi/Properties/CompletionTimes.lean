import VolunteerApi.Effects.RequestsOutcomes
import VolunteerApi.Effects.UsersOutcomes

/-!
# The time of a completion

A confirmation sets the time with the status, a rejection resets the status and leaves the
time, and either is put back by the save that follows.  Every other call writes a status that is
not `COMPLETED`, on a row that has no time.
-/

set_option autoImplicit false

namespace VolunteerApi

open Relational Programs
open TasksService

/-- The assignment has a time of completion exactly if it is `COMPLETED`. -/
def TaskAssignment.Timed (assignment : TaskAssignment) : Prop :=
  assignment.completedAt ≠ none ↔ assignment.status = .completed

def CompletionsTimed (db : Db) : Prop :=
  ∀ assignment ∈ db.assignments.rows, assignment.Timed

theorem TaskAssignment.Timed.moved {assignment : TaskAssignment} {next : AssignmentStatus}
    (timed : assignment.Timed) (unfinished : assignment.status ≠ .completed)
    (unended : next ≠ .completed) : { assignment with status := next }.Timed := by
  have untimed : ¬ assignment.completedAt ≠ none := fun time => unfinished (timed.mp time)
  exact iff_of_false untimed unended

theorem unfinished_of_active {assignment : TaskAssignment} (active : assignment.active = true) :
    assignment.status ≠ .completed := by
  intro completed
  simp [TaskAssignment.active, completed] at active

/-- A task operation leaves a row alone, starts it anew, or moves one that is not `COMPLETED`. -/
theorem RowOrigin.timed {db : Db} {op : TasksOp} {row : TaskAssignment}
    (origin : RowOrigin db op row) (before : CompletionsTimed db) : row.Timed := by
  cases origin with
  | kept _ _ stored => exact before row stored
  | retaken dto user now old live stored owner left => simp [TaskAssignment.Timed, reassigned]
  | fresh taskId dto user now live => simp [TaskAssignment.Timed, newAssignment]
  | left user old stored owner unfinished =>
      exact (before old stored).moved unfinished (by simp)
  | moved newStatus user old status stored owner active allowed =>
      refine (before old stored).moved (unfinished_of_active active) ?_
      rintro rfl
      cases allowed

theorem AutoWithdrawn.timed {affected : UserId → Prop} {db after : Db}
    (withdrawn : AutoWithdrawn affected db after) (before : CompletionsTimed db) :
    CompletionsTimed after := by
  intro row member
  rcases withdrawn.assignments row member with stored | ⟨old, stored, rfl, active, _⟩
  · exact before row stored
  · exact (before old stored).moved (unfinished_of_active active) (by simp)

theorem completionsTimed_step (required : Nat) (db : Db) (op : Op) (before : CompletionsTimed db) :
    CompletionsTimed (op.step required db) := by
  cases op with
  | tasks op =>
      intro row member
      exact ((TasksOp.effect required db op).origin member).timed before
  | users op => exact (UsersOp.effect required db op).timed before
  | requests op =>
      intro row member
      rw [show (Op.step required db (.requests op)).assignments = db.assignments from
        (RequestsOp.effect db op).assignments_eq] at member
      exact before row member

/-- In every state of every run, an assignment has a time of completion exactly if it is
`COMPLETED`. -/
theorem completionsTimed_always (required : Nat) {db : Db} (start : CompletionsTimed db)
    (ops : List Op) : Always (Op.step required) CompletionsTimed db ops :=
  always_of_invariant (completionsTimed_step required) start ops

/-- A task under review, with an assignment that was completed before. -/
def completedBoard : Db :=
  { exampleBoard .local with
    tasks :=
      { rows := [{ RequestsService.autoTask 0 author 0 with status := .pendingReview }]
        next := 1
        below := by decide
        keys := by decide
        slots := by decide }
    assignments :=
      { rows :=
          [{ newAssignment 0 ⟨none⟩ firstVolunteer 1 0 with
              status := .completed, completedAt := some 2 }]
        next := 1
        below := by decide
        keys := by decide
        slots := by decide } }

/-- Confirmed, submitted again and rejected. -/
def confirmedAndRejected : List Op :=
  [.tasks (.confirmTaskCompletion 0 author 3),
    .tasks (.updateTaskStatusAdmin 0 .pendingReview firstAdmin), .tasks (.rejectTask 0 author)]

theorem completionsTimed_always_witness :
    Always (Op.step 3) CompletionsTimed completedBoard confirmedAndRejected := by
  apply completionsTimed_always
  intro assignment stored
  obtain rfl := List.mem_singleton.mp stored
  exact iff_of_true (Option.some_ne_none 2) rfl

end VolunteerApi
