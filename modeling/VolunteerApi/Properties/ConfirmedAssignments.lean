import VolunteerApi.Properties.Completion

/-!
# What a confirmation leaves of the assignments

`confirmTaskCompletion` completes the `ASSIGNED` rows of the task in bulk and then saves the
task, with the assignments it had loaded before.  The save puts every row back, so a task that
is confirmed keeps the assignments that were active on it.
-/

set_option autoImplicit false

namespace VolunteerApi

open Relational Programs
open TasksService

/-- A row that was active is completed, with the time; a withdrawn one is as it was. -/
def Settles (row later : TaskAssignment) : Prop :=
  (row.active = true → later.status = .completed ∧ later.completedAt ≠ none) ∧
    (row.status = .withdrawn → later = row)

/-- The task is `DONE`, its assignments are settled, and none of them is active. -/
structure TaskSettled (db after : Db) (taskId : TaskId) : Prop where
  done : ∃ task, after.findTask taskId = some task ∧ task.status = .done
  settled : ∀ row ∈ db.assignments.rows, row.taskId = taskId →
    ∃ later ∈ after.assignments.rows, later.id = row.id ∧ later.taskId = taskId ∧
      Settles row later
  idle : after.Idle taskId

/-- A confirmation that succeeds settles the task. -/
def SettlesAssignments (required : Nat) (db : Db) (op : Op) : Prop :=
  match op with
  | .tasks (.confirmTaskCompletion taskId _ _) =>
      (op.run required db).1.succeeded = true → TaskSettled db (op.step required db) taskId
  | _ => True

/-- A confirmation that passes its checks is of a task without active assignments. -/
def ConfirmsIdleTask (db : Db) : Op → Prop
  | .tasks (.confirmTaskCompletion taskId user _) =>
      ∀ task request, Confirmable db taskId user task request → db.Idle taskId
  | _ => True

theorem findTask_confirmed {db : Db} {task : Task} (found : db.findTask task.id = some task) :
    (confirmed db task).findTask task.id = some { task with status := .done } := by
  obtain ⟨_, _, live⟩ := Db.findTask_some found
  have replaced := Db.replaced_withTask { task with status := .done } found rfl
  have stored : { task with status := .done } ∈ (confirmed db task).tasks.rows := replaced.new_mem
  exact Db.findTask_of_mem stored live

/-- The assignments are what they were, so they are settled only if none was active. -/
theorem taskSettled_confirmed_iff {db : Db} {task : Task}
    (found : db.findTask task.id = some task) :
    TaskSettled db (confirmed db task) task.id ↔ db.Idle task.id := by
  constructor
  · intro settled
    exact settled.idle
  · intro idle
    refine ⟨⟨_, findTask_confirmed found, rfl⟩, ?_, idle⟩
    intro row stored here
    refine ⟨row, stored, rfl, here, ?_, fun _ => rfl⟩
    intro active
    rw [idle row stored here] at active
    cases active

theorem settlesAssignments_iff (required : Nat) (db : Db) (op : Op) :
    SettlesAssignments required db op ↔ ConfirmsIdleTask db op := by
  cases op with
  | users op => exact Iff.rfl
  | requests op => exact Iff.rfl
  | tasks op =>
      cases op with
      | confirmTaskCompletion taskId user now =>
          rcases confirm_cases required db taskId user now with
            ⟨error, failed⟩ | ⟨task, request, confirmable⟩
          · refine iff_of_true ?_ ?_
            · intro succeeded
              rw [Op.run, failed] at succeeded
              cases succeeded
            · intro task request confirmable
              rw [confirm_run required now confirmable] at failed
              cases failed
          · obtain ⟨_, rfl, _⟩ := Db.findTask_some confirmable.found
            have ran := confirm_run required now confirmable
            have exactly := taskSettled_confirmed_iff confirmable.found
            simp only [SettlesAssignments, Op.step, Op.run, ran, exactly]
            constructor
            · intro settles _ _ _
              exact settles rfl
            · intro idle _
              exact idle task request confirmable
      | _ => exact Iff.rfl

/-- In every run, every confirmation that succeeds settles its task, exactly if each
confirmation that passes its checks finds no active assignment on the task. -/
theorem settlesAssignments_throughout_iff (required : Nat) (db : Db) (ops : List Op) :
    Throughout (Op.step required) (SettlesAssignments required) db ops ↔
      Throughout (Op.step required) ConfirmsIdleTask db ops :=
  throughout_congr (settlesAssignments_iff required) db ops

/-- A volunteer takes the task and completes it, and the author confirms it. -/
def confirmedOnce : List Op :=
  [.tasks (.assignVolunteer 0 ⟨none⟩ firstVolunteer 1), .tasks (.completeTask 0 firstVolunteer 2),
    .tasks (.confirmTaskCompletion 0 author 3)]

/-- The assignment is `ASSIGNED` afterwards, without a time. -/
theorem settlesAssignments_throughout_fails :
    ¬ Throughout (Op.step 3) (SettlesAssignments 3) (exampleBoard .local) confirmedOnce := by
  rintro ⟨_, _, settles, _⟩
  have settled := settles (by decide +kernel)
  have active : ¬ Db.Idle (execute (Op.step 3) (exampleBoard .local) confirmedOnce) 0 := by
    decide +kernel
  exact active settled.idle

end VolunteerApi
