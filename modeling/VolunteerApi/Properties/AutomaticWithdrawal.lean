import VolunteerApi.Effects.TasksEffects
import VolunteerApi.Effects.TrustEffects

/-!
# Leaving every task at once

A recalculation that takes `FRONTLINE` away withdraws the user's assignments, as the user could
one by one.  `withdrawAssignment` also resets a task on which nobody is `ASSIGNED` any more;
the automatic withdrawal leaves such a task in progress, with its chat.
-/

set_option autoImplicit false

namespace VolunteerApi

open Relational Programs
open TasksService UsersService

/-- The recalculation takes `FRONTLINE` from the user. -/
structure LosesFrontline (required : Nat) (db : Db) (user : User) : Prop where
  stored : user ∈ db.users.rows
  level : user.clearanceLevel = .frontline
  notGranted : user.frontlineGrantedByAdmin = false
  lower : clearanceFor required (db.activeVouches user.id) user.isEmailVerified ≠ .frontline

def Db.activeAssignmentsOf (db : Db) (userId : UserId) : List TaskAssignment :=
  db.assignments.find fun assignment => assignment.userId = userId ∧ assignment.active = true

def withdrawEach (user : User) (held : List TaskAssignment) : List TasksOp :=
  held.map fun assignment => .withdrawAssignment assignment.taskId user

/-- The automatic withdrawal leaves the assignments and the tasks as the user would who
withdraws each active assignment once, in any order. -/
def WithdrawsAlike (required : Nat) (db : Db) (user : User) : Prop :=
  ∀ held, held.Perm (db.activeAssignmentsOf user.id) →
    (UsersOp.run required db (.recalculateClearance user.id)).2.assignments =
        (execute (TasksOp.step required) db (withdrawEach user held)).assignments ∧
      (UsersOp.run required db (.recalculateClearance user.id)).2.tasks =
        (execute (TasksOp.step required) db (withdrawEach user held)).tasks

/-- Nobody else is `ASSIGNED` on the task. -/
def Db.Last (db : Db) (assignment : TaskAssignment) : Prop :=
  ∀ other ∈ db.assignments.rows, other.taskId = assignment.taskId → other.id ≠ assignment.id →
    other.status ≠ .assigned

instance (db : Db) : DecidablePred db.Last := fun _ => inferInstanceAs (Decidable (∀ _ ∈ _, _))

/-- Where the user is the last one who keeps a task going, the task is new, without a chat. -/
def LeavesNothingToReset (db : Db) (userId : UserId) : Prop :=
  ∀ assignment ∈ db.activeAssignmentsOf userId, db.Last assignment →
    ∀ task ∈ db.tasks.rows, task.id = assignment.taskId →
      task.status = .todo ∧ task.chatId = none

/-! ## One by one -/

section OneByOne

variable {db : Db} {user : User}

@[simp] theorem mem_activeAssignmentsOf {userId : UserId} {assignment : TaskAssignment} :
    assignment ∈ db.activeAssignmentsOf userId ↔
      assignment ∈ db.assignments.rows ∧ assignment.userId = userId ∧
        assignment.active = true := by
  simp [Db.activeAssignmentsOf]

/-- A withdrawal marks the assignment, and resets the task if the assignment is the last. -/
theorem withdrawn_eq {assignment : TaskAssignment} (stored : assignment ∈ db.assignments.rows) :
    withdrawn db assignment.taskId assignment.id =
      { db with
        assignments := db.assignments.update (fun row => row.id = assignment.id) withdrawnPatch
        tasks := db.tasks.update
          (fun task => task.id = assignment.taskId ∧ db.Last assignment) resetPatch } := by
  by_cases last : db.Last assignment
  · rw [withdrawn, if_pos ((countAssigned_markedWithdrawn stored).mpr last)]
    simp only [last, and_true]
    rfl
  · rw [withdrawn, if_neg fun alone => last ((countAssigned_markedWithdrawn stored).mp alone)]
    simp only [last, and_false, decide_false, Table.update_none]
    rfl

theorem withdraw_step (required : Nat) {assignment : TaskAssignment}
    (held : assignment ∈ db.activeAssignmentsOf user.id) :
    TasksOp.step required db (.withdrawAssignment assignment.taskId user) =
      withdrawn db assignment.taskId assignment.id := by
  obtain ⟨stored, owner, active⟩ := mem_activeAssignmentsOf.mp held
  have found := Db.findAssignment_of_mem stored
  rw [owner] at found
  have unfinished : assignment.status ≠ .completed := by
    intro completed
    simp [TaskAssignment.active, completed] at active
  simp only [TasksOp.step, TasksOp.run, withdrawAssignment_run found unfinished]
  rfl

/-- Two assignments of a user are on two tasks. -/
theorem apart_of_ne {userId : UserId} {left right : TaskAssignment}
    (leftHeld : left ∈ db.activeAssignmentsOf userId)
    (rightHeld : right ∈ db.activeAssignmentsOf userId) (different : left ≠ right) :
    left.taskId ≠ right.taskId := by
  obtain ⟨leftStored, leftOwner, _⟩ := mem_activeAssignmentsOf.mp leftHeld
  obtain ⟨rightStored, rightOwner, _⟩ := mem_activeAssignmentsOf.mp rightHeld
  intro same
  refine different (Table.eq_of_uniq leftStored rightStored ?_)
  simp [TaskAssignment.slot, same, leftOwner, rightOwner]

/-- A withdrawal from one task does not decide who is the last on another. -/
theorem last_withdrawn {userId : UserId} {left other : TaskAssignment}
    (leftHeld : left ∈ db.activeAssignmentsOf userId)
    (otherHeld : other ∈ db.activeAssignmentsOf userId) (different : left ≠ other) :
    (withdrawn db left.taskId left.id).Last other ↔ db.Last other := by
  have apart := apart_of_ne leftHeld otherHeld different
  have stored := (mem_activeAssignmentsOf.mp leftHeld).1
  have replaced := Table.replaced_update_key withdrawnPatch stored
  unfold Db.Last
  rw [withdrawn_assignments]
  constructor
  · intro last row rowStored same
    exact last row (replaced.kept rowStored fun here => apart (by rw [← same, here])) same
  · intro last row rowStored same
    rcases (replaced.mem row).mp rowStored with rfl | ⟨old, _⟩
    · exact absurd same apart
    · exact last row old same

theorem held_withdrawn {userId : UserId} {left other : TaskAssignment}
    (leftHeld : left ∈ db.activeAssignmentsOf userId)
    (otherHeld : other ∈ db.activeAssignmentsOf userId) (different : left ≠ other) :
    other ∈ (withdrawn db left.taskId left.id).activeAssignmentsOf userId := by
  obtain ⟨stored, owner, active⟩ := mem_activeAssignmentsOf.mp otherHeld
  have replaced := Table.replaced_update_key withdrawnPatch (mem_activeAssignmentsOf.mp leftHeld).1
  rw [mem_activeAssignmentsOf, withdrawn_assignments]
  exact ⟨replaced.kept stored different.symm, owner, active⟩

def holdsLastOf (db : Db) (held : List TaskAssignment) (task : Task) : Bool :=
  held.any fun assignment => task.id = assignment.taskId ∧ db.Last assignment

@[simp] theorem holdsLastOf_iff {held : List TaskAssignment} {task : Task} :
    holdsLastOf db held task = true ↔
      ∃ assignment ∈ held, task.id = assignment.taskId ∧ db.Last assignment := by
  simp [holdsLastOf]

/-- All the withdrawals together mark the assignments, and reset each task whose last they hold.
The induction is on the assignments still held; what was left before does not matter to them. -/
theorem withdrawEach_run (required : Nat) {held : List TaskAssignment} (distinct : held.Nodup)
    (all : ∀ assignment ∈ held, assignment ∈ db.activeAssignmentsOf user.id) :
    execute (TasksOp.step required) db (withdrawEach user held) =
      { db with
        assignments := db.assignments.update (fun row => row.id ∈ held.map TaskAssignment.id)
          withdrawnPatch
        tasks := db.tasks.update (holdsLastOf db held) resetPatch } := by
  induction held generalizing db with
  | nil =>
      have nobody : holdsLastOf db [] = fun _ => false := rfl
      simp [withdrawEach, nobody, Table.update_none]
  | cons first rest ih =>
      obtain ⟨notAgain, distinctRest⟩ := List.nodup_cons.mp distinct
      have firstHeld := all first List.mem_cons_self
      have restHeld : ∀ other ∈ rest, other ∈ db.activeAssignmentsOf user.id :=
        fun other member => all other (List.mem_cons_of_mem first member)
      have different : ∀ other ∈ rest, first ≠ other := by
        rintro other member rfl
        exact notAgain member
      have sameLast : holdsLastOf (withdrawn db first.taskId first.id) rest =
          holdsLastOf db rest := by
        funext task
        rw [Bool.eq_iff_iff, holdsLastOf_iff, holdsLastOf_iff]
        refine exists_congr fun other => and_congr_right fun member => and_congr_right fun _ => ?_
        exact last_withdrawn firstHeld (restHeld other member) (different other member)
      have later := ih distinctRest fun other member =>
        held_withdrawn firstHeld (restHeld other member) (different other member)
      rw [withdrawEach, List.map_cons, execute_cons, withdraw_step required firstHeld]
      refine later.trans ?_
      rw [sameLast, withdrawn_eq (mem_activeAssignmentsOf.mp firstHeld).1]
      simp only
      rw [Table.update_update withdrawnPatch (fun _ => rfl) fun _ => rfl,
        Table.update_update resetPatch (fun _ => rfl) fun _ => rfl]
      simp only [List.map_cons, List.mem_cons, Bool.decide_or]
      rfl

end OneByOne

/-! ## All at once -/

theorem lost_run {required : Nat} {db : Db} {user : User}
    (loses : LosesFrontline required db user) :
    (UsersOp.run required db (.recalculateClearance user.id)).2.assignments =
        (withdrawnFrom db user.id).assignments ∧
      (UsersOp.run required db (.recalculateClearance user.id)).2.tasks = db.tasks := by
  have notGranted : ¬ (user.frontlineGrantedByAdmin = true ∧ user.clearanceLevel = .frontline) := by
    simp [loses.notGranted]
  have changed : user.clearanceLevel ≠
      clearanceFor required (db.activeVouches user.id) user.isEmailVerified := by
    rw [loses.level]
    exact loses.lower.symm
  rw [UsersOp.run_recalculateClearance, recalculated, Db.findUser_of_mem loses.stored]
  simp only [if_neg notGranted, if_pos changed, if_pos loses.level]
  exact ⟨rfl, rfl⟩

/-- The rows the automatic withdrawal marks are the user's active assignments. -/
theorem withdrawnFrom_assignments (db : Db) {userId : UserId} {held : List TaskAssignment}
    (all : held.Perm (db.activeAssignmentsOf userId)) :
    (withdrawnFrom db userId).assignments =
      db.assignments.update (fun row => row.id ∈ held.map TaskAssignment.id) withdrawnPatch := by
  apply Table.update_congr
  intro row stored
  rw [decide_eq_decide, List.mem_map]
  constructor
  · rintro ⟨owner, withdrawable⟩
    refine ⟨row, all.mem_iff.mpr ?_, rfl⟩
    exact mem_activeAssignmentsOf.mpr ⟨stored, owner, withdrawable_active withdrawable⟩
  · rintro ⟨other, listed, same⟩
    obtain ⟨otherStored, owner, active⟩ := mem_activeAssignmentsOf.mp (all.mem_iff.mp listed)
    obtain rfl := Table.eq_of_key otherStored stored same
    refine ⟨owner, ?_⟩
    simpa [isWithdrawable, TaskAssignment.active] using active

theorem reset_eq_self_iff (task : Task) :
    resetPatch.run task = task ↔ task.status = .todo ∧ task.chatId = none := by
  obtain ⟨⟩ := task
  simp [resetPatch, eq_comm]

/-- Where a recalculation takes `FRONTLINE` from a user, it leaves the assignments and the tasks
as the user would who withdraws from each task, exactly if no withdrawal has a task to reset. -/
theorem withdrawsAlike_iff {required : Nat} {db : Db} {user : User}
    (loses : LosesFrontline required db user) :
    WithdrawsAlike required db user ↔ LeavesNothingToReset db user.id := by
  obtain ⟨assignments, tasks⟩ := lost_run loses
  have distinct : (db.activeAssignmentsOf user.id).Nodup :=
    (List.Nodup.of_map TaskAssignment.id db.assignments.keys).filter _
  have unreset : ∀ held : List TaskAssignment, held.Perm (db.activeAssignmentsOf user.id) →
      (db.tasks = db.tasks.update (holdsLastOf db held) resetPatch ↔
        LeavesNothingToReset db user.id) := by
    intro held all
    rw [eq_comm, Table.update_eq_self_iff]
    simp only [holdsLastOf_iff, reset_eq_self_iff]
    constructor
    · intro reset assignment listed last task stored here
      exact reset task stored ⟨assignment, all.mem_iff.mpr listed, here, last⟩
    · rintro nothing task stored ⟨assignment, listed, here, last⟩
      exact nothing assignment (all.mem_iff.mp listed) last task stored here
  have alike_iff : ∀ held : List TaskAssignment, held.Perm (db.activeAssignmentsOf user.id) →
      ((withdrawnFrom db user.id).assignments =
          (execute (TasksOp.step required) db (withdrawEach user held)).assignments ∧
        db.tasks = (execute (TasksOp.step required) db (withdrawEach user held)).tasks ↔
        LeavesNothingToReset db user.id) := by
    intro held all
    rw [withdrawEach_run required (all.nodup_iff.mpr distinct) fun _ member =>
      all.mem_iff.mp member, ← unreset held all]
    exact and_iff_right (withdrawnFrom_assignments db all)
  rw [WithdrawsAlike, assignments, tasks]
  constructor
  · intro alike
    exact (alike_iff _ (List.Perm.refl _)).mp (alike _ (List.Perm.refl _))
  · intro nothing held all
    exact (alike_iff held all).mpr nothing

/-- A `FRONTLINE` volunteer without vouches, alone on the task. -/
def formerFrontline : User := { firstVolunteer with clearanceLevel := .frontline }

def lonelyBoard : Db :=
  { TasksOp.step 3 (exampleBoard .local) (.assignVolunteer 0 ⟨none⟩ firstVolunteer 1) with
    users :=
      { rows := [author, formerFrontline]
        next := 2
        below := by decide
        keys := by decide
        slots := by decide } }

theorem lonelyBoard_loses : LosesFrontline 3 lonelyBoard formerFrontline where
  stored := by simp [lonelyBoard]
  level := rfl
  notGranted := rfl
  lower := by decide +kernel

theorem withdrawsAlike_iff_witness :
    WithdrawsAlike 3 lonelyBoard formerFrontline ↔ LeavesNothingToReset lonelyBoard 1 :=
  withdrawsAlike_iff lonelyBoard_loses

/-- The task stays in progress; the volunteer's own withdrawal makes it `TODO`. -/
theorem withdrawsAlike_fails :
    LosesFrontline 3 lonelyBoard formerFrontline ∧
      ¬ WithdrawsAlike 3 lonelyBoard formerFrontline := by
  refine ⟨lonelyBoard_loses, ?_⟩
  intro alike
  have same := (alike _ (List.Perm.refl _)).2
  have statuses := congrArg (fun table => table.rows.map Task.status) same
  revert statuses
  decide +kernel

end VolunteerApi
