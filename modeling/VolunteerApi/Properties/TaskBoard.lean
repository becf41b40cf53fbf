import VolunteerApi.Effects.TasksEffects

/-!
# The board: tasks in `TODO` and finished tasks

A task in `TODO` should have nobody working on it, and a task in `DONE` or
`CANCELLED` should stay there unless an admin, a renewal or a cancellation moves
it.  Two operations break the first rule and two the second; the theorems below
say in exactly which calls.
-/

set_option autoImplicit false

namespace VolunteerApi

open Relational Programs
open TasksService

/-! ## Nobody works on a task in `TODO` -/

def TodoIdle (db : Db) : Prop :=
  ∀ task ∈ db.tasks.rows, task.status = .todo → db.Idle task.id

/-- Every assignment belongs to a stored task. -/
def Linked (db : Db) : Prop :=
  ∀ assignment ∈ db.assignments.rows, ∃ task ∈ db.tasks.rows, task.id = assignment.taskId

/-- The operations the board rule is about: all but the admin override. -/
def TasksOp.isOverride : TasksOp → Bool
  | .updateTaskStatusAdmin .. => true
  | _ => false

/-- What a call must not do to the board: reset a task to `TODO` because nobody
is `ASSIGNED` to it any more while others are on their way or on site, and renew
a task somebody is still active on. -/
def LeavesNobodyBehind (db : Db) : TasksOp → Prop
  | .withdrawAssignment taskId user =>
      ∀ assignment, db.findAssignment taskId user.id = some assignment →
        assignment.status ≠ .completed →
        (∀ other ∈ db.assignments.rows, other.taskId = taskId → other.id ≠ assignment.id →
          other.status ≠ .assigned) →
        ∀ other ∈ db.assignments.rows, other.taskId = taskId → other.id ≠ assignment.id →
          other.active = false
  | .renewTask taskId user =>
      ∀ task request, db.findTask taskId = some task →
        db.findRequest task.requestId = some request → mayCancel request user = true →
        task.status = .cancelled → db.Idle task.id
  | _ => True

theorem linked_step (required : Nat) (db : Db) (op : TasksOp) (linked : Linked db) :
    Linked (op.step required db) := by
  have effect := TasksOp.effect required db op
  intro row member
  have before : ∃ task ∈ db.tasks.rows, task.id = row.taskId := by
    cases effect.origin member with
    | kept _ _ old => exact linked row old
    | retaken dto user now old live oldMember owner left => exact linked old oldMember
    | fresh taskId dto user now live =>
        obtain ⟨task, _, found, _⟩ := live
        obtain ⟨taskMember, same, _⟩ := Db.findTask_some found
        exact ⟨task, taskMember, same⟩
    | left user old oldMember owner unfinished => exact linked old oldMember
    | moved newStatus user old status oldMember owner active allowed => exact linked old oldMember
  obtain ⟨task, taskMember, same⟩ := before
  obtain ⟨later, laterMember, kept⟩ := effect.task_survives taskMember
  exact ⟨later, laterMember, kept.trans same⟩

/-- An idle task stays idle unless somebody takes it. -/
theorem idle_of_origin {required : Nat} {db after : Db} {op : TasksOp}
    (effect : TasksEffect required db op after) {taskId : TaskId} (idle : db.Idle taskId)
    (untaken : ∀ dto user now, op ≠ .assignVolunteer taskId dto user now) :
    after.Idle taskId := by
  intro row member same
  cases active : row.active with
  | false => rfl
  | true =>
      rcases (effect.origin member).active active with
        ⟨old, oldMember, sameTask, _, oldActive⟩ | ⟨dto, user, now, rfl, _⟩
      · have inactive := idle old oldMember (sameTask.trans same)
        rw [oldActive] at inactive
        cases inactive
      · rw [same] at untaken
        exact absurd rfl (untaken dto user now)

/-- The reset of a withdrawal leaves the task idle exactly when no other active
assignment was there. -/
theorem idle_withdrawn_iff {db : Db} {taskId : TaskId} {assignment : TaskAssignment}
    (member : assignment ∈ db.assignments.rows) :
    (withdrawn db taskId assignment.id).Idle taskId ↔
      ∀ other ∈ db.assignments.rows, other.taskId = taskId → other.id ≠ assignment.id →
        other.active = false := by
  unfold Db.Idle
  rw [withdrawn_assignments]
  have replaced := Table.replaced_update_key withdrawnPatch member
  constructor
  · intro idle other otherMember same different
    refine idle other (replaced.kept otherMember ?_) same
    rintro rfl
    exact different rfl
  · intro alone row rowMember same
    rcases (replaced.mem row).mp rowMember with rfl | ⟨otherMember, different⟩
    · rfl
    · apply alone row otherMember same
      intro sameId
      exact different (Table.eq_of_key otherMember member sameId)

theorem reset_row {db : Db} {taskId : TaskId} {assignmentId : AssignmentId} {task : Task}
    (member : task ∈ db.tasks.rows) (same : task.id = taskId)
    (alone : countAssigned (markedWithdrawn db assignmentId) taskId = 0) :
    resetPatch.run task ∈ (withdrawn db taskId assignmentId).tasks.rows := by
  rw [withdrawn, if_pos alone]
  have image := Table.image_mem_update (fun task => decide (task.id = taskId)) resetPatch member
  rwa [if_pos (decide_eq_true same)] at image

theorem entered_busy {db : Db} {task row : Task} {request : Request} {volunteer : User}
    {tasks : Table Task.id Task.id} {chats : Table Chat.id Chat.id}
    (entered : Entered db task request volunteer tasks chats) (stored : task ∈ db.tasks.rows)
    (member : row ∈ tasks.rows) (same : row.id = task.id) : row.status ≠ .todo := by
  cases entered with
  | starts todo =>
      have replaced := Table.replaced_save (started task db.chats.next) stored rfl rfl
      rw [replaced.eq_new member same]
      simp [started]
  | joins chatId busy chat =>
      rw [Table.eq_of_key member stored same]
      exact busy
  | unheard busy chat =>
      rw [Table.eq_of_key member stored same]
      exact busy

theorem untaken_of_todo {required : Nat} {db after : Db} {op : TasksOp}
    (effect : TasksEffect required db op after) {row : Task} (member : row ∈ after.tasks.rows)
    (todo : row.status = .todo) :
    after.assignments = db.assignments ∨
      ∀ dto user now, op ≠ .assignVolunteer row.id dto user now := by
  cases effect with
  | quiet _ _ same => exact Or.inl same.assignments
  | created requestId dto user request present => exact Or.inl rfl
  | edited _ task new _ found edit tasks assignments chats requests => exact Or.inl assignments
  | assigned taskId dto user now task request _ assigned =>
      right
      intro otherDto otherUser otherNow same
      cases same
      obtain ⟨assignments, tasks, chats, _, entered, rfl⟩ := assigned.effect
      obtain ⟨stored, sameId, _⟩ := Db.findTask_some assigned.found
      exact entered_busy entered stored member sameId.symm todo
  | withdrawn taskId user assignment found unfinished =>
      right
      intro dto other now same
      cases same
  | moved taskId newStatus user assignment status found active allowed =>
      right
      intro dto other now same
      cases same

/-- A careful call keeps the board rule. -/
theorem todoIdle_of_effect {required : Nat} {db after : Db} {op : TasksOp}
    (effect : TasksEffect required db op after) (linked : Linked db)
    (noOverride : op.isOverride = false) (before : TodoIdle db)
    (careful : LeavesNobodyBehind db op) : TodoIdle after := by
  intro row member todo
  have stays : db.Idle row.id → after.Idle row.id := by
    intro idle
    rcases untaken_of_todo effect member todo with same | untaken
    · unfold Db.Idle
      rw [same]
      exact idle
    · exact idle_of_origin effect idle untaken
  cases effect.taskOrigin member with
  | kept _ _ old => exact stays (before row old todo)
  | created requestId dto user request present =>
      apply stays
      intro assignment assignmentMember same
      obtain ⟨task, taskMember, taskSame⟩ := linked assignment assignmentMember
      exact absurd (taskSame.trans same) (Table.key_ne_next taskMember)
  | edited _ task _ found edit =>
      have sameId := edit.id_eq
      rw [sameId] at stays ⊢
      cases edit with
      | update dto user idle => exact stays idle
      | deleteTask user now idle => exact stays idle
      | renewTask user request present allowed cancelled =>
          exact stays (careful task request found present allowed cancelled)
      | completeTask user now allowed present => cases todo
      | returnToProgress user now reviewing => cases todo
      | confirmTaskCompletion user now reviewing => cases todo
      | rejectTask user reviewing => cases todo
      | updateTaskStatusAdmin status user admin => cases noOverride
      | cancelTask user => cases todo
  | started dto user now old found busy => cases todo
  | reset user assignment old oldMember found unfinished alone =>
      cases effect with
      | quiet _ _ same => exact stays (before _ (same.tasks ▸ member) todo)
      | edited _ task new _ taskFound edit tasks assignments chats requests => cases edit
      | withdrawn _ _ other otherFound _ =>
          rw [found] at otherFound
          cases otherFound
          have stored := (Db.findAssignment_some found).1
          exact (idle_withdrawn_iff stored).mpr (careful assignment found unfinished
            ((countAssigned_markedWithdrawn stored).mp alone))

theorem todoIdle_step_iff (required : Nat) (db : Db) (op : TasksOp) (linked : Linked db)
    (noOverride : op.isOverride = false) (before : TodoIdle db) :
    TodoIdle (op.step required db) ↔ LeavesNobodyBehind db op := by
  constructor
  · intro later
    cases op with
    | withdrawAssignment taskId user =>
        intro assignment found unfinished nobodyElse
        obtain ⟨stored, sameTask, _⟩ := Db.findAssignment_some found
        have alone := (countAssigned_markedWithdrawn stored).mpr nobodyElse
        obtain ⟨task, taskMember, sameId⟩ := linked assignment stored
        have ended : TasksOp.step required db (.withdrawAssignment taskId user) =
            withdrawn db taskId assignment.id :=
          congrArg Prod.snd (withdrawAssignment_run found unfinished)
        rw [ended] at later
        have idle := later _ (reset_row taskMember (sameId.trans sameTask) alone) rfl
        rw [← sameTask, ← sameId]
        refine (idle_withdrawn_iff stored).mp ?_
        rw [sameId, sameTask]
        rwa [resetPatch.key_run, sameId, sameTask] at idle
    | renewTask taskId user =>
        intro task request found present allowed cancelled
        have ended : TasksOp.step required db (.renewTask taskId user) =
            db.withTask { task with status := .todo } :=
          congrArg Prod.snd (renewTask_run found present allowed cancelled)
        rw [ended] at later
        have renewed := (Db.replaced_withTask { task with status := .todo } found rfl).new_mem
        have idle := later _ renewed rfl
        exact idle
    | _ => trivial
  · exact todoIdle_of_effect (TasksOp.effect required db op) linked noOverride before

/-- In a run from new tasks without the admin override, every task in `TODO`
stays without active assignments exactly as long as no call leaves somebody
behind. -/
theorem todoIdle_iff (required : Nat) (db : Db) (fresh : FreshBoard db) (ops : List TasksOp)
    (noOverride : ∀ op ∈ ops, op.isOverride = false) :
    Always (TasksOp.step required) TodoIdle db ops ↔
      Throughout (TasksOp.step required) LeavesNobodyBehind db ops := by
  have linked : Linked db := by
    intro assignment member
    rw [fresh.1] at member
    cases member
  have start : TodoIdle db := by
    intro task _ _ assignment member
    rw [fresh.1] at member
    cases member
  refine always_iff_throughout ?_ ?_ linked start noOverride
  · intro state op inside _
    exact linked_step required state op inside
  · intro state op inside allowed before
    exact todoIdle_step_iff required state op inside allowed before

instance : DecidablePred TodoIdle := fun db =>
  inferInstanceAs (Decidable (∀ task ∈ db.tasks.rows, task.status = .todo →
    ∀ assignment ∈ db.assignments.rows, assignment.taskId = task.id → assignment.active = false))

instance : DecidablePred FreshBoard := fun db =>
  inferInstanceAs (Decidable (db.assignments.rows = [] ∧
    ∀ task ∈ db.tasks.rows, task.status = .todo ∧ task.chatId = none))

/-- Two volunteers take the task, the second goes on site, the first withdraws. -/
def strandedRun : List TasksOp :=
  [.assignVolunteer 0 ⟨none⟩ firstVolunteer 1, .assignVolunteer 0 ⟨none⟩ secondVolunteer 2,
    .updateAssignmentStatus 0 "on_site" secondVolunteer, .withdrawAssignment 0 firstVolunteer]

theorem todoIdle_fails :
    FreshBoard (exampleBoard .local) ∧ (∀ op ∈ strandedRun, op.isOverride = false) ∧
      ¬ Always (TasksOp.step 3) TodoIdle (exampleBoard .local) strandedRun := by
  refine ⟨by decide, by decide, ?_⟩
  intro all
  have last := always_end all
  revert last
  decide +kernel

theorem todoIdle_iff_example :
    Always (TasksOp.step 3) TodoIdle (exampleBoard .local) (strandedRun.take 3) :=
  (todoIdle_iff 3 (exampleBoard .local) (by decide) (strandedRun.take 3) (by decide)).mpr
    ⟨trivial, trivial, trivial, trivial⟩

/-! ## A finished task stays finished -/

def TaskStatus.Finished (status : TaskStatus) : Prop := status = .done ∨ status = .cancelled

instance : DecidablePred TaskStatus.Finished := fun _ => inferInstanceAs (Decidable (_ ∨ _))

/-- The calls that are meant to move a finished task. -/
def MayMoveFinished (task : Task) : TasksOp → Prop
  | .updateTaskStatusAdmin taskId _ user => taskId = task.id ∧ user.systemRole = .admin
  | .renewTask taskId _ => taskId = task.id ∧ task.status = .cancelled
  | .cancelTask taskId _ => taskId = task.id
  | _ => False

/-- A call changes the status of a finished task only if it is meant to. -/
def FinishedStays (required : Nat) (db : Db) (op : TasksOp) : Prop :=
  ∀ task ∈ db.tasks.rows, task.status.Finished →
    ∀ later ∈ (op.step required db).tasks.rows, later.id = task.id →
      later.status ≠ task.status → MayMoveFinished task op

/-- What a call must not do to a finished task: complete it, and reset it
because nobody is `ASSIGNED` to it any more. -/
def SparesFinished (db : Db) : TasksOp → Prop
  | .completeTask taskId user _ =>
      ∀ task, db.findTask taskId = some task → mayComplete (db.loaded task) user →
        db.findRequest task.requestId ≠ none → ¬ task.status.Finished
  | .withdrawAssignment taskId user =>
      ∀ assignment, db.findAssignment taskId user.id = some assignment →
        assignment.status ≠ .completed →
        (∀ other ∈ db.assignments.rows, other.taskId = taskId → other.id ≠ assignment.id →
          other.status ≠ .assigned) →
        ∀ task ∈ db.tasks.rows, task.id = taskId → ¬ task.status.Finished
  | _ => True

theorem finishedStays_of_spares (required : Nat) (db : Db) (op : TasksOp)
    (spares : SparesFinished db op) : FinishedStays required db op := by
  intro task taskMember finished later laterMember same changed
  cases (TasksOp.effect required db op).taskOrigin laterMember with
  | kept _ _ old =>
      rw [Table.eq_of_key old taskMember same] at changed
      exact absurd rfl changed
  | created requestId dto user request present =>
      exact absurd same.symm (Table.key_ne_next taskMember)
  | edited _ old _ found edit =>
      have stored := (Db.findTask_some found).1
      have oldEq : old = task := Table.eq_of_key stored taskMember (edit.id_eq.symm.trans same)
      subst oldEq
      cases edit with
      | update dto user idle => exact absurd rfl changed
      | deleteTask user now idle => exact absurd rfl changed
      | completeTask user now allowed present =>
          exact absurd finished (spares old found allowed present)
      | returnToProgress user now reviewing =>
          rw [reviewing] at finished
          exact absurd finished (by decide)
      | confirmTaskCompletion user now reviewing =>
          rw [reviewing] at finished
          exact absurd finished (by decide)
      | rejectTask user reviewing =>
          rw [reviewing] at finished
          exact absurd finished (by decide)
      | updateTaskStatusAdmin status user admin => exact ⟨rfl, admin⟩
      | cancelTask user => exact rfl
      | renewTask user request present allowed cancelled => exact ⟨rfl, cancelled⟩
  | started dto user now old found todo =>
      have oldEq : old = task := Table.eq_of_key (Db.findTask_some found).1 taskMember same
      rw [← oldEq, todo] at finished
      exact absurd finished (by decide)
  | reset user assignment old oldMember found unfinished alone =>
      have oldEq : old = task := Table.eq_of_key oldMember taskMember same
      subst oldEq
      have stored := (Db.findAssignment_some found).1
      exact absurd finished (spares assignment found unfinished
        ((countAssigned_markedWithdrawn stored).mp alone) old oldMember rfl)

theorem finishedStays_iff (required : Nat) (db : Db) (op : TasksOp) :
    FinishedStays required db op ↔ SparesFinished db op := by
  constructor
  · intro stays
    cases op with
    | completeTask taskId user now =>
        intro task found allowed present finished
        have ended : TasksOp.step required db (.completeTask taskId user now) = db.withTask _ :=
          congrArg Prod.snd (completeTask_run found allowed present)
        have submitted := (Db.replaced_withTask
          { task with status := .pendingReview, pendingReviewAt := some now } found rfl).new_mem
        rw [← ended] at submitted
        apply stays task (Db.findTask_some found).1 finished _ submitted rfl
        intro same
        rw [← same] at finished
        simp [TaskStatus.Finished] at finished
    | withdrawAssignment taskId user =>
        intro assignment found unfinished nobodyElse task taskMember sameId finished
        have stored := (Db.findAssignment_some found).1
        have alone := (countAssigned_markedWithdrawn stored).mpr nobodyElse
        have ended : TasksOp.step required db (.withdrawAssignment taskId user) =
            withdrawn db taskId assignment.id :=
          congrArg Prod.snd (withdrawAssignment_run found unfinished)
        have moved := reset_row taskMember sameId alone
        rw [← ended] at moved
        apply stays task taskMember finished _ moved rfl
        intro same
        rw [← same] at finished
        simp [TaskStatus.Finished, resetPatch] at finished
    | _ => trivial
  · exact finishedStays_of_spares required db op

/-- In a run of task operations, finished tasks move only by the calls meant to
move them exactly when no other call completes or resets one. -/
theorem finishedStays_throughout (required : Nat) (db : Db) (ops : List TasksOp) :
    Throughout (TasksOp.step required) (FinishedStays required) db ops ↔
      Throughout (TasksOp.step required) SparesFinished db ops :=
  throughout_congr (finishedStays_iff required) db ops

/-- A volunteer takes the task, the author cancels it, the volunteer completes it. -/
def lateCompletion : List TasksOp :=
  [.assignVolunteer 0 ⟨none⟩ firstVolunteer 1, .cancelTask 0 author,
    .completeTask 0 firstVolunteer 2]

theorem finishedStays_fails :
    ¬ Throughout (TasksOp.step 3) (FinishedStays 3) (exampleBoard .local) lateCompletion := by
  rintro ⟨_, _, last, _⟩
  have cancelled : ∃ task ∈ (execute (TasksOp.step 3) (exampleBoard .local)
      (lateCompletion.take 2)).tasks.rows, task.status = .cancelled ∧ task.id = 0 := by
    decide +kernel
  have submitted : ∃ task ∈ (execute (TasksOp.step 3) (exampleBoard .local)
      lateCompletion).tasks.rows, task.status = .pendingReview ∧ task.id = 0 := by
    decide +kernel
  obtain ⟨before, beforeMember, beforeStatus, beforeId⟩ := cancelled
  obtain ⟨after, afterMember, afterStatus, afterId⟩ := submitted
  refine last before beforeMember (Or.inr beforeStatus) after afterMember
    (afterId.trans beforeId.symm) ?_
  rw [beforeStatus, afterStatus]
  decide

end VolunteerApi
