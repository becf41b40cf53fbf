import VolunteerApi.Effects.ServerRows

/-!
# Who changes a task

A task is edited and deleted by its author, the owner of its request, an admin or a coordinator,
and only while nobody is active on it.  Every status has its own circle of users who may set it.
-/

set_option autoImplicit false

namespace VolunteerApi

open Relational Programs Db
open TasksService

/-- The task without its progress: status, chat and the time of its submission. -/
def Task.contents (task : Task) : Task :=
  { task with status := .todo, chatId := none, pendingReviewAt := none }

/-- The task and its request are there, and satisfy what a check asks of them. -/
def Db.Permits (db : Db) (taskId : TaskId) (may : Task → Request → Bool) : Prop :=
  ∃ task request, db.findTask taskId = some task ∧
    db.findRequest task.requestId = some request ∧ may task request = true

/-- Who may give the task this status. -/
def StatusEntitled (db after : Db) (user : User) (task : Task) : TaskStatus → Prop
  | .todo =>
      db.HasTaken task.id user.id ∨
        task.status = .cancelled ∧ db.Permits task.id fun _ request => mayCancel request user
  | .inProgress =>
      task.status = .todo ∧ after.HasTaken task.id user.id ∨
        task.status = .pendingReview ∧ (db.HasTaken task.id user.id ∨
          db.Permits task.id fun _ request => mayReview request user)
  | .pendingReview => mayComplete (db.loaded task) user
  | .done =>
      task.status = .pendingReview ∧ db.Permits task.id fun _ request => mayReview request user
  | .cancelled => db.Permits task.id fun _ request => mayCancel request user

/-- What the user has to be for what the call has made of the task. -/
structure TaskEntitled (db after : Db) (user : User) (old new : Task) : Prop where
  contents : new.contents ≠ old.contents →
    db.Idle old.id ∧ db.Permits old.id fun task request => mayEdit task request user
  status : new.status ≠ old.status →
    user.systemRole = .admin ∨ StatusEntitled db after user old new.status

/-! ## Checks -/

/-- A method that loads a task and asks the same question changes nothing when the answer is no. -/
theorem run_of_unpermitted {α : Type} {db : Db} {taskId : TaskId}
    (may : Task → Request → Bool) {missing refusal : HttpException}
    {rest : LoadedTask → Request → Service α} (refused : ¬ db.Permits taskId may) :
    (((Prog.query fun db : Db => db.loadTask taskId).bind fun found =>
      (Prog.orThrow found missing).bind fun loaded =>
      (requestOf loaded).bind fun request =>
      (Prog.throwIf (may loaded.task request = false) refusal).bind fun _ =>
        rest loaded request : Service α).run db).2 = db := by
  rw [Prog.run_query_bind]
  cases load : db.loadTask taskId with
  | none => rfl
  | some loaded =>
      obtain ⟨task, found, rfl⟩ := Db.loadTask_eq_some.mp load
      rw [Prog.run_orThrow_bind]
      simp only [requestOf, Prog.run_orThrow_bind]
      cases present : (db.loaded task).request with
      | none => rfl
      | some request =>
          have denied : may (db.loaded task).task request = false := by
            rw [Bool.eq_false_iff]
            intro allowed
            exact refused ⟨task, request, found, present, allowed⟩
          simp only [Prog.run_throwIf_bind, if_pos denied]

theorem TasksOp.step_of_run {α : Type} {required : Nat} {db : Db} {op : TasksOp} {p : Service α}
    (runs : op.run required db = ended (p.run db)) (same : (p.run db).2 = db) :
    op.step required db = db := by
  rw [TasksOp.step, runs]
  exact same

/-! ## One call -/

section Step

variable {required : Nat} {db after : Db} {op : TasksOp} {user : User} {old new : Task}

theorem TaskEntitled.same : TaskEntitled db after user old old where
  contents changed := absurd rfl changed
  status changed := absurd rfl changed

/-- A call that only sets the status, and the columns that go with it. -/
theorem TaskEntitled.of_status (contents : new.contents = old.contents)
    (status : new ≠ old → user.systemRole = .admin ∨ StatusEntitled db after user old new.status) :
    TaskEntitled db after user old new where
  contents changed := absurd contents changed
  status changed := status fun same => changed (by rw [same])

theorem TasksEffect.taker {taskId : TaskId} {dto : AssignTaskDto} {now : Time}
    (effect : TasksEffect required db (.assignVolunteer taskId dto user now) after) :
    after.tasks = db.tasks ∨ after.HasTaken taskId user.id := by
  cases effect with
  | quiet _ _ same => exact Or.inl same.tasks
  | edited _ task new _ found edit tasks assignments chats requests => cases edit
  | assigned _ _ _ _ task request _ assigned =>
      obtain ⟨assignments, tasks, chats, upserted, entered, rfl⟩ := assigned.effect
      exact Or.inr upserted.taken

theorem mayReturn_taken {task : Task} (assignee : isReturningAssignee (db.loaded task) user = true) :
    db.HasTaken task.id user.id := by
  obtain ⟨assignment, held, hit⟩ := List.any_eq_true.mp assignee
  obtain ⟨stored, ofTask⟩ := Db.mem_assignmentsOf.mp held
  exact ⟨assignment, stored, ofTask, (of_decide_eq_true hit).1⟩

theorem TasksOp.entitled (stored : old ∈ db.tasks.rows)
    (later : new ∈ (op.step required db).tasks.rows) (sameId : new.id = old.id) :
    TaskEntitled db (op.step required db) op.caller old new := by
  have effect := TasksOp.effect required db op
  have unchanged (same : (op.step required db).tasks = db.tasks) : new = old :=
    Table.eq_of_key (same ▸ later) stored sameId
  have permitted {may : Task → Request → Bool} (changed : new ≠ old)
      (denies : ¬ db.Permits old.id may → op.step required db = db) : db.Permits old.id may := by
    by_contra refused
    exact changed (unchanged (by rw [denies refused]))
  cases effect.taskOrigin later with
  | kept _ _ before =>
      obtain rfl := Table.eq_of_key before stored sameId
      exact .same
  | created requestId dto caller request present =>
      exact absurd sameId.symm (Table.key_ne_next stored)
  | reset caller assignment row rowStored found unfinished alone =>
      obtain rfl := Table.eq_of_key rowStored stored sameId
      obtain ⟨taken, ofTask, owner⟩ := Db.findAssignment_some found
      exact .of_status rfl fun _ => Or.inr (Or.inl ⟨assignment, taken, ofTask, owner⟩)
  | started dto caller now row found todo =>
      obtain rfl := Table.eq_of_key (Db.findTask_some found).1 stored sameId
      refine .of_status rfl fun changed => Or.inr (Or.inl ⟨todo, ?_⟩)
      exact effect.taker.resolve_left fun same => changed (unchanged same)
  | edited _ row _ found edit =>
      obtain rfl := Table.eq_of_key (Db.findTask_some found).1 stored (edit.id_eq.symm.trans sameId)
      cases edit with
      | update dto caller idle =>
          refine ⟨fun changed => ⟨idle, permitted (fun same => changed (by rw [same])) ?_⟩,
            fun changed => absurd rfl changed⟩
          exact fun refused => step_of_run (p := TasksService.update row.id dto caller) rfl
            (run_of_unpermitted (fun task request => mayEdit task request caller) refused)
      | deleteTask caller now idle =>
          refine ⟨fun changed => ⟨idle, permitted (fun same => changed (by rw [same])) ?_⟩,
            fun changed => absurd rfl changed⟩
          exact run_of_unpermitted fun task request => mayEdit task request caller
      | completeTask caller now allowed present => exact .of_status rfl fun _ => Or.inr allowed
      | returnToProgress caller now reviewing =>
          refine .of_status rfl fun changed => ?_
          rcases (returnToProgress_checked row.id caller now db).leaves with same | ⟨_, checked⟩
          · exact absurd (unchanged (congrArg Db.tasks same)) changed
          · obtain ⟨task, returnable, _⟩ := checked
            obtain rfl : row = task := Option.some.inj (found.symm.trans returnable.found)
            rcases returnable.allowed with assignee | admin
            · exact Or.inr (Or.inr ⟨reviewing, Or.inl (mayReturn_taken assignee)⟩)
            · exact Or.inl admin
      | confirmTaskCompletion caller now reviewing =>
          refine .of_status rfl fun changed => Or.inr ⟨reviewing, permitted changed ?_⟩
          exact fun refused => step_of_run (p := TasksService.confirmTaskCompletion row.id caller now)
            rfl (run_of_unpermitted (fun _ request => mayReview request caller) refused)
      | rejectTask caller reviewing =>
          refine .of_status rfl fun changed =>
            Or.inr (Or.inr ⟨reviewing, Or.inr (permitted changed ?_)⟩)
          exact fun refused => step_of_run (p := TasksService.rejectTask row.id caller) rfl
            (run_of_unpermitted (fun _ request => mayReview request caller) refused)
      | updateTaskStatusAdmin status caller admin => exact .of_status rfl fun _ => Or.inl admin
      | cancelTask caller =>
          refine .of_status rfl fun changed => Or.inr (permitted changed ?_)
          exact fun refused => step_of_run (p := TasksService.cancelTask row.id caller) rfl
            (run_of_unpermitted (fun _ request => mayCancel request caller) refused)
      | renewTask caller request present allowed cancelled =>
          exact .of_status rfl fun _ =>
            Or.inr (Or.inr ⟨cancelled, row, request, found, present, allowed⟩)

end Step

theorem UserOp.taskEntitled (env : ServerEnv) {db : Db} {user : User} {op : UserOp}
    (own : op.By user) {old new : Task} (stored : old ∈ db.tasks.rows)
    (later : new ∈ (op.run env db).2.tasks.rows) (same : new.id = old.id) :
    TaskEntitled db (op.run env db).2 user old new := by
  cases UserOp.taskSource env db own later with
  | kept _ _ before =>
      obtain rfl := Table.eq_of_key before stored same
      exact .same
  | automatic dto caller now => exact absurd same.symm (Table.key_ne_next stored)
  | board op _ origin =>
      obtain rfl : op.caller = user := own
      rw [UserOp.run_tasks] at later ⊢
      exact op.entitled stored later same

/-- In every state, a call changes a task only as its caller is entitled to: the contents with the
right to edit and while nobody is active on it, the status as the rules for that status say. -/
theorem task_changes (env : ServerEnv) (db : Db) (call : Call) :
    ∀ old ∈ db.tasks.rows, ∃ new ∈ (call.step env db).tasks.rows, new.id = old.id ∧
      (new = old ∨
        ∃ user, call.ActsFor db user ∧ TaskEntitled db (call.step env db) user old new) := by
  intro old stored
  obtain ⟨new, later, same, _⟩ := (call.evolves env db).tasks old stored
  refine ⟨new, later, same, ?_⟩
  have effect := call.effect env db
  generalize call.step env db = after at effect later ⊢
  cases effect with
  | refused => exact Or.inl (Table.eq_of_key later stored same)
  | served own user authenticates =>
      exact Or.inr ⟨user, ⟨_, _, own, rfl, authenticates⟩,
        UserOp.taskEntitled env (own user) stored later same⟩
  | visited op =>
      have unchanged : (op.run env db).2.tasks = db.tasks :=
        (op.area env db).same .tasks (by simp [peopleScope])
      exact Or.inl (Table.eq_of_key (unchanged ▸ later) stored same)

theorem task_changes_taken :
    ∃ new ∈ (takingCall.step exampleServer (exampleBoard .local)).tasks.rows, new.id = 0 ∧
      (new = RequestsService.autoTask 0 author 0 ∨
        ∃ user, takingCall.ActsFor (exampleBoard .local) user ∧
          TaskEntitled (exampleBoard .local)
            (takingCall.step exampleServer (exampleBoard .local)) user
            (RequestsService.autoTask 0 author 0) new) :=
  task_changes exampleServer (exampleBoard .local) takingCall (RequestsService.autoTask 0 author 0)
    (by decide)

end VolunteerApi
