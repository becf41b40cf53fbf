import VolunteerApi.Effects.ServerRows

/-!
# The automatic task of a request

`create` stores a request and its automatic task by two statements, and tasks and requests are
edited, decomposed and removed afterwards.  Between calls every request has exactly one automatic
task, which its creator made.
-/

set_option autoImplicit false

namespace VolunteerApi

open Relational Programs Db

structure Task.AutomaticOf (task : Task) (request : Request) : Prop where
  requestId : task.requestId = request.id
  automatic : task.isAutoGenerated = true
  origin : task.origin = .system
  creator : task.createdByUserId = some request.creatorId

structure AutomaticTasks (db : Db) : Prop where
  /-- `request_id` refers to a request. -/
  refers : ∀ task ∈ db.tasks.rows, ∃ request ∈ db.requests.rows, request.id = task.requestId
  made : ∀ request ∈ db.requests.rows, ∃ task ∈ db.tasks.rows, task.AutomaticOf request
  once : ∀ left ∈ db.tasks.rows, ∀ right ∈ db.tasks.rows, left.isAutoGenerated = true →
    right.isAutoGenerated = true → left.requestId = right.requestId → left = right

/-! ## One call -/

section Step

variable {env : ServerEnv} {db after : Db}

/-- What a call may do besides letting rows evolve: add tasks that are not automatic. -/
structure KeepsAutomatic (db after : Db) : Prop where
  evolves : db.Evolves after
  requests : ∀ request ∈ after.requests.rows, ∃ old ∈ db.requests.rows, old.id = request.id
  tasks : ∀ task ∈ after.tasks.rows, (∃ old ∈ db.tasks.rows, old.id = task.id) ∨
    task.isAutoGenerated = false ∧ ∃ request ∈ db.requests.rows, request.id = task.requestId

theorem Task.AutomaticOf.evolves {task later : Task} {request new : Request}
    (automatic : task.AutomaticOf request) (laterTask : later.authorship = task.authorship)
    (sameId : new.id = request.id) (laterRequest : new.authorship = request.authorship) :
    later.AutomaticOf new := by
  simp only [Task.authorship, Request.authorship, Prod.mk.injEq] at laterTask laterRequest
  exact
    { requestId := laterTask.1.trans (automatic.requestId.trans sameId.symm)
      automatic := laterTask.2.2.2.trans automatic.automatic
      origin := laterTask.2.2.1.trans automatic.origin
      creator := by rw [laterTask.2.1, automatic.creator, laterRequest.1] }

theorem AutomaticTasks.kept (before : AutomaticTasks db) (keeps : KeepsAutomatic db after) :
    AutomaticTasks after := by
  -- an automatic task was there before, under the same number and for the same request
  have source {task : Task} (stored : task ∈ after.tasks.rows)
      (automatic : task.isAutoGenerated = true) :
      ∃ old ∈ db.tasks.rows, old.id = task.id ∧ task.authorship = old.authorship := by
    rcases keeps.tasks task stored with ⟨old, oldStored, sameId⟩ | ⟨manual, _⟩
    · exact ⟨old, oldStored, sameId, keeps.evolves.tasks.later_of oldStored stored sameId.symm⟩
    · rw [manual] at automatic
      cases automatic
  refine ⟨?_, ?_, ?_⟩
  · intro task stored
    have referred : ∃ request ∈ db.requests.rows, request.id = task.requestId := by
      rcases keeps.tasks task stored with ⟨old, oldStored, sameId⟩ | ⟨_, referred⟩
      · have authorship := keeps.evolves.tasks.later_of oldStored stored sameId.symm
        simp only [Task.authorship, Prod.mk.injEq] at authorship
        rw [authorship.1]
        exact before.refers old oldStored
      · exact referred
    obtain ⟨request, requestStored, sameId⟩ := referred
    obtain ⟨new, newStored, newId, _⟩ := keeps.evolves.requests request requestStored
    exact ⟨new, newStored, newId.trans sameId⟩
  · intro request stored
    obtain ⟨old, oldStored, sameId⟩ := keeps.requests request stored
    have authorship := keeps.evolves.requests.later_of oldStored stored sameId.symm
    obtain ⟨task, taskStored, automatic⟩ := before.made old oldStored
    obtain ⟨later, laterStored, _, sameTask⟩ := keeps.evolves.tasks task taskStored
    exact ⟨later, laterStored, automatic.evolves sameTask sameId.symm authorship⟩
  · intro left leftStored right rightStored leftAutomatic rightAutomatic same
    obtain ⟨old, oldStored, oldId, oldSame⟩ := source leftStored leftAutomatic
    obtain ⟨other, otherStored, otherId, otherSame⟩ := source rightStored rightAutomatic
    simp only [Task.authorship, Prod.mk.injEq] at oldSame otherSame
    obtain rfl : old = other :=
      before.once old oldStored other otherStored (oldSame.2.2.2.symm.trans leftAutomatic)
        (otherSame.2.2.2.symm.trans rightAutomatic)
        (oldSame.1.symm.trans (same.trans otherSame.1))
    exact Table.eq_of_key leftStored rightStored (oldId.symm.trans otherId)

theorem AutomaticTasks.created_managed (before : AutomaticTasks db) {dto : NewRequestDto}
    {user : User} {now : Time} (managed : db.hasManager dto.managingOrganizationId = true) :
    AutomaticTasks (createdDb db dto user now) := by
  have added := Table.added_append db.tasks
    (RequestsService.autoTask db.requests.next user) fun _ => rfl
  rw [← @createdDb_tasks db dto user now managed] at added
  have requests := @mem_createdDb db dto user now managed
  have earlier {task : Task} (stored : task ∈ db.tasks.rows) :
      task.requestId ≠ db.requests.next := by
    obtain ⟨request, requestStored, sameId⟩ := before.refers task stored
    exact fun same => Table.key_ne_next requestStored (sameId.trans same)
  refine ⟨?_, ?_, ?_⟩
  · intro task stored
    rcases (added.mem task).mp stored with old | rfl
    · obtain ⟨request, requestStored, sameId⟩ := before.refers task old
      exact ⟨request, (requests request).mpr (Or.inl requestStored), sameId⟩
    · exact ⟨_, (requests _).mpr (Or.inr rfl), rfl⟩
  · intro request stored
    rcases (requests request).mp stored with old | rfl
    · obtain ⟨task, taskStored, automatic⟩ := before.made request old
      exact ⟨task, (added.mem task).mpr (Or.inl taskStored), automatic⟩
    · exact ⟨_, (added.mem _).mpr (Or.inr rfl), rfl, rfl, rfl, rfl⟩
  · intro left leftStored right rightStored leftAutomatic rightAutomatic same
    rcases (added.mem left).mp leftStored with leftOld | rfl
    · rcases (added.mem right).mp rightStored with rightOld | rfl
      · exact before.once left leftOld right rightOld leftAutomatic rightAutomatic same
      · exact absurd same (earlier leftOld)
    · rcases (added.mem right).mp rightStored with rightOld | rfl
      · exact absurd same.symm (earlier rightOld)
      · rfl

theorem AutomaticTasks.created (before : AutomaticTasks db) (dto : NewRequestDto) (user : User)
    (now : Time) : AutomaticTasks (createdDb db dto user now) := by
  cases managed : db.hasManager dto.managingOrganizationId with
  | false =>
      rw [createdDb_unmanaged managed]
      exact before
  | true => exact before.created_managed managed

theorem TaskSource.keepsAutomatic {op : UserOp} {task : Task} (source : TaskSource db op task)
    (notNew : ∀ dto user now, op ≠ .content (.create dto user now)) :
    (∃ old ∈ db.tasks.rows, old.id = task.id) ∨
      task.isAutoGenerated = false ∧ ∃ request ∈ db.requests.rows, request.id = task.requestId := by
  cases source with
  | kept _ _ stored => exact Or.inl ⟨task, stored, rfl⟩
  | automatic dto user now => exact absurd rfl (notNew dto user now)
  | board op _ origin =>
      cases origin with
      | kept _ _ stored => exact Or.inl ⟨task, stored, rfl⟩
      | created requestId dto user request present =>
          obtain ⟨stored, sameId, _⟩ := Db.findRequest_some present
          exact Or.inr ⟨rfl, request, stored, sameId⟩
      | edited _ old _ found edit =>
          exact Or.inl ⟨old, (Db.findTask_some found).1, edit.id_eq.symm⟩
      | started dto user now old found todo =>
          exact Or.inl ⟨old, (Db.findTask_some found).1, rfl⟩
      | reset user assignment old stored found unfinished alone => exact Or.inl ⟨old, stored, rfl⟩

theorem RequestSource.notNew {op : UserOp} {user : User} {request : Request}
    (source : RequestSource db after user op request)
    (notNew : ∀ dto user now, op ≠ .content (.create dto user now)) :
    ∃ old ∈ db.requests.rows, old.id = request.id := by
  cases source with
  | kept _ _ stored => exact ⟨request, stored, rfl⟩
  | created dto now => exact absurd rfl (notNew dto user now)
  | edited _ old _ stored same mine => exact ⟨old, stored, same.symm⟩
  | cancelled reason now old stored allowed => exact ⟨old, stored, rfl⟩
  | started dto now task old stored found ofTask untaken taken => exact ⟨old, stored, rfl⟩
  | managed taskId organizationId old stored coordinates => exact ⟨old, stored, rfl⟩
  | unmanaged id old stored managed deletable => exact ⟨old, stored, rfl⟩

theorem automaticTasks_step (env : ServerEnv) (db : Db) (call : Call)
    (before : AutomaticTasks db) : AutomaticTasks (call.step env db) := by
  revert before
  refine Call.step_of env (R := fun db after => AutomaticTasks db → AutomaticTasks after)
    (fun _ before => before) ?_ ?_ db call
  · intro db op before
    have area := op.area env db
    have tasks : (op.run env db).2.tasks = db.tasks := area.same .tasks (by simp [peopleScope])
    have requests : (op.run env db).2.requests = db.requests := area.same .requests (by simp [peopleScope])
    exact before.kept
      { evolves := area.evolves
        requests := fun request stored => ⟨request, requests ▸ stored, rfl⟩
        tasks := fun task stored => Or.inl ⟨task, tasks ▸ stored, rfl⟩ }
  · intro db payload user op _ own before
    by_cases creates : ∃ dto user now, op = .content (.create dto user now)
    · obtain ⟨dto, creator, now, rfl⟩ := creates
      rw [UserOp.run_created]
      exact before.created dto creator now
    · have notNew : ∀ dto user now, op ≠ .content (.create dto user now) :=
        fun dto user now same => creates ⟨dto, user, now, same⟩
      exact before.kept
        { evolves := (op.area env db).evolves
          requests := fun _ stored => (UserOp.requestSource env db own stored).notNew notNew
          tasks := fun _ stored => (UserOp.taskSource env db own stored).keepsAutomatic notNew }

end Step

/-! ## Every run -/

/-- After any calls, every request has one automatic task and no other, made by its creator. -/
theorem automaticTask_unique (env : ServerEnv) (db : Db) (start : AutomaticTasks db)
    (calls : List Call) (request : Request)
    (stored : request ∈ (execute (Call.step env) db calls).requests.rows) :
    ∃ task ∈ (execute (Call.step env) db calls).tasks.rows, task.AutomaticOf request ∧
      ∀ other ∈ (execute (Call.step env) db calls).tasks.rows,
        other.requestId = request.id → other.isAutoGenerated = true → other = task := by
  have reached := execute_of_preserved (automaticTasks_step env) start calls
  obtain ⟨task, taskStored, automatic⟩ := reached.made request stored
  refine ⟨task, taskStored, automatic, ?_⟩
  intro other otherStored sameRequest otherAutomatic
  exact reached.once other otherStored task taskStored otherAutomatic automatic.automatic
    (sameRequest.trans automatic.requestId.symm)

theorem automaticTask_unique_taken :
    ∃ task ∈ (execute (Call.step exampleServer) (exampleBoard .local) [takingCall]).tasks.rows,
      task.AutomaticOf { exampleRequest .local with status := .inProgress } ∧
        ∀ other ∈ (execute (Call.step exampleServer) (exampleBoard .local) [takingCall]).tasks.rows,
          other.requestId = 0 → other.isAutoGenerated = true → other = task := by
  have start : AutomaticTasks (exampleBoard .local) := by
    refine ⟨by decide, ?_, by decide⟩
    intro request stored
    obtain rfl : request = exampleRequest .local := List.mem_singleton.mp stored
    exact ⟨RequestsService.autoTask 0 author 0, by decide, rfl, rfl, rfl, rfl⟩
  exact automaticTask_unique exampleServer (exampleBoard .local) start [takingCall]
    { exampleRequest .local with status := .inProgress } (by decide +kernel)

end VolunteerApi
