import VolunteerApi.Effects.RequestsOutcomes
import VolunteerApi.Effects.UsersOutcomes

/-!
# Nobody works on deleted tasks

The checks for active assignments are made when a task or a request is deleted.
They stay true: assignments become active only through `assignVolunteer`, which
finds neither a deleted task nor the request of a deleted request's task.
-/

set_option autoImplicit false

namespace VolunteerApi

open Relational Programs
open TasksService

/-- Nobody is active on a deleted task. -/
def DeletedIdle (db : Db) : Prop :=
  ∀ task ∈ db.tasks.rows, task.deletedAt ≠ none → db.Idle task.id

/-- The request is deleted and nobody is active on its tasks. -/
structure Abandoned (requestId : RequestId) (db : Db) : Prop where
  deleted : ∃ request ∈ db.requests.rows, request.id = requestId ∧ request.deletedAt ≠ none
  idle : ∀ task ∈ db.tasks.rows, task.requestId = requestId → db.Idle task.id

theorem findRequest_of_deleted {db : Db} {requestId : RequestId}
    (deleted : ∃ request ∈ db.requests.rows, request.id = requestId ∧ request.deletedAt ≠ none)
    {request : Request} : db.findRequest requestId ≠ some request := by
  intro found
  obtain ⟨stored, storedMember, sameId, isDeleted⟩ := deleted
  obtain ⟨member, same, live⟩ := Db.findRequest_some found
  rw [Table.eq_of_key storedMember member (sameId.trans same.symm)] at isDeleted
  exact isDeleted live

/-! ## Task operations -/

theorem TaskRowOrigin.before {db : Db} {op : TasksOp} {row : Task}
    (origin : TaskRowOrigin db op row) :
    (∃ old ∈ db.tasks.rows, old.id = row.id ∧ old.requestId = row.requestId) ∨
      row.deletedAt = none ∧ ∃ request, db.findRequest row.requestId = some request := by
  cases origin with
  | kept _ _ old => exact Or.inl ⟨row, old, rfl, rfl⟩
  | created requestId dto user request present => exact Or.inr ⟨rfl, request, present⟩
  | edited _ old _ found edit =>
      exact Or.inl ⟨old, (Db.findTask_some found).1, edit.id_eq.symm, edit.requestId_eq.symm⟩
  | started dto user now old found todo =>
      exact Or.inl ⟨old, (Db.findTask_some found).1, rfl, rfl⟩
  | reset user assignment old oldMember found unfinished alone =>
      exact Or.inl ⟨old, oldMember, rfl, rfl⟩

theorem TaskRowOrigin.deleted {db : Db} {op : TasksOp} {row : Task}
    (origin : TaskRowOrigin db op row) (isDeleted : row.deletedAt ≠ none) :
    (∃ old ∈ db.tasks.rows, old.id = row.id ∧ old.deletedAt ≠ none) ∨
      (∃ user now, op = .deleteTask row.id user now) ∧ db.Idle row.id := by
  cases origin with
  | kept _ _ old => exact Or.inl ⟨row, old, rfl, isDeleted⟩
  | created requestId dto user request present => exact absurd rfl isDeleted
  | edited _ old _ found edit =>
      have live := (Db.findTask_some found).2.2
      cases edit with
      | deleteTask user now idle => exact Or.inr ⟨⟨user, now, rfl⟩, idle⟩
      | _ => exact absurd live isDeleted
  | started dto user now old found todo =>
      exact absurd (Db.findTask_some found).2.2 isDeleted
  | reset user assignment old oldMember found unfinished alone =>
      exact Or.inl ⟨old, oldMember, rfl, isDeleted⟩

theorem deletedIdle_tasks {required : Nat} {db after : Db} {op : TasksOp}
    (effect : TasksEffect required db op after) (before : DeletedIdle db) :
    DeletedIdle after := by
  intro task taskMember isDeleted row rowMember same
  cases active : row.active with
  | false => rfl
  | true =>
      rcases (effect.taskOrigin taskMember).deleted isDeleted with
        ⟨old, oldMember, sameTask, oldDeleted⟩ | ⟨⟨user, now, rfl⟩, idle⟩
      · rcases (effect.origin rowMember).active active with
          ⟨source, sourceMember, sourceTask, _, sourceActive⟩ | ⟨_, _, _, _, _, _, live⟩
        · have inactive := before old oldMember oldDeleted source sourceMember
            (sourceTask.trans (same.trans sameTask.symm))
          rw [sourceActive] at inactive
          cases inactive
        · obtain ⟨found, _, foundTask, _⟩ := live
          obtain ⟨foundMember, foundId, foundLive⟩ := Db.findTask_some foundTask
          have sameRow : found = old :=
            Table.eq_of_key foundMember oldMember (foundId.trans (same.trans sameTask.symm))
          rw [sameRow] at foundLive
          exact absurd foundLive oldDeleted
      · rcases (effect.origin rowMember).active active with
          ⟨source, sourceMember, sourceTask, _, sourceActive⟩ | ⟨_, _, _, impossible, _⟩
        · have inactive := idle source sourceMember (sourceTask.trans same)
          rw [sourceActive] at inactive
          cases inactive
        · cases impossible

theorem TasksEffect.sameRequests {required : Nat} {db after : Db} {op : TasksOp}
    (effect : TasksEffect required db op after) : SameRequests db after := by
  cases effect with
  | quiet _ _ same => exact same.requests
  | created requestId dto user request present => exact .refl db
  | edited _ task new _ found edit tasks assignments chats requests => exact requests
  | assigned taskId dto user now task request _ assigned =>
      obtain ⟨assignments, tasks, chats, _, _, rfl⟩ := assigned.effect
      unfold startedRequests
      split
      · exact sameRequests_update rfl fun _ => rfl
      · exact .refl db
  | withdrawn taskId user assignment found unfinished =>
      unfold TasksService.withdrawn
      split <;> exact SameRequests.refl db
  | moved taskId newStatus user assignment status found active allowed => exact .refl db

theorem abandoned_tasks {required : Nat} {db after : Db} {op : TasksOp} {requestId : RequestId}
    (effect : TasksEffect required db op after) (before : Abandoned requestId db) :
    Abandoned requestId after := by
  constructor
  · obtain ⟨request, member, sameId, isDeleted⟩ := before.deleted
    obtain ⟨later, laterMember, laterId, _, laterDeleted⟩ :=
      effect.sameRequests.symm.origin member
    exact ⟨later, laterMember, laterId.trans sameId, laterDeleted ▸ isDeleted⟩
  · intro task taskMember sameRequest row rowMember same
    cases active : row.active with
    | false => rfl
    | true =>
        rcases (effect.taskOrigin taskMember).before with
          ⟨old, oldMember, sameTask, oldRequest⟩ | ⟨_, request, found⟩
        · rcases (effect.origin rowMember).active active with
            ⟨source, sourceMember, sourceTask, _, sourceActive⟩ | ⟨_, _, _, _, _, _, live⟩
          · have inactive := before.idle old oldMember (oldRequest.trans sameRequest) source
              sourceMember (sourceTask.trans (same.trans sameTask.symm))
            rw [sourceActive] at inactive
            cases inactive
          · obtain ⟨found, request, foundTask, present⟩ := live
            obtain ⟨foundMember, foundId, _⟩ := Db.findTask_some foundTask
            have sameRow : found = old :=
              Table.eq_of_key foundMember oldMember (foundId.trans (same.trans sameTask.symm))
            rw [sameRow, oldRequest, sameRequest] at present
            exact absurd present (findRequest_of_deleted before.deleted)
        · rw [sameRequest] at found
          exact absurd found (findRequest_of_deleted before.deleted)

/-! ## User operations -/

theorem idle_users {affected : UserId → Prop} {db after : Db}
    (effect : AutoWithdrawn affected db after) {taskId : TaskId} (idle : db.Idle taskId) :
    after.Idle taskId := by
  intro row member same
  rcases effect.assignments row member with old | ⟨old, _, rfl, _, _⟩
  · exact idle row old same
  · rfl

theorem deletedIdle_users {affected : UserId → Prop} {db after : Db}
    (effect : AutoWithdrawn affected db after) (before : DeletedIdle db) : DeletedIdle after := by
  intro task member isDeleted
  rw [effect.tasks] at member
  exact idle_users effect (before task member isDeleted)

theorem abandoned_users {affected : UserId → Prop} {db after : Db} {requestId : RequestId}
    (effect : AutoWithdrawn affected db after) (before : Abandoned requestId db) :
    Abandoned requestId after := by
  constructor
  · rw [effect.requests]
    exact before.deleted
  · intro task member sameRequest
    rw [effect.tasks] at member
    exact idle_users effect (before.idle task member sameRequest)

/-! ## Request operations -/

theorem idle_requests {db after : Db} {op : RequestsOp} (effect : RequestsEffect db op after)
    {taskId : TaskId} (idle : db.Idle taskId) : after.Idle taskId := by
  unfold Db.Idle
  rw [effect.assignments_eq]
  exact idle

theorem RequestsEffect.task_before {db after : Db} {op : RequestsOp}
    (effect : RequestsEffect db op after) {task : Task} (member : task ∈ after.tasks.rows) :
    task ∈ db.tasks.rows ∨ task.deletedAt = none ∧ task.requestId = db.requests.next := by
  cases effect with
  | unchanged op => exact Or.inl member
  | created dto user now =>
      have added := Table.added_append db.tasks
        (RequestsService.autoTask db.requests.next user) fun _ => rfl
      rcases (added.mem task).mp member with old | rfl
      · exact Or.inl old
      · exact Or.inr ⟨rfl, rfl⟩
  | saved op old new found same => exact Or.inl member
  | removed id user now request found unused => exact Or.inl member

theorem deletedIdle_requests {db after : Db} {op : RequestsOp}
    (effect : RequestsEffect db op after) (before : DeletedIdle db) : DeletedIdle after := by
  intro task member isDeleted
  rcases effect.task_before member with old | ⟨live, _⟩
  · exact idle_requests effect (before task old isDeleted)
  · exact absurd live isDeleted

theorem RequestsEffect.stays_deleted {db after : Db} {op : RequestsOp}
    (effect : RequestsEffect db op after) {request : Request}
    (member : request ∈ db.requests.rows) (isDeleted : request.deletedAt ≠ none) :
    ∃ later ∈ after.requests.rows, later.id = request.id ∧ later.deletedAt ≠ none := by
  cases effect with
  | unchanged op => exact ⟨request, member, rfl, isDeleted⟩
  | created dto user now =>
      have added := Table.added_append db.requests
        (RequestsService.newRequest dto user now) fun _ => rfl
      exact ⟨request, (added.mem request).mpr (Or.inl member), rfl, isDeleted⟩
  | saved op old new found same =>
      obtain ⟨oldMember, _, live⟩ := Db.findRequest_some found
      have sameId : new.id = old.id := congrArg Prod.fst same
      have replaced := Table.replaced_save new oldMember sameId sameId
      refine ⟨request, replaced.kept member ?_, rfl, isDeleted⟩
      rintro rfl
      exact isDeleted live
  | removed id user now found present unused =>
      refine ⟨_, Table.image_mem_update (fun request => decide (request.id = id))
        (RequestsService.deletedPatch now) member, ?_, ?_⟩
      · split <;> rfl
      · split
        · simp [RequestsService.deletedPatch]
        · exact isDeleted

theorem abandoned_requests {db after : Db} {op : RequestsOp} {requestId : RequestId}
    (effect : RequestsEffect db op after) (before : Abandoned requestId db) :
    Abandoned requestId after := by
  obtain ⟨request, member, sameId, isDeleted⟩ := before.deleted
  constructor
  · obtain ⟨later, laterMember, same, laterDeleted⟩ := effect.stays_deleted member isDeleted
    exact ⟨later, laterMember, same.trans sameId, laterDeleted⟩
  · intro task taskMember sameRequest
    rcases effect.task_before taskMember with old | ⟨_, fresh⟩
    · exact idle_requests effect (before.idle task old sameRequest)
    · have unused := Table.key_ne_next member
      exact absurd (sameId.trans (sameRequest.symm.trans fresh)) unused

/-! ## Runs -/

theorem deletedIdle_step (required : Nat) (db : Db) (op : Op) (before : DeletedIdle db) :
    DeletedIdle (op.step required db) := by
  cases op with
  | tasks op => exact deletedIdle_tasks (TasksOp.effect required db op) before
  | users op => exact deletedIdle_users (UsersOp.effect required db op) before
  | requests op => exact deletedIdle_requests (RequestsOp.effect db op) before

theorem abandoned_step (required : Nat) (requestId : RequestId) (db : Db) (op : Op)
    (before : Abandoned requestId db) : Abandoned requestId (op.step required db) := by
  cases op with
  | tasks op => exact abandoned_tasks (TasksOp.effect required db op) before
  | users op => exact abandoned_users (UsersOp.effect required db op) before
  | requests op => exact abandoned_requests (RequestsOp.effect db op) before

theorem abandoned_of_removed {db : Db} {id : RequestId} {user : User} {now : Time}
    (before : DeletedIdle db) (notAdmin : user.systemRole ≠ .admin)
    (succeeded : ((RequestsOp.remove id user now).run db).1.succeeded = true) :
    Abandoned id ((RequestsOp.remove id user now).run db).2 := by
  simp only [RequestsOp.run] at succeeded ⊢
  rcases (RequestsService.remove_guarded id user now db).cases with
    ⟨error, failed⟩ | ⟨_, _, ran, request, found, unused, rfl⟩
  · rw [failed] at succeeded
    cases succeeded
  · rw [ran]
    obtain ⟨member, rfl, _⟩ := Db.findRequest_some found
    have replaced := Table.replaced_update_key (RequestsService.deletedPatch now) member
    constructor
    · exact ⟨_, replaced.new_mem, rfl, by simp [RequestsService.deletedPatch]⟩
    · intro task taskMember sameRequest
      by_cases live : task.deletedAt = none
      · intro assignment assignmentMember same
        have loaded : assignment ∈ RequestsService.loadedAssignments db request.id := by
          refine List.mem_flatMap.mpr ⟨task, ?_, Db.mem_assignmentsOf.mpr ⟨assignmentMember, same⟩⟩
          exact (Table.mem_find _ _ _).mpr ⟨taskMember, decide_eq_true ⟨sameRequest, live⟩⟩
        have noneActive := List.any_eq_false.mp (unused notAdmin) assignment loaded
        simpa using noneActive
      · exact before task taskMember live

/-- In every state reached from a new board, nobody is active on a deleted task
or on a task of a request removed by somebody else than an admin. -/
theorem softDeleted_idle (required : Nat) (db : Db) (fresh : FreshBoard db) (ops : List Op) :
    DeletedIdle (execute (Op.step required) db ops) ∧
      ∀ first id user now second, ops = first ++ .requests (.remove id user now) :: second →
        user.systemRole ≠ .admin →
        ((RequestsOp.remove id user now).run
          (execute (Op.step required) db first)).1.succeeded = true →
        ∀ task ∈ (execute (Op.step required) db ops).tasks.rows, task.requestId = id →
          (execute (Op.step required) db ops).Idle task.id := by
  have start : DeletedIdle db := by
    intro task _ _ assignment member
    rw [fresh.1] at member
    cases member
  constructor
  · exact execute_of_preserved (deletedIdle_step required) start ops
  · intro first id user now second split notAdmin succeeded
    have reached := execute_of_preserved (deletedIdle_step required) start first
    have removed := abandoned_of_removed reached notAdmin succeeded
    have final := execute_of_preserved (abandoned_step required id) removed second
    have same : execute (Op.step required) db ops =
        execute (Op.step required) ((RequestsOp.remove id user now).run
          (execute (Op.step required) db first)).2 second := by
      rw [split, execute_append]
      rfl
    rw [same]
    exact final.idle

/-- The author removes the request, then a volunteer tries to take its task. -/
def removalRun : List Op :=
  [.requests (.remove 0 author 1), .tasks (.assignVolunteer 0 ⟨none⟩ firstVolunteer 2)]

theorem softDeleted_idle_example :
    (execute (Op.step 3) (exampleBoard .local) removalRun).Idle 0 :=
  (softDeleted_idle 3 (exampleBoard .local) ⟨rfl, by decide⟩ removalRun).2 [] 0 author 1 _ rfl
    (by decide) (by decide +kernel) (RequestsService.autoTask 0 author 0) (by decide +kernel) rfl

end VolunteerApi
