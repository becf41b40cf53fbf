import VolunteerApi.Effects.TasksEffects

/-!
# Confirming a task: the request and the trust score

A confirmation should complete the request with its last task, and credit each
volunteer who completed the task once.  The completion check runs before the
task is saved as `DONE`, so it never sees the last task done.  The credit goes
to every assignment loaded with the task, whatever its status, and the save
writes those assignments back as they were loaded.
-/

set_option autoImplicit false

namespace VolunteerApi

open Relational Programs
open TasksService

/-! ## The request of the last task -/

def AllTasksDone (db : Db) (requestId : RequestId) : Prop :=
  ∀ task ∈ db.tasks.rows, task.requestId = requestId → task.deletedAt = none →
    task.status = .done

def RequestCompleted (db : Db) (requestId : RequestId) : Prop :=
  ∀ request ∈ db.requests.rows, request.id = requestId → request.status = .completed

/-- The request is completed when its last task is done, and only then. -/
def CompletesRequest (required : Nat) (db : Db) (op : TasksOp) : Prop :=
  match op with
  | .confirmTaskCompletion taskId _ _ =>
      (op.run required db).1.succeeded = true →
        (∀ task, db.findTask taskId = some task →
          AllTasksDone (op.step required db) task.requestId →
          RequestCompleted (op.step required db) task.requestId) ∧
        ∀ requestId, ¬ RequestCompleted db requestId →
          RequestCompleted (op.step required db) requestId →
          AllTasksDone (op.step required db) requestId
  | _ => True

/-- A confirmation that passes its checks is not of the last open task, or the
request was completed before. -/
def LeavesOpenTask (db : Db) : TasksOp → Prop
  | .confirmTaskCompletion taskId user _ =>
      ∀ task request, db.findTask taskId = some task →
        db.findRequest task.requestId = some request → mayReview request user = true →
        task.status = .pendingReview →
        request.status = .completed ∨
          ∃ other ∈ db.tasks.rows, other.requestId = task.requestId ∧ other.deletedAt = none ∧
            other.id ≠ task.id ∧ other.status ≠ .done
  | _ => True

/-- The counts are taken while the confirmed task is still under review, so
they never agree. -/
theorem not_allDone_of_reviewing {db : Db} {task : Task} (stored : task ∈ db.tasks.rows)
    (live : task.deletedAt = none) (reviewing : task.status = .pendingReview) :
    ¬ AllDone db task.requestId := by
  rintro ⟨_, same⟩
  have agree := (Table.count_eq_count_iff db.tasks (by simp +contextual)).mp same.symm task stored
    (by simp [live])
  simp [reviewing] at agree

theorem confirmed_requests {db : Db} {task : Task} (stored : task ∈ db.tasks.rows)
    (live : task.deletedAt = none) (reviewing : task.status = .pendingReview) :
    (confirmed db task).requests = db.requests :=
  if_neg (not_allDone_of_reviewing stored live reviewing)

structure Confirmable (db : Db) (taskId : TaskId) (user : User) (task : Task)
    (request : Request) : Prop where
  found : db.findTask taskId = some task
  present : db.findRequest task.requestId = some request
  allowed : mayReview request user = true
  reviewing : task.status = .pendingReview

theorem confirm_run (required : Nat) (now : Time) {db : Db} {taskId : TaskId} {user : User}
    {task : Task} {request : Request} (confirmable : Confirmable db taskId user task request) :
    TasksOp.run required db (.confirmTaskCompletion taskId user now) =
      (.ok (), confirmed db task) := by
  simp only [TasksOp.run, confirmTaskCompletion_run confirmable.found confirmable.present
    confirmable.allowed confirmable.reviewing]
  rfl

theorem confirm_cases (required : Nat) (db : Db) (taskId : TaskId) (user : User) (now : Time) :
    (∃ error, TasksOp.run required db (.confirmTaskCompletion taskId user now) =
      (.error error, db)) ∨
    ∃ task request, Confirmable db taskId user task request := by
  rcases (confirmTaskCompletion_guarded taskId user now db).cases with
    ⟨error, failed⟩ | ⟨_, _, _, task, request, found, present, allowed, reviewing, _⟩
  · exact Or.inl ⟨error, by simp only [TasksOp.run, failed]; rfl⟩
  · exact Or.inr ⟨task, request, found, present, allowed, reviewing⟩

theorem completesRequest_of_open {required : Nat} {db : Db} {op : TasksOp}
    (leaves : LeavesOpenTask db op) : CompletesRequest required db op := by
  cases op with
  | confirmTaskCompletion taskId user now =>
      intro succeeded
      rcases confirm_cases required db taskId user now with
        ⟨error, failed⟩ | ⟨task, request, confirmable⟩
      · rw [failed] at succeeded
        cases succeeded
      · obtain ⟨stored, _, live⟩ := Db.findTask_some confirmable.found
        have ended : TasksOp.step required db (.confirmTaskCompletion taskId user now) =
            confirmed db task := congrArg Prod.snd (confirm_run required now confirmable)
        have requests := confirmed_requests stored live confirmable.reviewing
        rw [ended]
        constructor
        · intro other otherFound allDone
          rw [confirmable.found] at otherFound
          cases otherFound
          rcases leaves task request confirmable.found confirmable.present confirmable.allowed
            confirmable.reviewing with completed | ⟨other, otherMember, sameRequest, otherLive,
              different, undone⟩
          · intro row rowMember same
            rw [requests] at rowMember
            obtain ⟨requestMember, sameId, _⟩ := Db.findRequest_some confirmable.present
            rw [Table.eq_of_key rowMember requestMember (same.trans sameId.symm)]
            exact completed
          · have replaced := Db.replaced_withTask { task with status := .done }
              confirmable.found rfl
            have kept := replaced.kept otherMember (fun here => different (by rw [here]))
            exact absurd (allDone other kept sameRequest otherLive) undone
        · intro requestId before after
          unfold RequestCompleted at after
          rw [requests] at after
          exact absurd after before
  | _ => trivial

theorem open_of_completesRequest {required : Nat} {db : Db} {op : TasksOp}
    (sound : CompletesRequest required db op) : LeavesOpenTask db op := by
  cases op with
  | confirmTaskCompletion taskId user now =>
      intro task request found present allowed reviewing
      have confirmable : Confirmable db taskId user task request :=
        ⟨found, present, allowed, reviewing⟩
      obtain ⟨stored, _, live⟩ := Db.findTask_some found
      have ran := confirm_run required now confirmable
      have ended : TasksOp.step required db (.confirmTaskCompletion taskId user now) =
          confirmed db task := congrArg Prod.snd ran
      have complete := (sound (by rw [ran]; rfl)).1 task found
      rw [ended] at complete
      by_contra none
      simp only [not_or, not_exists, not_and, not_not] at none
      obtain ⟨unfinished, othersDone⟩ := none
      have replaced := Db.replaced_withTask { task with status := .done } found rfl
      have allDone : AllTasksDone (confirmed db task) task.requestId := by
        intro row rowMember sameRequest rowLive
        rcases (replaced.mem row).mp rowMember with rfl | ⟨old, different⟩
        · rfl
        · apply othersDone row old sameRequest rowLive
          intro sameId
          exact different (Table.eq_of_key old stored sameId)
      obtain ⟨requestMember, sameId, _⟩ := Db.findRequest_some present
      have requests := confirmed_requests stored live reviewing
      exact unfinished (complete allDone request (requests ▸ requestMember) sameId)
  | _ => trivial

/-- In a run of task operations the request is completed with its last task,
and only then, exactly when no confirmation is of the last open task of a
request that is not completed yet. -/
theorem completesRequest_iff (required : Nat) (db : Db) (ops : List TasksOp) :
    Throughout (TasksOp.step required) (CompletesRequest required) db ops ↔
      Throughout (TasksOp.step required) LeavesOpenTask db ops :=
  throughout_congr (fun _ _ => ⟨open_of_completesRequest, completesRequest_of_open⟩) db ops

instance (db : Db) (requestId : RequestId) : Decidable (AllTasksDone db requestId) :=
  inferInstanceAs (Decidable (∀ task ∈ db.tasks.rows, task.requestId = requestId →
    task.deletedAt = none → task.status = .done))

instance (db : Db) (requestId : RequestId) : Decidable (RequestCompleted db requestId) :=
  inferInstanceAs (Decidable (∀ request ∈ db.requests.rows, request.id = requestId →
    request.status = .completed))

/-- The only task of a request is taken, completed and confirmed. -/
def onlyTaskRun : List TasksOp :=
  [.assignVolunteer 0 ⟨none⟩ firstVolunteer 1, .completeTask 0 firstVolunteer 2,
    .confirmTaskCompletion 0 author 3]

theorem completesRequest_fails :
    ¬ Throughout (TasksOp.step 3) (CompletesRequest 3) (exampleBoard .local) onlyTaskRun := by
  rintro ⟨_, _, last, _⟩
  have succeeded : (TasksOp.run 3 (execute (TasksOp.step 3) (exampleBoard .local)
      (onlyTaskRun.take 2)) (.confirmTaskCompletion 0 author 3)).1.succeeded = true := by
    decide +kernel
  have found : ∃ task, (execute (TasksOp.step 3) (exampleBoard .local)
      (onlyTaskRun.take 2)).findTask 0 = some task ∧ task.requestId = 0 := by
    refine ⟨_, rfl, ?_⟩
    decide +kernel
  have allDone : AllTasksDone (execute (TasksOp.step 3) (exampleBoard .local) onlyTaskRun) 0 := by
    decide +kernel
  have notCompleted : ¬ RequestCompleted
      (execute (TasksOp.step 3) (exampleBoard .local) onlyTaskRun) 0 := by
    decide +kernel
  obtain ⟨task, taskFound, sameRequest⟩ := found
  have completed := (last succeeded).1 task taskFound
  rw [sameRequest] at completed
  exact notCompleted (completed allDone)

/-! ## The credit for a task -/

/-- The call raised the stored trust score of the user for the task. -/
def Granted (required : Nat) (db : Db) (op : TasksOp) (taskId : TaskId) (userId : UserId) : Prop :=
  (∃ user now, op = .confirmTaskCompletion taskId user now) ∧
    ∃ before ∈ db.users.rows, before.id = userId ∧
      ∃ after ∈ (op.step required db).users.rows, after.id = userId ∧
        before.trustScore < after.trustScore

/-- The credit of a run is exact: each is granted by a call after which the
volunteer's assignment is `COMPLETED`, not to a volunteer who withdrew, and once. -/
structure CreditExact (required : Nat) (db : Db) (ops : List TasksOp) : Prop where
  completed : ∀ first op last, ops = first ++ op :: last → ∀ taskId userId,
    Granted required (execute (TasksOp.step required) db first) op taskId userId →
      ∃ assignment, (execute (TasksOp.step required) db (first ++ [op])).findAssignment
        taskId userId = some assignment ∧ assignment.status = .completed
  present : ∀ first op last, ops = first ++ op :: last → ∀ taskId userId,
    Granted required (execute (TasksOp.step required) db first) op taskId userId →
      ∀ assignment, (execute (TasksOp.step required) db first).findAssignment
        taskId userId = some assignment → assignment.status ≠ .withdrawn
  once : ∀ first op middle other last, ops = first ++ op :: (middle ++ other :: last) →
    ∀ taskId userId, Granted required (execute (TasksOp.step required) db first) op taskId userId →
      ¬ Granted required (execute (TasksOp.step required) db (first ++ op :: middle)) other
        taskId userId

/-- A confirmation that passes its checks is of a task whose assignees, in any
status, all have the full score already. -/
def CreditsNobody (db : Db) : TasksOp → Prop
  | .confirmTaskCompletion taskId user _ =>
      ∀ task request, Confirmable db taskId user task request →
        ∀ assignment ∈ db.assignments.rows, assignment.taskId = task.id →
          ∀ stored ∈ db.users.rows, stored.id = assignment.userId → 10000 ≤ stored.trustScore
  | _ => True

theorem mem_creditedUsers {db : Db} {userIds : List UserId} {row : User}
    (member : row ∈ (creditedUsers db userIds).rows) :
    ∃ old ∈ db.users.rows, row.id = old.id ∧
      (row = old ∨ row = boostedPatch.run old ∧ old.id ∈ userIds) := by
  unfold creditedUsers at member
  by_cases listed : userIds ≠ []
  · rw [if_pos listed] at member
    obtain ⟨old, oldMember, rfl⟩ := (Table.mem_update _ _ _ _).mp member
    by_cases hit : old.id ∈ userIds
    · refine ⟨old, oldMember, ?_, Or.inr ⟨?_, hit⟩⟩ <;> simp [hit, boostedPatch]
    · refine ⟨old, oldMember, ?_, Or.inl ?_⟩ <;> simp [hit]
  · rw [if_neg listed] at member
    exact ⟨row, member, rfl, Or.inl rfl⟩

theorem not_granted {required : Nat} {db : Db} {op : TasksOp} {taskId : TaskId}
    {userId : UserId} (nobody : CreditsNobody db op) : ¬ Granted required db op taskId userId := by
  rintro ⟨⟨user, now, rfl⟩, before, beforeMember, sameBefore, after, afterMember, sameAfter,
    raised⟩
  have sameId : after.id = before.id := sameAfter.trans sameBefore.symm
  unfold TasksOp.step at afterMember
  rcases confirm_cases required db taskId user now with
    ⟨error, failed⟩ | ⟨task, request, confirmable⟩
  · rw [failed] at afterMember
    rw [Table.eq_of_key afterMember beforeMember sameId] at raised
    exact absurd raised (Nat.lt_irrefl _)
  · rw [confirm_run required now confirmable] at afterMember
    obtain ⟨old, oldMember, rowId, origin⟩ := mem_creditedUsers afterMember
    have oldEq : old = before :=
      Table.eq_of_key oldMember beforeMember (rowId.symm.trans sameId)
    subst oldEq
    rcases origin with rfl | ⟨rfl, listed⟩
    · exact absurd raised (Nat.lt_irrefl _)
    · obtain ⟨assignment, loaded, owner⟩ := List.mem_map.mp listed
      obtain ⟨stored, sameTask⟩ := Db.mem_assignmentsOf.mp loaded
      have full := nobody task request confirmable assignment stored sameTask old oldMember
        owner.symm
      simp only [boostedPatch, boostedScore] at raised
      omega

theorem granted_of_assignee (required : Nat) (now : Time) {db : Db} {taskId : TaskId}
    {user stored : User} {task : Task} {request : Request} {assignment : TaskAssignment}
    (confirmable : Confirmable db taskId user task request)
    (member : assignment ∈ db.assignments.rows) (sameTask : assignment.taskId = task.id)
    (storedMember : stored ∈ db.users.rows) (owner : stored.id = assignment.userId)
    (low : stored.trustScore < 10000) :
    Granted required db (.confirmTaskCompletion taskId user now) taskId stored.id := by
  have ended : TasksOp.step required db (.confirmTaskCompletion taskId user now) =
      confirmed db task := congrArg Prod.snd (confirm_run required now confirmable)
  have loaded := Db.mem_assignmentsOf.mpr ⟨member, sameTask⟩
  have listed : stored.id ∈ (db.assignmentsOf task.id).map TaskAssignment.userId :=
    List.mem_map.mpr ⟨assignment, loaded, owner.symm⟩
  have credited : (confirmed db task).users = db.users.update _ _ :=
    if_pos (List.ne_nil_of_mem listed)
  have image := Table.image_mem_update (fun row : User => decide (row.id ∈
    (db.assignmentsOf task.id).map TaskAssignment.userId)) boostedPatch storedMember
  rw [if_pos (decide_eq_true listed)] at image
  refine ⟨⟨user, now, rfl⟩, stored, storedMember, rfl, boostedPatch.run stored, ?_,
    boostedPatch.key_run stored, ?_⟩
  · rw [ended, credited]
    exact image
  · simp only [boostedPatch, boostedScore]
    omega

/-! ### No assignment is ever completed -/

def NoCompleted (db : Db) : Prop :=
  ∀ assignment ∈ db.assignments.rows, assignment.status ≠ .completed

theorem noCompleted_step (required : Nat) (db : Db) (op : TasksOp) (before : NoCompleted db) :
    NoCompleted (op.step required db) := by
  intro row member
  cases (TasksOp.effect required db op).origin member with
  | kept _ _ old => exact before row old
  | retaken dto user now old live oldMember owner left => simp [reassigned]
  | fresh taskId dto user now live => simp [newAssignment]
  | left user old oldMember owner unfinished => simp [withdrawnPatch]
  | moved newStatus user old status oldMember owner active allowed =>
      rintro rfl
      cases allowed

/-- In a run from new tasks the credit is exact exactly when no confirmation
raises anybody's score: whoever is credited is not `COMPLETED` afterwards. -/
theorem creditExact_iff (required : Nat) (db : Db) (fresh : FreshBoard db) (ops : List TasksOp) :
    CreditExact required db ops ↔ Throughout (TasksOp.step required) CreditsNobody db ops := by
  have noneYet : NoCompleted db := by
    intro assignment member
    rw [fresh.1] at member
    cases member
  constructor
  · intro credit
    apply throughout_iff.mpr
    intro first op last split
    cases op with
    | confirmTaskCompletion taskId user now =>
        intro task request confirmable assignment member sameTask stored storedMember owner
        by_contra notFull
        have granted := granted_of_assignee required now confirmable member sameTask
          storedMember owner (by omega)
        obtain ⟨settled, found, completed⟩ := credit.completed first _ last split _ _ granted
        exact execute_of_preserved (noCompleted_step required) noneYet _ settled
          (Db.findAssignment_some found).1 completed
    | _ => trivial
  · intro nobody
    have atStep := throughout_iff.mp nobody
    refine ⟨?_, ?_, ?_⟩
    · intro first op last split taskId userId granted
      exact absurd granted (not_granted (atStep first op last split))
    · intro first op last split taskId userId granted
      exact absurd granted (not_granted (atStep first op last split))
    · intro first op middle other last split taskId userId granted
      exact absurd granted (not_granted (atStep first op _ split))

/-- The first volunteer withdraws, the second completes the task. -/
def withdrawnCreditRun : List TasksOp :=
  [.assignVolunteer 0 ⟨none⟩ firstVolunteer 1, .assignVolunteer 0 ⟨none⟩ secondVolunteer 2,
    .withdrawAssignment 0 firstVolunteer, .completeTask 0 secondVolunteer 3,
    .confirmTaskCompletion 0 author 4]

theorem creditExact_fails :
    FreshBoard (exampleBoard .local) ∧
      ¬ CreditExact 3 (exampleBoard .local) withdrawnCreditRun := by
  refine ⟨⟨rfl, by decide⟩, ?_⟩
  intro credit
  have granted : Granted 3 (execute (TasksOp.step 3) (exampleBoard .local)
      (withdrawnCreditRun.take 4)) (.confirmTaskCompletion 0 author 4) 0 firstVolunteer.id := by
    refine ⟨⟨author, 4, rfl⟩, ?_⟩
    decide +kernel
  have left : ((execute (TasksOp.step 3) (exampleBoard .local)
      (withdrawnCreditRun.take 4)).findAssignment 0 firstVolunteer.id).map
        TaskAssignment.status = some .withdrawn := by
    decide +kernel
  obtain ⟨assignment, found, status⟩ := Option.map_eq_some_iff.mp left
  exact credit.present _ _ [] rfl 0 firstVolunteer.id granted assignment found status

/-- The board where everybody has the full score. -/
def fullScoreBoard : Db :=
  { exampleBoard .local with
    users := (exampleBoard .local).users.update (fun _ => true)
      ⟨fun user => { user with trustScore := 10000 }, fun _ => rfl, fun _ => rfl⟩ }

/-- The same run credits nobody there. -/
theorem creditExact_fullScore : CreditExact 3 fullScoreBoard withdrawnCreditRun := by
  apply (creditExact_iff 3 fullScoreBoard ⟨rfl, by decide⟩ _).mpr
  refine ⟨trivial, trivial, trivial, trivial, ?_, trivial⟩
  intro task request _ assignment _ _ stored member _
  have full : ∀ stored ∈ (execute (TasksOp.step 3) fullScoreBoard
      (withdrawnCreditRun.take 4)).users.rows, 10000 ≤ stored.trustScore := by
    decide +kernel
  exact full stored member

end VolunteerApi
