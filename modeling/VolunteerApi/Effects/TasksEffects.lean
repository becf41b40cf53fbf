import VolunteerApi.Effects.DelegationOutcomes

/-!
# What a `TasksService` call can change

`TasksEffect` lists everything a call can do to tasks, assignments, chats and
requests, with the checks it passed first.  Every invariant of the board is
derived from `TasksOp.effect`, not from the programs.
-/

set_option autoImplicit false

namespace VolunteerApi

open Relational Programs
open TasksService

/-- What no task operation changes about a request. -/
def Request.head (request : Request) : RequestId × UserId × Option Time :=
  (request.id, request.creatorId, request.deletedAt)

/-- Both databases hold the same requests, by the same creators, deleted or not alike. -/
def SameRequests (db after : Db) : Prop :=
  after.requests.rows.map Request.head = db.requests.rows.map Request.head

theorem SameRequests.refl (db : Db) : SameRequests db db := rfl

theorem sameRequests_update {db after : Db} {wanted : Request → Bool}
    {patch : Patch Request.id Request.id}
    (requests : after.requests = db.requests.update wanted patch)
    (kept : ∀ request, (patch.run request).head = request.head) : SameRequests db after := by
  unfold SameRequests
  rw [requests]
  simp only [Table.update, List.map_map]
  apply List.map_congr_left
  intro request _
  simp only [Function.comp_apply]
  split
  · exact kept request
  · rfl

theorem SameRequests.origin {db after : Db} (same : SameRequests db after) {request : Request}
    (member : request ∈ after.requests.rows) :
    ∃ old ∈ db.requests.rows, old.id = request.id ∧ old.creatorId = request.creatorId ∧
      old.deletedAt = request.deletedAt := by
  have image : request.head ∈ after.requests.rows.map Request.head :=
    List.mem_map_of_mem member
  rw [same] at image
  obtain ⟨old, oldMember, sameHead⟩ := List.mem_map.mp image
  simp only [Request.head, Prod.mk.injEq] at sameHead
  exact ⟨old, oldMember, sameHead⟩

theorem SameRequests.symm {db after : Db} (same : SameRequests db after) :
    SameRequests after db := Eq.symm same

/-- Nothing changed on the board. -/
structure Quiet (db after : Db) : Prop where
  tasks : after.tasks = db.tasks
  assignments : after.assignments = db.assignments
  chats : after.chats = db.chats
  requests : SameRequests db after

theorem Quiet.refl (db : Db) : Quiet db db := ⟨rfl, rfl, rfl, rfl⟩

/-- What an operation that saves one task makes of it, and under which checks. -/
inductive TaskEdit (db : Db) (task : Task) : TasksOp → Task → Prop
  | update (dto : UpdateTaskDto) (user : User) (idle : db.Idle task.id) :
      TaskEdit db task (.update task.id dto user) (UpdateTaskDto.assign dto task)
  | deleteTask (user : User) (now : Time) (idle : db.Idle task.id) :
      TaskEdit db task (.deleteTask task.id user now) { task with deletedAt := some now }
  | completeTask (user : User) (now : Time) (allowed : mayComplete (db.loaded task) user)
      (present : db.findRequest task.requestId ≠ none) :
      TaskEdit db task (.completeTask task.id user now)
        { task with status := .pendingReview, pendingReviewAt := some now }
  | returnToProgress (user : User) (now : Time) (reviewing : task.status = .pendingReview) :
      TaskEdit db task (.returnToProgress task.id user now)
        { task with status := .inProgress, pendingReviewAt := none }
  | confirmTaskCompletion (user : User) (now : Time)
      (reviewing : task.status = .pendingReview) :
      TaskEdit db task (.confirmTaskCompletion task.id user now) { task with status := .done }
  | rejectTask (user : User) (reviewing : task.status = .pendingReview) :
      TaskEdit db task (.rejectTask task.id user) { task with status := .inProgress }
  | updateTaskStatusAdmin (status : TaskStatus) (user : User)
      (admin : user.systemRole = .admin) :
      TaskEdit db task (.updateTaskStatusAdmin task.id status user) { task with status := status }
  | cancelTask (user : User) :
      TaskEdit db task (.cancelTask task.id user) { task with status := .cancelled }
  | renewTask (user : User) (request : Request)
      (present : db.findRequest task.requestId = some request)
      (allowed : mayCancel request user = true) (cancelled : task.status = .cancelled) :
      TaskEdit db task (.renewTask task.id user) { task with status := .todo }

namespace TaskEdit

variable {db : Db} {task new : Task} {op : TasksOp}

theorem id_eq (edit : TaskEdit db task op new) : new.id = task.id := by
  cases edit <;> rfl

theorem requestId_eq (edit : TaskEdit db task op new) : new.requestId = task.requestId := by
  cases edit <;> rfl

theorem chatId_eq (edit : TaskEdit db task op new) : new.chatId = task.chatId := by
  cases edit <;> rfl

end TaskEdit

inductive TasksEffect (required : Nat) (db : Db) : TasksOp → Db → Prop
  | quiet (op : TasksOp) (after : Db) (same : Quiet db after) : TasksEffect required db op after
  | created (requestId : RequestId) (dto : CreateTaskDto) (user : User) (request : Request)
      (present : db.findRequest requestId = some request) :
      TasksEffect required db (.create requestId dto user)
        { db with tasks := db.tasks.append (newTask requestId dto user) }
  | edited (op : TasksOp) (task new : Task) (after : Db) (found : db.findTask task.id = some task)
      (edit : TaskEdit db task op new) (tasks : db.tasks.Replaced task new after.tasks)
      (assignments : after.assignments = db.assignments) (chats : after.chats = db.chats)
      (requests : SameRequests db after) : TasksEffect required db op after
  | assigned (taskId : TaskId) (dto : AssignTaskDto) (user : User) (now : Time) (task : Task)
      (request : Request) (after : Db)
      (assigned : Assigned required db taskId dto user now task request after) :
      TasksEffect required db (.assignVolunteer taskId dto user now) after
  | withdrawn (taskId : TaskId) (user : User) (assignment : TaskAssignment)
      (found : db.findAssignment taskId user.id = some assignment)
      (unfinished : assignment.status ≠ .completed) :
      TasksEffect required db (.withdrawAssignment taskId user)
        (withdrawn db taskId assignment.id)
  | moved (taskId : TaskId) (newStatus : String) (user : User) (assignment : TaskAssignment)
      (status : AssignmentStatus) (found : db.findAssignment taskId user.id = some assignment)
      (active : assignment.active = true) (allowed : isActiveAssignmentStatus status = true) :
      TasksEffect required db (.updateAssignmentStatus taskId newStatus user)
        { db with assignments := db.assignments.saveAll [{ assignment with status := status }] }

namespace TasksEffect

variable {required : Nat} {db : Db}

theorem unchanged (op : TasksOp) : TasksEffect required db op db :=
  .quiet op db (Quiet.refl db)

theorem of_guarded {α : Type} {program : Service α} {Post : α → Db → Prop} {op : TasksOp}
    (guarded : program.Guarded db Post)
    (effect : ∀ value after, Post value after → TasksEffect required db op after) :
    TasksEffect required db op (program.run db).2 := by
  exact Prog.Guarded.after (motive := TasksEffect required db op) guarded (unchanged op) effect

theorem of_withTask {op : TasksOp} {task new : Task} (found : db.findTask task.id = some task)
    (edit : TaskEdit db task op new) : TasksEffect required db op (db.withTask new) :=
  .edited op task new _ found edit (Db.replaced_withTask new found edit.id_eq) rfl rfl rfl

end TasksEffect

/-! ## Delegation leaves the board alone -/

theorem quiet_withAccepted (db : Db) (delegation : TaskDelegation) (isAccepted : Option Bool) :
    Quiet db (withAccepted db delegation isAccepted) := ⟨rfl, rfl, rfl, rfl⟩

theorem quiet_upserted (taskId : TaskId) (dto : DelegateTaskDto) (coordinator : User) (now : Time)
    (db : Db) : Quiet db (upserted taskId dto coordinator now db) := by
  obtain ⟨delegations, same⟩ := upserted_eq taskId dto coordinator now db
  rw [same]
  exact ⟨rfl, rfl, rfl, rfl⟩

theorem quiet_accepted (db : Db) (delegation : TaskDelegation) (request : Option Request)
    (organizationId : OrgId) : Quiet db (accepted db delegation request organizationId) := by
  cases request with
  | none => exact quiet_withAccepted db delegation (some true)
  | some request =>
      refine ⟨rfl, rfl, rfl, ?_⟩
      exact sameRequests_update rfl fun _ => rfl

/-! ## Every operation -/

theorem confirmed_effect {required : Nat} {db : Db} {task : Task} (user : User) (now : Time)
    (found : db.findTask task.id = some task) (reviewing : task.status = .pendingReview) :
    TasksEffect required db (.confirmTaskCompletion task.id user now) (confirmed db task) := by
  have same : SameRequests db (confirmed db task) := by
    by_cases complete : AllDone db task.requestId
    · have completed : (confirmed db task).requests = db.requests.update _ _ := if_pos complete
      exact sameRequests_update completed fun _ => rfl
    · have unchanged : (confirmed db task).requests = db.requests := if_neg complete
      simp [SameRequests, unchanged]
  exact .edited _ task { task with status := .done } _ found
    (.confirmTaskCompletion user now reviewing) (Db.replaced_withTask _ found rfl) rfl rfl same

theorem TasksOp.effect (required : Nat) (db : Db) (op : TasksOp) :
    TasksEffect required db op (op.step required db) := by
  cases op with
  | create requestId dto user =>
      apply TasksEffect.of_guarded (create_guarded requestId dto user db)
      intro _ _ post
      obtain ⟨⟨request, present⟩, rfl⟩ := post
      exact .created requestId dto user request present
  | update taskId dto user =>
      apply TasksEffect.of_guarded (update_guarded taskId dto user db)
      intro _ _ post
      obtain ⟨task, found, idle, rfl⟩ := post
      obtain ⟨_, rfl, _⟩ := Db.findTask_some found
      exact .of_withTask found (.update dto user idle)
  | deleteTask taskId user now =>
      apply TasksEffect.of_guarded (deleteTask_guarded taskId user now db)
      intro _ _ post
      obtain ⟨task, found, idle, rfl⟩ := post
      obtain ⟨member, rfl, _⟩ := Db.findTask_some found
      exact .edited _ task _ _ found (.deleteTask user now idle)
        (Table.replaced_update_key (deletedPatch now) member) rfl rfl rfl
  | assignVolunteer taskId dto user now =>
      have commits := assignVolunteer_commits required taskId dto user now db
      refine commits.after (motive := TasksEffect required db _) (.quiet _ _ (Quiet.refl db)) ?_
      intro _ _ post
      obtain ⟨task, request, assigned⟩ := post
      exact .assigned taskId dto user now task request _ assigned
  | withdrawAssignment taskId user =>
      apply TasksEffect.of_guarded (withdrawAssignment_guarded taskId user db)
      intro _ _ post
      obtain ⟨assignment, found, unfinished, rfl⟩ := post
      exact .withdrawn taskId user assignment found unfinished
  | updateAssignmentStatus taskId newStatus user =>
      apply TasksEffect.of_guarded (updateAssignmentStatus_guarded taskId newStatus user db)
      intro _ _ post
      obtain ⟨assignment, status, found, active, allowed, rfl⟩ := post
      exact .moved taskId newStatus user assignment status found active allowed
  | completeTask taskId user now =>
      apply TasksEffect.of_guarded (completeTask_guarded taskId user now db)
      intro _ _ post
      obtain ⟨task, found, allowed, present, rfl⟩ := post
      obtain ⟨_, rfl, _⟩ := Db.findTask_some found
      exact .of_withTask found (.completeTask user now allowed present)
  | returnToProgress taskId user now =>
      apply TasksEffect.of_guarded (returnToProgress_guarded taskId user now db)
      intro _ _ post
      obtain ⟨task, found, reviewing, rfl⟩ := post
      obtain ⟨_, rfl, _⟩ := Db.findTask_some found
      exact .of_withTask found (.returnToProgress user now reviewing)
  | confirmTaskCompletion taskId user now =>
      apply TasksEffect.of_guarded (confirmTaskCompletion_guarded taskId user now db)
      intro _ _ post
      obtain ⟨task, request, found, _, _, reviewing, rfl⟩ := post
      obtain ⟨_, rfl, _⟩ := Db.findTask_some found
      exact confirmed_effect user now found reviewing
  | rejectTask taskId user =>
      apply TasksEffect.of_guarded (rejectTask_guarded taskId user db)
      intro _ _ post
      obtain ⟨task, found, reviewing, rfl⟩ := post
      obtain ⟨_, rfl, _⟩ := Db.findTask_some found
      exact .of_withTask found (.rejectTask user reviewing)
  | updateTaskStatusAdmin taskId status user =>
      apply TasksEffect.of_guarded (updateTaskStatusAdmin_guarded taskId status user db)
      intro _ _ post
      obtain ⟨task, found, admin, rfl⟩ := post
      obtain ⟨_, rfl, _⟩ := Db.findTask_some found
      exact .of_withTask found (.updateTaskStatusAdmin status user admin)
  | cancelTask taskId user =>
      apply TasksEffect.of_guarded (cancelTask_guarded taskId user db)
      intro _ _ post
      obtain ⟨task, found, rfl⟩ := post
      obtain ⟨_, rfl, _⟩ := Db.findTask_some found
      exact .of_withTask found (.cancelTask user)
  | renewTask taskId user =>
      apply TasksEffect.of_guarded (renewTask_guarded taskId user db)
      intro _ _ post
      obtain ⟨task, request, found, present, allowed, cancelled, rfl⟩ := post
      obtain ⟨_, rfl, _⟩ := Db.findTask_some found
      exact .of_withTask found (.renewTask user request present allowed cancelled)
  | delegateTask taskId dto user now =>
      apply TasksEffect.of_guarded (delegateTask_guarded taskId dto user now db)
      intro _ _ post
      obtain ⟨_, rfl⟩ := post
      exact .quiet _ _ (quiet_upserted taskId dto user now db)
  | acceptDelegation taskId organizationId user =>
      apply TasksEffect.of_guarded (acceptDelegation_guarded taskId organizationId user db)
      intro _ _ post
      obtain ⟨delegation, request, _, rfl⟩ := post
      exact .quiet _ _ (quiet_accepted db delegation request organizationId)
  | unacceptDelegation taskId organizationId user =>
      apply TasksEffect.of_guarded (unacceptDelegation_guarded taskId organizationId user db)
      intro _ _ post
      obtain ⟨delegation, _, rfl⟩ := post
      exact .quiet _ _ (quiet_withAccepted db delegation none)
  | declineDelegation taskId organizationId user =>
      apply TasksEffect.of_guarded (declineDelegation_guarded taskId organizationId user db)
      intro _ _ post
      obtain ⟨delegation, _, rfl⟩ := post
      exact .quiet _ _ (quiet_withAccepted db delegation (some false))

/-! ## Where an assignment row comes from -/

/-- The task and its request are there to be taken: neither is deleted. -/
def Db.Takeable (db : Db) (taskId : TaskId) : Prop :=
  ∃ task request, db.findTask taskId = some task ∧ db.findRequest task.requestId = some request

/-- How a task operation can have produced a stored assignment. -/
inductive RowOrigin (db : Db) : TasksOp → TaskAssignment → Prop
  | kept (op : TasksOp) (row : TaskAssignment) (member : row ∈ db.assignments.rows) :
      RowOrigin db op row
  | retaken (dto : AssignTaskDto) (user : User) (now : Time) (old : TaskAssignment)
      (live : db.Takeable old.taskId) (member : old ∈ db.assignments.rows)
      (owner : old.userId = user.id) (left : old.status = .withdrawn) :
      RowOrigin db (.assignVolunteer old.taskId dto user now) (reassigned old dto now)
  | fresh (taskId : TaskId) (dto : AssignTaskDto) (user : User) (now : Time)
      (live : db.Takeable taskId) :
      RowOrigin db (.assignVolunteer taskId dto user now)
        (newAssignment taskId dto user now db.assignments.next)
  | left (user : User) (old : TaskAssignment) (member : old ∈ db.assignments.rows)
      (owner : old.userId = user.id) (unfinished : old.status ≠ .completed) :
      RowOrigin db (.withdrawAssignment old.taskId user) (withdrawnPatch.run old)
  | moved (newStatus : String) (user : User) (old : TaskAssignment) (status : AssignmentStatus)
      (member : old ∈ db.assignments.rows) (owner : old.userId = user.id)
      (active : old.active = true) (allowed : isActiveAssignmentStatus status = true) :
      RowOrigin db (.updateAssignmentStatus old.taskId newStatus user)
        { old with status := status }

theorem TasksService.Upserted.origin {db : Db} {taskId : TaskId} {dto : AssignTaskDto} {user : User}
    {now : Time} {assignments : Table TaskAssignment.id TaskAssignment.slot}
    (upserted : Upserted db taskId dto user now assignments) (live : db.Takeable taskId)
    {row : TaskAssignment} (member : row ∈ assignments.rows) :
    RowOrigin db (.assignVolunteer taskId dto user now) row := by
  cases upserted with
  | retaken existing found left =>
      obtain ⟨existingMember, rfl, owner⟩ := Db.findAssignment_some found
      have replaced := Table.replaced_save (reassigned existing dto now) existingMember rfl rfl
      rcases (replaced.mem row).mp member with rfl | ⟨oldMember, _⟩
      · exact .retaken dto user now existing live existingMember owner left
      · exact .kept _ row oldMember
  | fresh _ missing inserted =>
      rcases ((Table.added_insert inserted).mem row).mp member with oldMember | rfl
      · exact .kept _ row oldMember
      · exact .fresh taskId dto user now live

theorem withdrawn_assignments (db : Db) (taskId : TaskId) (assignmentId : AssignmentId) :
    (withdrawn db taskId assignmentId).assignments =
      db.assignments.update (fun assignment => assignment.id = assignmentId) withdrawnPatch := by
  unfold withdrawn
  split <;> rfl

/-- The count of a withdrawal is zero exactly when nobody else is `ASSIGNED`. -/
theorem countAssigned_markedWithdrawn {db : Db} {taskId : TaskId} {assignment : TaskAssignment}
    (member : assignment ∈ db.assignments.rows) :
    countAssigned (markedWithdrawn db assignment.id) taskId = 0 ↔
      ∀ other ∈ db.assignments.rows, other.taskId = taskId → other.id ≠ assignment.id →
        other.status ≠ .assigned := by
  have replaced := Table.replaced_update_key withdrawnPatch member
  unfold countAssigned
  rw [Table.count_eq_zero]
  constructor
  · intro none other otherMember same different assigned
    have missed := none other (replaced.kept otherMember (fun here => different (by rw [here])))
    simp [same, assigned] at missed
  · intro none row rowMember
    rcases (replaced.mem row).mp rowMember with rfl | ⟨otherMember, different⟩
    · simp [withdrawnPatch]
    · have notAssigned : row.taskId = taskId → row.status ≠ .assigned := by
        intro same
        apply none row otherMember same
        intro sameId
        exact different (Table.eq_of_key otherMember member sameId)
      simpa using notAssigned

theorem TasksEffect.origin {required : Nat} {db after : Db} {op : TasksOp}
    (effect : TasksEffect required db op after) {row : TaskAssignment}
    (member : row ∈ after.assignments.rows) : RowOrigin db op row := by
  cases effect with
  | quiet _ _ same => exact .kept op row (same.assignments ▸ member)
  | created requestId dto user request present => exact .kept _ row member
  | edited _ task new _ found edit tasks assignments chats requests =>
      exact .kept op row (assignments ▸ member)
  | assigned taskId dto user now task request _ assigned =>
      obtain ⟨assignments, tasks, chats, upserted, _, rfl⟩ := assigned.effect
      exact upserted.origin ⟨task, request, assigned.found, assigned.present⟩ member
  | withdrawn taskId user assignment found unfinished =>
      obtain ⟨assignmentMember, rfl, owner⟩ := Db.findAssignment_some found
      rw [withdrawn_assignments] at member
      have replaced := Table.replaced_update_key withdrawnPatch assignmentMember
      rcases (replaced.mem row).mp member with rfl | ⟨oldMember, _⟩
      · exact .left user assignment assignmentMember owner unfinished
      · exact .kept _ row oldMember
  | moved taskId newStatus user assignment status found active allowed =>
      obtain ⟨assignmentMember, rfl, owner⟩ := Db.findAssignment_some found
      have replaced := Table.replaced_save { assignment with status := status }
        assignmentMember rfl rfl
      rcases (replaced.mem row).mp member with rfl | ⟨oldMember, _⟩
      · exact .moved newStatus user assignment status assignmentMember owner active allowed
      · exact .kept _ row oldMember

/-- An active assignment was active before, or its volunteer just took the task. -/
theorem RowOrigin.active {db : Db} {op : TasksOp} {row : TaskAssignment}
    (origin : RowOrigin db op row) (active : row.active = true) :
    (∃ old ∈ db.assignments.rows, old.taskId = row.taskId ∧ old.userId = row.userId ∧
      old.active = true) ∨
    ∃ dto user now, op = .assignVolunteer row.taskId dto user now ∧ row.userId = user.id ∧
      row.status = .assigned ∧ db.Takeable row.taskId := by
  cases origin with
  | kept _ _ member => exact Or.inl ⟨row, member, rfl, rfl, active⟩
  | retaken dto user now old live member owner left =>
      exact Or.inr ⟨dto, user, now, rfl, owner, rfl, live⟩
  | fresh taskId dto user now live => exact Or.inr ⟨dto, user, now, rfl, rfl, rfl, live⟩
  | left user old member owner unfinished =>
      simp [TaskAssignment.active, withdrawnPatch] at active
  | moved newStatus user old status member owner oldActive allowed =>
      exact Or.inl ⟨old, member, rfl, rfl, oldActive⟩

theorem mem_joined {userId participant : UserId} {chat : Chat} :
    participant ∈ ((joinedPatch userId).run chat).participants ↔
      participant ∈ chat.participants ∨ participant = userId := by
  simp only [joinedPatch]
  split
  · constructor
    · exact Or.inl
    · rintro (inside | rfl)
      · exact inside
      · assumption
  · simp

/-! ## Where a task row comes from -/

/-- The task after its first taker entered. -/
def started (task : Task) (chatId : ChatId) : Task :=
  { task with status := .inProgress, chatId := some chatId }

/-- How a task operation can have produced a stored task. -/
inductive TaskRowOrigin (db : Db) : TasksOp → Task → Prop
  | kept (op : TasksOp) (row : Task) (member : row ∈ db.tasks.rows) : TaskRowOrigin db op row
  | created (requestId : RequestId) (dto : CreateTaskDto) (user : User) (request : Request)
      (present : db.findRequest requestId = some request) :
      TaskRowOrigin db (.create requestId dto user) (newTask requestId dto user db.tasks.next)
  | edited (op : TasksOp) (old new : Task) (found : db.findTask old.id = some old)
      (edit : TaskEdit db old op new) : TaskRowOrigin db op new
  | started (dto : AssignTaskDto) (user : User) (now : Time) (old : Task)
      (found : db.findTask old.id = some old) (todo : old.status = .todo) :
      TaskRowOrigin db (.assignVolunteer old.id dto user now) (started old db.chats.next)
  | reset (user : User) (assignment : TaskAssignment) (old : Task) (member : old ∈ db.tasks.rows)
      (found : db.findAssignment old.id user.id = some assignment)
      (unfinished : assignment.status ≠ .completed)
      (alone : countAssigned (markedWithdrawn db assignment.id) old.id = 0) :
      TaskRowOrigin db (.withdrawAssignment old.id user) (resetPatch.run old)

theorem TasksService.Entered.origin {db : Db} {dto : AssignTaskDto} {user : User} {now : Time}
    {task : Task} {request : Request} {tasks : Table Task.id Task.id}
    {chats : Table Chat.id Chat.id} (entered : Entered db task request user tasks chats)
    (found : db.findTask task.id = some task) {row : Task} (member : row ∈ tasks.rows) :
    TaskRowOrigin db (.assignVolunteer task.id dto user now) row := by
  cases entered with
  | starts todo =>
      have replaced := Table.replaced_save (started task db.chats.next)
        (Db.findTask_some found).1 rfl rfl
      rcases (replaced.mem row).mp member with rfl | ⟨oldMember, _⟩
      · exact .started dto user now task found todo
      · exact .kept _ row oldMember
  | joins chatId busy chat => exact .kept _ row member
  | unheard busy chat => exact .kept _ row member

theorem TasksEffect.taskOrigin {required : Nat} {db after : Db} {op : TasksOp}
    (effect : TasksEffect required db op after) {row : Task} (member : row ∈ after.tasks.rows) :
    TaskRowOrigin db op row := by
  cases effect with
  | quiet _ _ same => exact .kept op row (same.tasks ▸ member)
  | created requestId dto user request present =>
      have added := Table.added_append db.tasks (newTask requestId dto user) fun _ => rfl
      rcases (added.mem row).mp member with oldMember | rfl
      · exact .kept _ row oldMember
      · exact .created requestId dto user request present
  | edited _ task new _ found edit tasks assignments chats requests =>
      rcases (tasks.mem row).mp member with rfl | ⟨oldMember, _⟩
      · exact .edited op task row found edit
      · exact .kept op row oldMember
  | assigned taskId dto user now task request _ assigned =>
      obtain ⟨assignments, tasks, chats, _, entered, rfl⟩ := assigned.effect
      have found := assigned.found
      obtain ⟨_, rfl, _⟩ := Db.findTask_some found
      exact entered.origin found member
  | withdrawn taskId user assignment found unfinished =>
      by_cases alone : countAssigned (markedWithdrawn db assignment.id) taskId = 0
      · rw [TasksService.withdrawn, if_pos alone] at member
        obtain ⟨old, oldMember, rfl⟩ := (Table.mem_update _ _ _ _).mp member
        by_cases here : old.id = taskId
        · subst here
          rw [if_pos (decide_eq_true rfl)]
          exact .reset user assignment old oldMember found unfinished alone
        · rw [if_neg (by simpa using here)]
          exact .kept _ old oldMember
      · rw [TasksService.withdrawn, if_neg alone] at member
        exact .kept _ row member
  | moved taskId newStatus user assignment status found active allowed =>
      exact .kept _ row member

theorem TasksEffect.task_survives {required : Nat} {db after : Db} {op : TasksOp}
    (effect : TasksEffect required db op after) {task : Task} (member : task ∈ db.tasks.rows) :
    ∃ later ∈ after.tasks.rows, later.id = task.id := by
  cases effect with
  | quiet _ _ same => exact ⟨task, same.tasks ▸ member, rfl⟩
  | created requestId dto user request present =>
      have added := Table.added_append db.tasks (newTask requestId dto user) fun _ => rfl
      exact ⟨task, (added.mem task).mpr (Or.inl member), rfl⟩
  | edited _ old new _ found edit tasks assignments chats requests => exact tasks.survives member
  | assigned taskId dto user now old request _ assigned =>
      obtain ⟨assignments, tasks, chats, _, entered, rfl⟩ := assigned.effect
      cases entered with
      | starts todo => exact Table.survives_update _ _ member
      | joins chatId busy chat => exact ⟨task, member, rfl⟩
      | unheard busy chat => exact ⟨task, member, rfl⟩
  | withdrawn taskId user assignment found unfinished =>
      unfold TasksService.withdrawn
      split
      · exact Table.survives_update _ _ member
      · exact ⟨task, member, rfl⟩
  | moved taskId newStatus user assignment status found active allowed => exact ⟨task, member, rfl⟩

end VolunteerApi
