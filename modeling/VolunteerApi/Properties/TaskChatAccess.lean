import VolunteerApi.Effects.ServerRows

/-!
# Who can open the chat of a task

The chat of a task holds the creator of its request and those who took a task of that request,
whatever calls have been made.  Nobody else can read or write there but an admin.
-/

set_option autoImplicit false

namespace VolunteerApi

open Relational Programs Db
open TasksService ChatService

/-- The user created the request, or there is a row for him on one of its tasks. -/
def Db.Involved (db : Db) (requestId : RequestId) (userId : UserId) : Prop :=
  (∃ request ∈ db.requests.rows, request.id = requestId ∧ request.creatorId = userId) ∨
    ∃ task ∈ db.tasks.rows, task.requestId = requestId ∧ db.HasTaken task.id userId

theorem Db.HasTaken.evolves {db after : Db} {taskId : TaskId} {userId : UserId}
    (taken : db.HasTaken taskId userId) (along : db.Evolves after) :
    after.HasTaken taskId userId := by
  obtain ⟨assignment, stored, ofTask, owner⟩ := taken
  obtain ⟨later, laterStored, _, slot⟩ := along.assignments assignment stored
  simp only [TaskAssignment.slot, Prod.mk.injEq] at slot
  exact ⟨later, laterStored, slot.1.trans ofTask, slot.2.trans owner⟩

theorem Db.Involved.evolves {db after : Db} {requestId : RequestId} {userId : UserId}
    (involved : db.Involved requestId userId) (along : db.Evolves after) :
    after.Involved requestId userId := by
  rcases involved with ⟨request, stored, sameId, creator⟩ | ⟨task, stored, ofRequest, taken⟩
  · obtain ⟨later, laterStored, laterId, authorship⟩ := along.requests request stored
    simp only [Request.authorship, Prod.mk.injEq] at authorship
    exact Or.inl ⟨later, laterStored, laterId.trans sameId, authorship.1.trans creator⟩
  · obtain ⟨later, laterStored, laterId, authorship⟩ := along.tasks task stored
    simp only [Task.authorship, Prod.mk.injEq] at authorship
    refine Or.inr ⟨later, laterStored, authorship.1.trans ofRequest, ?_⟩
    rw [laterId]
    exact taken.evolves along

/-- The chat is one of a task of the request. -/
def Chat.IsOf (chat : Chat) (requestId : RequestId) : Prop :=
  chat.type = .taskChat ∧ chat.relatedRequestId = some requestId

theorem Chat.IsOf.becomes {old new : Chat} {requestId : RequestId} (isOf : old.IsOf requestId)
    (became : Chat.Becomes old new) : new.IsOf requestId :=
  ⟨became.type.trans isOf.1, became.relatedRequestId.trans isOf.2⟩

structure TaskChatsClosed (db : Db) : Prop where
  linked : ∀ task ∈ db.tasks.rows, ∀ chatId, task.chatId = some chatId →
    ∃ chat ∈ db.chats.rows, chat.id = chatId ∧ chat.IsOf task.requestId
  closed : ∀ chat ∈ db.chats.rows, chat.type = .taskChat →
    ∃ requestId, chat.IsOf requestId ∧ ∀ userId ∈ chat.participants, db.Involved requestId userId

/-! ## One call -/

theorem TasksEffect.taskChat {required : Nat} {db after : Db} {op : TasksOp}
    (effect : TasksEffect required db op after) {task : Task} (stored : task ∈ after.tasks.rows)
    {chatId : ChatId} (linked : task.chatId = some chatId) :
    (∃ old ∈ db.tasks.rows, old.requestId = task.requestId ∧ old.chatId = some chatId) ∨
      ∃ chat ∈ after.chats.rows, chat.id = chatId ∧ chat.IsOf task.requestId := by
  cases effect.taskOrigin stored with
  | kept _ _ before => exact Or.inl ⟨task, before, rfl, linked⟩
  | created requestId dto user request present => cases linked
  | edited _ old _ found edit =>
      exact Or.inl ⟨old, (Db.findTask_some found).1, edit.requestId_eq.symm,
        edit.chatId_eq.symm.trans linked⟩
  | reset user assignment old oldStored found unfinished alone => cases linked
  | started dto user now old found todo =>
      cases linked
      cases effect with
      | quiet _ _ same => exact Or.inl ⟨_, same.tasks ▸ stored, rfl, rfl⟩
      | edited _ task new _ found edit tasks assignments chats requests => cases edit
      | assigned _ _ _ _ task request _ assigned =>
          obtain ⟨_, sameRequest, _⟩ := Db.findRequest_some assigned.present
          obtain rfl : old = task := by
            have same := assigned.found
            rw [found] at same
            exact Option.some.inj same
          obtain ⟨assignments, tasks, chats, upserted, entered, rfl⟩ := assigned.effect
          cases entered with
          | starts todo =>
              have added := Table.added_append db.chats
                (newChat old request user (db.assignmentsOf old.id)) fun _ => rfl
              refine Or.inr ⟨_, (added.mem _).mpr (Or.inr rfl), rfl, rfl, ?_⟩
              exact congrArg some sameRequest
          | joins chatId busy linked => exact absurd todo busy
          | unheard busy linked => exact absurd todo busy

variable {env : ServerEnv} {db : Db}

theorem UserOp.linked {user : User} {op : UserOp} (own : op.By user)
    (before : TaskChatsClosed db) {task : Task} (stored : task ∈ (op.run env db).2.tasks.rows)
    {chatId : ChatId} (linked : task.chatId = some chatId) :
    ∃ chat ∈ (op.run env db).2.chats.rows, chat.id = chatId ∧ chat.IsOf task.requestId := by
  have evolves := (op.area env db).evolves
  have survives {old : Task} (oldStored : old ∈ db.tasks.rows)
      (sameRequest : old.requestId = task.requestId) (oldLinked : old.chatId = some chatId) :
      ∃ chat ∈ (op.run env db).2.chats.rows, chat.id = chatId ∧ chat.IsOf task.requestId := by
    obtain ⟨chat, chatStored, sameId, isOf⟩ := before.linked old oldStored chatId oldLinked
    obtain ⟨later, laterStored, laterId, became⟩ := evolves.chats chat chatStored
    exact ⟨later, laterStored, laterId.trans sameId, sameRequest ▸ isOf.becomes became⟩
  cases UserOp.taskSource env db own stored with
  | kept _ _ oldStored => exact survives oldStored rfl linked
  | automatic dto user now => cases linked
  | board op _ origin =>
      have effect := op.effect env.required db
      rw [UserOp.run_tasks] at stored
      rcases effect.taskChat stored linked with ⟨old, oldStored, sameRequest, oldLinked⟩ | fresh
      · exact survives oldStored sameRequest oldLinked
      · rw [UserOp.run_tasks]
        exact fresh

theorem UserOp.closed {op : UserOp} (before : TaskChatsClosed db) {chat : Chat}
    (stored : chat ∈ (op.run env db).2.chats.rows) (type : chat.type = .taskChat) :
    ∃ requestId, chat.IsOf requestId ∧
      ∀ userId ∈ chat.participants, (op.run env db).2.Involved requestId userId := by
  have evolves := (op.area env db).evolves
  have source := op.chatSource env db stored
  generalize (op.run env db).2 = after at evolves source ⊢
  cases source with
  | kept _ _ oldStored =>
      obtain ⟨requestId, isOf, members⟩ := before.closed chat oldStored type
      exact ⟨requestId, isOf, fun userId inside => (members userId inside).evolves evolves⟩
  | started dto user now task request found present taken =>
      obtain ⟨requestStored, sameRequest, _⟩ := Db.findRequest_some present
      obtain ⟨taskStored, _, _⟩ := Db.findTask_some found
      refine ⟨request.id, ⟨rfl, rfl⟩, ?_⟩
      intro userId inside
      simp only [newChat, chatParticipants, List.mem_eraseDups, List.mem_append, List.mem_map,
        List.mem_filter, List.mem_singleton] at inside
      rcases inside with (rfl | ⟨assignment, ⟨held, _⟩, rfl⟩) | rfl
      · exact Db.Involved.evolves (Or.inl ⟨request, requestStored, rfl, rfl⟩) evolves
      · obtain ⟨assignmentStored, ofTask⟩ := Db.mem_assignmentsOf.mp held
        have taken : db.HasTaken task.id assignment.userId :=
          ⟨assignment, assignmentStored, ofTask, rfl⟩
        exact Db.Involved.evolves (Or.inr ⟨task, taskStored, sameRequest.symm, taken⟩) evolves
      · obtain ⟨later, laterStored, laterId, authorship⟩ := evolves.tasks task taskStored
        simp only [Task.authorship, Prod.mk.injEq] at authorship
        exact Or.inr ⟨later, laterStored, authorship.1.trans sameRequest.symm, laterId ▸ taken⟩
  | joined dto user now task old oldStored found linked taken =>
      obtain ⟨taskStored, _, _⟩ := Db.findTask_some found
      obtain ⟨chat, chatStored, sameId, isOf⟩ := before.linked task taskStored old.id linked
      obtain rfl := Table.eq_of_key chatStored oldStored sameId
      obtain ⟨requestId, isOf', members⟩ := before.closed chat chatStored isOf.1
      obtain rfl : requestId = task.requestId := Option.some.inj (isOf'.2.symm.trans isOf.2)
      refine ⟨task.requestId, isOf.becomes (Chat.Becomes.joined user.id chat), ?_⟩
      intro userId inside
      rcases mem_joined.mp inside with earlier | rfl
      · exact (members userId earlier).evolves evolves
      · obtain ⟨later, laterStored, laterId, authorship⟩ := evolves.tasks task taskStored
        simp only [Task.authorship, Prod.mk.injEq] at authorship
        exact Or.inr ⟨later, laterStored, authorship.1, laterId ▸ taken⟩
  | direct targetUserId user => cases type
  | organization op _ ofOrganization => exact absurd (ofOrganization.symm.trans type) (by decide)

theorem taskChatsClosed_step (env : ServerEnv) (db : Db) (call : Call)
    (before : TaskChatsClosed db) : TaskChatsClosed (call.step env db) := by
  revert before
  refine Call.step_of env (R := fun db after => TaskChatsClosed db → TaskChatsClosed after)
    (fun _ before => before) ?_ ?_ db call
  · intro db op before
    have area := op.area env db
    have tasks : (op.run env db).2.tasks = db.tasks := area.same .tasks (by simp [peopleScope])
    have chats : (op.run env db).2.chats = db.chats := area.same .chats (by simp [peopleScope])
    constructor
    · rw [tasks, chats]
      exact before.linked
    · rw [chats]
      intro chat stored type
      obtain ⟨requestId, isOf, members⟩ := before.closed chat stored type
      exact ⟨requestId, isOf, fun userId inside => (members userId inside).evolves area.evolves⟩
  · intro db payload user op _ own before
    exact ⟨fun task stored chatId linked => UserOp.linked own before stored linked,
      fun chat stored type => UserOp.closed before stored type⟩

/-! ## Every run -/

/-- The user is involved in the request of the chat, or is an admin. -/
def MayOpen (db : Db) (chat : Chat) (userId : UserId) : Prop :=
  (∃ requestId, chat.relatedRequestId = some requestId ∧ db.Involved requestId userId) ∨
    (db.findUser userId).map User.systemRole = some .admin

theorem TaskChatsClosed.passes (closed : TaskChatsClosed db) {chat : Chat}
    (stored : chat ∈ db.chats.rows) (type : chat.type = .taskChat) {userId : UserId}
    (passes : Passes db chat.id userId) : MayOpen db chat userId := by
  cases inside : db.chats.findOne fun row => row.id = chat.id ∧ userId ∈ row.participants with
  | none => exact Or.inr (passes_iff.mp passes inside).1
  | some row =>
      obtain ⟨rowStored, sameId, participant⟩ := by simpa using Table.findOne_mem inside
      obtain rfl := Table.eq_of_key rowStored stored sameId
      obtain ⟨requestId, isOf, members⟩ := closed.closed row stored type
      exact Or.inl ⟨requestId, isOf.2, members userId participant⟩

/-- In every state that calls of the server lead to, whoever reads the chat of a task, writes to
it or marks it as read is involved in the request of that task or is an admin. -/
theorem taskChat_confined (env : ServerEnv) (db : Db) (closed : TaskChatsClosed db)
    (calls : List Call) (chat : Chat) (user : User)
    (stored : chat ∈ (execute (Call.step env) db calls).chats.rows)
    (type : chat.type = .taskChat) :
    (∀ orders limit beforeId sort answer,
        ((getMessages orders chat.id user limit beforeId sort).run
          (execute (Call.step env) db calls)).1 = .ok answer →
          MayOpen (execute (Call.step env) db calls) chat user.id) ∧
      (∀ dto now sent,
        ((sendMessage chat.id user dto now).run (execute (Call.step env) db calls)).1 = .ok sent →
          MayOpen (execute (Call.step env) db calls) chat user.id) ∧
      ∀ returned events,
        ((markAsRead returned chat.id user).run (execute (Call.step env) db calls)).1 = .ok events →
          MayOpen (execute (Call.step env) db calls) chat user.id := by
  have reached : TaskChatsClosed (execute (Call.step env) db calls) :=
    execute_of_preserved (taskChatsClosed_step env) closed calls
  refine ⟨?_, ?_, ?_⟩
  · intro orders limit beforeId sort answer answered
    exact reached.passes stored type (getMessages_answers_iff.mp answered).1
  · intro dto now sent answered
    by_contra shut
    exact answers_of_refused (fun passes => shut (reached.passes stored type passes)) answered
  · intro returned events answered
    by_contra shut
    exact answers_of_refused (fun passes => shut (reached.passes stored type passes)) answered

def chattingBoard : Db := execute (Call.step exampleServer) (exampleBoard .local) [takingCall]

theorem taskChat_confined_taken :
    ∃ chat ∈ chattingBoard.chats.rows, MayOpen chattingBoard chat firstVolunteer.id := by
  have closed : TaskChatsClosed (exampleBoard .local) := by
    constructor
    · intro task stored chatId linked
      obtain rfl : task = RequestsService.autoTask 0 author 0 := List.mem_singleton.mp stored
      cases linked
    · intro chat stored
      cases stored
  let chat := newChat (RequestsService.autoTask 0 author 0) (exampleRequest .local)
    firstVolunteer [] 0
  have stored : chat ∈ chattingBoard.chats.rows := by decide +kernel
  have marked : ((markAsRead OrderBy.asStored chat.id firstVolunteer).run chattingBoard).1 =
      .ok [sendMessagesRead chat.id firstVolunteer.id [none, none]] := by rfl
  exact ⟨chat, stored, (taskChat_confined exampleServer (exampleBoard .local) closed [takingCall]
    chat firstVolunteer stored rfl).2.2 _ _ marked⟩

end VolunteerApi
