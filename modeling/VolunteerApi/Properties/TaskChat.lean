import VolunteerApi.Properties.SoftDelete

/-!
# Who takes part in a task's chat

A task's chat is created with its first taker and every later taker is added to
it.  A withdrawal may drop the chat from the task, never a participant from the
chat.  An assignment becomes active only when its volunteer takes the task, so
everybody who is active on a task with a chat takes part in that chat.
-/

set_option autoImplicit false

namespace VolunteerApi

open Relational Programs
open TasksService

/-- The creator of the task's request and everybody active on the task take part. -/
structure HasMembers (db : Db) (task : Task) (chat : Chat) : Prop where
  creator : ∀ request ∈ db.requests.rows, request.id = task.requestId →
    request.creatorId ∈ chat.participants
  active : ∀ assignment ∈ db.assignments.rows, assignment.taskId = task.id →
    assignment.active = true → assignment.userId ∈ chat.participants

def ChatMembers (db : Db) : Prop :=
  ∀ task ∈ db.tasks.rows, ∀ chatId, task.chatId = some chatId →
    ∃ chat ∈ db.chats.rows, chat.id = chatId ∧ HasMembers db task chat

theorem TasksEffect.chat_survives {required : Nat} {db after : Db} {op : TasksOp}
    (effect : TasksEffect required db op after) {chat : Chat} (member : chat ∈ db.chats.rows) :
    ∃ later ∈ after.chats.rows, later.id = chat.id ∧
      ∀ participant ∈ chat.participants, participant ∈ later.participants := by
  cases effect with
  | quiet _ _ same => exact ⟨chat, same.chats ▸ member, rfl, fun _ inside => inside⟩
  | created requestId dto user request present =>
      exact ⟨chat, member, rfl, fun _ inside => inside⟩
  | edited _ task new _ found edit tasks assignments chats requests =>
      exact ⟨chat, chats ▸ member, rfl, fun _ inside => inside⟩
  | assigned taskId dto user now task request _ assigned =>
      obtain ⟨assignments, tasks, chats, _, entered, rfl⟩ := assigned.effect
      cases entered with
      | starts todo =>
          have added := Table.added_append db.chats
            (newChat task request user (db.assignmentsOf task.id)) fun _ => rfl
          exact ⟨chat, (added.mem chat).mpr (Or.inl member), rfl, fun _ inside => inside⟩
      | joins chatId busy hasChat =>
          refine ⟨_, Table.image_mem_update (fun chat => decide (chat.id = chatId))
            (joinedPatch user.id) member, ?_, ?_⟩
          · split <;> rfl
          · split
            · exact fun _ inside => mem_joined.mpr (Or.inl inside)
            · exact fun _ inside => inside
      | unheard busy noChat => exact ⟨chat, member, rfl, fun _ inside => inside⟩
  | withdrawn taskId user assignment found unfinished =>
      refine ⟨chat, ?_, rfl, fun _ inside => inside⟩
      unfold TasksService.withdrawn
      split <;> exact member
  | moved taskId newStatus user assignment status found active allowed =>
      exact ⟨chat, member, rfl, fun _ inside => inside⟩

theorem HasMembers.carry {required : Nat} {db after : Db} {op : TasksOp} {task row : Task}
    {chat later : Chat} (members : HasMembers db task chat)
    (effect : TasksEffect required db op after) (sameId : row.id = task.id)
    (sameRequest : row.requestId = task.requestId)
    (grows : ∀ participant ∈ chat.participants, participant ∈ later.participants)
    (joins : ∀ dto user now, op = .assignVolunteer row.id dto user now →
      after.assignments = db.assignments ∨ user.id ∈ later.participants) :
    HasMembers after row later := by
  constructor
  · intro request member same
    obtain ⟨old, oldMember, oldId, oldCreator, _⟩ := effect.sameRequests.origin member
    rw [← oldCreator]
    exact grows _ (members.creator old oldMember (oldId.trans (same.trans sameRequest)))
  · intro assignment member same active
    rcases (effect.origin member).active active with
      ⟨old, oldMember, oldTask, oldUser, oldActive⟩ | ⟨dto, user, now, rfl, owner, _⟩
    · rw [← oldUser]
      exact grows _ (members.active old oldMember (oldTask.trans (same.trans sameId)) oldActive)
    · rcases joins dto user now (by rw [same]) with unchanged | joined
      · rw [unchanged] at member
        exact grows _ (members.active assignment member (same.trans sameId) active)
      · rw [owner]
        exact joined

theorem newChat_members {required : Nat} {db after : Db} {taskId : TaskId} {dto : AssignTaskDto}
    {user : User} {now : Time} {task : Task} {request : Request}
    (assigned : Assigned required db taskId dto user now task request after) (id : ChatId) :
    HasMembers after (started task db.chats.next)
      (newChat task request user (db.assignmentsOf task.id) id) := by
  have effect : TasksEffect required db (.assignVolunteer taskId dto user now) after :=
    .assigned taskId dto user now task request after assigned
  obtain ⟨requestMember, requestId, _⟩ := Db.findRequest_some assigned.present
  constructor
  · intro other member same
    obtain ⟨old, oldMember, oldId, oldCreator, _⟩ := effect.sameRequests.origin member
    have oldEq : old = request :=
      Table.eq_of_key oldMember requestMember (oldId.trans (same.trans requestId.symm))
    rw [← oldCreator, oldEq]
    simp [newChat, chatParticipants, List.mem_eraseDups]
  · intro assignment member same active
    simp only [newChat, chatParticipants, List.mem_eraseDups, List.mem_append, List.mem_map,
      List.mem_filter, List.mem_singleton]
    rcases (effect.origin member).active active with
      ⟨old, oldMember, oldTask, oldUser, oldActive⟩ | ⟨otherDto, other, otherNow, sameOp, owner, _⟩
    · exact Or.inl (Or.inr ⟨old, ⟨Db.mem_assignmentsOf.mpr ⟨oldMember, oldTask.trans same⟩,
        oldActive⟩, oldUser⟩)
    · cases sameOp
      exact Or.inr owner

theorem chatMembers_assigned {required : Nat} {db after : Db} {taskId : TaskId}
    {dto : AssignTaskDto} {user : User} {now : Time} {task : Task} {request : Request}
    (assigned : Assigned required db taskId dto user now task request after)
    (before : ChatMembers db) : ChatMembers after := by
  have effect : TasksEffect required db (.assignVolunteer taskId dto user now) after :=
    .assigned taskId dto user now task request after assigned
  have members := newChat_members assigned
  obtain ⟨taskMember, taskSame, _⟩ := Db.findTask_some assigned.found
  obtain ⟨assignments, tasks, chats, _, entered, rfl⟩ := assigned.effect
  intro row member chatId hasChat
  cases entered with
  | starts todo =>
      have replaced := Table.replaced_save (started task db.chats.next) taskMember rfl rfl
      have added := Table.added_append db.chats
        (newChat task request user (db.assignmentsOf task.id)) fun _ => rfl
      rcases (replaced.mem row).mp member with rfl | ⟨old, different⟩
      · cases hasChat
        exact ⟨_, (added.mem _).mpr (Or.inr rfl), rfl, members db.chats.next⟩
      · obtain ⟨chat, chatMember, sameChat, oldMembers⟩ := before row old chatId hasChat
        obtain ⟨later, laterMember, sameLater, grows⟩ := effect.chat_survives chatMember
        refine ⟨later, laterMember, sameLater.trans sameChat,
          oldMembers.carry effect rfl rfl grows ?_⟩
        intro otherDto other otherNow sameOp
        cases sameOp
        exact absurd (Table.eq_of_key old taskMember taskSame.symm) different
  | joins joinedId busy taskChat =>
      obtain ⟨chat, chatMember, sameChat, oldMembers⟩ := before row member chatId hasChat
      have image := Table.image_mem_update (fun chat => decide (chat.id = joinedId))
        (joinedPatch user.id) chatMember
      by_cases here : chat.id = joinedId
      · rw [if_pos (decide_eq_true here)] at image
        refine ⟨_, image, sameChat, oldMembers.carry effect rfl rfl
          (fun _ inside => mem_joined.mpr (Or.inl inside)) ?_⟩
        intro otherDto other otherNow sameOp
        cases sameOp
        exact Or.inr (mem_joined.mpr (Or.inr rfl))
      · rw [if_neg (by simpa using here)] at image
        refine ⟨_, image, sameChat, oldMembers.carry effect rfl rfl (fun _ inside => inside) ?_⟩
        intro otherDto other otherNow sameOp
        cases sameOp
        rw [Table.eq_of_key member taskMember taskSame.symm, taskChat] at hasChat
        cases hasChat
        exact absurd sameChat here
  | unheard busy noChat =>
      obtain ⟨chat, chatMember, sameChat, oldMembers⟩ := before row member chatId hasChat
      refine ⟨chat, chatMember, sameChat,
        oldMembers.carry effect rfl rfl (fun _ inside => inside) ?_⟩
      intro otherDto other otherNow sameOp
      cases sameOp
      rw [Table.eq_of_key member taskMember taskSame.symm, noChat] at hasChat
      cases hasChat

theorem chatMembers_step (required : Nat) (db : Db) (op : TasksOp) (before : ChatMembers db) :
    ChatMembers (op.step required db) := by
  have effect := TasksOp.effect required db op
  generalize op.step required db = after at effect
  -- only `assignVolunteer` makes anybody active
  by_cases taking : ∃ taskId dto user now, op = .assignVolunteer taskId dto user now
  · obtain ⟨taskId, dto, user, now, rfl⟩ := taking
    cases effect with
    | quiet _ _ same =>
        have effect : TasksEffect required db (.assignVolunteer taskId dto user now) after :=
          .quiet _ _ same
        intro row member chatId hasChat
        obtain ⟨chat, chatMember, sameChat, members⟩ :=
          before row (same.tasks ▸ member) chatId hasChat
        refine ⟨chat, same.chats ▸ chatMember, sameChat,
          members.carry effect rfl rfl (fun _ inside => inside) ?_⟩
        intro _ _ _ _
        exact Or.inl same.assignments
    | edited _ task new _ found edit tasks assignments chats requests => cases edit
    | assigned _ _ _ _ task request _ assigned => exact chatMembers_assigned assigned before
  · intro row member chatId hasChat
    have source : ∃ old ∈ db.tasks.rows, row.id = old.id ∧ row.requestId = old.requestId ∧
        old.chatId = some chatId := by
      cases effect.taskOrigin member with
      | kept _ _ old => exact ⟨row, old, rfl, rfl, hasChat⟩
      | created requestId dto user request present => cases hasChat
      | edited _ old _ found edit =>
          exact ⟨old, (Db.findTask_some found).1, edit.id_eq, edit.requestId_eq,
            edit.chatId_eq ▸ hasChat⟩
      | started dto user now old found todo => exact absurd ⟨_, _, _, _, rfl⟩ taking
      | reset user assignment old oldMember found unfinished alone => cases hasChat
    obtain ⟨old, oldMember, sameId, sameRequest, oldChat⟩ := source
    obtain ⟨chat, chatMember, sameChat, members⟩ := before old oldMember chatId oldChat
    obtain ⟨later, laterMember, sameLater, grows⟩ := effect.chat_survives chatMember
    refine ⟨later, laterMember, sameLater.trans sameChat,
      members.carry effect sameId sameRequest grows ?_⟩
    intro dto user now same
    exact absurd ⟨row.id, dto, user, now, same⟩ taking

/-- In every state reached from new tasks, the creator of a task's request and
everybody active on the task take part in the task's chat, if it has one. -/
theorem chatMembers_reached (required : Nat) (db : Db) (fresh : FreshBoard db)
    (ops : List TasksOp) : ChatMembers (execute (TasksOp.step required) db ops) := by
  refine execute_of_preserved (chatMembers_step required) ?_ ops
  intro task member chatId hasChat
  rw [(fresh.2 task member).2] at hasChat
  cases hasChat

/-- Two takers, the first of whom leaves and takes the task again. -/
def returningRun : List TasksOp :=
  [.assignVolunteer 0 ⟨none⟩ firstVolunteer 1, .assignVolunteer 0 ⟨none⟩ secondVolunteer 2,
    .withdrawAssignment 0 firstVolunteer, .assignVolunteer 0 ⟨none⟩ firstVolunteer 3]

theorem chatMembers_returning :
    ChatMembers (execute (TasksOp.step 3) (exampleBoard .local) returningRun) :=
  chatMembers_reached 3 (exampleBoard .local) ⟨rfl, by decide⟩ returningRun

end VolunteerApi
