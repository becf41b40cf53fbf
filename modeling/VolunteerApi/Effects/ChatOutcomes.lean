import VolunteerApi.Effects.ReadingOutcomes
import VolunteerApi.Model.ChatService

/-!
# What the chat answers

`ensureParticipant` lets a user pass or refuses him, and changes nothing.  A message that is
sent is stored under the next number and answered with its relations, and a page of the history
is answered as it is stored.
-/

set_option autoImplicit false

namespace VolunteerApi

open Relational Programs ChatService

/-- `ensureParticipant` returns. -/
def Passes (db : Db) (chatId : ChatId) (userId : UserId) : Prop :=
  (ensureParticipant chatId userId).run db = (.ok (), db)

theorem ensureParticipant_ran (chatId : ChatId) (userId : UserId) (db : Db) :
    Passes db chatId userId ∨
      ¬ Passes db chatId userId ∧
        ∃ error, (ensureParticipant chatId userId).run db = (.error error, db) := by
  unfold Passes
  simp only [ensureParticipant, Prog.bind_eq, Prog.run_query_bind, Prog.run_onlyIf,
    Prog.run_throwIf]
  split
  · split
    · exact Or.inr ⟨by simp, _, rfl⟩
    · exact Or.inl rfl
  · exact Or.inl rfl

/-- The participants pass, and an admin passes to the chats of tasks and organizations. -/
theorem passes_iff {db : Db} {chatId : ChatId} {userId : UserId} :
    Passes db chatId userId ↔
      ((db.chats.findOne fun chat => chat.id = chatId ∧ userId ∈ chat.participants) = none →
        (db.findUser userId).map User.systemRole = some .admin ∧
          ((db.findChat chatId).map Chat.type = some .taskChat ∨
            (db.findChat chatId).map Chat.type = some .orgChat)) := by
  unfold Passes
  simp only [ensureParticipant, Prog.bind_eq, Prog.run_query_bind, Prog.run_onlyIf,
    Prog.run_throwIf]
  split
  case isTrue outside =>
    split
    case isTrue refused => exact iff_of_false (by simp) fun admin => refused (admin outside)
    case isFalse admitted => exact iff_of_true rfl fun _ => not_not.mp admitted
  case isFalse inside => exact iff_of_true rfl fun outside => absurd outside inside

theorem run_of_passes {α : Type} {chatId : ChatId} {userId : UserId} {db : Db}
    (passes : Passes db chatId userId) (rest : Unit → Service α) :
    ((ensureParticipant chatId userId).bind rest).run db = (rest ()).run db :=
  Prog.run_bind_of_ok passes

theorem run_of_refused {α : Type} {chatId : ChatId} {userId : UserId} {db : Db}
    (refused : ¬ Passes db chatId userId) (rest : Unit → Service α) :
    ∃ error, ((ensureParticipant chatId userId).bind rest).run db = (.error error, db) := by
  rcases ensureParticipant_ran chatId userId db with passes | ⟨_, error, ended⟩
  · exact absurd passes refused
  · exact ⟨error, by rw [Prog.run_bind, ended]⟩

theorem answers_of_refused {α : Type} {chatId : ChatId} {userId : UserId} {db : Db}
    (refused : ¬ Passes db chatId userId) {rest : Unit → Service α} {result : α} :
    (((ensureParticipant chatId userId).bind rest).run db).1 ≠ .ok result := by
  obtain ⟨error, ended⟩ := run_of_refused refused rest
  rw [ended]
  rintro ⟨⟩

theorem newMessage_id (chatId : ChatId) (senderId : UserId) (dto : CreateMessageDto) (now : Time)
    (n : Nat) : (newMessage chatId senderId dto now n).id = n := rfl

def withMessage (db : Db) (chatId : ChatId) (senderId : UserId) (dto : CreateMessageDto)
    (now : Time) : Db :=
  { db with
    messages := db.messages.append (newMessage chatId senderId dto now)
      (newMessage_id chatId senderId dto now) }

theorem mem_withMessage {db : Db} {chatId : ChatId} {senderId : UserId} {dto : CreateMessageDto}
    {now : Time} {message : Message} :
    message ∈ (withMessage db chatId senderId dto now).messages.rows ↔
      message ∈ db.messages.rows ∨
        message = newMessage chatId senderId dto now db.messages.next :=
  (Table.added_append db.messages (newMessage chatId senderId dto now)
    (newMessage_id chatId senderId dto now)).mem message

theorem findMessage_of_mem {db : Db} {message : Message} (stored : message ∈ db.messages.rows) :
    db.findMessage message.id = some message := Table.findOne_key stored

theorem sendMessage_ran (chatId : ChatId) (user : User) (dto : CreateMessageDto) (now : Time)
    (db : Db) :
    ((∃ error, (sendMessage chatId user dto now).run db = (.error error, db)) ∧
        ¬ (Passes db chatId user.id ∧ storable db chatId user.id dto = true)) ∨
      Passes db chatId user.id ∧ storable db chatId user.id dto = true ∧
        (sendMessage chatId user dto now).run db =
          (.ok (withRelations (withMessage db chatId user.id dto now)
              (newMessage chatId user.id dto now db.messages.next)),
            withMessage db chatId user.id dto now) := by
  by_cases passes : Passes db chatId user.id
  · have ran : (sendMessage chatId user dto now).run db =
        ((saveMessage chatId user.id dto now).bind fun saved =>
          (Prog.query fun db => (db.findMessage saved.id).map (withRelations db)).bind
            fun loaded => Prog.orThrow loaded .typeError).run db := run_of_passes passes _
    by_cases fits : storable db chatId user.id dto = true
    · refine Or.inr ⟨passes, fits, ?_⟩
      have saved : (saveMessage chatId user.id dto now).run db =
          (.ok (newMessage chatId user.id dto now db.messages.next),
            withMessage db chatId user.id dto now) := by
        rw [saveMessage, Prog.run_execOr, if_pos fits]
        rfl
      rw [ran, Prog.run_bind_of_ok saved, Prog.run_query_bind,
        findMessage_of_mem (mem_withMessage.mpr (Or.inr rfl))]
      rfl
    · refine Or.inl ⟨⟨.queryFailed "messages", ?_⟩, fun both => fits both.2⟩
      have refused : (saveMessage chatId user.id dto now).run db =
          (.error (.queryFailed "messages"), db) := by
        rw [saveMessage, Prog.run_execOr, if_neg fits]
      rw [ran, Prog.run_bind, refused]
  · exact Or.inl ⟨run_of_refused passes _, fun both => passes both.1⟩

/-! ## The history -/

/-- The cursor that `beforeId` names, unless the database cannot read it. -/
def cursorOf (db : Db) : GivenMessageId → Option (Option Message)
  | .missing => some none
  | .uuid id => some (db.findMessage id)
  | _ => none

theorem run_findCursor_bind_iff {α : Type} {beforeId : GivenMessageId}
    {next : Option Message → Service α} {db : Db} {result : α} :
    (((findCursor beforeId).bind next).run db).1 = .ok result ↔
      ∃ cursor, cursorOf db beforeId = some cursor ∧ ((next cursor).run db).1 = .ok result := by
  cases beforeId with
  | missing => simp [findCursor, cursorOf]
  | uuid id => simp [findCursor, cursorOf]
  | temporary => simp [findCursor, cursorOf, Prog.run_bind]
  | unreadable => simp [findCursor, cursorOf, Prog.run_bind]

/-- The rows a call of `getMessages` answers with. -/
def AnsweredPage (orders : MessageOrders) (db : Db) (chatId : ChatId) (limit : Option Int)
    (beforeId : GivenMessageId) (sort : Option SortOrder) (rows : List Message) : Prop :=
  ∃ cursor order page, cursorOf db beforeId = some cursor ∧ sort = some order ∧
    typeormPage limit (some 0) = some page ∧
      rows = page.of (history orders chatId cursor order db)

theorem stored_of_answered {orders : MessageOrders} {db : Db} {chatId : ChatId}
    {limit : Option Int} {beforeId : GivenMessageId} {sort : Option SortOrder}
    {rows : List Message} (answered : AnsweredPage orders db chatId limit beforeId sort rows)
    {message : Message} (listed : message ∈ rows) :
    message ∈ db.messages.rows ∧ message.chatId = chatId := by
  obtain ⟨cursor, order, page, _, _, _, rfl⟩ := answered
  have inside := Page.mem_of listed
  cases order <;>
    · simp only [history, MessageOrders.run, OrderBy.mem_run, Table.mem_find,
        decide_eq_true_eq] at inside
      exact ⟨inside.1, inside.2.1⟩

theorem getMessages_answers_iff {orders : MessageOrders} {chatId : ChatId} {user : User}
    {limit : Option Int} {beforeId : GivenMessageId} {sort : Option SortOrder} {db : Db}
    {answer : List LoadedMessage} :
    ((getMessages orders chatId user limit beforeId sort).run db).1 = .ok answer ↔
      Passes db chatId user.id ∧ ∃ rows,
        AnsweredPage orders db chatId limit beforeId sort rows ∧
          answer = rows.map (withReply db) := by
  by_cases passes : Passes db chatId user.id
  · simp only [getMessages, Prog.bind_eq, run_of_passes passes, run_findCursor_bind_iff, passes,
      true_and]
    constructor
    · rintro ⟨cursor, read, answered⟩
      cases sort with
      | none => cases answered
      | some order =>
          simp only [Prog.run_orThrow_bind, run_refusable_iff, Option.map_eq_some_iff] at answered
          obtain ⟨page, paged, rfl⟩ := answered
          exact ⟨_, ⟨cursor, order, page, read, rfl, paged, rfl⟩, rfl⟩
    · rintro ⟨_, ⟨cursor, order, page, read, rfl, paged, rfl⟩, rfl⟩
      refine ⟨cursor, read, ?_⟩
      simp [paged]
  · refine iff_of_false ?_ fun both => passes both.1
    exact answers_of_refused passes

end VolunteerApi
