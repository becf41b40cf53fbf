import VolunteerApi.Effects.ChatOutcomes
import VolunteerApi.Programs.Runs

/-!
# Which messages a chat shows

The history and the answer to a new message hold messages of a chat that the user has access
to.  The message they reply to may come from any chat: its number is given by the client, and
looked up among all messages.
-/

set_option autoImplicit false

namespace VolunteerApi

open Relational Programs ChatService

inductive ChatOp where
  | getMessages (chatId : ChatId) (user : User) (limit : Option Int) (beforeId : GivenMessageId)
      (sort : Option SortOrder)
  | sendMessage (chatId : ChatId) (user : User) (dto : CreateMessageDto) (now : Time)
  deriving DecidableEq, Repr

namespace ChatOp

def userId : ChatOp → UserId
  | .getMessages _ user _ _ _ => user.id
  | .sendMessage _ user _ _ => user.id

def run (orders : MessageOrders) (db : Db) :
    ChatOp → Except HttpException (List LoadedMessage) × Db
  | .getMessages chatId user limit beforeId sort =>
      (ChatService.getMessages orders chatId user limit beforeId sort).run db
  | .sendMessage chatId user dto now =>
      let (result, after) := (ChatService.sendMessage chatId user dto now).run db
      (result.map fun loaded => [loaded], after)

def step (orders : MessageOrders) (db : Db) (op : ChatOp) : Db := (op.run orders db).2

end ChatOp

/-- The messages in an answer, with those that they reply to. -/
def LoadedMessage.shown (loaded : LoadedMessage) : List Message :=
  loaded.message :: loaded.replyTo.toList

/-- The same call for another part of the history. -/
def ChatOp.onPage (limit : Option Int) (beforeId : GivenMessageId) (sort : Option SortOrder) :
    ChatOp → ChatOp
  | .getMessages chatId user _ _ _ => .getMessages chatId user limit beforeId sort
  | op => op

/-- Whatever is answered, on whatever page, belongs to chats that the user has access to. -/
def KeepsToChats (orders : MessageOrders) (db : Db) (op : ChatOp) : Prop :=
  ∀ limit beforeId sort answer, ((op.onPage limit beforeId sort).run orders db).1 = .ok answer →
    ∀ loaded ∈ answer, ∀ message ∈ loaded.shown, Passes db message.chatId op.userId

/-- No reply that is about to be stored, or stands in the chat that is read, is to a message of a
chat that the user has no access to. -/
def RepliesInReach (db : Db) : ChatOp → Prop
  | .getMessages chatId user _ _ _ =>
      Passes db chatId user.id → ∀ message ∈ db.messages.rows, message.chatId = chatId →
        ∀ replied, message.replyToId.bind db.findMessage = some replied →
          Passes db replied.chatId user.id
  | .sendMessage chatId user dto _ =>
      Passes db chatId user.id → storable db chatId user.id dto = true →
        ∀ replied, (replyReference dto.replyToId).bind db.findMessage = some replied →
          Passes db replied.chatId user.id

section Answers

variable {orders : MessageOrders} {db : Db}

/-- Every message of the chat is on some page of its history. -/
theorem exists_answeredPage {chatId : ChatId} {message : Message}
    (stored : message ∈ db.messages.rows) (inChat : message.chatId = chatId) :
    ∃ limit rows,
      AnsweredPage orders db chatId limit .missing (some .asc) rows ∧ message ∈ rows := by
  have listed : message ∈ history orders chatId none .asc db := by
    simp [history, MessageOrders.run, onSide, stored, inChat]
  -- a `take` of 0 is none, and takes everything
  exact ⟨some 0, _, ⟨none, .asc, ⟨none, 0⟩, rfl, rfl, rfl, rfl⟩, listed⟩

theorem getMessages_keeps_iff (chatId : ChatId) (user : User) (limit : Option Int)
    (beforeId : GivenMessageId) (sort : Option SortOrder) :
    KeepsToChats orders db (.getMessages chatId user limit beforeId sort) ↔
      RepliesInReach db (.getMessages chatId user limit beforeId sort) := by
  simp only [KeepsToChats, RepliesInReach, ChatOp.onPage, ChatOp.run, ChatOp.userId,
    getMessages_answers_iff]
  constructor
  · intro keeps passes message stored inChat replied found
    obtain ⟨limit, rows, answered, listed⟩ :=
      @exists_answeredPage orders db chatId message stored inChat
    apply keeps limit .missing (some .asc) _ ⟨passes, rows, answered, rfl⟩ _
      (List.mem_map_of_mem listed)
    simp [LoadedMessage.shown, withReply, found]
  · rintro inReach limit beforeId sort _ ⟨passes, rows, answered, rfl⟩ loaded listed message shown
    obtain ⟨row, rowListed, rfl⟩ := List.mem_map.mp listed
    obtain ⟨stored, inChat⟩ := stored_of_answered answered rowListed
    rcases List.mem_cons.mp shown with rfl | nested
    · exact inChat.symm ▸ passes
    · exact inReach passes row stored inChat message (Option.mem_toList.mp nested)

theorem findMessage_withMessage {chatId : ChatId} {senderId : UserId} {dto : CreateMessageDto}
    {now : Time} {id : MessageId} (present : (db.findMessage id).isSome = true) :
    (withMessage db chatId senderId dto now).findMessage id = db.findMessage id := by
  obtain ⟨message, found⟩ := Option.isSome_iff_exists.mp present
  obtain ⟨stored, rfl⟩ := Db.findMessage_some found
  rw [found, findMessage_of_mem (mem_withMessage.mpr (Or.inl stored))]

theorem replied_of_stored {chatId : ChatId} {senderId : UserId} {dto : CreateMessageDto}
    {now : Time} (fits : storable db chatId senderId dto = true) :
    (replyReference dto.replyToId).bind (withMessage db chatId senderId dto now).findMessage =
      (replyReference dto.replyToId).bind db.findMessage := by
  simp only [storable, decide_eq_true_eq] at fits
  obtain ⟨_, _, _, _, present⟩ := fits
  cases reference : replyReference dto.replyToId with
  | none => rfl
  | some id =>
      rw [reference, Option.all_some] at present
      exact findMessage_withMessage present

theorem sendMessage_keeps_iff (chatId : ChatId) (user : User) (dto : CreateMessageDto)
    (now : Time) :
    KeepsToChats orders db (.sendMessage chatId user dto now) ↔
      RepliesInReach db (.sendMessage chatId user dto now) := by
  simp only [KeepsToChats, RepliesInReach, ChatOp.onPage, ChatOp.run, ChatOp.userId]
  rcases sendMessage_ran chatId user dto now db with
    ⟨⟨error, refused⟩, why⟩ | ⟨passes, fits, finished⟩
  · rw [refused]
    refine iff_of_true ?_ fun passes fits => absurd ⟨passes, fits⟩ why
    rintro _ _ _ answer ⟨⟩
  · rw [finished]
    have reply := @replied_of_stored db chatId user.id dto now fits
    constructor
    · intro keeps _ _ replied found
      apply keeps none .missing none _ rfl _ List.mem_cons_self
      rw [← reply] at found
      simp [LoadedMessage.shown, withRelations, withReply, newMessage, found]
    · rintro inReach _ _ _ _ ⟨⟩ loaded listed message shown
      rw [List.mem_singleton.mp listed] at shown
      rcases List.mem_cons.mp shown with rfl | nested
      · exact passes
      · have found := Option.mem_toList.mp nested
        exact inReach passes fits message (reply ▸ found)

end Answers

/-- Users are shown messages of their own chats only, exactly if no reply that is stored for them
or stands in a chat that they read is to a message of another chat. -/
theorem keepsToChats_iff (orders : MessageOrders) (db : Db) (ops : List ChatOp) :
    Throughout (ChatOp.step orders) (KeepsToChats orders) db ops ↔
      Throughout (ChatOp.step orders) RepliesInReach db ops := by
  apply throughout_congr
  intro db op
  cases op with
  | getMessages chatId user limit beforeId sort =>
      exact getMessages_keeps_iff chatId user limit beforeId sort
  | sendMessage chatId user dto now => exact sendMessage_keeps_iff chatId user dto now

/-- A chat of the author with each of two volunteers. -/
def chatWith (volunteer : UserId) (id : ChatId) : Chat where
  id := id
  type := .direct
  relatedRequestId := none
  name := ""
  participants := [0, volunteer]

def twoChats : Db :=
  { exampleBoard .local with
    chats := (Table.empty.append (chatWith 1)).append (chatWith 2) }

/-- The author writes to the first volunteer, and the second one replies in his own chat. -/
def overheard : List ChatOp :=
  [.sendMessage 0 author { content := "Код від складу" } 1767225600000,
    .sendMessage 1 secondVolunteer { content := "?", replyToId := .uuid 0 } 1767225601000]

/-- He is answered with the message of the author. -/
theorem keepsToChats_fails :
    ¬ Throughout (ChatOp.step ⟨.ascending Message.sentAt, .descending Message.sentAt⟩)
      (KeepsToChats ⟨.ascending Message.sentAt, .descending Message.sentAt⟩) twoChats
      overheard := by
  rintro ⟨_, keeps, _⟩
  have passes := keeps none .missing none _ rfl _ List.mem_cons_self
    (newMessage 0 0 { content := "Код від складу" } 1767225600000 0)
    (List.mem_cons_of_mem _ List.mem_cons_self)
  exact absurd (congrArg Prod.fst passes) (by decide +kernel)

end VolunteerApi
