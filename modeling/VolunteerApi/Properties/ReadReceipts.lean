import VolunteerApi.Model.ReadMarks
import VolunteerApi.Properties.MessagePaging

/-!
# Read receipts

Marking a chat as read enters the reader once on every message that he had not read, and changes
nothing else.  What is announced is read off the pair that the driver returns, and not off its
rows: there are two ids, both undefined, however many messages were marked.
-/

set_option autoImplicit false

namespace VolunteerApi

open Relational Programs ChatService

/-! ## What marking is for -/

/-- The reader is on the list once more, and the rest of the message is as it was. -/
structure GainsReader (userId : UserId) (old new : Message) : Prop where
  readers : new.readers.Perm (userId :: old.readers)
  rest : { new with readBy := old.readBy } = old

/-- A message before and after: it gains a reader if he had not read it in this chat. -/
def MarkedFor (chatId : ChatId) (userId : UserId) (old new : Message) : Prop :=
  if isUnread chatId userId old then GainsReader userId old new else new = old

/-- The unread messages of the chat are marked, and nothing else is changed. -/
structure StoresReadMarks (chatId : ChatId) (userId : UserId) (before after : Db) : Prop where
  messages : List.Forall₂ (MarkedFor chatId userId) before.messages.rows after.messages.rows
  rest : { after with messages := before.messages } = before

/-- One event with the ids of what was unread, or none if nothing was. -/
def AnnouncesReadMarks (chatId : ChatId) (userId : UserId) (before : Db)
    (events : List (ChatId × MessagesReadEvent)) : Prop :=
  if unread before chatId userId = [] then events = []
  else ∃ ids : List MessageId, ids.Perm ((unread before chatId userId).map Message.id) ∧
    events = [sendMessagesRead chatId userId (ids.map some)]

/-- A call of `markAsRead`, and another one after it. -/
structure MarksAsRead (returned : OrderBy fun _ _ : Message => True) (chatId : ChatId)
    (user : User) (before after : Db) (events : List (ChatId × MessagesReadEvent)) : Prop where
  ran : (markAsRead returned chatId user).run before = (.ok events, after)
  stored : StoresReadMarks chatId user.id before after
  announced : AnnouncesReadMarks chatId user.id before events
  again : (markAsRead returned chatId user).run after = (.ok [], after)

/-! ## What is stored -/

section Marks

variable {chatId : ChatId} {userId : UserId} {db : Db}

theorem gainsReader_addReader (message : Message) :
    GainsReader userId message ((addReader userId).run message) where
  readers := List.perm_append_singleton userId message.readers
  rest := rfl

theorem storesReadMarks (db : Db) (chatId : ChatId) (userId : UserId) :
    StoresReadMarks chatId userId db (withReadMarks db chatId userId) where
  messages := by
    show List.Forall₂ _ _ (db.messages.rows.map _)
    rw [List.forall₂_map_right_iff, List.forall₂_same]
    intro message _
    unfold MarkedFor
    split
    · exact gainsReader_addReader message
    · rfl
  rest := rfl

theorem not_isUnread_addReader (message : Message) :
    isUnread chatId userId ((addReader userId).run message) = false := by
  simp [isUnread, addReader, Message.readers]

theorem unread_withReadMarks (db : Db) (chatId : ChatId) (userId : UserId) :
    unread (withReadMarks db chatId userId) chatId userId = [] := by
  rw [unread, Table.find, List.filter_eq_nil_iff]
  intro message stored
  obtain ⟨old, _, rfl⟩ := (Table.mem_update _ _ _ _).mp stored
  split
  · simp [not_isUnread_addReader]
  · assumption

theorem withReadMarks_of_read (read : unread db chatId userId = []) :
    withReadMarks db chatId userId = db := by
  have same : db.messages.update (isUnread chatId userId) (addReader userId) = db.messages := by
    apply Table.update_eq_self
    intro message stored hit
    exact absurd hit (List.filter_eq_nil_iff.mp read message stored)
  rw [withReadMarks, same]

end Marks

/-! ## What is announced -/

section Announcements

variable {returned : OrderBy fun _ _ : Message => True} {chatId : ChatId} {user : User} {db : Db}

/-- The pair has two elements, and neither has an id. -/
theorem markAsRead_ran (passes : Passes db chatId user.id) :
    (markAsRead returned chatId user).run db =
      (.ok [sendMessagesRead chatId user.id [none, none]],
        withReadMarks db chatId user.id) := by
  rw [markAsRead, Prog.bind_eq, run_of_passes passes]
  rfl

/-- Undefined ids are not those of any messages. -/
theorem not_announcesReadMarks :
    ¬ AnnouncesReadMarks chatId user.id db [sendMessagesRead chatId user.id [none, none]] := by
  unfold AnnouncesReadMarks
  split
  · exact List.cons_ne_nil _ _
  · rintro ⟨ids, _, same⟩
    have undefined : [none, none] = ids.map some :=
      congrArg (fun event => event.2.messageIds) (List.cons.inj same).1
    have listed : none ∈ ids.map some := undefined ▸ List.mem_cons_self
    simp at listed

theorem not_marksAsRead (passes : Passes db chatId user.id) (after : Db)
    (events : List (ChatId × MessagesReadEvent)) :
    ¬ MarksAsRead returned chatId user db after events := by
  rintro ⟨answered, _, announced, _⟩
  rw [markAsRead_ran passes] at answered
  cases answered
  exact not_announcesReadMarks announced

end Announcements

def afterMarking (returned : OrderBy fun _ _ : Message => True) (chatId : ChatId) (user : User)
    (db : Db) : Db := ((markAsRead returned chatId user).run db).2

/-- Every call marks what is unread and a second one changes nothing more, but no call announces
what it did. -/
theorem marksAsRead_never (returned : OrderBy fun _ _ : Message => True) (db : Db)
    (chatId : ChatId) (user : User) (passes : Passes db chatId user.id) :
    StoresReadMarks chatId user.id db (afterMarking returned chatId user db) ∧
      afterMarking returned chatId user (afterMarking returned chatId user db) =
        afterMarking returned chatId user db ∧
      ∀ after events, ¬ MarksAsRead returned chatId user db after events := by
  have admitted := passes_iff.mp passes
  -- who takes part in the chat is as before
  have passesAgain : Passes (withReadMarks db chatId user.id) chatId user.id :=
    passes_iff.mpr admitted
  have first : afterMarking returned chatId user db = withReadMarks db chatId user.id := by
    rw [afterMarking, markAsRead_ran passes]
  have second : afterMarking returned chatId user (withReadMarks db chatId user.id) =
      withReadMarks db chatId user.id := by
    rw [afterMarking, markAsRead_ran passesAgain,
      withReadMarks_of_read (unread_withReadMarks db chatId user.id)]
  rw [first]
  exact ⟨storesReadMarks db chatId user.id, second, not_marksAsRead passes⟩

theorem firstVolunteer_passes : Passes talkingBoard 0 firstVolunteer.id :=
  passes_of_participant talkingBoard List.mem_cons_self List.mem_cons_self

theorem marksAsRead_never_witness :
    StoresReadMarks 0 firstVolunteer.id talkingBoard
        (afterMarking OrderBy.asStored 0 firstVolunteer talkingBoard) ∧
      afterMarking OrderBy.asStored 0 firstVolunteer
          (afterMarking OrderBy.asStored 0 firstVolunteer talkingBoard) =
        afterMarking OrderBy.asStored 0 firstVolunteer talkingBoard ∧
      ∀ after events,
        ¬ MarksAsRead OrderBy.asStored 0 firstVolunteer talkingBoard after events :=
  marksAsRead_never OrderBy.asStored talkingBoard 0 firstVolunteer firstVolunteer_passes

/-- Two messages are unread, and two undefined ids are announced. -/
theorem marksAsRead_fails :
    (unread talkingBoard 0 firstVolunteer.id).map Message.id = [0, 1] ∧
      ((markAsRead OrderBy.asStored 0 firstVolunteer).run talkingBoard).1 =
        .ok [(0, ⟨0, firstVolunteer.id, [none, none]⟩)] ∧
      ∀ after events,
        ¬ MarksAsRead OrderBy.asStored 0 firstVolunteer talkingBoard after events :=
  ⟨by decide +kernel, congrArg Prod.fst (markAsRead_ran firstVolunteer_passes),
    not_marksAsRead firstVolunteer_passes⟩

end VolunteerApi
