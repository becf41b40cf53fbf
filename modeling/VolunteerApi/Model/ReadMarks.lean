import VolunteerApi.Model.ChatService

/-!
# Read marks

`markAsRead` of `modules/chat/chat.service.ts` and `sendMessagesRead` of
`modules/chat/chat.gateway.ts`.  Of an `UPDATE … RETURNING` the driver does not hand out the
rows but a pair of the rows and their number.
-/

set_option autoImplicit false

namespace VolunteerApi

open Relational Programs

/-- `COALESCE(read_by, '{}')` -/
def Message.readers (message : Message) : List UserId := message.readBy.getD []

/-- An element of what `query()` returns. -/
inductive DriverValue where
  | row (id : MessageId)
  | rows (ids : List MessageId)
  | number (n : Nat)
  deriving DecidableEq, Repr

/-- `value.id`; an array and a number have none. -/
def DriverValue.id : DriverValue → Option MessageId
  | .row id => some id
  | .rows _ => none
  | .number _ => none

/-- `query()` of an `UPDATE … RETURNING "id"` that changed these rows. -/
def updateResult (ids : List MessageId) : List DriverValue := [.rows ids, .number ids.length]

/-- `messages_read`; an id may be `undefined`. -/
structure MessagesReadEvent where
  chatId : ChatId
  readerId : UserId
  messageIds : List (Option MessageId)
  deriving DecidableEq, Repr

/-- The room and what it is sent. -/
def sendMessagesRead (chatId : ChatId) (readerId : UserId) (messageIds : List (Option MessageId)) :
    ChatId × MessagesReadEvent :=
  (chatId, { chatId := chatId, readerId := readerId, messageIds := messageIds })

namespace ChatService

/-- The condition of the statement. -/
def isUnread (chatId : ChatId) (userId : UserId) (message : Message) : Bool :=
  message.chatId = chatId ∧ userId ∉ message.readers

/-- `array_append(COALESCE(read_by, '{}'), userId)` -/
def addReader (userId : UserId) : Patch Message.id Message.id where
  run message := { message with readBy := some (message.readers ++ [userId]) }

def unread (db : Db) (chatId : ChatId) (userId : UserId) : List Message :=
  db.messages.find (isUnread chatId userId)

def withReadMarks (db : Db) (chatId : ChatId) (userId : UserId) : Db :=
  { db with messages := db.messages.update (isUnread chatId userId) (addReader userId) }

/-- The statement returns the rows in an order of the server's own. -/
def updateUnread (returned : OrderBy fun _ _ : Message => True) (chatId : ChatId)
    (userId : UserId) : Service (List DriverValue) :=
  Prog.execReturning (fun db => withReadMarks db chatId userId) fun db =>
    updateResult ((returned.run (unread db chatId userId)).map Message.id)

/-- `POST /chats/:chatId/read`, with the events that it sends. -/
def markAsRead (returned : OrderBy fun _ _ : Message => True) (chatId : ChatId) (user : User) :
    Service (List (ChatId × MessagesReadEvent)) := do
  ensureParticipant chatId user.id
  let result ← updateUnread returned chatId user.id
  if 0 < result.length then
    let updatedIds := result.map DriverValue.id
    return [sendMessagesRead chatId user.id updatedIds]
  else return []

end ChatService

end VolunteerApi
