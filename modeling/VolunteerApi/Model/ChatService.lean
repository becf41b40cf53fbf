import VolunteerApi.Model.AuthTokens
import VolunteerApi.Model.RequestsReading

/-!
# `ChatService`

Who may read a chat, its history and new messages, from `modules/chat/chat.service.ts`.  A
message is answered with what its relations load: the sender and the message it replies to.
-/

set_option autoImplicit false

namespace VolunteerApi

open Relational Programs

/-- A message id as a client sends it: nothing or an empty text, an id of the client's own that
begins with `temp-`, a uuid, or another text. -/
inductive GivenMessageId where
  | missing
  | temporary
  | uuid (id : MessageId)
  | unreadable
  deriving DecidableEq, Repr

structure CreateMessageDto where
  content : String
  attachmentUrl : Option String := none
  replyToId : GivenMessageId := .missing
  deriving DecidableEq, Repr

/-- A message with its relations, as far as they are loaded. -/
structure LoadedMessage where
  message : Message
  sender : Option User
  replyTo : Option Message
  replyToSender : Option User
  deriving DecidableEq, Repr

inductive SortOrder where
  | asc
  | desc
  deriving DecidableEq, Repr

/-- `ORDER BY sent_at`, in both directions. -/
structure MessageOrders where
  asc : OrderBy fun left right : Message => left.sentAt ≤ right.sentAt
  desc : OrderBy fun left right : Message => right.sentAt ≤ left.sentAt

def MessageOrders.run (orders : MessageOrders) : SortOrder → List Message → List Message
  | .asc => orders.asc.run
  | .desc => orders.desc.run

namespace Db

def findChat (db : Db) (id : ChatId) : Option Chat :=
  db.chats.findOne fun chat => chat.id = id

def findMessage (db : Db) (id : MessageId) : Option Message :=
  db.messages.findOne fun message => message.id = id

theorem findMessage_some {db : Db} {id : MessageId} {message : Message}
    (found : db.findMessage id = some message) :
    message ∈ db.messages.rows ∧ message.id = id := by
  simpa [findMessage] using Table.findOne_mem found

end Db

namespace ChatService

def ensureParticipant (chatId : ChatId) (userId : UserId) : Service Unit := do
  let chat ← Prog.query fun db => db.chats.findOne fun chat =>
    chat.id = chatId ∧ userId ∈ chat.participants
  Prog.onlyIf (chat = none) do
    let user ← Prog.query fun db => db.findUser userId
    let chatWithType ← Prog.query fun db => db.findChat chatId
    -- an admin has access to the chats of tasks and organizations
    Prog.throwIf
      (¬ (user.map User.systemRole = some .admin ∧
        (chatWithType.map Chat.type = some .taskChat ∨
          chatWithType.map Chat.type = some .orgChat)))
      (.forbidden "Немає доступу до цього чату")

/-! ## The history -/

/-- The message that `beforeId` names, wherever it was sent. -/
def findCursor (beforeId : GivenMessageId) : Service (Option Message) :=
  match beforeId with
  | .missing => return none
  | .uuid id => Prog.query fun db => db.findMessage id
  | .temporary => .fail (.queryFailed "invalid input syntax for type uuid")
  | .unreadable => .fail (.queryFailed "invalid input syntax for type uuid")

/-- Which side of the cursor is read. -/
def onSide (sort : SortOrder) (cursor : Option Message) (message : Message) : Bool :=
  cursor.all fun cursor =>
    match sort with
    | .desc => cursor.sentAt < message.sentAt
    | .asc => message.sentAt < cursor.sentAt

def history (orders : MessageOrders) (chatId : ChatId) (cursor : Option Message)
    (sort : SortOrder) (db : Db) : List Message :=
  orders.run sort (db.messages.find fun message =>
    message.chatId = chatId ∧ onSide sort cursor message)

/-- `msg.sender` and `msg.replyTo` -/
def withReply (db : Db) (message : Message) : LoadedMessage where
  message := message
  sender := message.senderId.bind db.findUser
  replyTo := message.replyToId.bind db.findMessage
  replyToSender := none

/-- `limit` is `none` where the number is `NaN`, `sort` where it is neither `ASC` nor `DESC`. -/
def getMessages (orders : MessageOrders) (chatId : ChatId) (user : User) (limit : Option Int)
    (beforeId : GivenMessageId) (sort : Option SortOrder) : Service (List LoadedMessage) := do
  ensureParticipant chatId user.id
  let cursor ← findCursor beforeId
  let sort ← Prog.orThrow sort (.internal "orderBy can only accept \"ASC\" or \"DESC\" values")
  refusable fun db => (typeormPage limit (some 0)).map fun page =>
    (page.of (history orders chatId cursor sort db)).map (withReply db)

/-! ## New messages -/

/-- The column `attachment_url`. -/
def attachmentUrlLength : Nat := 1000

/-- The reference that is stored: a client's own id is dropped. -/
def replyReference : GivenMessageId → Option MessageId
  | .uuid id => some id
  | _ => none

def newMessage (chatId : ChatId) (senderId : UserId) (dto : CreateMessageDto) (now : Time)
    (id : MessageId) : Message where
  id := id
  chatId := chatId
  senderId := some senderId
  content := dto.content
  messageType := if (truthy dto.attachmentUrl).isSome then .attachment else .text
  attachmentUrl := truthy dto.attachmentUrl
  replyToId := replyReference dto.replyToId
  sentAt := now

/-- The columns can hold the message, and the rows it refers to are there. -/
def storable (db : Db) (chatId : ChatId) (senderId : UserId) (dto : CreateMessageDto) : Bool :=
  dto.replyToId ≠ .unreadable ∧
    (truthy dto.attachmentUrl).all (fun url => url.length ≤ attachmentUrlLength) ∧
    (db.findChat chatId).isSome ∧ (db.findUser senderId).isSome ∧
    (replyReference dto.replyToId).all fun id => (db.findMessage id).isSome

def saveMessage (chatId : ChatId) (senderId : UserId) (dto : CreateMessageDto) (now : Time) :
    Service Message :=
  Prog.execOr (.queryFailed "messages") fun db =>
    if storable db chatId senderId dto then
      some ({ db with messages := db.messages.append (newMessage chatId senderId dto now) },
        newMessage chatId senderId dto now db.messages.next)
    else none

/-- `relations: ['sender', 'replyTo', 'replyTo.sender']` -/
def withRelations (db : Db) (message : Message) : LoadedMessage :=
  { withReply db message with
    replyToSender := (message.replyToId.bind db.findMessage).bind fun replyTo =>
      replyTo.senderId.bind db.findUser }

def sendMessage (chatId : ChatId) (user : User) (dto : CreateMessageDto) (now : Time) :
    Service LoadedMessage := do
  ensureParticipant chatId user.id
  let saved ← saveMessage chatId user.id dto now
  let loaded ← Prog.query fun db => (db.findMessage saved.id).map (withRelations db)
  Prog.orThrow loaded .typeError

end ChatService

end VolunteerApi
