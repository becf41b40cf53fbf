import VolunteerApi.Model.ChatService
import Mathlib.Logic.Function.Basic

/-!
# `ChatGateway`

The sockets of `modules/chat/chat.gateway.ts` and the endpoint of `ChatController` that relays
to them.  A socket that nobody has opened yet is one whose `handleConnection` has not completed.
Typing and read marks are left out.
-/

set_option autoImplicit false

namespace VolunteerApi

open Relational Programs

abbrev SocketId := Nat

/-- A client of the namespace: `client.data`, its rooms, whether `handleConnection` has
completed for it, and whether it is still connected. -/
structure Socket where
  userId : Option UserId := none
  fullName : Option String := none
  rooms : List ChatId := []
  handled : Bool := false
  connected : Bool := true
  deriving DecidableEq, Repr

structure Handshake where
  /-- `auth.token` -/
  token : Option String
  /-- `headers.authorization` -/
  authorization : Option String
  deriving DecidableEq, Repr

/-- What `server.sockets.sockets` is: nothing, as for the server of a namespace, or the sockets
that are connected. -/
inductive SocketRegistry where
  | undefined
  | connected
  deriving DecidableEq, Repr

/-- The body of `send_message`; a content that is no text is `none`. -/
structure MessageBody where
  chatId : ChatId
  content : Option String
  attachmentUrl : Option String := none
  replyToId : GivenMessageId := .missing
  deriving DecidableEq, Repr

structure NewMessageEvent where
  /-- Only the endpoint sends it. -/
  id : Option MessageId
  chatId : ChatId
  senderId : Option UserId
  senderName : Option String
  content : Option String
  attachmentUrl : Option String
  messageType : MessageType
  sentAt : Time
  replyToId : GivenMessageId
  deriving DecidableEq, Repr

inductive Emission where
  | newMessage (room : ChatId) (event : NewMessageEvent)
  | newChatJoined (client : SocketId) (chatId : ChatId) (chatName : String)
  deriving DecidableEq, Repr

structure GatewayState where
  db : Db
  sockets : SocketId → Socket
  connectedUsers : UserId → Option SocketId

/-- `text.replace('Bearer ', '')`, on the characters of both. -/
def removeFirst (part : List Char) : List Char → List Char
  | [] => []
  | c :: rest =>
      if part.isPrefixOf (c :: rest) then (c :: rest).drop part.length
      else c :: removeFirst part rest

/-- The token of the body, or else the one of the header. -/
def Handshake.given (handshake : Handshake) : Option String :=
  (truthy handshake.token).or
    (truthy (handshake.authorization.map fun text =>
      String.ofList (removeFirst "Bearer ".toList text.toList)))

/-- `jwtService.verify(token, { secret: process.env.JWT_SECRET })` -/
def AuthEnv.verifyAccess (env : AuthEnv) (token : String) (now : Time) : Option JwtClaims :=
  (env.jwt.claims token).filter fun claims =>
    env.jwt.sign env.jwtSecret claims = token ∧ now / 1000 < claims.exp

namespace GatewayState

def withSocket (s : GatewayState) (client : SocketId) (socket : Socket) : GatewayState :=
  { s with sockets := Function.update s.sockets client socket }

/-! ## Connecting and disconnecting -/

def handleDisconnect (s : GatewayState) (client : SocketId) : GatewayState :=
  match (s.sockets client).userId with
  | some userId => { s with connectedUsers := Function.update s.connectedUsers userId none }
  | none => s

/-- The connection is closed, by either side: the socket leaves its rooms, and the gateway is
told.  A closed connection is not closed again. -/
def disconnect (s : GatewayState) (client : SocketId) : GatewayState :=
  if (s.sockets client).connected then
    (s.withSocket client { s.sockets client with connected := false, rooms := [] }).handleDisconnect
      client
  else s

/-- The chats that the user takes part in. -/
def userChats (db : Db) (userId : UserId) : List ChatId :=
  (db.chats.find fun chat => userId ∈ chat.participants).map Chat.id

/-- A closed socket joins no room. -/
def joined (socket : Socket) (chatIds : List ChatId) : Socket :=
  if socket.connected then { socket with rooms := socket.rooms ++ chatIds } else socket

/-- The user whom the handshake authenticates, unless he is blocked. -/
def admitted (env : AuthEnv) (db : Db) (handshake : Handshake) (now : Time) : Option User := do
  let token ← handshake.given
  let payload ← env.verifyAccess token now
  let user ← db.findUser payload.sub
  if user.isBlocked then none else some user

def handleConnection (env : AuthEnv) (s : GatewayState) (client : SocketId)
    (handshake : Handshake) (now : Time) : GatewayState :=
  match admitted env s.db handshake now with
  | none => s.disconnect client
  | some user =>
      { s.withSocket client
          (joined
            { s.sockets client with userId := some user.id, fullName := some user.fullName }
            (userChats s.db user.id)) with
        connectedUsers := Function.update s.connectedUsers user.id (some client) }

/-- `handleConnection` is called once for each socket. -/
def connect (env : AuthEnv) (s : GatewayState) (client : SocketId) (handshake : Handshake)
    (now : Time) : GatewayState :=
  if (s.sockets client).handled then s
  else
    (s.withSocket client { s.sockets client with handled := true }).handleConnection env client
      handshake now

/-! ## Messages -/

/-- The message is relayed as it comes; it is not stored. -/
def handleMessage (s : GatewayState) (client : SocketId) (data : MessageBody) (now : Time) :
    List Emission :=
  [.newMessage data.chatId
    { id := none
      chatId := data.chatId
      senderId := (s.sockets client).userId
      senderName := (s.sockets client).fullName
      content := data.content
      attachmentUrl := truthy data.attachmentUrl
      messageType := if (truthy data.attachmentUrl).isSome then .attachment else .text
      sentAt := now
      replyToId := data.replyToId }]

/-- What `ChatController.sendMessage` relays of the message it was answered. -/
def relayed (chatId : ChatId) (user : User) (message : Message) : Emission :=
  .newMessage chatId
    { id := some message.id
      chatId := message.chatId
      senderId := message.senderId
      senderName := some user.fullName
      content := some message.content
      attachmentUrl := message.attachmentUrl
      messageType := message.messageType
      sentAt := message.sentAt
      replyToId := (message.replyToId.map .uuid).getD .missing }

/-- `POST /chats/:chatId/messages` -/
def postMessage (s : GatewayState) (chatId : ChatId) (user : User) (dto : CreateMessageDto)
    (now : Time) : List Emission × GatewayState :=
  match (ChatService.sendMessage chatId user dto now).run s.db with
  | (.ok loaded, after) => ([relayed chatId user loaded.message], { s with db := after })
  | (.error _, after) => ([], { s with db := after })

/-! ## New chats -/

def addParticipantToRoom (registry : SocketRegistry) (s : GatewayState) (userId : UserId)
    (chatId : ChatId) (chatName : Option String) : List Emission × GatewayState :=
  match s.connectedUsers userId, registry with
  | some client, .connected =>
      if (s.sockets client).connected then
        ([.newChatJoined client chatId
            (chatName.getD ("Чат " ++ String.ofList ((toString chatId).toList.take 8)))],
          s.withSocket client (joined (s.sockets client) [chatId]))
      else ([], s)
  | _, _ => ([], s)

end GatewayState

/-! ## Events -/

/-- What the clients and the other services do to the gateway; the endpoints are called by
authenticated users.  A `send_message` without a body throws. -/
inductive GatewayOp where
  | connect (client : SocketId) (handshake : Handshake) (now : Time)
  | disconnect (client : SocketId)
  | sendMessage (client : SocketId) (data : Option MessageBody) (now : Time)
  | postMessage (chatId : ChatId) (user : User) (dto : CreateMessageDto) (now : Time)
  | addParticipantToRoom (userId : UserId) (chatId : ChatId) (chatName : Option String)
  | call (op : ApiOp)

/-- The surroundings of the gateway. -/
structure GatewayEnv where
  auth : AuthEnv
  registry : SocketRegistry
  frontlineVouchesRequired : Nat

namespace GatewayState

def run (env : GatewayEnv) (s : GatewayState) : GatewayOp → List Emission × GatewayState
  | .connect client handshake now => ([], s.connect env.auth client handshake now)
  | .disconnect client => ([], s.disconnect client)
  | .sendMessage client (some data) now =>
      if (s.sockets client).connected then (s.handleMessage client data now, s) else ([], s)
  | .sendMessage _ none _ => ([], s)
  | .postMessage chatId user dto now => s.postMessage chatId user dto now
  | .addParticipantToRoom userId chatId chatName =>
      addParticipantToRoom env.registry s userId chatId chatName
  | .call op => ([], { s with db := op.step env.frontlineVouchesRequired s.db })

def step (env : GatewayEnv) (s : GatewayState) (op : GatewayOp) : GatewayState := (s.run env op).2

/-- The gateway after its start. -/
def started (db : Db) : GatewayState where
  db := db
  sockets _ := {}
  connectedUsers _ := none

end GatewayState

end VolunteerApi
