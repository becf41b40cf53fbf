import VolunteerApi.Effects.ChatOutcomes
import VolunteerApi.Model.ChatGateway
import VolunteerApi.Model.AuthLibraries
import VolunteerApi.Programs.Runs

/-!
# What reaches the room of a chat

The endpoint checks the access, stores the message and relays it.  The socket relays whatever a
client sends to whatever room he names, and trusts that the endpoint was called before.
-/

set_option autoImplicit false

namespace VolunteerApi

open Relational Programs ChatService

/-- The user on whose account the event happens. -/
def GatewayState.actor (s : GatewayState) : GatewayOp → Option UserId
  | .sendMessage client _ _ => (s.sockets client).userId
  | .postMessage _ user _ _ => some user.id
  | _ => none

/-- The user has a message with this content in the chat. -/
def HasSent (db : Db) (chatId : ChatId) (userId : UserId) (content : Option String) : Prop :=
  ∃ message ∈ db.messages.rows, message.chatId = chatId ∧ message.senderId = some userId ∧
    content = some message.content

/-- What is delivered to the room of a chat was stored in it, for a sender with access. -/
def RelaysStored (env : GatewayEnv) (s : GatewayState) (op : GatewayOp) : Prop :=
  ∀ room event, .newMessage room event ∈ (s.run env op).1 →
    (∃ chat ∈ s.db.chats.rows, chat.id = room) →
      ∃ userId, s.actor op = some userId ∧
        HasSent (s.step env op).db room userId event.content ∧ Passes s.db room userId

/-- A `send_message` to a chat comes from an authenticated socket, and repeats what its user, who
still has access, has sent there already. -/
def EchoesSent (s : GatewayState) : GatewayOp → Prop
  | .sendMessage client (some data) _ =>
      (s.sockets client).connected = true → (∃ chat ∈ s.db.chats.rows, chat.id = data.chatId) →
        ∃ userId, (s.sockets client).userId = some userId ∧
          HasSent s.db data.chatId userId data.content ∧ Passes s.db data.chatId userId
  | _ => True

section Relay

variable {env : GatewayEnv} {s : GatewayState}

theorem relays_of_silent {op : GatewayOp} (silent : ∀ room event,
    .newMessage room event ∉ (s.run env op).1) : RelaysStored env s op := by
  intro room event emitted
  exact absurd emitted (silent room event)

theorem postMessage_relays (chatId : ChatId) (user : User) (dto : CreateMessageDto)
    (now : Time) : RelaysStored env s (.postMessage chatId user dto now) := by
  rcases sendMessage_ran chatId user dto now s.db with
    ⟨⟨error, refused⟩, _⟩ | ⟨passes, _, finished⟩
  · apply relays_of_silent
    intro room event
    simp [GatewayState.run, GatewayState.postMessage, refused]
  · intro room event emitted _
    have ran : s.run env (.postMessage chatId user dto now) =
        ([GatewayState.relayed chatId user (newMessage chatId user.id dto now s.db.messages.next)],
          { s with db := withMessage s.db chatId user.id dto now }) := by
      simp only [GatewayState.run, GatewayState.postMessage, finished]
      rfl
    rw [ran, List.mem_singleton, GatewayState.relayed] at emitted
    cases emitted
    refine ⟨user.id, rfl, ?_, passes⟩
    rw [GatewayState.step, ran]
    exact ⟨_, mem_withMessage.mpr (Or.inr rfl), rfl, rfl, rfl⟩

theorem sendMessage_relays_iff (client : SocketId) (data : MessageBody) (now : Time) :
    RelaysStored env s (.sendMessage client (some data) now) ↔
      EchoesSent s (.sendMessage client (some data) now) := by
  simp only [RelaysStored, EchoesSent, GatewayState.step, GatewayState.run, GatewayState.actor]
  cases (s.sockets client).connected with
  | false => simp
  | true =>
      simp only [if_true, GatewayState.handleMessage, List.mem_singleton, Emission.newMessage.injEq,
        true_implies]
      constructor
      · intro relays present
        exact relays _ _ ⟨rfl, rfl⟩ present
      · rintro echoes _ _ ⟨rfl, rfl⟩ present
        exact echoes present

theorem relaysStored_iff_echoes (op : GatewayOp) :
    RelaysStored env s op ↔ EchoesSent s op := by
  cases op with
  | connect client handshake now =>
      exact iff_of_true (relays_of_silent fun _ _ => List.not_mem_nil) trivial
  | disconnect client => exact iff_of_true (relays_of_silent fun _ _ => List.not_mem_nil) trivial
  | sendMessage client data now =>
      cases data with
      | none => exact iff_of_true (relays_of_silent fun _ _ => List.not_mem_nil) trivial
      | some data => exact sendMessage_relays_iff client data now
  | postMessage chatId user dto now =>
      exact iff_of_true (postMessage_relays chatId user dto now) trivial
  | addParticipantToRoom userId chatId chatName =>
      refine iff_of_true (relays_of_silent ?_) trivial
      intro room event
      simp only [GatewayState.run, GatewayState.addParticipantToRoom]
      split
      · split <;> simp
      · simp
  | call op => exact iff_of_true (relays_of_silent fun _ _ => List.not_mem_nil) trivial

end Relay

/-- Everything that reaches the room of a chat was stored in the chat by a user with access,
exactly if the sockets relay only what their users have sent already. -/
theorem relaysStored_iff (env : GatewayEnv) (s : GatewayState) (ops : List GatewayOp) :
    Throughout (GatewayState.step env) (RelaysStored env) s ops ↔
      Throughout (GatewayState.step env) EchoesSent s ops :=
  throughout_congr (fun _ op => relaysStored_iff_echoes op) s ops

/-- A chat between the author and the first volunteer. -/
def directChat (id : ChatId) : Chat where
  id := id
  type := .direct
  relatedRequestId := none
  name := ""
  participants := [0, 1]

def chatBoard : Db := { exampleBoard .local with chats := Table.empty.append directChat }

/-- The second volunteer connects, and writes into the chat of the two others. -/
def intruded : List GatewayOp :=
  [.connect 1
      ⟨some (plainTextEnv.jwt.sign plainTextEnv.jwtSecret
        (AuthService.claimsOf secondVolunteer plainTextEnv.jwtExpiresIn 1767225600000)), none⟩
      1767225600000,
    .sendMessage 1 (some { chatId := 0, content := some "Привіт" }) 1767225601000]

theorem relaysStored_fails :
    ¬ Throughout (GatewayState.step ⟨plainTextEnv, .connected, 3⟩)
      (RelaysStored ⟨plainTextEnv, .connected, 3⟩) (.started chatBoard) intruded := by
  rintro ⟨_, relays, _⟩
  obtain ⟨userId, _, ⟨message, stored, _⟩, _⟩ :=
    relays 0 _ List.mem_cons_self ⟨directChat 0, List.mem_cons_self, rfl⟩
  cases stored

end VolunteerApi
