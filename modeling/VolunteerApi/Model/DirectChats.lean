import VolunteerApi.Model.ChatService

/-!
# Direct chats

`getOrCreateDirectChat` of `modules/chat/chat.service.ts`.  `chatRepo.create` merges the items of
`participants` that have the same id, so a user who asks for a chat with himself is its only
participant.
-/

set_option autoImplicit false

namespace VolunteerApi

open Relational Programs

namespace ChatService

/-- The chat has no name. -/
def newDirectChat (userId targetUserId : UserId) (id : ChatId) : Chat where
  id := id
  type := .direct
  relatedRequestId := none
  name := ""
  participants := if userId = targetUserId then [userId] else [userId, targetUserId]

theorem newDirectChat_id (userId targetUserId : UserId) (n : Nat) :
    (newDirectChat userId targetUserId n).id = n := rfl

theorem mem_newDirectChat {userId targetUserId id : UserId} {n : Nat} :
    id ∈ (newDirectChat userId targetUserId n).participants ↔ id = userId ∨ id = targetUserId := by
  by_cases himself : userId = targetUserId <;> simp [newDirectChat, himself]

/-- The two joins and the type. -/
def isDirectBetween (userId targetUserId : UserId) (chat : Chat) : Bool :=
  userId ∈ chat.participants ∧ targetUserId ∈ chat.participants ∧ chat.type = .direct

/-- The chat and its participants, in one transaction. -/
def saveDirectChat (userId targetUserId : UserId) : Service Chat :=
  Prog.execOr (.queryFailed "insert into table chat_participants violates a constraint") fun db =>
    if (db.findUser userId).isSome ∧ (db.findUser targetUserId).isSome then
      some ({ db with
          chats := db.chats.append (newDirectChat userId targetUserId)
            (newDirectChat_id userId targetUserId) },
        newDirectChat userId targetUserId db.chats.next)
    else none

/-- `getOne` takes the first chat that the server finds; the query asks for no order. -/
def getOrCreateDirectChat (found : OrderBy fun _ _ : Chat => True) (user : User)
    (targetUserId : UserId) : Service (Option Chat) := do
  let existing ← Prog.query fun db =>
    found.first (db.chats.find (isDirectBetween user.id targetUserId))
  match existing with
  | some chat => Prog.query fun db => db.findChat chat.id
  | none =>
      let savedChat ← saveDirectChat user.id targetUserId
      Prog.query fun db => db.findChat savedChat.id

end ChatService

end VolunteerApi
