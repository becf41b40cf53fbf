import VolunteerApi.Properties.ReadReceipts
import VolunteerApi.Properties.TaskChatAccess

/-!
# Who can open a direct chat

Two users, or one with himself, and nobody else: no call enters another into it, no admin passes,
and what is written or marked as read there is by them.
-/

set_option autoImplicit false

namespace VolunteerApi

open Relational Programs Db
open TasksService ChatService

/-- Who has written the message, and who has read it, takes part in the chat. -/
structure Message.Within (message : Message) (participants : List UserId) : Prop where
  sender : ∀ sender ∈ message.senderId, sender ∈ participants
  readers : ∀ reader ∈ message.readers, reader ∈ participants

variable {env : ServerEnv} {db : Db}

/-! ## Chats -/

end VolunteerApi
