import VolunteerApi.Effects.Evolution
import VolunteerApi.Model.DirectChats
import VolunteerApi.Model.TaskReportsService

/-!
# What the calls about chats, reports and saved requests touch

The chat service adds chats and messages and marks messages as read.  Reports and saved
requests have tables of their own.
-/

set_option autoImplicit false

namespace VolunteerApi

open Relational Programs

open Prog Db

/-! ## `ChatService` -/

def messageScope : Scope := .ofTables [.messages]

def conversationScope : Scope := .ofTables [.chats, .messages]

namespace ChatService

theorem ensureParticipant_stays (chatId : ChatId) (userId : UserId) :
    (ensureParticipant chatId userId).Stays (Area messageScope) := by
  refine (stays_query Area.refl _).bind fun _ => stays_onlyIf ?_
  refine (stays_query Area.refl _).bind fun _ => ?_
  exact (stays_query Area.refl _).bind fun _ => stays_throwIf

theorem getOrCreateDirectChat_stays (found : OrderBy fun _ _ : Chat => True) (user : User)
    (targetUserId : UserId) :
    (getOrCreateDirectChat found user targetUserId).Stays (Area conversationScope) := by
  refine (stays_query Area.refl _).bind fun existing => ?_
  cases existing with
  | some chat => exact stays_query Area.refl _
  | none =>
      refine (stays_execOr Area.refl ?_).bind fun _ => stays_query Area.refl _
      intro db result saved
      split at saved
      · cases saved
        exact Area.chats (by decide) ((Table.added_append _ _ _).evolves Chat.Becomes.refl)
      · cases saved

theorem sendMessage_stays (chatId : ChatId) (user : User) (dto : CreateMessageDto) (now : Time) :
    (sendMessage chatId user dto now).Stays (Area messageScope) := by
  refine (ensureParticipant_stays _ _).bind fun _ => ?_
  refine (stays_execOr Area.refl ?_).bind fun _ => ?_
  · intro db result saved
    split at saved
    · cases saved
      exact Area.messages (by decide) ((Table.added_append _ _ _).evolves Message.Becomes.refl)
    · cases saved
  · exact (stays_query Area.refl _).bind fun _ => stays_orThrow

theorem markAsRead_stays (returned : OrderBy fun _ _ : Message => True) (chatId : ChatId)
    (user : User) : (markAsRead returned chatId user).Stays (Area messageScope) := by
  refine (ensureParticipant_stays _ _).bind fun _ => ?_
  refine (stays_execReturning fun db => Area.messages (by decide) ?_).bind fun _ => ?_
  · exact Table.evolves_update Message.Becomes.refl _ _ _ (Message.Becomes.read user.id)
  · split <;> exact stays_ret _

end ChatService

/-! ## `TaskReportsService` -/

def reportScope : Scope := .ofTables [.taskReports]

namespace TaskReportsService

theorem create_stays (taskId : TaskId) (userId : UserId) (comment : BodyValue String)
    (files : List UploadedFile) (now : Time) :
    (create taskId userId comment files now).Stays (Area reportScope) := by
  refine stays_execOr Area.refl ?_
  intro db result inserted
  cases comment with
  | value text =>
      simp only [insertReport] at inserted
      split at inserted
      · cases inserted
        exact Area.taskReports (by decide)
      · cases inserted
  | absent => cases inserted
  | unreadable => cases inserted

theorem findByTask_stays (taskId : TaskId) : (findByTask taskId).Stays (Area reportScope) :=
  stays_query Area.refl _

theorem findById_stays (id : ReportId) : (findById id).Stays (Area reportScope) :=
  (stays_query Area.refl _).bind fun _ => stays_orThrow

theorem saveReport_stays (report : TaskReport) : (saveReport report).Stays (Area reportScope) :=
  stays_exec fun _ => Area.taskReports (by decide)

theorem update_stays (id : ReportId) (comment : BodyValue String) (now : Time) :
    (update id comment now).Stays (Area reportScope) := by
  refine (findById_stays id).bind fun _ => ?_
  refine stays_throwIf.bind fun _ => ?_
  refine stays_orThrow.bind fun _ => ?_
  exact (saveReport_stays _).bind fun _ => stays_ret _

theorem verifyReport_stays (id : ReportId) (userId : UserId) (now : Time) :
    (verifyReport id userId now).Stays (Area reportScope) := by
  refine (findById_stays id).bind fun _ => ?_
  refine (stays_query Area.refl _).bind fun _ => ?_
  refine stays_throwIf.bind fun _ => ?_
  exact (saveReport_stays _).bind fun _ => stays_ret _

theorem delete_stays (id : ReportId) (userId : UserId) (now : Time) :
    (delete id userId now).Stays (Area reportScope) := by
  refine (findById_stays id).bind fun _ => ?_
  iterate 3 refine stays_throwIf.bind fun _ => ?_
  exact stays_exec fun _ => Area.taskReports (by decide)

end TaskReportsService

/-! ## Saved requests -/

def savedScope : Scope := .ofTables [.savedRequests]

namespace RequestsService

theorem saveRequest_stays (requestId : RequestId) (userId : UserId) (now : Time) :
    (saveRequest requestId userId now).Stays (Area savedScope) := by
  refine (stays_query Area.refl _).bind fun _ => stays_onlyIf ?_
  refine stays_execOr Area.refl ?_
  intro db result inserted
  split at inserted
  · obtain ⟨saved, _, rfl⟩ := Option.map_eq_some_iff.mp inserted
    exact Area.savedRequests (by decide)
  · cases inserted

theorem unsaveRequest_stays (requestId : RequestId) (userId : UserId) :
    (unsaveRequest requestId userId).Stays (Area savedScope) :=
  stays_exec fun _ => Area.savedRequests (by decide)

end RequestsService

end VolunteerApi
