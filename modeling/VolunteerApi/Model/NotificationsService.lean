import VolunteerApi.Markup.Reading
import VolunteerApi.Model.Entities
import VolunteerApi.Model.Text
import VolunteerApi.Programs.Prog

/-!
# Notifications

The texts that `NotificationsService` sends through the Telegram bot, and to whom.  Texts that
users have typed are escaped before they are put between the tags.  How Telegram reads a text
sent with `parse_mode: 'HTML'` is outside of the repository: `TelegramHtml` is what its
documentation promises of the tags and the names used here.

No caller waits for a notification, and a failure to send it is only logged.  A bot token is
configured; without one `sendTelegramMessage` logs the text and sends nothing.
-/

set_option autoImplicit false

namespace VolunteerApi

open Relational Programs Markup

/-- The elements that the messages use. -/
inductive HtmlElement where
  | bold
  | code
  deriving DecidableEq, Repr

/-- A reader of Telegram's HTML, as far as it is documented. -/
structure TelegramHtml (g : Grammar Char HtmlElement) : Prop where
  lt : g.lt = '<'
  gt : g.gt = '>'
  amp : g.amp = '&'
  semi : g.semi = ';'
  openBold : g.tag ['b'] = some (.opening .bold)
  closeBold : g.tag ['/', 'b'] = some (.closing .bold)
  openCode : g.tag ['c', 'o', 'd', 'e'] = some (.opening .code)
  closeCode : g.tag ['/', 'c', 'o', 'd', 'e'] = some (.closing .code)
  ampersand : g.character ['a', 'm', 'p'] = some '&'
  less : g.character ['l', 't'] = some '<'
  greater : g.character ['g', 't'] = some '>'

/-- A message on its way to a Telegram chat. -/
structure Telegram where
  chatId : String
  text : String
  deriving DecidableEq, Repr

namespace NotificationsService

/-! ## Texts -/

/-- The three calls of `replace`, in their order. -/
def escapes : List (Char × List Char) :=
  [('&', ['&', 'a', 'm', 'p', ';']), ('<', ['&', 'l', 't', ';']), ('>', ['&', 'g', 't', ';'])]

def escapeHtml (text : String) : String := String.ofList (replacePasses escapes text.toList)

def bold (html : String) : String := "<b>" ++ html ++ "</b>"

def code (html : String) : String := "<code>" ++ html ++ "</code>"

def newCriticalRequestMessage (requestTitle requestId urgency : String) : String :=
  (if urgency = "critical" then "🚨" else "⚠️") ++ " " ++
    bold ("Нова " ++ (if urgency = "critical" then "КРИТИЧНА" else "термінова") ++ " заявка") ++
    "\n\n" ++
    "📋 " ++ bold (escapeHtml requestTitle) ++ "\n\n" ++
    "Для перегляду деталей відкрийте систему та знайдіть заявку.\n" ++
    "ID: " ++ code requestId

def requesterTeamFoundMessage (taskTitle volunteerName : String) : String :=
  "✅ " ++ bold "Волонтер знайдено!" ++ "\n\n" ++
    "До задачі \"" ++ bold (escapeHtml taskTitle) ++ "\" приєднався волонтер " ++
    bold (escapeHtml volunteerName) ++ ".\n\n" ++
    "Ви отримаєте деталі у чаті системи."

def volunteerAssignedMessage (taskTitle requestTitle : String) : String :=
  "📌 " ++ bold "Нове призначення" ++ "\n\n" ++
    "Ви додані до задачі: \"" ++ bold (escapeHtml taskTitle) ++ "\"\n" ++
    "Заявка: " ++ bold (escapeHtml requestTitle) ++ "\n\n" ++
    "Відкрийте систему для отримання деталей та доступу до чату."

def delegationMessage (taskTitle fromOrgName : String) : String :=
  "🔄 " ++ bold "Нова делегована задача" ++ "\n\n" ++
    "Організація " ++ bold (escapeHtml fromOrgName) ++ " передала вашій організації задачу:\n" ++
    "\"" ++ bold (escapeHtml taskTitle) ++ "\"\n\n" ++
    "Перейдіть до системи для підтвердження."

/-! ## Addressees

`telegramChatId` is the column of that name, which `User` leaves out. -/

section Addressees

variable (telegramChatId : UserId → Option String)

def broadcastToRole (role : SystemRole) (message : String) (db : Db) : List Telegram :=
  (db.users.find fun user => user.systemRole = role ∧ user.isBlocked = false).filterMap fun user =>
    (truthy (telegramChatId user.id)).map fun chatId => ⟨chatId, message⟩

/-- The block is not looked at. -/
def broadcastToOrgCoordinators (orgId : OrgId) (message : String) (db : Db) : List Telegram :=
  (db.users.find fun user => db.members.rows.any fun member =>
      member.organizationId = orgId ∧ member.userId = user.id ∧
        (member.orgRole = .leader ∨ member.orgRole = .coordinator)).filterMap fun user =>
    (telegramChatId user.id).map fun chatId => ⟨chatId, message⟩

def sendToUser (userId : UserId) (message : String) (db : Db) : List Telegram :=
  (db.findUser userId).toList.filterMap fun user =>
    (truthy (telegramChatId user.id)).map fun chatId => ⟨chatId, message⟩

end Addressees

end NotificationsService

/-! ## The four notifications -/

inductive Notification where
  /-- No caller. -/
  | newCriticalRequest (requestTitle : String) (requestId : RequestId) (urgency : String)
  | requesterTeamFound (requesterId : UserId) (taskTitle volunteerName : String)
  | volunteerAssigned (volunteerId : UserId) (taskTitle requestTitle : String)
  | delegation (orgId : OrgId) (taskTitle fromOrgName : String)
  deriving DecidableEq, Repr

namespace Notification

open NotificationsService

def message : Notification → String
  | .newCriticalRequest requestTitle requestId urgency =>
      newCriticalRequestMessage requestTitle (toString requestId) urgency
  | .requesterTeamFound _ taskTitle volunteerName =>
      requesterTeamFoundMessage taskTitle volunteerName
  | .volunteerAssigned _ taskTitle requestTitle => volunteerAssignedMessage taskTitle requestTitle
  | .delegation _ taskTitle fromOrgName => delegationMessage taskTitle fromOrgName

/-- What `notifyNewCriticalRequest`, `notifyRequesterTeamFound`, `notifyVolunteerAssigned` and
`notifyDelegation` send. -/
def sent (telegramChatId : UserId → Option String) (db : Db) (n : Notification) : List Telegram :=
  match n with
  | .newCriticalRequest _ _ urgency =>
      if urgency = "critical" ∨ urgency = "high" then
        broadcastToRole telegramChatId .coordinator n.message db ++
          broadcastToRole telegramChatId .admin n.message db
      else []
  | .requesterTeamFound requesterId _ _ => sendToUser telegramChatId requesterId n.message db
  | .volunteerAssigned volunteerId _ _ => sendToUser telegramChatId volunteerId n.message db
  | .delegation orgId _ _ => broadcastToOrgCoordinators telegramChatId orgId n.message db

end Notification

end VolunteerApi
