import VolunteerApi.Model.NotificationsService
import VolunteerApi.Model.System

/-!
# Notifications are read as they are meant

Whatever users have typed into titles and names, Telegram's reader accepts the text of every
notification, shows what they have typed as they have typed it, and marks up what the service
marks up and nothing else.
-/

set_option autoImplicit false

namespace VolunteerApi

open Relational Programs Markup NotificationsService

/-- A piece of what a notification shows. -/
inductive Span where
  | plain (text : String)
  | bold (text : String)
  | code (text : String)
  deriving DecidableEq, Repr

def Span.elements : Span → List HtmlElement
  | .plain _ => []
  | .bold _ => [.bold]
  | .code _ => [.code]

def Span.text : Span → String
  | .plain text | .bold text | .code text => text

def Span.shown (span : Span) : Shown Char HtmlElement := shownIn span.elements span.text.toList

def shownOf (spans : List Span) : Shown Char HtmlElement := spans.flatMap Span.shown

/-- What the notification says, with the texts as the users have typed them. -/
def Notification.document : Notification → List Span
  | .newCriticalRequest requestTitle requestId urgency =>
      [.plain (if urgency = "critical" then "🚨" else "⚠️"), .plain " ",
        .bold ("Нова " ++ (if urgency = "critical" then "КРИТИЧНА" else "термінова") ++ " заявка"),
        .plain "\n\n", .plain "📋 ", .bold requestTitle, .plain "\n\n",
        .plain "Для перегляду деталей відкрийте систему та знайдіть заявку.\n",
        .plain "ID: ", .code (toString requestId)]
  | .requesterTeamFound _ taskTitle volunteerName =>
      [.plain "✅ ", .bold "Волонтер знайдено!", .plain "\n\n", .plain "До задачі \"",
        .bold taskTitle, .plain "\" приєднався волонтер ", .bold volunteerName, .plain ".\n\n",
        .plain "Ви отримаєте деталі у чаті системи."]
  | .volunteerAssigned _ taskTitle requestTitle =>
      [.plain "📌 ", .bold "Нове призначення", .plain "\n\n", .plain "Ви додані до задачі: \"",
        .bold taskTitle, .plain "\"\n", .plain "Заявка: ", .bold requestTitle, .plain "\n\n",
        .plain "Відкрийте систему для отримання деталей та доступу до чату."]
  | .delegation _ taskTitle fromOrgName =>
      [.plain "🔄 ", .bold "Нова делегована задача", .plain "\n\n", .plain "Організація ",
        .bold fromOrgName, .plain " передала вашій організації задачу:\n", .plain "\"",
        .bold taskTitle, .plain "\"\n\n", .plain "Перейдіть до системи для підтвердження."]

/-! ## Pieces of a text -/

/-- Wherever the text stands between elements, it shows the spans. -/
def Shows (g : Grammar Char HtmlElement) (html : String) (spans : List Span) : Prop :=
  g.Reads [] html.toList (shownOf spans) []

/-- None of the signs that stand for something else. -/
abbrev Unmarked (text : String) : Prop := ∀ c ∈ text.toList, c ≠ '<' ∧ c ≠ '&' ∧ c ≠ '>'

section Pieces

variable {g : Grammar Char HtmlElement}

theorem Shows.append {first second : String} {left right : List Span} (shows : Shows g first left)
    (later : Shows g second right) : Shows g (first ++ second) (left ++ right) := by
  have both := Grammar.Reads.append shows later
  simpa only [Shows, shownOf, String.toList_append, List.flatMap_append] using both

/-- The same, looked at character by character. -/
def looksUnmarked (text : String) : Bool :=
  text.toList.all fun c => c != '<' && c != '&' && c != '>'

theorem unmarked_of_looks {text : String} (clean : looksUnmarked text = true) :
    Unmarked text := by
  intro c inside
  simpa [and_assoc] using List.all_eq_true.mp clean c inside

theorem unmarked_toString (number : Nat) : Unmarked (toString number) := by
  intro c inside
  rw [show toString number = number.repr from rfl, Nat.toList_repr] at inside
  have digit := Nat.isDigit_of_mem_toDigits (by decide) (by decide) inside
  refine ⟨?_, ?_, ?_⟩ <;> rintro rfl <;> exact absurd digit (by decide)

variable (telegram : TelegramHtml g)
include telegram

theorem reads_unmarked {text : String} (unmarked : Unmarked text) (opened : List HtmlElement) :
    g.Reads opened text.toList (shownIn opened text.toList) opened := by
  refine Grammar.reads_text fun c inside => ?_
  simpa only [Grammar.Plain, telegram.lt, telegram.amp, telegram.gt] using unmarked c inside

theorem escapedBy : g.EscapedBy escapes where
  ordered := by decide
  signs := by
    rw [telegram.amp, telegram.lt]
    decide
  written := by
    simp only [escapes, List.forall_mem_cons, telegram.amp, telegram.semi]
    exact ⟨⟨_, rfl, by decide, telegram.ampersand⟩, ⟨_, rfl, by decide, telegram.less⟩,
      ⟨_, rfl, by decide, telegram.greater⟩, by simp⟩
  replaced c others := by
    simp only [escapes, List.forall_mem_cons] at others
    rw [Grammar.Plain, telegram.lt, telegram.amp, telegram.gt]
    exact ⟨Ne.symm others.2.1, Ne.symm others.1, Ne.symm others.2.2.1⟩

theorem reads_escapeHtml (text : String) (opened : List HtmlElement) :
    g.Reads opened (escapeHtml text).toList (shownIn opened text.toList) opened := by
  rw [escapeHtml, String.toList_ofList]
  exact Grammar.reads_escaped (escapedBy telegram) opened text.toList

theorem shows_bold {html text : String}
    (reads : g.Reads [.bold] html.toList (shownIn [.bold] text.toList) [.bold]) :
    Shows g (bold html) [.bold text] := by
  have within := reads.within ⟨by simp [telegram.gt], telegram.openBold⟩
    ⟨by simp [telegram.gt], telegram.closeBold⟩
  simpa [Shows, bold, shownOf, Span.shown, Span.elements, Span.text, telegram.lt, telegram.gt]
    using within

theorem shows_code {html text : String}
    (reads : g.Reads [.code] html.toList (shownIn [.code] text.toList) [.code]) :
    Shows g (code html) [.code text] := by
  have within := reads.within ⟨by simp [telegram.gt], telegram.openCode⟩
    ⟨by simp [telegram.gt], telegram.closeCode⟩
  simpa [Shows, code, shownOf, Span.shown, Span.elements, Span.text, telegram.lt, telegram.gt]
    using within

theorem shows_plain {text : String} (clean : looksUnmarked text = true) :
    Shows g text [.plain text] := by
  simpa [Shows, shownOf, Span.shown, Span.elements, Span.text]
    using reads_unmarked telegram (unmarked_of_looks clean) []

/-- What the service marks up itself. -/
theorem shows_heading {text : String} (clean : looksUnmarked text = true) :
    Shows g (bold text) [.bold text] :=
  shows_bold telegram (reads_unmarked telegram (unmarked_of_looks clean) _)

/-- What a user has typed. -/
theorem shows_typed (text : String) : Shows g (bold (escapeHtml text)) [.bold text] :=
  shows_bold telegram (reads_escapeHtml telegram text _)

/-! ## The notifications -/

theorem message_shows (n : Notification) : Shows g n.message n.document := by
  cases n with
  | newCriticalRequest requestTitle requestId urgency =>
      have sign : Shows g (if urgency = "critical" then "🚨" else "⚠️") _ :=
        shows_plain telegram (by split <;> decide +kernel)
      have heading : Shows g (bold ("Нова " ++
          (if urgency = "critical" then "КРИТИЧНА" else "термінова") ++ " заявка")) _ :=
        shows_heading telegram (by split <;> decide +kernel)
      have id := shows_code telegram
        (reads_unmarked telegram (unmarked_toString requestId) [.code])
      refine (sign.append (shows_plain telegram ?_) |>.append heading
        |>.append (shows_plain telegram ?_) |>.append (shows_plain telegram ?_)
        |>.append (shows_typed telegram requestTitle) |>.append (shows_plain telegram ?_)
        |>.append (shows_plain telegram ?_) |>.append (shows_plain telegram ?_)
        |>.append id)
      all_goals decide +kernel
  | requesterTeamFound requesterId taskTitle volunteerName =>
      refine ((shows_plain telegram ?_).append (shows_heading telegram ?_)
        |>.append (shows_plain telegram ?_) |>.append (shows_plain telegram ?_)
        |>.append (shows_typed telegram taskTitle) |>.append (shows_plain telegram ?_)
        |>.append (shows_typed telegram volunteerName) |>.append (shows_plain telegram ?_)
        |>.append (shows_plain telegram ?_))
      all_goals decide +kernel
  | volunteerAssigned volunteerId taskTitle requestTitle =>
      refine ((shows_plain telegram ?_).append (shows_heading telegram ?_)
        |>.append (shows_plain telegram ?_) |>.append (shows_plain telegram ?_)
        |>.append (shows_typed telegram taskTitle) |>.append (shows_plain telegram ?_)
        |>.append (shows_plain telegram ?_) |>.append (shows_typed telegram requestTitle)
        |>.append (shows_plain telegram ?_) |>.append (shows_plain telegram ?_))
      all_goals decide +kernel
  | delegation orgId taskTitle fromOrgName =>
      refine ((shows_plain telegram ?_).append (shows_heading telegram ?_)
        |>.append (shows_plain telegram ?_) |>.append (shows_plain telegram ?_)
        |>.append (shows_typed telegram fromOrgName) |>.append (shows_plain telegram ?_)
        |>.append (shows_plain telegram ?_) |>.append (shows_typed telegram taskTitle)
        |>.append (shows_plain telegram ?_) |>.append (shows_plain telegram ?_))
      all_goals decide +kernel

end Pieces

/-! ## Addressees -/

/-- Whom the notification is for. -/
def Notification.For (db : Db) (user : User) : Notification → Prop
  | .newCriticalRequest _ _ urgency =>
      (urgency = "critical" ∨ urgency = "high") ∧
        (user.systemRole = .coordinator ∨ user.systemRole = .admin) ∧ user.isBlocked = false
  | .requesterTeamFound userId _ _ | .volunteerAssigned userId _ _ => user.id = userId
  | .delegation orgId _ _ => ∃ member ∈ db.members.rows, member.organizationId = orgId ∧
      member.userId = user.id ∧ (member.orgRole = .leader ∨ member.orgRole = .coordinator)

section Addressees

variable {telegramChatId : UserId → Option String} {db : Db} {message : String} {sent : Telegram}

theorem mem_broadcastToRole {role : SystemRole} :
    sent ∈ broadcastToRole telegramChatId role message db ↔ sent.text = message ∧
      ∃ user ∈ db.users.rows, (user.systemRole = role ∧ user.isBlocked = false) ∧
        sent.chatId ≠ "" ∧ telegramChatId user.id = some sent.chatId := by
  obtain ⟨chatId, text⟩ := sent
  simp only [broadcastToRole, List.mem_filterMap, Table.mem_find, Option.map_eq_some_iff, truthy,
    Option.filter_eq_some_iff, Telegram.mk.injEq]
  grind

theorem mem_broadcastToOrgCoordinators {orgId : OrgId} :
    sent ∈ broadcastToOrgCoordinators telegramChatId orgId message db ↔ sent.text = message ∧
      ∃ user ∈ db.users.rows, (∃ member ∈ db.members.rows, member.organizationId = orgId ∧
          member.userId = user.id ∧ (member.orgRole = .leader ∨ member.orgRole = .coordinator)) ∧
        telegramChatId user.id = some sent.chatId := by
  obtain ⟨chatId, text⟩ := sent
  simp only [broadcastToOrgCoordinators, List.mem_filterMap, Table.mem_find, List.any_eq_true,
    decide_eq_true_eq, Option.map_eq_some_iff, Telegram.mk.injEq]
  grind

theorem mem_sendToUser {userId : UserId} :
    sent ∈ sendToUser telegramChatId userId message db ↔ sent.text = message ∧
      ∃ user ∈ db.users.rows, user.id = userId ∧
        sent.chatId ≠ "" ∧ telegramChatId user.id = some sent.chatId := by
  obtain ⟨chatId, text⟩ := sent
  have found (user : User) :
      db.findUser userId = some user ↔ user ∈ db.users.rows ∧ user.id = userId :=
    ⟨Db.findUser_some, fun ⟨stored, same⟩ => same ▸ Db.findUser_of_mem stored⟩
  simp only [sendToUser, List.mem_filterMap, Option.mem_toList, found, Option.map_eq_some_iff,
    truthy, Option.filter_eq_some_iff, Telegram.mk.injEq]
  grind

/-- What is sent, and to whom: an empty chat id only to the coordinators of an organization. -/
theorem mem_sent {n : Notification} :
    sent ∈ n.sent telegramChatId db ↔ sent.text = n.message ∧
      ∃ user ∈ db.users.rows, n.For db user ∧ telegramChatId user.id = some sent.chatId ∧
        (sent.chatId = "" → ∃ orgId taskTitle fromOrgName,
          n = .delegation orgId taskTitle fromOrgName) := by
  cases n with
  | newCriticalRequest requestTitle requestId urgency =>
      simp only [Notification.sent, Notification.For]
      split <;> simp_all [mem_broadcastToRole]
      grind
  | requesterTeamFound requesterId taskTitle volunteerName =>
      simp [Notification.sent, Notification.For, mem_sendToUser]
      grind
  | volunteerAssigned volunteerId taskTitle requestTitle =>
      simp [Notification.sent, Notification.For, mem_sendToUser]
      grind
  | delegation orgId taskTitle fromOrgName =>
      simp [Notification.sent, Notification.For, mem_broadcastToOrgCoordinators]

end Addressees

/-- Every text that is sent is read as the notification's document and goes to somebody whom it
is for, and everybody whom it is for is sent it, if he has a chat with the bot. -/
theorem notification_shown {g : Grammar Char HtmlElement} (telegram : TelegramHtml g)
    (telegramChatId : UserId → Option String) (db : Db) (n : Notification) :
    (∀ sent ∈ n.sent telegramChatId db, g.read sent.text.toList = some (shownOf n.document) ∧
        ∃ user ∈ db.users.rows, n.For db user ∧ telegramChatId user.id = some sent.chatId) ∧
      ∀ user ∈ db.users.rows, n.For db user →
        ∀ chatId, telegramChatId user.id = some chatId → chatId ≠ "" →
          ⟨chatId, n.message⟩ ∈ n.sent telegramChatId db := by
  constructor
  · intro sent inside
    obtain ⟨text, user, stored, addressed, chat, _⟩ := mem_sent.mp inside
    refine ⟨?_, user, stored, addressed, chat⟩
    rw [text]
    exact Grammar.read_of_reads (message_shows telegram n)
  · intro user stored addressed chatId chat given
    exact mem_sent.mpr ⟨rfl, user, stored, addressed, chat, fun empty => absurd empty given⟩

/-- A reader of the tags and names that the service uses. -/
def exampleReader : Grammar Char HtmlElement where
  lt := '<'
  gt := '>'
  amp := '&'
  semi := ';'
  tag name :=
    if name = ['b'] then some (.opening .bold)
    else if name = ['/', 'b'] then some (.closing .bold)
    else if name = ['c', 'o', 'd', 'e'] then some (.opening .code)
    else if name = ['/', 'c', 'o', 'd', 'e'] then some (.closing .code)
    else none
  character name :=
    if name = ['a', 'm', 'p'] then some '&'
    else if name = ['l', 't'] then some '<'
    else if name = ['g', 't'] then some '>'
    else none

/-- A title that looks like markup is shown as it is. -/
theorem notification_shown_typed :
    exampleReader.read (Notification.requesterTeamFound author.id "<b>A & B" "&lt;").message.toList =
      some (shownOf
        (Notification.requesterTeamFound author.id "<b>A & B" "&lt;").document) := by
  have telegram : TelegramHtml exampleReader := by constructor <;> rfl
  exact ((notification_shown telegram (fun _ => some "17") (exampleBoard .local)
    (.requesterTeamFound author.id "<b>A & B" "&lt;")).1 ⟨"17", _⟩
      (mem_sent.mpr ⟨rfl, author, by simp [exampleBoard], rfl, rfl, by simp⟩)).1

end VolunteerApi
