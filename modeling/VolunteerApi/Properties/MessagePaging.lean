import VolunteerApi.Effects.ChatOutcomes
import VolunteerApi.Model.System

/-!
# Paging through the messages of a chat

A page starts at a cursor, a message of an earlier page.  In either order the query asks for the
messages on the near side of the cursor, which the first page has shown already; so whatever is
beyond the first page is never reached.
-/

set_option autoImplicit false

namespace VolunteerApi

open Relational Programs ChatService

/-! ## Reading page by page -/

/-- What a reader has obtained after some calls: a first page, and pages from cursors that he
had already.  For each call the server arranges the messages of one time as it likes. -/
inductive PagedTo (server : Nat → MessageOrders) (db : Db) (chatId : ChatId) (user : User)
    (limit : Nat) (sort : SortOrder) : Nat → List Message → Prop
  | first {page : List LoadedMessage}
      (answers : ((getMessages (server 0) chatId user (some limit) .missing (some sort)).run
        db).1 = .ok page) :
      PagedTo server db chatId user limit sort 1 (page.map LoadedMessage.message)
  | next {calls : Nat} {obtained : List Message} {cursor : Message} {page : List LoadedMessage}
      (sofar : PagedTo server db chatId user limit sort calls obtained)
      (known : cursor ∈ obtained)
      (answers : ((getMessages (server calls) chatId user (some limit) (.uuid cursor.id)
        (some sort)).run db).1 = .ok page) :
      PagedTo server db chatId user limit sort (calls + 1)
        (obtained ++ page.map LoadedMessage.message)

def chatMessages (db : Db) (chatId : ChatId) : List Message :=
  db.messages.find fun message => message.chatId = chatId

/-- The whole history can be read, and nothing else is. -/
def ReadsWholeHistory (server : Nat → MessageOrders) (db : Db) (chatId : ChatId) (user : User)
    (limit : Nat) (sort : SortOrder) : Prop :=
  ∃ calls obtained, PagedTo server db chatId user limit sort calls obtained ∧
    ∀ message, message ∈ obtained ↔ message ∈ chatMessages db chatId

/-! ## Pages -/

section Pages

variable {orders : MessageOrders} {server : Nat → MessageOrders} {db : Db} {chatId : ChatId}
  {user : User} {limit : Nat} {sort : SortOrder}

/-- The order of the answer. -/
def SentBefore : SortOrder → Message → Message → Prop
  | .asc, left, right => left.sentAt ≤ right.sentAt
  | .desc, left, right => right.sentAt ≤ left.sentAt

theorem orders_sorted (rows : List Message) :
    (orders.run sort rows).Pairwise (SentBefore sort) := by
  cases sort with
  | asc => exact orders.asc.sorted rows
  | desc => exact orders.desc.sorted rows

theorem orders_perm (rows : List Message) : (orders.run sort rows).Perm rows := by
  cases sort with
  | asc => exact orders.asc.perm rows
  | desc => exact orders.desc.perm rows

theorem onSide_iff {cursor message : Message} :
    onSide sort (some cursor) message = true ↔ ¬ SentBefore sort cursor message := by
  cases sort <;> simp [onSide, SentBefore]

theorem page_of_limit (positive : 1 ≤ limit) :
    typeormPage (some (limit : Int)) (some 0) = some ⟨some limit, 0⟩ := by
  have kept : (some limit).filter (· ≠ 0) = some limit := by
    rw [Option.filter_some, if_pos (decide_eq_true (Nat.one_le_iff_ne_zero.mp positive))]
  exact congrArg (fun limit => some (⟨limit, 0⟩ : Page)) kept

theorem pagedAnswer_iff (positive : 1 ≤ limit) (passes : Passes db chatId user.id)
    {beforeId : GivenMessageId} {cursor : Option Message}
    (read : cursorOf db beforeId = some cursor) {answer : List LoadedMessage} :
    ((getMessages orders chatId user (some limit) beforeId (some sort)).run db).1 = .ok answer ↔
      answer = ((history orders chatId cursor sort db).take limit).map (withReply db) := by
  rw [getMessages_answers_iff]
  constructor
  · rintro ⟨_, rows, ⟨given, order, page, readAs, same, paged, rfl⟩, rfl⟩
    rw [read] at readAs
    rw [page_of_limit positive] at paged
    cases readAs
    cases same
    cases paged
    rfl
  · rintro rfl
    exact ⟨passes, _, ⟨cursor, sort, _, read, rfl, page_of_limit positive, rfl⟩, rfl⟩

theorem withReply_messages (db : Db) (rows : List Message) :
    (rows.map (withReply db)).map LoadedMessage.message = rows := by
  rw [List.map_map]
  exact List.map_id'' (fun _ => rfl) rows

def firstPage (orders : MessageOrders) (db : Db) (chatId : ChatId) (limit : Nat)
    (sort : SortOrder) : List Message :=
  (orders.run sort (chatMessages db chatId)).take limit

theorem history_none (orders : MessageOrders) (db : Db) (chatId : ChatId) (sort : SortOrder) :
    history orders chatId none sort db = orders.run sort (chatMessages db chatId) := by
  have every : (fun message : Message => decide (message.chatId = chatId ∧
      onSide sort none message = true)) = fun message => decide (message.chatId = chatId) := by
    funext message
    simp [onSide]
  rw [history, every]
  rfl

theorem mem_history_some {cursor message : Message} :
    message ∈ history orders chatId (some cursor) sort db ↔
      message ∈ chatMessages db chatId ∧ ¬ SentBefore sort cursor message := by
  rw [history, (orders_perm _).mem_iff, ← onSide_iff]
  simp [chatMessages, and_assoc]

theorem paged_subset (positive : 1 ≤ limit) (passes : Passes db chatId user.id) {calls : Nat}
    {obtained : List Message} (paged : PagedTo server db chatId user limit sort calls obtained) :
    ∀ message ∈ obtained, message ∈ firstPage (server 0) db chatId limit sort := by
  induction paged with
  | first answers =>
      rw [(pagedAnswer_iff positive passes rfl).mp answers, withReply_messages, history_none]
      exact fun _ listed => listed
  | next sofar known answers ih =>
      intro message listed
      rcases List.mem_append.mp listed with old | new
      · exact ih message old
      · have early := ih _ known
        have stored := (Table.mem_find _ _ _).mp
          ((orders_perm _).mem_iff.mp (List.mem_of_mem_take early))
        have read : cursorOf db (.uuid _) = some (some _) :=
          congrArg some (findMessage_of_mem stored.1)
        rw [(pagedAnswer_iff positive passes read).mp answers, withReply_messages] at new
        obtain ⟨inChat, ahead⟩ := mem_history_some.mp (List.mem_of_mem_take new)
        exact mem_take_of_not_before (orders_sorted _) ((orders_perm _).mem_iff.mpr inChat)
          early ahead

/-- The whole history can be read, exactly if it fits on one page. -/
theorem readsWholeHistory_iff (server : Nat → MessageOrders) (db : Db) (chatId : ChatId)
    (user : User) (limit : Nat) (sort : SortOrder) (passes : Passes db chatId user.id)
    (positive : 1 ≤ limit) :
    ReadsWholeHistory server db chatId user limit sort ↔
      (chatMessages db chatId).length ≤ limit := by
  have whole : ((server 0).run sort (chatMessages db chatId)).Perm (chatMessages db chatId) :=
    orders_perm _
  constructor
  · rintro ⟨calls, obtained, paged, all⟩
    have distinct : (chatMessages db chatId).Nodup :=
      (List.Nodup.of_map Message.id db.messages.keys).filter _
    have inside : ∀ message ∈ chatMessages db chatId,
        message ∈ firstPage (server 0) db chatId limit sort :=
      fun message listed => paged_subset positive passes paged message ((all message).mpr listed)
    calc (chatMessages db chatId).length
        ≤ (firstPage (server 0) db chatId limit sort).length :=
          (List.subperm_of_subset distinct inside).length_le
      _ ≤ limit := List.length_take_le limit _
  · intro fits
    have everything : firstPage (server 0) db chatId limit sort =
        (server 0).run sort (chatMessages db chatId) :=
      List.take_of_length_le (whole.length_eq.le.trans fits)
    refine ⟨1, _, PagedTo.first ((pagedAnswer_iff positive passes rfl).mpr rfl), ?_⟩
    intro message
    rw [withReply_messages, history_none]
    show message ∈ firstPage (server 0) db chatId limit sort ↔ _
    rw [everything, whole.mem_iff]

end Pages

theorem passes_of_participant (db : Db) {chat : Chat} {userId : UserId}
    (stored : chat ∈ db.chats.rows) (participates : userId ∈ chat.participants) :
    Passes db chat.id userId := by
  have found : (db.chats.findOne fun other =>
      other.id = chat.id ∧ userId ∈ other.participants) = some chat := by
    apply Table.findOne_eq_some stored (decide_eq_true ⟨rfl, participates⟩)
    intro other otherStored hit
    exact Table.eq_of_key otherStored stored (of_decide_eq_true hit).1
  rw [Passes, ensureParticipant, Prog.bind_eq, Prog.run_query_bind, found]
  rfl

def oldestFirst : MessageOrders where
  asc := OrderBy.ascending Message.sentAt
  desc := OrderBy.descending Message.sentAt

/-- A chat of two with two messages. -/
def talkingBoard : Db :=
  { exampleBoard .local with
    chats := Table.empty.append fun id =>
      { id := id
        type := .direct
        relatedRequestId := none
        name := ""
        participants := [firstVolunteer.id, secondVolunteer.id] }
    messages :=
      (Table.empty.append (newMessage 0 firstVolunteer.id ⟨"Вітаю", none, .missing⟩ 1)).append
        (newMessage 0 secondVolunteer.id ⟨"Доброго дня", none, .missing⟩ 2) }

theorem readsWholeHistory_iff_witness :
    ReadsWholeHistory (fun _ => oldestFirst) talkingBoard 0 firstVolunteer 1 .asc ↔
      (chatMessages talkingBoard 0).length ≤ 1 := by
  apply readsWholeHistory_iff
  · exact passes_of_participant talkingBoard List.mem_cons_self List.mem_cons_self
  · exact Nat.le_refl 1

/-- With pages of one message, the second one is out of reach. -/
theorem readsWholeHistory_fails :
    Passes talkingBoard 0 firstVolunteer.id ∧
      ¬ ReadsWholeHistory (fun _ => oldestFirst) talkingBoard 0 firstVolunteer 1 .asc := by
  have passes : Passes talkingBoard 0 firstVolunteer.id :=
    passes_of_participant talkingBoard List.mem_cons_self List.mem_cons_self
  refine ⟨passes, ?_⟩
  rintro ⟨calls, obtained, paged, all⟩
  have second : ∃ message ∈ chatMessages talkingBoard 0,
      message ∉ firstPage oldestFirst talkingBoard 0 1 .asc := by
    decide +kernel
  obtain ⟨message, listed, beyond⟩ := second
  exact beyond (paged_subset (Nat.le_refl 1) passes paged message ((all message).mpr listed))

end VolunteerApi
