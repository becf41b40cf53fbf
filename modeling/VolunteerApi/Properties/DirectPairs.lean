import VolunteerApi.Model.DirectChats
import VolunteerApi.Model.System
import VolunteerApi.Programs.Runs

/-!
# One direct chat for each pair

A chat in which both users take part and that is direct is the chat of the two, as long as they
are two.  A user who asks for a chat with himself gets any of his direct chats, and a new one only
if he has none.
-/

set_option autoImplicit false

namespace VolunteerApi

open Relational Programs ChatService

/-! ## Runs -/

/-- A call, with the order in which the server finds the chats for it. -/
structure DirectCall where
  user : User
  targetUserId : UserId
  found : OrderBy fun _ _ : Chat => True

def DirectCall.finish (db : Db) (call : DirectCall) : Except HttpException (Option Chat) × Db :=
  (getOrCreateDirectChat call.found call.user call.targetUserId).run db

structure DirectState where
  db : Db
  /-- Who asked for a chat with whom, and got which one. -/
  answered : List (UserId × UserId × ChatId)

def DirectState.step (s : DirectState) (call : DirectCall) : DirectState where
  db := (call.finish s.db).2
  answered := s.answered ++
    ((call.finish s.db).1.toOption.join.map fun chat =>
      (call.user.id, call.targetUserId, chat.id)).toList

def Chat.isBetween (chat : Chat) (first second : UserId) : Prop :=
  chat.type = .direct ∧ ∀ id, id ∈ chat.participants ↔ id = first ∨ id = second

/-- Whichever chat the server finds first, the call returns a direct chat of the two users and of
nobody else. -/
def AnswersPair (s : DirectState) (call : DirectCall) : Prop :=
  ∀ found, ∃ chat, (DirectCall.finish s.db { call with found := found }).1 = .ok (some chat) ∧
    chat.isBetween call.user.id call.targetUserId

/-- Who asks for a chat with himself is in no direct chat with somebody else. -/
def AloneInDirect (s : DirectState) (call : DirectCall) : Prop :=
  call.user.id = call.targetUserId → ∀ chat ∈ s.db.chats.rows, chat.type = .direct →
    call.user.id ∈ chat.participants → chat.isBetween call.user.id call.user.id

/-- No two direct chats have the same participants. -/
def OneChatPerPair (db : Db) : Prop :=
  ∀ left ∈ db.chats.rows, ∀ right ∈ db.chats.rows, left.type = .direct → right.type = .direct →
    (∀ id, id ∈ left.participants ↔ id ∈ right.participants) → left = right

/-- Two users got the same chat, whoever of them asked. -/
def SameAnswers (answered : List (UserId × UserId × ChatId)) : Prop :=
  ∀ left ∈ answered, ∀ right ∈ answered,
    (left.1 = right.1 ∧ left.2.1 = right.2.1) ∨ (left.1 = right.2.1 ∧ left.2.1 = right.1) →
      left.2.2 = right.2.2

structure ServesPairs (s : DirectState) : Prop where
  once : OneChatPerPair s.db
  same : SameAnswers s.answered

/-- Direct chats are between two users, or of one with himself, one for a pair. -/
structure PairChats (db : Db) : Prop where
  pairs : ∀ chat ∈ db.chats.rows, chat.type = .direct →
    ∃ first second, chat.isBetween first second
  once : OneChatPerPair db

def BothStored (db : Db) (call : DirectCall) : Prop :=
  (db.findUser call.user.id).isSome = true ∧ (db.findUser call.targetUserId).isSome = true

/-! ## One call -/

section Call

variable {db : Db} {call : DirectCall}

theorem isDirectBetween_iff {first second : UserId} {chat : Chat} :
    isDirectBetween first second chat = true ↔
      first ∈ chat.participants ∧ second ∈ chat.participants ∧ chat.type = .direct :=
  decide_eq_true_iff

theorem isBetween_of_members (pairs : PairChats db) {chat : Chat} (stored : chat ∈ db.chats.rows)
    {first second : UserId} (different : first ≠ second)
    (hit : isDirectBetween first second chat = true) : chat.isBetween first second := by
  obtain ⟨firstIn, secondIn, direct⟩ := isDirectBetween_iff.mp hit
  obtain ⟨one, other, _, members⟩ := pairs.pairs chat stored direct
  refine ⟨direct, ?_⟩
  intro id
  have firstIs := (members first).mp firstIn
  have secondIs := (members second).mp secondIn
  rw [members]
  grind

def withDirectChat (db : Db) (call : DirectCall) : Db :=
  { db with
    chats := db.chats.append (newDirectChat call.user.id call.targetUserId)
      (newDirectChat_id call.user.id call.targetUserId) }

def addedChat (db : Db) (call : DirectCall) : Chat :=
  newDirectChat call.user.id call.targetUserId db.chats.next

theorem mem_withDirectChat {chat : Chat} :
    chat ∈ (withDirectChat db call).chats.rows ↔
      chat ∈ db.chats.rows ∨ chat = addedChat db call :=
  (Table.added_append db.chats (newDirectChat call.user.id call.targetUserId)
    (newDirectChat_id call.user.id call.targetUserId)).mem chat

theorem addedChat_between (db : Db) (call : DirectCall) :
    (addedChat db call).isBetween call.user.id call.targetUserId := by
  exact ⟨rfl, fun _ => mem_newDirectChat⟩

/-- Where a call ends: with a chat that was found, with a new one, or with an error. -/
inductive Finished (db : Db) (call : DirectCall) :
    Except HttpException (Option Chat) × Db → Prop
  | existing {chat : Chat} (stored : chat ∈ db.chats.rows)
      (hit : isDirectBetween call.user.id call.targetUserId chat = true) :
      Finished db call (.ok (some chat), db)
  | created
      (missing : ∀ chat ∈ db.chats.rows,
        ¬ isDirectBetween call.user.id call.targetUserId chat = true) :
      Finished db call (.ok (some (addedChat db call)), withDirectChat db call)
  | refused {error : HttpException}
      (reason : ¬ BothStored db call) :
      Finished db call (.error error, db)

theorem finish_finished (db : Db) (call : DirectCall) : Finished db call (call.finish db) := by
  have finish : call.finish db =
      (getOrCreateDirectChat call.found call.user call.targetUserId).run db := rfl
  rw [finish, getOrCreateDirectChat, Prog.bind_eq, Prog.run_query_bind]
  cases first : call.found.first
      (db.chats.find (isDirectBetween call.user.id call.targetUserId)) with
  | some chat =>
      have listed := OrderBy.mem_of_first first
      obtain ⟨stored, hit⟩ := (Table.mem_find _ _ _).mp listed
      have again : db.findChat chat.id = some chat := Table.findOne_key stored
      show Finished db call (.ok (db.findChat chat.id), db)
      rw [again]
      exact .existing stored hit
  | none =>
      have empty := OrderBy.first_eq_none_iff.mp first
      have missing : ∀ chat ∈ db.chats.rows,
          ¬ isDirectBetween call.user.id call.targetUserId chat = true := by
        intro chat stored hit
        have listed := (Table.mem_find _ _ _).mpr ⟨stored, hit⟩
        rw [empty] at listed
        exact List.not_mem_nil listed
      show Finished db call
        (((saveDirectChat call.user.id call.targetUserId).bind fun savedChat =>
          Prog.query fun db => db.findChat savedChat.id).run db)
      by_cases fits : (db.findUser call.user.id).isSome = true ∧
          (db.findUser call.targetUserId).isSome = true
      · have saved : (saveDirectChat call.user.id call.targetUserId).run db =
            (.ok (addedChat db call), withDirectChat db call) := by
          rw [saveDirectChat, Prog.run_execOr, if_pos fits]
          rfl
        have again : (withDirectChat db call).findChat (addedChat db call).id =
            some (addedChat db call) :=
          Table.findOne_key (mem_withDirectChat.mpr (Or.inr rfl))
        rw [Prog.run_bind_of_ok saved, Prog.run_query, again]
        exact .created missing
      · have refused : (saveDirectChat call.user.id call.targetUserId).run db =
            (.error (.queryFailed "insert into table chat_participants violates a constraint"),
              db) := by
          rw [saveDirectChat, Prog.run_execOr, if_neg fits]
        rw [Prog.run_bind, refused]
        exact .refused fits

/-- Whatever the call is, direct chats stay between two users, one for a pair. -/
theorem pairChats_finished {result : Except HttpException (Option Chat) × Db}
    (pairs : PairChats db) (finished : Finished db call result) : PairChats result.2 := by
  cases finished with
  | existing stored hit => exact pairs
  | refused reason => exact pairs
  | created missing =>
      have between := addedChat_between db call
      -- a chat with the participants of the new one would have been found
      have fresh : ∀ chat ∈ db.chats.rows, chat.type = .direct →
          ¬ ∀ id, id ∈ chat.participants ↔ id ∈ (addedChat db call).participants := by
        intro chat stored direct same
        refine missing chat stored (isDirectBetween_iff.mpr ⟨?_, ?_, direct⟩)
        · exact (same _).mpr ((between.2 _).mpr (Or.inl rfl))
        · exact (same _).mpr ((between.2 _).mpr (Or.inr rfl))
      refine ⟨?_, ?_⟩
      · intro chat stored direct
        rcases mem_withDirectChat.mp stored with old | rfl
        · exact pairs.pairs chat old direct
        · exact ⟨_, _, between⟩
      · intro left leftStored right rightStored leftDirect rightDirect same
        rcases mem_withDirectChat.mp leftStored with leftOld | rfl
        · rcases mem_withDirectChat.mp rightStored with rightOld | rfl
          · exact pairs.once left leftOld right rightOld leftDirect rightDirect same
          · exact absurd same (fresh left leftOld leftDirect)
        · rcases mem_withDirectChat.mp rightStored with rightOld | rfl
          · exact absurd (fun id => (same id).symm) (fresh right rightOld rightDirect)
          · rfl

/-- The chat of the two is answered, and stored afterwards. -/
theorem answered_of_alone {result : Except HttpException (Option Chat) × Db}
    (pairs : PairChats db) (finished : Finished db call result)
    (alone : call.user.id = call.targetUserId → ∀ chat ∈ db.chats.rows, chat.type = .direct →
      call.user.id ∈ chat.participants → chat.isBetween call.user.id call.user.id)
    (both : BothStored db call) :
    ∃ chat ∈ result.2.chats.rows, result.1 = .ok (some chat) ∧
      chat.isBetween call.user.id call.targetUserId := by
  cases finished with
  | @existing chat stored hit =>
      refine ⟨chat, stored, rfl, ?_⟩
      by_cases himself : call.user.id = call.targetUserId
      · obtain ⟨userIn, _, direct⟩ := isDirectBetween_iff.mp hit
        exact himself ▸ alone himself chat stored direct userIn
      · exact isBetween_of_members pairs stored himself hit
  | created missing =>
      exact ⟨_, mem_withDirectChat.mpr (Or.inr rfl), rfl, addedChat_between db call⟩
  | refused reason => exact absurd both reason

theorem finish_picking {chat : Chat} (stored : chat ∈ db.chats.rows)
    (hit : isDirectBetween call.user.id call.targetUserId chat = true) :
    (DirectCall.finish db
      { call with found := OrderBy.picking fun row => row.id = chat.id }).1 = .ok (some chat) := by
  have first : (OrderBy.picking fun row : Chat => decide (row.id = chat.id)).first
      (db.chats.find (isDirectBetween call.user.id call.targetUserId)) = some chat := by
    apply OrderBy.first_picking ((Table.mem_find _ _ _).mpr ⟨stored, hit⟩) (decide_eq_true rfl)
    intro other listed same
    exact Table.eq_of_key ((Table.mem_find _ _ _).mp listed).1 stored (of_decide_eq_true same)
  have again : db.findChat chat.id = some chat := Table.findOne_key stored
  rw [DirectCall.finish, getOrCreateDirectChat, Prog.bind_eq, Prog.run_query_bind]
  dsimp only
  rw [first, Prog.run_query, again]

theorem alone_of_answers {s : DirectState} (answers : AnswersPair s call) :
    AloneInDirect s call := by
  intro himself chat stored direct userIn
  have hit : isDirectBetween call.user.id call.targetUserId chat = true :=
    isDirectBetween_iff.mpr ⟨userIn, himself ▸ userIn, direct⟩
  obtain ⟨answer, answered, between⟩ :=
    answers (OrderBy.picking fun row => row.id = chat.id)
  obtain rfl : chat = answer := by
    simpa using (finish_picking stored hit).symm.trans answered
  exact himself.symm ▸ between

theorem chats_finished {result : Except HttpException (Option Chat) × Db}
    (finished : Finished db call result) {chat : Chat} (stored : chat ∈ db.chats.rows) :
    chat ∈ result.2.chats.rows := by
  cases finished with
  | existing _ _ => exact stored
  | created _ => exact mem_withDirectChat.mpr (Or.inl stored)
  | refused _ => exact stored

theorem users_finished {result : Except HttpException (Option Chat) × Db}
    (finished : Finished db call result) : result.2.users = db.users := by
  cases finished <;> rfl

end Call

/-! ## Every run -/

/-- What was answered is stored. -/
def AnsweredStored (s : DirectState) : Prop :=
  ∀ entry ∈ s.answered, ∃ chat ∈ s.db.chats.rows, chat.id = entry.2.2 ∧
    chat.isBetween entry.1 entry.2.1

/-- What every call keeps. -/
structure ChatsInPairs (users : Table User.id User.email) (s : DirectState) : Prop where
  users : s.db.users = users
  pairs : PairChats s.db
  answered : AnsweredStored s

section Steps

variable {users : Table User.id User.email} {s : DirectState} {call : DirectCall}

theorem servesPairs_of_chatsInPairs (kept : ChatsInPairs users s) : ServesPairs s := by
  refine ⟨kept.pairs.once, ?_⟩
  intro left leftListed right rightListed alike
  obtain ⟨leftChat, leftStored, leftId, leftDirect, leftMembers⟩ := kept.answered left leftListed
  obtain ⟨rightChat, rightStored, rightId, rightDirect, rightMembers⟩ :=
    kept.answered right rightListed
  have same : leftChat = rightChat := by
    apply kept.pairs.once leftChat leftStored rightChat rightStored leftDirect rightDirect
    intro id
    rw [leftMembers, rightMembers]
    rcases alike with ⟨first, second⟩ | ⟨first, second⟩
    · rw [first, second]
    · rw [first, second, or_comm]
  rw [← leftId, ← rightId, same]

theorem chatsInPairs_step (kept : ChatsInPairs users s) (alone : AloneInDirect s call)
    (both : BothStored s.db call) :
    ChatsInPairs users (s.step call) ∧ AnswersPair s call := by
  have finished := finish_finished s.db call
  obtain ⟨chat, stored, answered, between⟩ := answered_of_alone kept.pairs finished alone both
  have entries : (s.step call).answered =
      s.answered ++ [(call.user.id, call.targetUserId, chat.id)] := by
    rw [DirectState.step, answered]
    rfl
  refine ⟨⟨?_, ?_, ?_⟩, ?_⟩
  · exact (users_finished finished).trans kept.users
  · exact pairChats_finished kept.pairs finished
  · intro entry listed
    rw [entries] at listed
    rcases List.mem_append.mp listed with old | new
    · obtain ⟨oldChat, oldStored, known⟩ := kept.answered entry old
      exact ⟨oldChat, chats_finished finished oldStored, known⟩
    · rw [List.mem_singleton.mp new]
      exact ⟨chat, stored, rfl, between⟩
  · intro found
    have other := finish_finished s.db { call with found := found }
    obtain ⟨chat, _, answered, between⟩ := answered_of_alone kept.pairs other alone both
    exact ⟨chat, answered, between⟩

end Steps

/-- In a run of calls by stored users for stored users, whichever chat the server finds first,
every call answers with the chat of the two, always the same one and the only one, exactly if
nobody asks for a chat with himself who is in a direct chat with somebody else. -/
theorem directChats_iff {db : Db} (pairs : PairChats db) {calls : List DirectCall}
    (stored : ∀ call ∈ calls, BothStored db call) :
    (Always DirectState.step ServesPairs ⟨db, []⟩ calls ∧
        Throughout DirectState.step AnswersPair ⟨db, []⟩ calls) ↔
      Throughout DirectState.step AloneInDirect ⟨db, []⟩ calls := by
  have start : ChatsInPairs db.users ⟨db, []⟩ :=
    ⟨rfl, pairs, fun _ listed => absurd listed List.not_mem_nil⟩
  constructor
  · rintro ⟨_, answers⟩
    exact answers.mono fun _ _ answered => alone_of_answers answered
  · intro alone
    have kept : ∀ (s : DirectState) (call : DirectCall), ChatsInPairs db.users s →
        (AloneInDirect s call ∧ BothStored db call) →
          ChatsInPairs db.users (s.step call) ∧ AnswersPair s call := by
      intro s call here allowed
      have both : BothStored s.db call := by
        unfold BothStored Db.findUser
        rw [here.users]
        exact allowed.2
      exact chatsInPairs_step here allowed.1 both
    have allowed : Throughout DirectState.step
        (fun s call => AloneInDirect s call ∧ BothStored db call) ⟨db, []⟩ calls :=
      alone.and (throughout_of_mem stored _)
    refine ⟨?_, throughout_of_preserved kept start allowed⟩
    have always := always_of_preserved (fun s call here fine => (kept s call here fine).1) start
      allowed
    exact always.mono fun _ here => servesPairs_of_chatsInPairs here

theorem exampleBoard_pairChats : PairChats (exampleBoard .local) := by
  refine ⟨?_, ?_⟩
  · intro chat stored
    cases stored
  · intro left stored
    cases stored

/-- Two volunteers ask for their chat, one after the other, and the first one for a chat with
himself. -/
def askedForHimself : List DirectCall :=
  [⟨firstVolunteer, secondVolunteer.id, OrderBy.asStored⟩,
    ⟨secondVolunteer, firstVolunteer.id, OrderBy.asStored⟩,
    ⟨firstVolunteer, firstVolunteer.id, OrderBy.asStored⟩]

theorem askedForHimself_stored :
    ∀ call ∈ askedForHimself, BothStored (exampleBoard .local) call := by
  intro call listed
  simp only [askedForHimself, List.mem_cons, List.not_mem_nil, or_false] at listed
  rcases listed with rfl | rfl | rfl
  · exact ⟨by decide +kernel, by decide +kernel⟩
  · exact ⟨by decide +kernel, by decide +kernel⟩
  · exact ⟨by decide +kernel, by decide +kernel⟩

theorem directChats_iff_witness :
    (Always DirectState.step ServesPairs ⟨exampleBoard .local, []⟩ askedForHimself ∧
        Throughout DirectState.step AnswersPair ⟨exampleBoard .local, []⟩ askedForHimself) ↔
      Throughout DirectState.step AloneInDirect ⟨exampleBoard .local, []⟩ askedForHimself :=
  directChats_iff exampleBoard_pairChats askedForHimself_stored

/-- He gets the chat with the other one. -/
theorem directChats_fail :
    PairChats (exampleBoard .local) ∧
      (∀ call ∈ askedForHimself, BothStored (exampleBoard .local) call) ∧
      ¬ Throughout DirectState.step AnswersPair ⟨exampleBoard .local, []⟩ askedForHimself := by
  refine ⟨exampleBoard_pairChats, askedForHimself_stored, ?_⟩
  rintro ⟨_, _, third, _⟩
  obtain ⟨chat, answered, _, members⟩ := third OrderBy.asStored
  have other : ((DirectCall.finish
      (execute DirectState.step ⟨exampleBoard .local, []⟩ (askedForHimself.take 2)).db
        ⟨firstVolunteer, firstVolunteer.id, OrderBy.asStored⟩).1.toOption.join.any fun chat =>
          secondVolunteer.id ∈ chat.participants) = true := by
    decide +kernel
  have same := (congrArg (fun result =>
    result.toOption.join.any fun chat : Chat => decide (secondVolunteer.id ∈ chat.participants))
      answered).symm.trans other
  have inside : secondVolunteer.id ∈ chat.participants := of_decide_eq_true same
  have himself := (members _).mp inside
  revert himself
  decide

end VolunteerApi
