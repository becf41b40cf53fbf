import VolunteerApi.Model.ChatGateway
import VolunteerApi.Model.AuthLibraries
import VolunteerApi.Programs.Runs
import VolunteerApi.Relational.Registry

/-!
# Who is online

`connectedUsers` holds one socket for each user, the last one that connected.  A disconnect
removes the entry whichever socket it was, so a user with a second socket is lost, and a socket
that was closed while it was authenticated stays in the map for good.
-/

set_option autoImplicit false

namespace VolunteerApi

open Relational Programs

namespace GatewayState

/-- The socket was accepted for the user, and is still connected. -/
def Live (s : GatewayState) (userId : UserId) (client : SocketId) : Prop :=
  (s.sockets client).userId = some userId ∧ (s.sockets client).connected = true

def Online (s : GatewayState) (userId : UserId) : Prop := ∃ client, s.Live userId client

/-- A live socket of the user is told of the chat, and joins its room. -/
def Reached (registry : SocketRegistry) (s : GatewayState) (userId : UserId) (chatId : ChatId)
    (chatName : Option String) : Prop :=
  ∃ client, s.Live userId client ∧
    (∃ name, .newChatJoined client chatId name ∈
      (addParticipantToRoom registry s userId chatId chatName).1) ∧
    chatId ∈ ((addParticipantToRoom registry s userId chatId chatName).2.sockets client).rooms

end GatewayState

structure KnowsOnline (registry : SocketRegistry) (s : GatewayState) : Prop where
  online : ∀ userId, s.Online userId →
    ∃ client, s.connectedUsers userId = some client ∧ s.Live userId client
  offline : ∀ userId, ¬ s.Online userId → s.connectedUsers userId = none
  reached : ∀ userId chatId chatName, s.Online userId → s.Reached registry userId chatId chatName

/-- Whoever is admitted is still connected, and can be found.  Whoever disconnects was accepted
at no other socket that is connected. -/
def OneSocketEach (env : GatewayEnv) (s : GatewayState) : GatewayOp → Prop
  | .connect client handshake now =>
      (s.sockets client).handled = false →
        (GatewayState.admitted env.auth s.db handshake now).isSome = true →
          (s.sockets client).connected = true ∧ env.registry = .connected
  | .disconnect client =>
      ∀ userId, s.Live userId client → ∀ other, s.Live userId other → other = client
  | _ => True

/-- A socket has no user before its `handleConnection` has completed. -/
def AcceptedHandled (s : GatewayState) : Prop :=
  ∀ client, (s.sockets client).handled = false → (s.sockets client).userId = none

namespace GatewayState

@[simp] theorem withSocket_sockets (s : GatewayState) (client : SocketId) (socket : Socket) :
    (s.withSocket client socket).sockets = Function.update s.sockets client socket := rfl

@[simp] theorem withSocket_connectedUsers (s : GatewayState) (client : SocketId)
    (socket : Socket) : (s.withSocket client socket).connectedUsers = s.connectedUsers := rfl

@[simp] theorem withSocket_db (s : GatewayState) (client : SocketId) (socket : Socket) :
    (s.withSocket client socket).db = s.db := rfl

@[simp] theorem withSocket_withSocket (s : GatewayState) (client : SocketId)
    (first second : Socket) :
    (s.withSocket client first).withSocket client second = s.withSocket client second := by
  simp [withSocket]

@[simp] theorem joined_userId (socket : Socket) (chatIds : List ChatId) :
    (joined socket chatIds).userId = socket.userId := by
  unfold joined
  split <;> rfl

@[simp] theorem joined_connected (socket : Socket) (chatIds : List ChatId) :
    (joined socket chatIds).connected = socket.connected := by
  unfold joined
  split <;> rfl

@[simp] theorem joined_handled (socket : Socket) (chatIds : List ChatId) :
    (joined socket chatIds).handled = socket.handled := by
  unfold joined
  split <;> rfl

end GatewayState

section Sockets

variable {registry : SocketRegistry} {s after : GatewayState}

/-- With a registry, a tracked user is reached; without one nobody is. -/
theorem knowsOnline_iff :
    KnowsOnline registry s ↔
      Tracks s.Live s.connectedUsers ∧ (registry = .undefined → ∀ userId, ¬ s.Online userId) := by
  rw [tracks_iff]
  constructor
  · rintro ⟨online, offline, reached⟩
    refine ⟨⟨online, fun userId none_ => offline userId (not_exists.mpr none_)⟩, ?_⟩
    rintro rfl userId here
    obtain ⟨client, _, ⟨name, told⟩, _⟩ := reached userId 0 none here
    cases entry : s.connectedUsers userId <;>
      simp [GatewayState.addParticipantToRoom, entry] at told
  · rintro ⟨⟨online, offline⟩, unreached⟩
    refine ⟨online, fun userId absent => offline userId (not_exists.mp absent), ?_⟩
    intro userId chatId chatName here
    obtain ⟨client, entry, live⟩ := online userId here
    cases registry with
    | undefined => exact absurd here (unreached rfl userId)
    | connected =>
        refine ⟨client, live, ?_⟩
        simp [GatewayState.addParticipantToRoom, entry, live.2, GatewayState.joined]

/-- A step that neither accepts nor closes a socket. -/
theorem knowsOnline_alike (same : after.connectedUsers = s.connectedUsers)
    (live : ∀ userId client, after.Live userId client ↔ s.Live userId client) :
    KnowsOnline registry after ↔ KnowsOnline registry s := by
  have online : ∀ userId, after.Online userId ↔ s.Online userId := fun userId =>
    exists_congr (live userId)
  rw [knowsOnline_iff, knowsOnline_iff, same, tracks_congr live]
  simp only [online]

theorem keepsIff_alike {condition : Prop} (inside : AcceptedHandled after)
    (same : after.connectedUsers = s.connectedUsers)
    (live : ∀ userId client, after.Live userId client ↔ s.Live userId client)
    (holds : condition) :
    KeepsIff AcceptedHandled (KnowsOnline registry) s after condition :=
  keepsIff_of_kept inside (knowsOnline_alike same live).mpr holds

end Sockets

section Steps

variable {env : GatewayEnv} {s : GatewayState} {client : SocketId}

theorem live_withSocket {socket : Socket} {userId : UserId} {other : SocketId} :
    (s.withSocket client socket).Live userId other ↔
      if other = client then socket.userId = some userId ∧ socket.connected = true
      else s.Live userId other := by
  unfold GatewayState.Live
  rw [GatewayState.withSocket_sockets]
  split
  · next same => rw [same, Function.update_self]
  · next apart => rw [Function.update_of_ne apart]

theorem accepted_withSocket {socket : Socket} (inside : AcceptedHandled s)
    (fits : socket.handled = false → socket.userId = none) :
    AcceptedHandled (s.withSocket client socket) := by
  intro other
  rw [GatewayState.withSocket_sockets]
  by_cases same : other = client
  · rw [same, Function.update_self]
    exact fits
  · rw [Function.update_of_ne same]
    exact inside other

theorem withSocket_keeps {registry : SocketRegistry} {condition : Prop} {socket : Socket}
    (inside : AcceptedHandled s) (fits : socket.handled = false → socket.userId = none)
    (live : ∀ userId, (socket.userId = some userId ∧ socket.connected = true) ↔
      s.Live userId client) (holds : condition) :
    KeepsIff AcceptedHandled (KnowsOnline registry) s (s.withSocket client socket) condition := by
  refine keepsIff_alike (accepted_withSocket inside fits) rfl ?_ holds
  intro userId other
  rw [live_withSocket]
  split
  · next same => rw [same, live]
  · exact Iff.rfl

theorem accepted_keeps {registry : SocketRegistry} {userId : UserId} {socket : Socket}
    (inside : AcceptedHandled s) (unknown : (s.sockets client).userId = none)
    (isUser : socket.userId = some userId) (handled : socket.handled = true) :
    KeepsIff AcceptedHandled (KnowsOnline registry) s
      { s.withSocket client socket with
        connectedUsers := Function.update s.connectedUsers userId (some client) }
      (socket.connected = true ∧ registry = .connected) := by
  have live : ∀ other session,
      GatewayState.Live { s.withSocket client socket with
        connectedUsers := Function.update s.connectedUsers userId (some client) } other session ↔
        if session = client then other = userId ∧ socket.connected = true
        else s.Live other session := by
    intro other session
    refine (live_withSocket (s := s)).trans ?_
    rw [isUser, Option.some.injEq, eq_comm (a := userId)]
  refine ⟨?_, ?_⟩
  · refine @accepted_withSocket s client socket inside ?_
    intro fresh
    rw [handled] at fresh
    cases fresh
  · intro before
    obtain ⟨tracks, unreached⟩ := knowsOnline_iff.mp before
    have others : ∀ other, other ≠ userId → ∀ session,
        GatewayState.Live { s.withSocket client socket with
          connectedUsers := Function.update s.connectedUsers userId (some client) } other
          session ↔ s.Live other session := by
      intro other apart session
      rw [live]
      split
      · next here =>
        subst here
        simp [GatewayState.Live, unknown, apart]
      · exact Iff.rfl
    rw [knowsOnline_iff, tracks_update_iff tracks others]
    simp only [EntryTracks, live, if_pos, true_and]
    constructor
    · rintro ⟨connected, nobody⟩
      refine ⟨connected, ?_⟩
      cases registry with
      | connected => rfl
      | undefined =>
          refine absurd ⟨client, ?_⟩ (nobody rfl userId)
          rw [live, if_pos rfl]
          exact ⟨rfl, connected⟩
    · rintro ⟨connected, rfl⟩
      exact ⟨connected, fun absurd_ => by cases absurd_⟩

theorem connect_keeps (inside : AcceptedHandled s) (handshake : Handshake) (now : Time) :
    KeepsIff AcceptedHandled (KnowsOnline env.registry) s
      (s.step env (.connect client handshake now))
      (OneSocketEach env s (.connect client handshake now)) := by
  simp only [GatewayState.step, GatewayState.run, GatewayState.connect, OneSocketEach]
  cases handled : (s.sockets client).handled with
  | true => exact keepsIff_self inside fun fresh => by cases fresh
  | false =>
      have unknown := inside client handled
      simp only [Bool.false_eq_true, if_false, GatewayState.handleConnection,
        GatewayState.withSocket_db]
      cases GatewayState.admitted env.auth s.db handshake now with
      | none =>
          -- the socket is closed, unless it is closed already
          simp only [GatewayState.disconnect, GatewayState.withSocket_sockets,
            Function.update_self]
          split
          · simp only [GatewayState.handleDisconnect, GatewayState.withSocket_withSocket,
              GatewayState.withSocket_sockets, Function.update_self, unknown]
            refine withSocket_keeps inside (fun _ => rfl) ?_ ?_
            · intro userId
              simp [GatewayState.Live, unknown]
            · intro _ accepted
              cases accepted
          · refine withSocket_keeps inside (fun _ => unknown) (fun _ => Iff.rfl) ?_
            intro _ accepted
            cases accepted
      | some user =>
          simp only [GatewayState.withSocket_withSocket, GatewayState.withSocket_sockets,
            Function.update_self]
          refine (accepted_keeps inside unknown (GatewayState.joined_userId _ _)
            (GatewayState.joined_handled _ _)).congr ?_
          simp

theorem closed_keeps {registry : SocketRegistry} {userId : UserId} {socket : Socket}
    (inside : AcceptedHandled s) (live : s.Live userId client)
    (sameHandled : socket.handled = (s.sockets client).handled)
    (sameUser : socket.userId = (s.sockets client).userId) (closed : socket.connected = false) :
    KeepsIff AcceptedHandled (KnowsOnline registry) s
      { s.withSocket client socket with
        connectedUsers := Function.update s.connectedUsers userId none }
      (∀ other, s.Live userId other → other = client) := by
  have later : ∀ other session,
      GatewayState.Live { s.withSocket client socket with
        connectedUsers := Function.update s.connectedUsers userId none } other session ↔
        session ≠ client ∧ s.Live other session := by
    intro other session
    refine (live_withSocket (s := s)).trans ?_
    split
    · next here => simp [here, closed]
    · next apart => simp [apart]
  refine ⟨?_, ?_⟩
  · refine @accepted_withSocket s client socket inside ?_
    intro fresh
    rw [sameUser]
    exact inside client (sameHandled ▸ fresh)
  · intro before
    obtain ⟨tracks, unreached⟩ := knowsOnline_iff.mp before
    have others : ∀ other, other ≠ userId → ∀ session,
        GatewayState.Live { s.withSocket client socket with
          connectedUsers := Function.update s.connectedUsers userId none } other session ↔
          s.Live other session := by
      intro other apart session
      rw [later]
      refine and_iff_right_of_imp ?_
      rintro elsewhere rfl
      exact apart (Option.some.inj (elsewhere.1.symm.trans live.1))
    have found : registry ≠ .undefined := fun missing => unreached missing userId ⟨client, live⟩
    rw [knowsOnline_iff, tracks_update_iff tracks others]
    simp only [EntryTracks, later, found, false_implies, and_true]
    constructor
    · intro none_ other elsewhere
      by_contra apart
      exact none_ other ⟨apart, elsewhere⟩
    · rintro only session ⟨apart, elsewhere⟩
      exact apart (only session elsewhere)

theorem disconnect_keeps (inside : AcceptedHandled s) :
    KeepsIff AcceptedHandled (KnowsOnline env.registry) s (s.step env (.disconnect client))
      (OneSocketEach env s (.disconnect client)) := by
  simp only [GatewayState.step, GatewayState.run, GatewayState.disconnect, OneSocketEach]
  cases connected : (s.sockets client).connected with
  | false =>
      refine keepsIff_self inside ?_
      intro userId live
      rw [GatewayState.Live, connected] at live
      cases live.2
  | true =>
      simp only [if_true, GatewayState.handleDisconnect, GatewayState.withSocket_sockets,
        Function.update_self]
      cases isUser : (s.sockets client).userId with
      | none =>
          refine withSocket_keeps inside (fun _ => rfl) ?_ ?_
          · intro userId
            simp [GatewayState.Live, isUser]
          · intro userId live
            rw [GatewayState.Live, isUser] at live
            cases live.1
      | some userId =>
          refine KeepsIff.congr (closed_keeps inside ⟨isUser, connected⟩ ?_ ?_ ?_) ?_
          · rfl
          · exact isUser.symm
          · rfl
          · constructor
            · rintro only other ⟨sameUser, _⟩
              obtain rfl := Option.some.inj (isUser.symm.trans sameUser)
              exact only
            · intro only
              exact only userId ⟨isUser, connected⟩

theorem addParticipantToRoom_keeps (inside : AcceptedHandled s) (userId : UserId)
    (chatId : ChatId) (chatName : Option String) :
    KeepsIff AcceptedHandled (KnowsOnline env.registry) s
      (s.step env (.addParticipantToRoom userId chatId chatName)) True := by
  simp only [GatewayState.step, GatewayState.run, GatewayState.addParticipantToRoom]
  split
  · split
    · refine withSocket_keeps inside ?_ ?_ trivial
      · simpa using inside _
      · simp [GatewayState.Live]
    · exact keepsIff_self inside trivial
  · exact keepsIff_self inside trivial

theorem gatewayStep_keeps (inside : AcceptedHandled s) (op : GatewayOp) :
    KeepsIff AcceptedHandled (KnowsOnline env.registry) s (s.step env op)
      (OneSocketEach env s op) := by
  cases op with
  | connect client handshake now => exact connect_keeps inside handshake now
  | disconnect client => exact disconnect_keeps inside
  | sendMessage client data now =>
      have same : s.step env (.sendMessage client data now) = s := by
        cases data with
        | none => rfl
        | some data =>
            simp only [GatewayState.step, GatewayState.run]
            split <;> rfl
      rw [same]
      exact keepsIff_self inside trivial
  | postMessage chatId user dto now =>
      have sameSockets : (s.step env (.postMessage chatId user dto now)).sockets = s.sockets ∧
          (s.step env (.postMessage chatId user dto now)).connectedUsers = s.connectedUsers := by
        simp only [GatewayState.step, GatewayState.run, GatewayState.postMessage]
        split <;> exact ⟨rfl, rfl⟩
      refine keepsIff_alike ?_ sameSockets.2 ?_ trivial
      · unfold AcceptedHandled
        rw [sameSockets.1]
        exact inside
      · intro userId client
        rw [GatewayState.Live, sameSockets.1]
        rfl
  | addParticipantToRoom userId chatId chatName =>
      exact addParticipantToRoom_keeps inside userId chatId chatName
  | call op => exact keepsIff_alike inside rfl (fun _ _ => Iff.rfl) trivial

end Steps

theorem started_knowsOnline (registry : SocketRegistry) (db : Db) :
    KnowsOnline registry (.started db) := by
  have offline : ∀ userId, ¬ (GatewayState.started db).Online userId := by
    rintro userId ⟨client, ⟨⟩, _⟩
  exact ⟨fun userId online => absurd online (offline userId), fun _ _ => rfl,
    fun userId _ _ online => absurd online (offline userId)⟩

/-- From its start on, the gateway finds exactly the users who are online, exactly if every user
has one socket at a time, accepted while it is connected. -/
theorem knowsOnline_always_iff (env : GatewayEnv) (db : Db) (ops : List GatewayOp) :
    Always (GatewayState.step env) (KnowsOnline env.registry) (.started db) ops ↔
      Throughout (GatewayState.step env) (OneSocketEach env) (.started db) ops :=
  always_iff_of_keepsIff (A := fun _ _ => True)
    (fun _ op inside _ => gatewayStep_keeps inside op) (fun _ _ => rfl)
    (started_knowsOnline env.registry db) (throughout_of_mem (fun _ _ => trivial) _)

def gatewayEnv : GatewayEnv := ⟨plainTextEnv, .connected, 3⟩

/-- A handshake with an access token of the user. -/
def handshakeOf (user : User) (now : Time) : Handshake where
  token := some (plainTextEnv.jwt.sign plainTextEnv.jwtSecret
    (AuthService.claimsOf user plainTextEnv.jwtExpiresIn now))
  authorization := none

/-- The first volunteer opens a second socket before he closes the first one. -/
def reconnected : List GatewayOp :=
  [.connect 1 (handshakeOf firstVolunteer 1767225600000) 1767225600000,
    .connect 2 (handshakeOf firstVolunteer 1767225600000) 1767225601000,
    .disconnect 1]

/-- He is online, and not in the map. -/
theorem knowsOnline_always_fails :
    ¬ Always (GatewayState.step gatewayEnv) (KnowsOnline gatewayEnv.registry)
      (.started (exampleBoard .local)) reconnected := by
  intro all
  have last := always_end all
  have live : (execute (GatewayState.step gatewayEnv) (.started (exampleBoard .local))
      reconnected).Live 1 2 := by
    unfold GatewayState.Live
    decide +kernel
  obtain ⟨client, entry, _⟩ := last.online 1 ⟨2, live⟩
  have removed : (execute (GatewayState.step gatewayEnv) (.started (exampleBoard .local))
      reconnected).connectedUsers 1 = none := by
    decide +kernel
  rw [removed] at entry
  cases entry

end VolunteerApi
