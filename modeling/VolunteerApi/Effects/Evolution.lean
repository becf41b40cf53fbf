import VolunteerApi.Effects.TasksEffects
import VolunteerApi.Model.ReadMarks
import VolunteerApi.Programs.Guarantees
import VolunteerApi.Relational.Evolution

/-!
# What no statement takes back

`Db.Evolves` lists what is never lost or rewritten: users, requests, tasks, assignments, chats
and messages stay, and keep the columns that say who made them and what they are about; the
participants of a chat and the readers of a message are only added to.  `Db.Area` adds which
tables stay as they are, and which columns of which users.  Both compose, so that it is enough
to look at single statements.
-/

set_option autoImplicit false

namespace VolunteerApi

open Relational Programs

/-! ## The columns that stay -/

def Request.authorship (request : Request) : UserId × Time := (request.creatorId, request.createdAt)

def Task.authorship (task : Task) : RequestId × Option UserId × TaskOrigin × Bool :=
  (task.requestId, task.createdByUserId, task.origin, task.isAutoGenerated)

structure Chat.Becomes (old new : Chat) : Prop where
  type : new.type = old.type
  relatedRequestId : new.relatedRequestId = old.relatedRequestId
  relatedOrgId : new.relatedOrgId = old.relatedOrgId
  name : new.name = old.name
  participants : old.participants <+: new.participants

structure Message.Becomes (old new : Message) : Prop where
  written : { new with readBy := none } = { old with readBy := none }
  readers : old.readers <+: new.readers

namespace Chat.Becomes

theorem refl (chat : Chat) : Chat.Becomes chat chat := ⟨rfl, rfl, rfl, rfl, List.prefix_refl _⟩

theorem trans {a b c : Chat} (first : Chat.Becomes a b) (second : Chat.Becomes b c) :
    Chat.Becomes a c where
  type := second.type.trans first.type
  relatedRequestId := second.relatedRequestId.trans first.relatedRequestId
  relatedOrgId := second.relatedOrgId.trans first.relatedOrgId
  name := second.name.trans first.name
  participants := first.participants.trans second.participants

theorem joined (userId : UserId) (chat : Chat) :
    Chat.Becomes chat ((TasksService.joinedPatch userId).run chat) := by
  refine ⟨rfl, rfl, rfl, rfl, ?_⟩
  simp only [TasksService.joinedPatch]
  split
  · exact List.prefix_refl _
  · exact List.prefix_append _ _

end Chat.Becomes

namespace Message.Becomes

theorem refl (message : Message) : Message.Becomes message message := ⟨rfl, List.prefix_refl _⟩

theorem trans {a b c : Message} (first : Message.Becomes a b) (second : Message.Becomes b c) :
    Message.Becomes a c :=
  ⟨second.written.trans first.written, first.readers.trans second.readers⟩

theorem read (userId : UserId) (message : Message) :
    Message.Becomes message ((ChatService.addReader userId).run message) :=
  ⟨rfl, List.prefix_append _ _⟩

end Message.Becomes

/-! ## The columns of a user

The id and the address are not among them: nothing writes those. -/

inductive UserColumn where
  | fullName | systemRole | clearanceLevel | trustScore | isBlocked | avatarUrl
  | isEmailVerified | isIdentityVerified | frontlineGrantedByAdmin | emailVerificationToken
  | emailVerificationExpires | passwordHash | refreshTokenHash | passwordResetCode
  | passwordResetToken | passwordResetExpires
  deriving DecidableEq, Repr

abbrev UserColumn.Value : UserColumn → Type
  | .fullName | .passwordHash => String
  | .systemRole => SystemRole
  | .clearanceLevel => ClearanceLevel
  | .trustScore => Nat
  | .isBlocked | .isEmailVerified | .isIdentityVerified | .frontlineGrantedByAdmin => Bool
  | .avatarUrl | .emailVerificationToken | .refreshTokenHash | .passwordResetCode
  | .passwordResetToken => Option String
  | .emailVerificationExpires | .passwordResetExpires => Option Time

def User.get (user : User) : ∀ column : UserColumn, column.Value
  | .fullName => user.fullName
  | .systemRole => user.systemRole
  | .clearanceLevel => user.clearanceLevel
  | .trustScore => user.trustScore
  | .isBlocked => user.isBlocked
  | .avatarUrl => user.avatarUrl
  | .isEmailVerified => user.isEmailVerified
  | .isIdentityVerified => user.isIdentityVerified
  | .frontlineGrantedByAdmin => user.frontlineGrantedByAdmin
  | .emailVerificationToken => user.emailVerificationToken
  | .emailVerificationExpires => user.emailVerificationExpires
  | .passwordHash => user.passwordHash
  | .refreshTokenHash => user.refreshTokenHash
  | .passwordResetCode => user.passwordResetCode
  | .passwordResetToken => user.passwordResetToken
  | .passwordResetExpires => user.passwordResetExpires

/-- What a user goes by for ever. -/
def User.account (user : User) : UserId × String := (user.id, user.email)

namespace Db

/-! ## The evolution of the database -/

structure Evolves (db after : Db) : Prop where
  users : db.users.Evolves (fun old new => new.email = old.email) after.users
  requests : db.requests.Evolves (fun old new => new.authorship = old.authorship) after.requests
  tasks : db.tasks.Evolves (fun old new => new.authorship = old.authorship) after.tasks
  assignments : db.assignments.Evolves (fun old new => new.slot = old.slot) after.assignments
  chats : db.chats.Evolves Chat.Becomes after.chats
  messages : db.messages.Evolves Message.Becomes after.messages

namespace Evolves

theorem refl (db : Db) : db.Evolves db where
  users := Table.Evolves.refl (by intro _; rfl) _
  requests := Table.Evolves.refl (by intro _; rfl) _
  tasks := Table.Evolves.refl (by intro _; rfl) _
  assignments := Table.Evolves.refl (by intro _; rfl) _
  chats := Table.Evolves.refl Chat.Becomes.refl _
  messages := Table.Evolves.refl Message.Becomes.refl _

theorem trans (db mid after : Db) (first : db.Evolves mid) (second : mid.Evolves after) :
    db.Evolves after where
  users := first.users.trans (fun before later => later.trans before) second.users
  requests := first.requests.trans (fun before later => later.trans before) second.requests
  tasks := first.tasks.trans (fun before later => later.trans before) second.tasks
  assignments := first.assignments.trans (fun before later => later.trans before) second.assignments
  chats := first.chats.trans Chat.Becomes.trans second.chats
  messages := first.messages.trans Message.Becomes.trans second.messages

end Evolves

/-! ## Areas -/

inductive TableName where
  | users | vouches | requests | tasks | assignments | delegations | members | chats
  | savedRequests | organizations | joinRequests | messages | taskReports
  deriving DecidableEq, Repr

def Same (db after : Db) : TableName → Prop
  | .users => after.users = db.users
  | .vouches => after.vouches = db.vouches
  | .requests => after.requests = db.requests
  | .tasks => after.tasks = db.tasks
  | .assignments => after.assignments = db.assignments
  | .delegations => after.delegations = db.delegations
  | .members => after.members = db.members
  | .chats => after.chats = db.chats
  | .savedRequests => after.savedRequests = db.savedRequests
  | .organizations => after.organizations = db.organizations
  | .joinRequests => after.joinRequests = db.joinRequests
  | .messages => after.messages = db.messages
  | .taskReports => after.taskReports = db.taskReports

/-- The tables that may be written, the columns of the user with an id and an address, and the
users that may be inserted. -/
structure Scope where
  tables : List TableName
  columns : UserId × String → UserColumn → Prop
  newcomers : User → Prop

/-- The users stay as they are. -/
def Scope.ofTables (tables : List TableName) : Scope :=
  ⟨tables, fun _ _ => False, fun _ => False⟩

@[simp] theorem Scope.ofTables_tables (tables : List TableName) :
    (ofTables tables).tables = tables := rfl

structure Scope.Includes (more scope : Scope) : Prop where
  tables : scope.tables ⊆ more.tables
  columns : ∀ account column, scope.columns account column → more.columns account column
  newcomers : ∀ user, scope.newcomers user → more.newcomers user

theorem Scope.Includes.ofTables {more : Scope} {tables : List TableName}
    (included : tables ⊆ more.tables) : more.Includes (.ofTables tables) :=
  ⟨included, fun _ _ => False.elim, fun _ => False.elim⟩

def Scope.Moves (scope : Scope) (users later : Table User.id User.email) : Prop :=
  users.Moves (Within User.account User.get scope.columns) scope.newcomers later

/-- Nothing outside the scope differs, and the database has evolved. -/
structure Area (scope : Scope) (db after : Db) : Prop where
  evolves : db.Evolves after
  same : ∀ table ∉ scope.tables, db.Same after table
  users : scope.Moves db.users after.users

namespace Area

variable {scope : Scope}

theorem users_refl (users : Table User.id User.email) : scope.Moves users users :=
  Table.Moves.refl Within.refl users

theorem refl (db : Db) : Area scope db db := by
  refine ⟨.refl db, ?_, users_refl _⟩
  intro table _
  cases table <;> rfl

theorem trans (db mid after : Db) (first : Area scope db mid) (second : Area scope mid after) :
    Area scope db after := by
  refine ⟨first.evolves.trans _ _ _ second.evolves, ?_,
    first.users.trans Within.trans second.users⟩
  intro table outside
  have before := first.same table outside
  have later := second.same table outside
  cases table <;> exact Eq.trans later before

theorem wider {more : Scope} (db after : Db) (area : Area scope db after)
    (included : more.Includes scope) : Area more db after where
  evolves := area.evolves
  same table outside := area.same table fun inside => outside (included.tables inside)
  users := area.users.mono (fun _ _ within => within.mono included.columns) included.newcomers

/-! One table written. -/

section Writes

variable {db : Db}

theorem of_users {users : Table User.id User.email} (inside : .users ∈ scope.tables)
    (moves : scope.Moves db.users users) : Area scope db { db with users := users } := by
  have addresses : db.users.Evolves (fun old new => new.email = old.email) users := by
    intro old stored
    obtain ⟨new, newStored, sameId, within⟩ := moves.evolves old stored
    exact ⟨new, newStored, sameId, congrArg Prod.snd within.fixed⟩
  refine ⟨{ Evolves.refl db with users := addresses }, ?_, moves⟩
  intro table outside
  cases table <;> first | rfl | exact absurd inside outside

theorem vouches {vouches : Table TrustVouch.id TrustVouch.slot} (inside : .vouches ∈ scope.tables) :
    Area scope db { db with vouches := vouches } := by
  refine ⟨{ Evolves.refl db with }, ?_, users_refl _⟩
  intro table outside
  cases table <;> first | rfl | exact absurd inside outside

theorem requests {requests : Table Request.id Request.id} (inside : .requests ∈ scope.tables)
    (evolves : db.requests.Evolves (fun old new => new.authorship = old.authorship) requests) :
    Area scope db { db with requests := requests } := by
  refine ⟨{ Evolves.refl db with requests := evolves }, ?_, users_refl _⟩
  intro table outside
  cases table <;> first | rfl | exact absurd inside outside

theorem tasks {tasks : Table Task.id Task.id} (inside : .tasks ∈ scope.tables)
    (evolves : db.tasks.Evolves (fun old new => new.authorship = old.authorship) tasks) :
    Area scope db { db with tasks := tasks } := by
  refine ⟨{ Evolves.refl db with tasks := evolves }, ?_, users_refl _⟩
  intro table outside
  cases table <;> first | rfl | exact absurd inside outside

theorem assignments {assignments : Table TaskAssignment.id TaskAssignment.slot}
    (inside : .assignments ∈ scope.tables)
    (evolves : db.assignments.Evolves (fun old new => new.slot = old.slot) assignments) :
    Area scope db { db with assignments := assignments } := by
  refine ⟨{ Evolves.refl db with assignments := evolves }, ?_, users_refl _⟩
  intro table outside
  cases table <;> first | rfl | exact absurd inside outside

theorem delegations {delegations : Table TaskDelegation.id TaskDelegation.slot}
    (inside : .delegations ∈ scope.tables) :
    Area scope db { db with delegations := delegations } := by
  refine ⟨{ Evolves.refl db with }, ?_, users_refl _⟩
  intro table outside
  cases table <;> first | rfl | exact absurd inside outside

theorem chats {chats : Table Chat.id Chat.id} (inside : .chats ∈ scope.tables)
    (evolves : db.chats.Evolves Chat.Becomes chats) :
    Area scope db { db with chats := chats } := by
  refine ⟨{ Evolves.refl db with chats := evolves }, ?_, users_refl _⟩
  intro table outside
  cases table <;> first | rfl | exact absurd inside outside

theorem savedRequests {savedRequests : Table SavedRequest.id SavedRequest.slot}
    (inside : .savedRequests ∈ scope.tables) :
    Area scope db { db with savedRequests := savedRequests } := by
  refine ⟨{ Evolves.refl db with }, ?_, users_refl _⟩
  intro table outside
  cases table <;> first | rfl | exact absurd inside outside

theorem messages {messages : Table Message.id Message.id} (inside : .messages ∈ scope.tables)
    (evolves : db.messages.Evolves Message.Becomes messages) :
    Area scope db { db with messages := messages } := by
  refine ⟨{ Evolves.refl db with messages := evolves }, ?_, users_refl _⟩
  intro table outside
  cases table <;> first | rfl | exact absurd inside outside

theorem taskReports {taskReports : Table TaskReport.id TaskReport.id}
    (inside : .taskReports ∈ scope.tables) :
    Area scope db { db with taskReports := taskReports } := by
  refine ⟨{ Evolves.refl db with }, ?_, users_refl _⟩
  intro table outside
  cases table <;> first | rfl | exact absurd inside outside

end Writes

end Area

end Db

end VolunteerApi
