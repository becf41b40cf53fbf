import VolunteerApi.Model.Enums
import VolunteerApi.Model.Text
import VolunteerApi.Relational.Table

/-!
# Entities and the database

One structure for each entity, with the columns the modelled services read or
write, and the database as one table each.  `deletedAt` is kept where rows are
soft-deleted, in `tasks` and `requests`; a lookup there skips deleted rows, an
update does not.
-/

set_option autoImplicit false

namespace VolunteerApi

open Relational

structure User where
  id : UserId
  email : String
  fullName : String
  systemRole : SystemRole
  clearanceLevel : ClearanceLevel
  /-- Hundredths of a point: the column is `decimal(5, 2)`. -/
  trustScore : Nat
  isBlocked : Bool
  avatarUrl : Option String
  isEmailVerified : Bool
  isIdentityVerified : Bool
  frontlineGrantedByAdmin : Bool
  emailVerificationToken : Option String := none
  emailVerificationExpires : Option Time := none
  passwordHash : String := ""
  refreshTokenHash : Option String := none
  passwordResetCode : Option String := none
  passwordResetToken : Option String := none
  passwordResetExpires : Option Time := none
  deriving DecidableEq, Repr

structure TrustVouch where
  id : VouchId
  voucheeId : UserId
  voucherId : UserId
  isSuspended : Bool
  suspendedAt : Option Time
  suspensionReason : Option String
  deriving DecidableEq, Repr

/-- An attachment in a JSON column, which no pipe checks. -/
structure InfoAttachment where
  url : Option String
  name : Option String
  type : Option String
  deriving DecidableEq, Repr

/-- One element of the `additionalInfo` JSON column. -/
structure AdditionalInfo where
  id : InfoId
  text : String
  attachments : List InfoAttachment
  createdAt : Time
  updatedAt : Option Time
  deriving DecidableEq, Repr

/-- A `geometry(Point, 4326)`. -/
structure Point where
  longitude : Rat
  latitude : Rat
  deriving DecidableEq, Repr

structure Request where
  id : RequestId
  creatorId : UserId
  managingOrganizationId : Option OrgId
  cancelledByUserId : Option UserId
  cancelledAt : Option Time
  cancelReason : Option String
  title : String
  status : RequestStatus
  requiredClearance : ClearanceLevel
  additionalInfo : List AdditionalInfo
  createdAt : Time
  deletedAt : Option Time
  description : Option String := none
  category : RequestCategory := .other
  urgency : RequestUrgency := .medium
  /-- Ten-millionths of a degree: the column is `decimal(10, 7)`. -/
  latitude : Option Int := none
  longitude : Option Int := none
  isLocationHidden : Bool := false
  exactLocation : Option Point := none
  /-- The text of the `simple-array`: the tags, separated by commas. -/
  tags : Option String := some ""
  deriving DecidableEq, Repr

structure Task where
  id : TaskId
  requestId : RequestId
  createdByUserId : Option UserId
  origin : TaskOrigin
  isAutoGenerated : Bool
  title : String
  status : TaskStatus
  neededPeopleCount : Nat
  chatId : Option ChatId
  pendingReviewAt : Option Time
  deletedAt : Option Time
  deriving DecidableEq, Repr

structure TaskAssignment where
  id : AssignmentId
  taskId : TaskId
  userId : UserId
  fulfilledRole : Option String
  status : AssignmentStatus
  assignedAt : Time
  completedAt : Option Time
  deriving DecidableEq, Repr

structure TaskDelegation where
  id : DelegationId
  taskId : TaskId
  organizationId : OrgId
  delegatedByUserId : Option UserId
  delegatedAt : Time
  isAccepted : Option Bool
  message : Option String
  deriving DecidableEq, Repr

structure OrganizationMember where
  id : MembershipId
  organizationId : OrgId
  userId : UserId
  orgRole : OrgRole
  isActive : Bool
  isDeputy : Bool := false
  deriving DecidableEq, Repr

structure Organization where
  id : OrgId
  name : String
  description : Option String
  logoUrl : Option String
  bannerUrl : Option String
  chatId : Option ChatId
  parentOrgId : Option OrgId
  tags : Option (List String)
  deriving DecidableEq, Repr

structure OrganizationJoinRequest where
  id : JoinRequestId
  organizationId : OrgId
  userId : UserId
  message : Option String
  status : JoinRequestStatus
  reviewedById : Option UserId
  reviewComment : Option String
  reviewedAt : Option Time
  deriving DecidableEq, Repr

/-- `@Column({ type: 'varchar', length: 255 })` -/
def chatNameLength : Nat := 255

/-- Whether the columns of a new user take these values. -/
def accountFits (email fullName : String) (phoneNumber : Option String) : Bool :=
  email.length ≤ 255 ∧ fullName.length ≤ 255 ∧
    (phoneNumber.all fun number => number.length ≤ 50) = true

structure Chat where
  id : ChatId
  type : ChatType
  relatedRequestId : Option RequestId
  name : String
  /-- The rows of `chat_participants` for this chat. -/
  participants : List UserId
  relatedOrgId : Option OrgId := none
  deriving DecidableEq, Repr

structure Message where
  id : MessageId
  chatId : ChatId
  senderId : Option UserId
  content : String
  messageType : MessageType
  attachmentUrl : Option String
  replyToId : Option MessageId
  sentAt : Time
  messageStatus : String := "sent"
  readBy : Option (List UserId) := some []
  deriving DecidableEq, Repr

structure ReportAttachment where
  url : String
  type : String
  name : String
  deriving DecidableEq, Repr

structure TaskReport where
  id : ReportId
  taskId : TaskId
  userId : UserId
  comment : String
  attachments : List ReportAttachment
  isVerified : Bool
  verifiedById : Option UserId
  verifiedAt : Option Time
  createdAt : Time
  deriving DecidableEq, Repr

structure SavedRequest where
  id : SavedId
  userId : UserId
  requestId : RequestId
  savedAt : Time
  deriving DecidableEq, Repr

/-! ## Unique constraints -/

/-- `@Unique(['voucheeId', 'voucherId'])` -/
def TrustVouch.slot (vouch : TrustVouch) : UserId × UserId := (vouch.voucheeId, vouch.voucherId)

/-- `@Unique(['taskId', 'userId'])` -/
def TaskAssignment.slot (assignment : TaskAssignment) : TaskId × UserId :=
  (assignment.taskId, assignment.userId)

/-- `@Unique('UQ_task_delegations_task_org', ['taskId', 'organizationId'])` -/
def TaskDelegation.slot (delegation : TaskDelegation) : TaskId × OrgId :=
  (delegation.taskId, delegation.organizationId)

/-- `@Unique(['organizationId', 'userId'])` -/
def OrganizationMember.slot (member : OrganizationMember) : OrgId × UserId :=
  (member.organizationId, member.userId)

/-- `@Index(['userId', 'requestId'], { unique: true })` -/
def SavedRequest.slot (saved : SavedRequest) : UserId × RequestId :=
  (saved.userId, saved.requestId)

def TaskAssignment.active (assignment : TaskAssignment) : Bool :=
  isActiveAssignmentStatus assignment.status

structure Db where
  users : Table User.id User.email
  vouches : Table TrustVouch.id TrustVouch.slot
  requests : Table Request.id Request.id
  tasks : Table Task.id Task.id
  assignments : Table TaskAssignment.id TaskAssignment.slot
  delegations : Table TaskDelegation.id TaskDelegation.slot
  members : Table OrganizationMember.id OrganizationMember.slot
  chats : Table Chat.id Chat.id
  savedRequests : Table SavedRequest.id SavedRequest.slot := Table.empty
  organizations : Table Organization.id Organization.id := Table.empty
  joinRequests : Table OrganizationJoinRequest.id OrganizationJoinRequest.id := Table.empty
  messages : Table Message.id Message.id := Table.empty
  taskReports : Table TaskReport.id TaskReport.id := Table.empty

/-! ## Lookups shared by the services -/

namespace Db

def findUser (db : Db) (id : UserId) : Option User :=
  db.users.findOne fun user => user.id = id

def findOrganization (db : Db) (id : OrgId) : Option Organization :=
  db.organizations.findOne fun organization => organization.id = id

/-- What a foreign key to an organization checks. -/
def hasOrganization (db : Db) (id : OrgId) : Bool := (db.findOrganization id).isSome

/-- What the foreign key of `managing_organization_id` checks. -/
def hasManager (db : Db) (organizationId : Option OrgId) : Bool :=
  organizationId.all db.hasOrganization

/-- What a foreign key to a user checks. -/
def hasUser (db : Db) (id : UserId) : Bool := (db.findUser id).isSome

def findRequest (db : Db) (id : RequestId) : Option Request :=
  db.requests.findOne fun request => request.id = id ∧ request.deletedAt = none

def findTask (db : Db) (id : TaskId) : Option Task :=
  db.tasks.findOne fun task => task.id = id ∧ task.deletedAt = none

def findAssignment (db : Db) (taskId : TaskId) (userId : UserId) : Option TaskAssignment :=
  db.assignments.findOne fun assignment =>
    assignment.taskId = taskId ∧ assignment.userId = userId

def assignmentsOf (db : Db) (taskId : TaskId) : List TaskAssignment :=
  db.assignments.find fun assignment => assignment.taskId = taskId

theorem findUser_some {db : Db} {id : UserId} {user : User} (found : db.findUser id = some user) :
    user ∈ db.users.rows ∧ user.id = id := by
  simpa [findUser] using Table.findOne_mem found

theorem findUser_of_mem {db : Db} {user : User} (member : user ∈ db.users.rows) :
    db.findUser user.id = some user := Table.findOne_key member

theorem findRequest_some {db : Db} {id : RequestId} {request : Request}
    (found : db.findRequest id = some request) :
    request ∈ db.requests.rows ∧ request.id = id ∧ request.deletedAt = none := by
  simpa [findRequest] using Table.findOne_mem found

theorem findRequest_of_mem {db : Db} {request : Request} (member : request ∈ db.requests.rows)
    (live : request.deletedAt = none) : db.findRequest request.id = some request := by
  apply Table.findOne_eq_some member (by simp [live])
  intro other otherMember hit
  simp only [decide_eq_true_eq] at hit
  exact Table.eq_of_key otherMember member hit.1

theorem findTask_some {db : Db} {id : TaskId} {task : Task} (found : db.findTask id = some task) :
    task ∈ db.tasks.rows ∧ task.id = id ∧ task.deletedAt = none := by
  simpa [findTask] using Table.findOne_mem found

theorem findTask_of_mem {db : Db} {task : Task} (member : task ∈ db.tasks.rows)
    (live : task.deletedAt = none) : db.findTask task.id = some task := by
  apply Table.findOne_eq_some member (by simp [live])
  intro other otherMember hit
  simp only [decide_eq_true_eq] at hit
  exact Table.eq_of_key otherMember member hit.1

theorem findAssignment_some {db : Db} {taskId : TaskId} {userId : UserId}
    {assignment : TaskAssignment} (found : db.findAssignment taskId userId = some assignment) :
    assignment ∈ db.assignments.rows ∧ assignment.taskId = taskId ∧
      assignment.userId = userId := by
  simpa [findAssignment] using Table.findOne_mem found

theorem findAssignment_of_mem {db : Db} {assignment : TaskAssignment}
    (member : assignment ∈ db.assignments.rows) :
    db.findAssignment assignment.taskId assignment.userId = some assignment := by
  apply Table.findOne_eq_some member (by simp)
  intro other otherMember hit
  simp only [decide_eq_true_eq] at hit
  exact Table.eq_of_uniq otherMember member (by simp [TaskAssignment.slot, hit])

@[simp] theorem mem_assignmentsOf {db : Db} {taskId : TaskId} {assignment : TaskAssignment} :
    assignment ∈ db.assignmentsOf taskId ↔
      assignment ∈ db.assignments.rows ∧ assignment.taskId = taskId := by
  simp [assignmentsOf]

end Db

end VolunteerApi
