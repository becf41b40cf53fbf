import Mathlib.Logic.Basic

/-!
# Enumerations and identifiers

The enumerations of `common/enums` that the modelled services read or write,
the exceptions they throw, and the identifiers of the stored rows.  A uuid is
modelled by the number the table generated for the row.
-/

set_option autoImplicit false

namespace VolunteerApi

abbrev UserId := Nat
abbrev VouchId := Nat
abbrev RequestId := Nat
abbrev TaskId := Nat
abbrev AssignmentId := Nat
abbrev DelegationId := Nat
abbrev MembershipId := Nat
abbrev ChatId := Nat
abbrev OrgId := Nat
abbrev InfoId := Nat
abbrev SavedId := Nat
abbrev JoinRequestId := Nat
abbrev MessageId := Nat
abbrev ReportId := Nat

/-- A `Date`, in milliseconds. -/
abbrev Time := Nat

inductive SystemRole where
  | admin
  | coordinator
  | volunteer
  | requester
  deriving DecidableEq, Repr

inductive ClearanceLevel where
  | local
  | international
  | frontline
  deriving DecidableEq, Repr

inductive OrgRole where
  | leader
  | coordinator
  | member
  deriving DecidableEq, Repr

inductive RequestCategory where
  | medical
  | evacuation
  | logistics
  | military
  | humanitarian
  | shelter
  | psychological
  | other
  deriving DecidableEq, Repr

inductive RequestUrgency where
  | low
  | medium
  | high
  | critical
  deriving DecidableEq, Repr

inductive RequestStatus where
  | open
  | inProgress
  | partiallyDone
  | pendingReview
  | completed
  | cancelled
  deriving DecidableEq, Repr

inductive TaskStatus where
  | todo
  | inProgress
  | pendingReview
  | done
  | cancelled
  deriving DecidableEq, Repr

inductive TaskOrigin where
  | requester
  | coordinator
  | admin
  | organization
  | system
  deriving DecidableEq, Repr

inductive AssignmentStatus where
  | assigned
  | enRoute
  | onSite
  | completed
  | withdrawn
  deriving DecidableEq, Repr

inductive ChatType where
  | taskChat
  | orgChat
  | direct
  deriving DecidableEq, Repr

inductive MessageType where
  | text
  | attachment
  | system
  deriving DecidableEq, Repr

inductive JoinRequestStatus where
  | pending
  | approved
  | rejected
  deriving DecidableEq, Repr

/-- The text of the level in requests and messages. -/
def ClearanceLevel.value : ClearanceLevel → String
  | .local => "local"
  | .international => "international"
  | .frontline => "frontline"

/-- The text of the status in requests and in the database. -/
def AssignmentStatus.value : AssignmentStatus → String
  | .assigned => "assigned"
  | .enRoute => "en_route"
  | .onSite => "on_site"
  | .completed => "completed"
  | .withdrawn => "withdrawn"

/-- The ranks of `checkClearanceAccess` and `getClearanceRank`. -/
def ClearanceLevel.rank : ClearanceLevel → Nat
  | .local => 0
  | .international => 1
  | .frontline => 2

/-- Neither `WITHDRAWN` nor `COMPLETED`. -/
def isActiveAssignmentStatus (status : AssignmentStatus) : Bool :=
  status ≠ .withdrawn ∧ status ≠ .completed

@[simp] theorem isActiveAssignmentStatus_iff (status : AssignmentStatus) :
    isActiveAssignmentStatus status = true ↔
      status = .assigned ∨ status = .enRoute ∨ status = .onSite := by
  cases status <;> simp [isActiveAssignmentStatus]

/-- A value that no pipe checks: missing, one the column can hold, or one the database
refuses. -/
inductive BodyValue (α : Type) where
  | absent
  | value (given : α)
  | unreadable
  deriving DecidableEq, Repr

/-- What a `save` stores when the property is assigned: a missing value leaves the column. -/
def BodyValue.over {α : Type} (body : BodyValue α) (old : α) : Option α :=
  match body with
  | .absent => some old
  | .value given => some given
  | .unreadable => none

/-- What a service method can end with instead of a result.  `typeError` is a
property read of `null`, `queryFailed` a statement the database refused,
`internal` a plain `Error`. -/
inductive HttpException where
  | notFound (message : String)
  | forbidden (message : String)
  | badRequest (message : String)
  | conflict (message : String)
  | unauthorized (message : String)
  | typeError
  | queryFailed (message : String)
  | internal (message : String)
  deriving DecidableEq, Repr

end VolunteerApi
