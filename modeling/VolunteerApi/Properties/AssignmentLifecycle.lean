import VolunteerApi.Effects.RequestsOutcomes
import VolunteerApi.Effects.UsersOutcomes

/-!
# The life of an assignment

What one call can do to the status of a stored assignment, over all operations
of the services.  A confirmation and a rejection update assignments in bulk, but
the save that follows writes them back as they were loaded.
-/

set_option autoImplicit false

namespace VolunteerApi

open Relational Programs
open TasksService

/-- The changes of an assignment's status there are, by the operation that makes them. -/
inductive StatusChange (db : Db) (row : TaskAssignment) : Op → AssignmentStatus → Prop
  | none (op : Op) : StatusChange db row op row.status
  | moved (newStatus : String) (user : User) (next : AssignmentStatus)
      (owner : user.id = row.userId) (active : row.active = true)
      (allowed : isActiveAssignmentStatus next = true) :
      StatusChange db row (.tasks (.updateAssignmentStatus row.taskId newStatus user)) next
  | left (user : User) (owner : user.id = row.userId) (active : row.active = true) :
      StatusChange db row (.tasks (.withdrawAssignment row.taskId user)) .withdrawn
  | recalculated (op : UsersOp) (loses : Recalculates db op row.userId)
      (active : row.active = true) : StatusChange db row (.users op) .withdrawn
  | confirmed (user : User) (now : Time) (assigned : row.status = .assigned) :
      StatusChange db row (.tasks (.confirmTaskCompletion row.taskId user now)) .completed
  | rejected (user : User) (completed : row.status = .completed) :
      StatusChange db row (.tasks (.rejectTask row.taskId user)) .assigned
  | retaken (dto : AssignTaskDto) (user : User) (now : Time) (owner : user.id = row.userId)
      (withdrawn : row.status = .withdrawn) :
      StatusChange db row (.tasks (.assignVolunteer row.taskId dto user now)) .assigned

/-- A `COMPLETED` row is never withdrawn and a `WITHDRAWN` one only assigned. -/
theorem StatusChange.guarded {db : Db} {row : TaskAssignment} {op : Op} {next : AssignmentStatus}
    (change : StatusChange db row op next) :
    (row.status = .completed → next ≠ .withdrawn) ∧
      (row.status = .withdrawn → next = .withdrawn ∨ next = .assigned) := by
  cases change with
  | none =>
      constructor
      · intro completed withdrawn
        rw [completed] at withdrawn
        cases withdrawn
      · intro withdrawn
        exact Or.inl withdrawn
  | moved newStatus user next owner active allowed =>
      constructor
      · intro _ withdrawn
        rw [withdrawn] at allowed
        cases allowed
      · intro withdrawn
        simp [TaskAssignment.active, withdrawn] at active
  | left user owner active =>
      constructor
      · intro completed
        simp [TaskAssignment.active, completed] at active
      · intro _
        exact Or.inl rfl
  | recalculated op loses active =>
      constructor
      · intro completed
        simp [TaskAssignment.active, completed] at active
      · intro _
        exact Or.inl rfl
  | confirmed user now assigned =>
      constructor
      · intro _ withdrawn
        cases withdrawn
      · intro withdrawn
        rw [assigned] at withdrawn
        cases withdrawn
  | rejected user completed =>
      constructor
      · intro _ withdrawn
        cases withdrawn
      · intro _
        exact Or.inr rfl
  | retaken dto user now owner withdrawn =>
      constructor
      · intro completed
        rw [withdrawn] at completed
        cases completed
      · intro _
        exact Or.inr rfl

/-- What a call makes of a stored assignment.  In particular it never takes a
`COMPLETED` row to `WITHDRAWN`, or a `WITHDRAWN` row anywhere but to `ASSIGNED`. -/
def Lifecycle (required : Nat) (db : Db) (op : Op) : Prop :=
  ∀ row ∈ db.assignments.rows, ∃ later ∈ (op.step required db).assignments.rows,
    later.id = row.id ∧ later.taskId = row.taskId ∧ later.userId = row.userId ∧
      StatusChange db row op later.status ∧
      (row.status = .completed → later.status ≠ .withdrawn) ∧
      (row.status = .withdrawn → later.status = .withdrawn ∨ later.status = .assigned)

theorem TasksEffect.assignment_survives {required : Nat} {db after : Db} {op : TasksOp}
    (effect : TasksEffect required db op after) {row : TaskAssignment}
    (member : row ∈ db.assignments.rows) : ∃ later ∈ after.assignments.rows, later.id = row.id := by
  cases effect with
  | quiet _ _ same => exact ⟨row, same.assignments ▸ member, rfl⟩
  | created requestId dto user request present => exact ⟨row, member, rfl⟩
  | edited _ task new _ found edit tasks assignments chats requests =>
      exact ⟨row, assignments ▸ member, rfl⟩
  | assigned taskId dto user now task request _ assigned =>
      obtain ⟨assignments, tasks, chats, upserted, _, rfl⟩ := assigned.effect
      cases upserted with
      | retaken existing found left => exact Table.survives_update _ _ member
      | fresh _ missing inserted =>
          exact ⟨row, ((Table.added_insert inserted).mem row).mpr (Or.inl member), rfl⟩
  | withdrawn taskId user assignment found unfinished =>
      rw [withdrawn_assignments]
      exact Table.survives_update _ _ member
  | moved taskId newStatus user assignment status found active allowed =>
      exact Table.survives_update _ _ member

theorem RowOrigin.change {db : Db} {op : TasksOp} {row later : TaskAssignment}
    (member : row ∈ db.assignments.rows) (same : later.id = row.id)
    (origin : RowOrigin db op later) :
    later.taskId = row.taskId ∧ later.userId = row.userId ∧
      StatusChange db row (.tasks op) later.status := by
  cases origin with
  | kept _ _ old =>
      rw [Table.eq_of_key old member same]
      exact ⟨rfl, rfl, .none _⟩
  | retaken dto user now old live oldMember owner left =>
      have oldEq : old = row := Table.eq_of_key oldMember member same
      subst oldEq
      exact ⟨rfl, rfl, .retaken dto user now owner.symm left⟩
  | fresh taskId dto user now live =>
      exact absurd same.symm (Table.key_ne_next member)
  | left user old oldMember owner unfinished =>
      have oldEq : old = row := Table.eq_of_key oldMember member same
      subst oldEq
      refine ⟨rfl, rfl, ?_⟩
      by_cases withdrawn : old.status = .withdrawn
      · have unchanged : (withdrawnPatch.run old).status = old.status := withdrawn.symm
        rw [unchanged]
        exact .none _
      · refine .left user owner.symm ?_
        simp [TaskAssignment.active, isActiveAssignmentStatus, withdrawn, unfinished]
  | moved newStatus user old status oldMember owner active allowed =>
      have oldEq : old = row := Table.eq_of_key oldMember member same
      subst oldEq
      exact ⟨rfl, rfl, .moved newStatus user status owner.symm active allowed⟩

theorem statusChange_step (required : Nat) (db : Db) (op : Op) {row : TaskAssignment}
    (member : row ∈ db.assignments.rows) :
    ∃ later ∈ (op.step required db).assignments.rows, later.id = row.id ∧
      later.taskId = row.taskId ∧ later.userId = row.userId ∧
      StatusChange db row op later.status := by
  cases op with
  | tasks op =>
      have effect := TasksOp.effect required db op
      obtain ⟨later, laterMember, same⟩ := effect.assignment_survives member
      exact ⟨later, laterMember, same, (effect.origin laterMember).change member same⟩
  | users op =>
      have effect := UsersOp.effect required db op
      obtain ⟨later, laterMember, same⟩ := effect.survives row member
      refine ⟨later, laterMember, same, ?_⟩
      rcases effect.assignments later laterMember with old | ⟨old, oldMember, rfl, active, loses⟩
      · rw [Table.eq_of_key old member same]
        exact ⟨rfl, rfl, .none _⟩
      · have oldEq : old = row := Table.eq_of_key oldMember member same
        subst oldEq
        exact ⟨rfl, rfl, .recalculated op loses active⟩
  | requests op =>
      have unchanged := (RequestsOp.effect db op).assignments_eq
      exact ⟨row, unchanged ▸ member, rfl, rfl, rfl, .none _⟩

theorem lifecycle_step (required : Nat) (db : Db) (op : Op) : Lifecycle required db op := by
  intro row member
  obtain ⟨later, laterMember, same, sameTask, sameUser, change⟩ :=
    statusChange_step required db op member
  exact ⟨later, laterMember, same, sameTask, sameUser, change, change.guarded⟩

/-- In every run, every call changes the status of a stored assignment in one of
the listed ways or not at all. -/
theorem lifecycle_throughout (required : Nat) (db : Db) (ops : List Op) :
    Throughout (Op.step required) (Lifecycle required) db ops := by
  apply throughout_iff.mpr
  intro first op second _
  exact lifecycle_step required _ op

end VolunteerApi
