import VolunteerApi.Effects.ChatOutcomes
import VolunteerApi.Effects.ContentWrites
import VolunteerApi.Effects.ServerAreas

/-!
# What a call of the server does

A call is refused, acts for the user whom the guard has loaded, or is a visitor's.  Executed
alone, the programs of the routes do what the calls of the services do.
-/

set_option autoImplicit false

namespace VolunteerApi

open Relational Programs Db

/-! ## The programs and the service calls -/

theorem TasksOp.run_program (required : Nat) (db : Db) (op : TasksOp) :
    (if op.transactional = true then (op.program required).runTx db
      else (op.program required).run db) = op.run required db := by
  cases op with
  | assignVolunteer taskId dto user now =>
      simp only [TasksOp.transactional, if_true]
      exact Prog.runTx_discard _ _
  | _ =>
      rw [if_neg (by simp [TasksOp.transactional])]
      exact Prog.run_discard _ _

theorem UsersOp.run_program (required : Nat) (db : Db) (op : UsersOp) :
    (op.program required).run db = op.run required db := by
  cases op <;> exact Prog.run_discard _ _

theorem RequestsOp.run_program (db : Db) (op : RequestsOp) : op.program.run db = op.run db := by
  cases op <;> exact Prog.run_discard _ _

theorem OrganizationsOp.run_program (db : Db) (op : OrganizationsOp) :
    op.program.run db = op.run db := by
  cases op <;> exact Prog.run_discard _ _

theorem UserOp.run_tasks (env : ServerEnv) (db : Db) (op : TasksOp) :
    UserOp.run env db (.tasks op) = op.run env.required db := op.run_program env.required db

theorem UserOp.run_users (env : ServerEnv) (db : Db) (op : UsersOp) :
    UserOp.run env db (.users op) = op.run env.required db := op.run_program env.required db

theorem UserOp.run_requests (env : ServerEnv) (db : Db) (op : RequestsOp) :
    UserOp.run env db (.requests op) = op.run db := op.run_program db

theorem UserOp.run_organizations (env : ServerEnv) (db : Db) (op : OrganizationsOp) :
    UserOp.run env db (.organizations op) = op.run db := op.run_program db

/-! ## The guard -/

/-- The guard lets the token pass and loads this user. -/
structure Authenticates (db : Db) (payload : JwtClaims) (user : User) : Prop where
  loads : ∃ row ∈ db.users.rows, row.id = payload.sub ∧ row.isBlocked = false ∧
    user = row.select.entity

namespace Authenticates

variable {db : Db} {payload : JwtClaims} {user : User}

theorem row (authenticates : Authenticates db payload user) :
    ∃ row ∈ db.users.rows, row.id = user.id ∧ row.isBlocked = false ∧
      row.systemRole = user.systemRole ∧ row.clearanceLevel = user.clearanceLevel := by
  obtain ⟨row, stored, _, unblocked, rfl⟩ := authenticates.loads
  exact ⟨row, stored, rfl, unblocked, rfl, rfl⟩

/-- The guard does not load the column. -/
theorem unverified (authenticates : Authenticates db payload user) :
    user.isEmailVerified = false := by
  obtain ⟨row, _, _, _, rfl⟩ := authenticates.loads
  rfl

theorem id_eq (authenticates : Authenticates db payload user) : user.id = payload.sub := by
  obtain ⟨row, _, named, _, rfl⟩ := authenticates.loads
  exact named

end Authenticates

theorem JwtStrategy.validate_ran (payload : JwtClaims) (db : Db) :
    (∃ error, (validate payload).run db = (.error error, db)) ∨
      ∃ user, (validate payload).run db = (.ok user, db) ∧ Authenticates db payload user := by
  simp only [validate, Prog.bind_eq, Prog.run_query_bind, Prog.run_orThrow_bind]
  cases found : db.findUser payload.sub with
  | none => exact Or.inl ⟨_, rfl⟩
  | some row =>
      obtain ⟨stored, named⟩ := findUser_some found
      simp only [Option.map_some, Prog.run_throwIf_bind]
      split
      · exact Or.inl ⟨_, rfl⟩
      · next unblocked =>
        exact Or.inr ⟨_, rfl, ⟨row, stored, named, by simpa [User.select] using unblocked, rfl⟩⟩

/-! ## A call -/

inductive CallEffect (env : ServerEnv) (db : Db) : Call → Db → Prop
  | refused (call : Call) : CallEffect env db call db
  | served {payload : JwtClaims} {op : User → UserOp} (own : ∀ user, (op user).By user)
      (user : User) (authenticates : Authenticates db payload user) :
      CallEffect env db (.user payload op own) ((op user).run env db).2
  | visited (op : VisitorOp) : CallEffect env db (.visitor op) (op.run env db).2

theorem Call.effect (env : ServerEnv) (db : Db) (call : Call) :
    CallEffect env db call (call.step env db) := by
  cases call with
  | visitor op => exact .visited op
  | user payload op own =>
      rcases JwtStrategy.validate_ran payload db with ⟨error, ended⟩ | ⟨user, ended, authenticates⟩
      · simp only [Call.step, Call.run, ended]
        exact .refused _
      · simp only [Call.step, Call.run, ended]
        exact .served own user authenticates

/-- What every route keeps to, every call keeps to. -/
theorem Call.step_of (env : ServerEnv) {R : Db → Db → Prop} (refl : ∀ db, R db db)
    (visitor : ∀ db op, R db (VisitorOp.run env db op).2)
    (route : ∀ db payload user op, Authenticates db payload user → UserOp.By user op →
      R db (op.run env db).2) (db : Db) (call : Call) : R db (call.step env db) := by
  have effect := call.effect env db
  generalize call.step env db = after at effect
  cases effect with
  | refused => exact refl db
  | served own user authenticates => exact route db _ user _ authenticates (own user)
  | visited op => exact visitor db op

/-- The call acts for the user. -/
def Call.ActsFor (db : Db) (user : User) (call : Call) : Prop :=
  ∃ payload op own, call = .user payload op own ∧ Authenticates db payload user

theorem Call.evolves (env : ServerEnv) (db : Db) (call : Call) : db.Evolves (call.step env db) :=
  Call.step_of env Db.Evolves.refl (fun db op => (op.area env db).evolves)
    (fun db _ _ op _ _ => (op.area env db).evolves) db call

end VolunteerApi
