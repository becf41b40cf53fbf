import VolunteerApi.Effects.ServerRows

/-!
# Who changes a request

The text of a request, its place, its category and its addenda are its owner's and the admins'.
Others reach only the columns that say how far the request has come and who looks after it, and
each of them in one way.
-/

set_option autoImplicit false

namespace VolunteerApi

open Relational Programs Db
open TasksService RequestsService

/-- The request without its progress: status, managing organization and cancellation. -/
def Request.contents (request : Request) : Request :=
  { request with
    status := .open
    managingOrganizationId := none
    cancelledByUserId := none
    cancelledAt := none
    cancelReason := none }

def Request.cancelRecord (request : Request) : Option UserId × Option Time × Option String :=
  (request.cancelledByUserId, request.cancelledAt, request.cancelReason)

/-- What the user has to be for what the call has made of the request. -/
structure RequestEntitled (db after : Db) (user : User) (old new : Request) : Prop where
  contents : new.contents ≠ old.contents → isOwnerOrAdmin old user = true
  status : new.status ≠ old.status → isOwnerOrAdmin old user = true ∨
    user.systemRole = .coordinator ∧ new.status = .cancelled ∨
      old.status = .open ∧ new.status = .inProgress ∧
        ∃ task ∈ db.tasks.rows, task.requestId = old.id ∧ after.HasTaken task.id user.id
  cancellation : new.cancelRecord ≠ old.cancelRecord → isOwnerOrAdmin old user = true ∨
    user.systemRole = .coordinator ∧ new.cancelledByUserId = some user.id
  managing : new.managingOrganizationId ≠ old.managingOrganizationId →
    isOwnerOrAdmin old user = true ∨
      (∃ organizationId, new.managingOrganizationId = some organizationId ∧
        Coordinates db organizationId user) ∨
      ∃ organizationId, old.managingOrganizationId = some organizationId ∧
        new.managingOrganizationId = none ∧
          OrganizationsOp.deletable db organizationId user = true

section Call

variable {db after : Db} {user : User} {old new : Request}

theorem RequestEntitled.of_mine (mine : isOwnerOrAdmin old user = true) :
    RequestEntitled db after user old new where
  contents _ := mine
  status _ := Or.inl mine
  cancellation _ := Or.inl mine
  managing _ := Or.inl mine

theorem RequestEntitled.same : RequestEntitled db after user old old where
  contents changed := absurd rfl changed
  status changed := absurd rfl changed
  cancellation changed := absurd rfl changed
  managing changed := absurd rfl changed

theorem mayCancel_cases {request : Request} (allowed : mayCancel request user = true) :
    isOwnerOrAdmin request user = true ∨ user.systemRole = .coordinator := by
  simp only [mayCancel, isOwnerOrAdmin, decide_eq_true_eq] at allowed ⊢
  tauto

theorem RequestSource.entitled {op : UserOp} (source : RequestSource db after user op new)
    (stored : old ∈ db.requests.rows) (same : new.id = old.id) :
    RequestEntitled db after user old new := by
  have isOld {row : Request} (rowStored : row ∈ db.requests.rows) (sameId : new.id = row.id) :
      row = old := Table.eq_of_key rowStored stored (sameId.symm.trans same)
  cases source with
  | kept _ _ newStored =>
      obtain rfl := isOld newStored rfl
      exact .same
  | created dto now => exact absurd same.symm (Table.key_ne_next stored)
  | edited _ row _ rowStored sameId mine =>
      obtain rfl := isOld rowStored sameId
      exact .of_mine mine
  | cancelled reason now row rowStored allowed =>
      obtain rfl := isOld rowStored rfl
      rcases mayCancel_cases allowed with mine | coordinator
      · exact .of_mine mine
      · exact
          { contents := fun changed => absurd rfl changed
            status := fun _ => Or.inr (Or.inl ⟨coordinator, rfl⟩)
            cancellation := fun _ => Or.inr ⟨coordinator, rfl⟩
            managing := fun changed => absurd rfl changed }
  | started dto now task row rowStored found ofTask untaken taken =>
      obtain rfl := isOld rowStored rfl
      exact
        { contents := fun changed => absurd rfl changed
          status := fun _ => Or.inr (Or.inr ⟨untaken, rfl, task, (Db.findTask_some found).1,
            ofTask.symm, taken⟩)
          cancellation := fun changed => absurd rfl changed
          managing := fun changed => absurd rfl changed }
  | managed taskId organizationId row rowStored coordinates =>
      obtain rfl := isOld rowStored rfl
      exact
        { contents := fun changed => absurd rfl changed
          status := fun changed => absurd rfl changed
          cancellation := fun changed => absurd rfl changed
          managing := fun _ => Or.inr (Or.inl ⟨organizationId, rfl, coordinates⟩) }
  | unmanaged id row rowStored managed deletable =>
      obtain rfl := isOld rowStored rfl
      exact
        { contents := fun changed => absurd rfl changed
          status := fun changed => absurd rfl changed
          cancellation := fun changed => absurd rfl changed
          managing := fun _ => Or.inr (Or.inr ⟨id, managed, rfl, deletable⟩) }

theorem Call.entitled (env : ServerEnv) (db : Db) (call : Call) {old new : Request}
    (stored : old ∈ db.requests.rows) (later : new ∈ (call.step env db).requests.rows)
    (same : new.id = old.id) :
    new = old ∨
      ∃ user, call.ActsFor db user ∧ RequestEntitled db (call.step env db) user old new := by
  have effect := call.effect env db
  generalize call.step env db = after at effect later ⊢
  cases effect with
  | refused => exact Or.inl (Table.eq_of_key later stored same)
  | served own user authenticates =>
      have source := UserOp.requestSource env db (own user) later
      exact Or.inr ⟨user, ⟨_, _, own, rfl, authenticates⟩, source.entitled stored same⟩
  | visited op =>
      have unchanged : (op.run env db).2.requests = db.requests :=
        (op.area env db).same .requests (by simp [peopleScope])
      exact Or.inl (Table.eq_of_key (unchanged ▸ later) stored same)

end Call

/-- In every state, a call changes a request only as its caller is entitled to: the contents as
the owner or an admin, the progress by cancelling, taking a task, accepting a delegation or
deleting the managing organization. -/
theorem request_changes (env : ServerEnv) (db : Db) (call : Call) :
    ∀ old ∈ db.requests.rows, ∃ new ∈ (call.step env db).requests.rows, new.id = old.id ∧
      (new = old ∨
        ∃ user, call.ActsFor db user ∧ RequestEntitled db (call.step env db) user old new) := by
  intro old stored
  obtain ⟨new, later, same, _⟩ := (call.evolves env db).requests old stored
  exact ⟨new, later, same, call.entitled env db stored later same⟩

theorem request_changes_taken :
    ∃ new ∈ (takingCall.step exampleServer (exampleBoard .local)).requests.rows, new.id = 0 ∧
      (new = exampleRequest .local ∨
        ∃ user, takingCall.ActsFor (exampleBoard .local) user ∧
          RequestEntitled (exampleBoard .local)
            (takingCall.step exampleServer (exampleBoard .local)) user
            (exampleRequest .local) new) :=
  request_changes exampleServer (exampleBoard .local) takingCall (exampleRequest .local)
    (by decide)

/-! ## Every run -/

/-- Someone who owns the request or is an admin made a call. -/
def CalledByOwner (env : ServerEnv) (db : Db) (calls : List Call) (request : Request) : Prop :=
  ∃ before call rest user, calls = before ++ call :: rest ∧
    call.ActsFor (execute (Call.step env) db before) user ∧ isOwnerOrAdmin request user = true

theorem CalledByOwner.later {env : ServerEnv} {db : Db} {call : Call} {calls : List Call}
    {request : Request} (called : CalledByOwner env (call.step env db) calls request) :
    CalledByOwner env db (call :: calls) request := by
  obtain ⟨before, made, rest, user, rfl, acts, mine⟩ := called
  exact ⟨call :: before, made, rest, user, rfl, acts, mine⟩

theorem isOwnerOrAdmin_becomes {old new : Request} (authorship : new.authorship = old.authorship)
    (user : User) : isOwnerOrAdmin new user = isOwnerOrAdmin old user := by
  simp only [Request.authorship, Prod.mk.injEq] at authorship
  simp only [isOwnerOrAdmin, authorship.1]

/-- The contents of a request are the same at the end of a run in which neither its owner nor an
admin has made a call. -/
theorem request_contents_kept (env : ServerEnv) (db : Db) (calls : List Call) (old : Request)
    (stored : old ∈ db.requests.rows) :
    ∃ new ∈ (execute (Call.step env) db calls).requests.rows, new.id = old.id ∧
      (new.contents = old.contents ∨ CalledByOwner env db calls old) := by
  induction calls generalizing db old with
  | nil => exact ⟨old, stored, rfl, Or.inl rfl⟩
  | cons call calls ih =>
      obtain ⟨mid, midStored, midId, authorship⟩ := (call.evolves env db).requests old stored
      obtain ⟨new, newStored, newId, ended⟩ := ih (call.step env db) mid midStored
      refine ⟨new, newStored, newId.trans midId, ?_⟩
      by_cases kept : mid.contents = old.contents
      · rcases ended with same | ⟨before, made, rest, user, split, acts, mine⟩
        · exact Or.inl (same.trans kept)
        · rw [isOwnerOrAdmin_becomes authorship] at mine
          exact Or.inr (CalledByOwner.later ⟨before, made, rest, user, split, acts, mine⟩)
      · -- the first call has changed them
        rcases call.entitled env db stored midStored midId with rfl | ⟨user, acts, entitled⟩
        · exact absurd rfl kept
        · exact Or.inr ⟨[], call, calls, user, rfl, acts, entitled.contents kept⟩

theorem request_contents_kept_taken :
    ∃ new ∈ (execute (Call.step exampleServer) (exampleBoard .local) [takingCall]).requests.rows,
      new.id = 0 ∧ (new.contents = (exampleRequest .local).contents ∨
        CalledByOwner exampleServer (exampleBoard .local) [takingCall] (exampleRequest .local)) :=
  request_contents_kept exampleServer (exampleBoard .local) [takingCall] (exampleRequest .local)
    (by decide)

end VolunteerApi
