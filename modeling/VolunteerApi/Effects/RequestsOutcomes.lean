import VolunteerApi.Effects.TasksEffects

/-!
# What each `RequestsService` method leaves behind

A method adds a request with its first task, saves the request it loaded, or
soft-deletes it.  None of them touches assignments or chats.
-/

set_option autoImplicit false

namespace VolunteerApi

open Relational Programs

namespace RequestsService

def withRequest (db : Db) (request : Request) : Db :=
  { db with requests := db.requests.saveAll [request] }

/-- The request that was found is saved under the same head. -/
def Saved (db after : Db) : Prop :=
  ∃ old new, db.findRequest old.id = some old ∧ new.head = old.head ∧ after = withRequest db new

theorem saved_of {db : Db} {id : RequestId} {old : Request} (new : Request)
    (found : db.findRequest id = some old) (same : new.head = old.head) :
    Saved db (withRequest db new) := by
  obtain ⟨_, rfl, _⟩ := Db.findRequest_some found
  exact ⟨old, new, found, same, rfl⟩

theorem loadOwned_guarded (id : RequestId) (requester : User) (refusal : String) (db : Db) :
    (loadOwned id requester refusal).Guarded db fun request after =>
      after = db ∧ db.findRequest id = some request := by
  refine Prog.guarded_query_bind (Prog.guarded_orThrow_bind ?_)
  intro request found
  apply Prog.guarded_throwIf_bind
  intro _
  exact Prog.guarded_ret ⟨rfl, found⟩

theorem insertRequest_guarded (new : RequestId → Request) (newId : ∀ n, (new n).id = n) (db : Db) :
    (insertRequest new newId).Guarded db fun saved after =>
      saved = new db.requests.next ∧ after = { db with requests := db.requests.append new newId } := by
  apply Prog.guarded_execOr
  intro result inserted
  cases (Option.ite_none_right_eq_some.mp inserted).2
  exact ⟨rfl, rfl⟩

theorem create_guarded (dto : CreateRequestDto) (creator : User) (now : Time) (db : Db) :
    (create dto creator now).Guarded db fun _ after =>
      after = { db with
        requests := db.requests.append (newRequest dto creator now)
        tasks := db.tasks.append (autoTask db.requests.next creator) } := by
  refine Prog.guarded_bind_of_total (insertRequest_guarded _ _ db) ?_
  rintro _ _ ⟨rfl, rfl⟩
  exact ⟨_, _, rfl, rfl⟩

theorem saveManaged_guarded (given : Option OrgId) (request : Request) (db : Db) :
    (saveManaged given request).Guarded db fun _ after => after = withRequest db request := by
  apply Prog.guarded_execOr
  intro result saved
  cases (Option.ite_none_right_eq_some.mp saved).2
  rfl

theorem update_guarded (id : RequestId) (dto : UpdateRequestDto) (requester : User) (db : Db) :
    (update id dto requester).Guarded db fun _ after => Saved db after := by
  refine Prog.guarded_query_bind (Prog.guarded_orThrow_bind ?_)
  intro loaded hit
  obtain ⟨request, found, rfl⟩ := Option.map_eq_some_iff.mp hit
  apply Prog.guarded_throwIf_bind
  intro _
  apply Prog.guarded_throwIf_bind
  intro _
  refine Prog.guarded_bind_of_total (saveManaged_guarded _ _ db) ?_
  rintro _ _ rfl
  exact ⟨_, _, rfl, saved_of (UpdateRequestDto.assign dto request) found rfl⟩

/-- Only an admin removes a request somebody is active on. -/
theorem remove_guarded (id : RequestId) (requester : User) (now : Time) (db : Db) :
    (remove id requester now).Guarded db fun _ after =>
      ∃ request, db.findRequest id = some request ∧
        (requester.systemRole ≠ .admin →
          (loadedAssignments db id).any TaskAssignment.active = false) ∧
        after = { db with
          requests := db.requests.update (fun request => request.id = id) (deletedPatch now) } := by
  refine Prog.guarded_query_bind (Prog.guarded_orThrow_bind ?_)
  intro loaded hit
  obtain ⟨request, found, rfl⟩ := Option.map_eq_some_iff.mp hit
  apply Prog.guarded_throwIf_bind
  intro _
  apply Prog.guarded_throwIf_bind
  intro unused
  refine Prog.guarded_of_run _ _ rfl ⟨request, found, ?_, rfl⟩
  intro notAdmin
  simp only [not_and, not_or] at unused
  simpa using (unused notAdmin).2

theorem addInfo_guarded (id : RequestId) (dto : AddInfoRequestDto) (requester : User)
    (infoId : InfoId) (now : Time) (db : Db) :
    (addInfo id dto requester infoId now).Guarded db fun _ after => Saved db after := by
  apply Prog.guarded_bind_of_check (loadOwned_guarded id requester _ db)
  intro request found
  exact Prog.guarded_of_run _ _ rfl (saved_of _ found rfl)

theorem editableInfo_guarded (request : Request) (infoId : InfoId) (requester : User)
    (now : Time) (refusal : String) (db : Db) :
    (editableInfo request infoId requester now refusal).Guarded db fun _ after =>
      after = db ∧ True := by
  apply Prog.guarded_orThrow_bind
  intro info _
  apply Prog.guarded_throwIf_bind
  intro _
  exact Prog.guarded_ret ⟨rfl, trivial⟩

theorem updateAdditionalInfo_guarded (id : RequestId) (infoId : InfoId) (dto : AddInfoRequestDto)
    (requester : User) (now : Time) (db : Db) :
    (updateAdditionalInfo id infoId dto requester now).Guarded db fun _ after =>
      Saved db after := by
  apply Prog.guarded_bind_of_check (loadOwned_guarded id requester _ db)
  intro request found
  apply Prog.guarded_bind_of_check (editableInfo_guarded request infoId requester now _ db)
  intro info _
  exact Prog.guarded_of_run _ _ rfl (saved_of _ found rfl)

theorem removeAdditionalInfo_guarded (id : RequestId) (infoId : InfoId) (requester : User)
    (now : Time) (db : Db) :
    (removeAdditionalInfo id infoId requester now).Guarded db fun _ after => Saved db after := by
  apply Prog.guarded_bind_of_check (loadOwned_guarded id requester _ db)
  intro request found
  apply Prog.guarded_bind_of_check (editableInfo_guarded request infoId requester now _ db)
  intro _ _
  exact Prog.guarded_of_run _ _ rfl (saved_of _ found rfl)

theorem markAsPendingReview_guarded (id : RequestId) (user : User) (db : Db) :
    (markAsPendingReview id user).Guarded db fun _ after => Saved db after := by
  apply Prog.guarded_bind_of_check (loadOwned_guarded id user _ db)
  intro request found
  exact Prog.guarded_of_run _ _ rfl (saved_of _ found rfl)

theorem cancel_guarded (id : RequestId) (reason : Option String) (user : User) (now : Time)
    (db : Db) :
    (cancel id reason user now).Guarded db fun _ after => Saved db after := by
  refine Prog.guarded_query_bind (Prog.guarded_orThrow_bind ?_)
  intro request found
  apply Prog.guarded_throwIf_bind
  intro _
  apply Prog.guarded_throwIf_bind
  intro _
  exact Prog.guarded_of_run _ _ rfl (saved_of _ found rfl)

theorem confirmCompletion_guarded (id : RequestId) (user : User) (db : Db) :
    (confirmCompletion id user).Guarded db fun _ after => Saved db after := by
  apply Prog.guarded_bind_of_check (loadOwned_guarded id user _ db)
  intro request found
  exact Prog.guarded_of_run _ _ rfl (saved_of _ found rfl)

theorem returnToProgress_guarded (id : RequestId) (user : User) (now : Time) (db : Db) :
    (returnToProgress id user now).Guarded db fun _ after => Saved db after := by
  apply Prog.guarded_bind_of_check (loadOwned_guarded id user _ db)
  intro request found
  by_cases cancelled : request.status = .cancelled
  · rw [if_pos cancelled]
    apply Prog.guarded_orThrow_bind
    intro cancelledAt _
    apply Prog.guarded_throwIf_bind
    intro _
    exact Prog.guarded_of_run _ _ rfl (saved_of _ found rfl)
  · rw [if_neg cancelled]
    exact Prog.guarded_of_run _ _ rfl (saved_of _ found rfl)

end RequestsService

open RequestsService

/-! ## What a call can change -/

inductive RequestsEffect (db : Db) : RequestsOp → Db → Prop
  | unchanged (op : RequestsOp) : RequestsEffect db op db
  | created (dto : CreateRequestDto) (user : User) (now : Time) :
      RequestsEffect db (.create dto user now)
        { db with
          requests := db.requests.append (newRequest dto user now)
          tasks := db.tasks.append (autoTask db.requests.next user) }
  | saved (op : RequestsOp) (old new : Request) (found : db.findRequest old.id = some old)
      (same : new.head = old.head) : RequestsEffect db op (withRequest db new)
  | removed (id : RequestId) (user : User) (now : Time) (request : Request)
      (found : db.findRequest id = some request)
      (unused : user.systemRole ≠ .admin →
        (loadedAssignments db id).any TaskAssignment.active = false) :
      RequestsEffect db (.remove id user now)
        { db with
          requests := db.requests.update (fun request => request.id = id) (deletedPatch now) }

namespace RequestsEffect

variable {db after : Db} {op : RequestsOp}

theorem of_guarded {α : Type} {program : Service α} {Post : α → Db → Prop}
    (guarded : program.Guarded db Post)
    (effect : ∀ value after, Post value after → RequestsEffect db op after) :
    RequestsEffect db op (program.run db).2 := by
  exact Prog.Guarded.after (motive := RequestsEffect db op) guarded (.unchanged op) effect

theorem of_saved {α : Type} {program : Service α}
    (guarded : program.Guarded db fun _ after => Saved db after) :
    RequestsEffect db op (program.run db).2 := by
  apply of_guarded guarded
  intro _ _ post
  obtain ⟨old, new, found, same, rfl⟩ := post
  exact .saved op old new found same

theorem assignments_eq (effect : RequestsEffect db op after) :
    after.assignments = db.assignments := by
  cases effect <;> rfl

end RequestsEffect

theorem RequestsOp.effect (db : Db) (op : RequestsOp) :
    RequestsEffect db op (op.run db).2 := by
  cases op with
  | create dto user now =>
      apply RequestsEffect.of_guarded (create_guarded dto user now db)
      intro _ _ post
      obtain rfl := post
      exact .created dto user now
  | update id dto user => exact .of_saved (update_guarded id dto user db)
  | addInfo id dto user infoId now => exact .of_saved (addInfo_guarded id dto user infoId now db)
  | updateAdditionalInfo id infoId dto user now =>
      exact .of_saved (updateAdditionalInfo_guarded id infoId dto user now db)
  | removeAdditionalInfo id infoId user now =>
      exact .of_saved (removeAdditionalInfo_guarded id infoId user now db)
  | remove id user now =>
      apply RequestsEffect.of_guarded (remove_guarded id user now db)
      intro _ _ post
      obtain ⟨request, found, unused, rfl⟩ := post
      exact .removed id user now request found unused
  | markAsPendingReview id user => exact .of_saved (markAsPendingReview_guarded id user db)
  | cancel id reason user now => exact .of_saved (cancel_guarded id reason user now db)
  | confirmCompletion id user => exact .of_saved (confirmCompletion_guarded id user db)
  | returnToProgress id user now => exact .of_saved (returnToProgress_guarded id user now db)

end VolunteerApi
