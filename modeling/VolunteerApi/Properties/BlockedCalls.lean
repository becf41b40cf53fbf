import VolunteerApi.Properties.BlockedSessions
import VolunteerApi.Properties.Standing
import VolunteerApi.Properties.VouchEndpoint

/-!
# What a blocked user can do with his access token

Nothing: the guard refuses every call with it, so that the others find the database as if he had
not made those calls.  The routes that everybody may call are not behind the guard; a refresh is
one of them.
-/

set_option autoImplicit false

namespace VolunteerApi

open Relational Programs Db

def Db.Blocks (db : Db) (userId : UserId) : Prop :=
  ∃ row ∈ db.users.rows, row.id = userId ∧ row.isBlocked = true

def Call.Unblocks (userId : UserId) : Call → Prop
  | .user _ op _ => ∃ user caller, op user = .users (.unblockUser userId caller)
  | .visitor _ => False

def blockedAnswer : HttpException := .unauthorized "Обліковий запис заблоковано"

variable {env : ServerEnv} {db : Db} {userId : UserId} {call : Call}

theorem blocks_of_within {after : Db} {scope : Scope} (moves : scope.Moves db.users after.users)
    (blocks : db.Blocks userId) (outside : ∀ account, ¬ scope.columns account .isBlocked) :
    after.Blocks userId := by
  obtain ⟨row, stored, rfl, flagged⟩ := blocks
  obtain ⟨later, laterStored, sameId, within⟩ := moves.evolves row stored
  exact ⟨later, laterStored, sameId, (within.same .isBlocked (outside _)).trans flagged⟩

/-- Outside `UsersService` nothing writes the flag, and there only `unblockUser` takes it. -/
theorem UserOp.run_blocks (blocks : db.Blocks userId) {op : UserOp}
    (stays : ∀ caller, op ≠ .users (.unblockUser userId caller)) :
    (op.run env db).2.Blocks userId := by
  cases op with
  | users op =>
      obtain ⟨row, stored, rfl, flagged⟩ := blocks
      rw [UserOp.run_users]
      have effect := ApiOp.trustEffect env.required db (.users op)
      obtain ⟨later, laterStored, sameId, still⟩ := keepsFlags_of_effect effect row stored flagged
        fun ⟨caller, same⟩ => stays caller (congrArg UserOp.users (ApiOp.users.inj same))
      exact ⟨later, laterStored, sameId, still⟩
  | tasks op =>
      refine blocks_of_within (UserOp.area env db (.tasks op)).users blocks ?_
      intro account inside
      cases op <;> cases inside
  | personal op =>
      refine blocks_of_within (UserOp.area env db (.personal op)).users blocks ?_
      intro account inside
      cases op with
      | logout userId | changePassword userId dto salt => cases inside.2
      | resendVerification userId token now => exact absurd inside.2 (by decide)
      | _ => exact inside
  | requests op | content op | organizations op | conversations op | reports op =>
      exact blocks_of_within (UserOp.area env db _).users blocks fun _ inside => inside

theorem blocks_step (blocks : db.Blocks userId) (stays : ¬ call.Unblocks userId) :
    (call.step env db).Blocks userId := by
  have effect := call.effect env db
  generalize call.step env db = after at effect
  cases effect with
  | refused => exact blocks
  | @served payload op own user authenticates =>
      exact UserOp.run_blocks blocks fun caller same => stays ⟨user, caller, same⟩
  | visited op =>
      refine blocks_of_within (op.area env db).users blocks ?_
      exact fun account => op.not_writes_standing env account (by decide)

theorem run_of_blocked (blocks : db.Blocks userId) (named : call.InNameOf userId) :
    call.run env db = (.error blockedAnswer, db) := by
  cases call with
  | visitor op => exact named.elim
  | user payload op own =>
      obtain ⟨row, stored, rfl, flagged⟩ := blocks
      have validated := validate_run stored named
      rw [if_pos flagged] at validated
      simp only [Call.run, validated]
      rfl

/-- As long as nobody unblocks him, all calls with a blocked user's access token are answered with
401, and the run ends as it does without them. -/
theorem blocked_silent (env : ServerEnv) (db : Db) (userId : UserId) (blocks : db.Blocks userId)
    (calls : List Call) (stays : ∀ call ∈ calls, ¬ call.Unblocks userId) :
    Throughout (Call.step env)
        (fun db call => call.InNameOf userId → (call.run env db).1 = .error blockedAnswer)
        db calls ∧
      execute (Call.step env) db (calls.filter fun call => ¬ call.InNameOf userId) =
        execute (Call.step env) db calls := by
  constructor
  · refine throughout_of_preserved (P := fun db => db.Blocks userId)
      (fun db call blocks stays => ⟨blocks_step blocks stays, fun named => ?_⟩) blocks
      (throughout_of_mem stays db)
    rw [run_of_blocked blocks named]
  · refine execute_filter (I := fun db => db.Blocks userId)
      (A := fun call => ¬ call.Unblocks userId)
      (fun db call blocks stays => blocks_step blocks stays) (fun db call blocks mine => ?_)
      blocks stays
    have named : call.InNameOf userId := by simpa using mine
    rw [Call.step, run_of_blocked blocks named]

/-- The first volunteer has been blocked, and takes the task nevertheless. -/
theorem blocked_silent_taken :
    execute (Call.step exampleServer)
        { exampleBoard .local with
          users := (exampleBoard .local).users.update (fun user => user.id = firstVolunteer.id)
            (UsersService.blockedPatch true) }
        ([takingCall].filter fun call => ¬ call.InNameOf firstVolunteer.id) =
      execute (Call.step exampleServer)
        { exampleBoard .local with
          users := (exampleBoard .local).users.update (fun user => user.id = firstVolunteer.id)
            (UsersService.blockedPatch true) } [takingCall] := by
  refine (blocked_silent exampleServer _ firstVolunteer.id ?_ [takingCall] ?_).2
  · exact ⟨(UsersService.blockedPatch true).run firstVolunteer, by decide, rfl, rfl⟩
  · intro call inside
    obtain rfl : call = takingCall := List.mem_singleton.mp inside
    rintro ⟨user, caller, same⟩
    cases same

end VolunteerApi
