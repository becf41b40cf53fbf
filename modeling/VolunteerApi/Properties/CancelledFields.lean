import VolunteerApi.Effects.RequestWrites
import VolunteerApi.Effects.UsersOutcomes
import VolunteerApi.Properties.Completion

/-!
# The columns of a cancellation

`cancel` writes the status together with who cancelled, when and why, and
`returnToProgress` clears all four.  The other methods that write a status write
nothing but the status.
-/

set_option autoImplicit false

namespace VolunteerApi

open Relational Programs
open RequestsService

/-- The cancellation columns go with the status. -/
structure Request.CancellationAgrees (request : Request) : Prop where
  recorded : request.status = .cancelled ↔
    request.cancelledAt ≠ none ∧ request.cancelledByUserId ≠ none
  reason : request.status ≠ .cancelled → request.cancelReason = none

def CancellationsAgree (db : Db) : Prop :=
  ∀ request ∈ db.requests.rows, request.CancellationAgrees

/-- A status written without the other columns neither begins nor ends a cancellation. -/
def LeavesCancellation (db : Db) : Op → Prop
  | .requests (.update id dto user) =>
      ∀ request status, editableFor db id user dto.managingOrganizationId = some request →
        dto.status = some status →
        (status = .cancelled ↔ request.status = .cancelled)
  | .requests (.markAsPendingReview id user) =>
      ∀ request, owned db id user = some request → request.status ≠ .cancelled
  | .requests (.confirmCompletion id user) =>
      ∀ request, owned db id user = some request → request.status ≠ .cancelled
  | _ => True

variable {db after : Db} {old new : Request}

/-! ## One row -/

/-- When, by whom and why. -/
def Request.cancellation (request : Request) : Option Time × Option UserId × Option String :=
  (request.cancelledAt, request.cancelledByUserId, request.cancelReason)

/-- A new status alone keeps the columns right when it is cancelled as the old one was. -/
theorem cancellationAgrees_status_iff (agrees : old.CancellationAgrees)
    (kept : new.cancellation = old.cancellation) :
    new.CancellationAgrees ↔ (new.status = .cancelled ↔ old.status = .cancelled) := by
  obtain ⟨cancelledAt, cancelledBy, reason⟩ : new.cancelledAt = old.cancelledAt ∧
      new.cancelledByUserId = old.cancelledByUserId ∧ new.cancelReason = old.cancelReason := by
    simpa [Request.cancellation] using kept
  constructor
  · intro later
    rw [later.recorded, agrees.recorded, cancelledAt, cancelledBy]
  · intro same
    refine ⟨?_, ?_⟩
    · rw [same, agrees.recorded, cancelledAt, cancelledBy]
    · intro live
      rw [reason]
      exact agrees.reason fun cancelled => live (same.mpr cancelled)

theorem cancellationAgrees_kept (agrees : old.CancellationAgrees)
    (kept : new.cancellation = old.cancellation) (status : new.status = old.status) :
    new.CancellationAgrees :=
  (cancellationAgrees_status_iff agrees kept).mpr (by rw [status])

/-! ## Every call of `RequestsService` -/

theorem agrees_of_found {id : RequestId} {request : Request} (agree : CancellationsAgree db)
    (found : db.findRequest id = some request) : request.CancellationAgrees :=
  agree request (Db.findRequest_some found).1

/-- A method of the owner that writes a status that is not `CANCELLED`. -/
theorem cancellationsAgree_setStatus_iff {op : RequestsOp} (saves : op.saves = true)
    (agree : CancellationsAgree db) (id : RequestId) (user : User) {status : RequestStatus}
    (row : op.saved db = (owned db id user).map fun request => { request with status := status })
    (live : status ≠ .cancelled) :
    CancellationsAgree (op.step db) ↔
      ∀ request, owned db id user = some request → request.status ≠ .cancelled := by
  apply everyRequest_saves_iff saves agree
  · intro missed request found
    rw [row, found] at missed
    cases missed
  · intro new hit
    rw [row] at hit
    obtain ⟨old, found, rfl⟩ := Option.map_eq_some_iff.mp hit
    have stored := (owned_some found).1
    refine ⟨old, Db.findRequest_self stored, rfl, ?_⟩
    refine (cancellationAgrees_status_iff (agrees_of_found agree stored) (by rfl)).trans ?_
    simp [found, live]

theorem cancellationsAgree_update_iff (agree : CancellationsAgree db) (id : RequestId)
    (dto : UpdateRequestDto) (user : User) :
    CancellationsAgree (RequestsOp.step db (.update id dto user)) ↔
      LeavesCancellation db (.requests (.update id dto user)) := by
  apply everyRequest_saves_iff rfl agree
  · intro missed request status found
    simp [RequestsOp.saved, found] at missed
  · intro new hit
    obtain ⟨old, found, rfl⟩ := Option.map_eq_some_iff.mp hit
    have stored := editable_some (editableFor_some found).1
    refine ⟨old, Db.findRequest_self stored, rfl, ?_⟩
    refine (cancellationAgrees_status_iff (agrees_of_found agree stored) (by rfl)).trans ?_
    simp only [LeavesCancellation, found, Option.some.injEq]
    cases given : dto.status with
    | none => simp [UpdateRequestDto.assign, given]
    | some status => simp [UpdateRequestDto.assign, given]

theorem cancellationsAgree_editInfo {op : RequestsOp} (saves : op.saves = true)
    (info : op.editsInfo = true) (agree : CancellationsAgree db) :
    CancellationsAgree (op.step db) := by
  apply everyRequest_kept saves agree
  intro new row
  obtain ⟨old, infos, found, rfl⟩ := RequestsOp.saved_info info row
  exact ⟨old, found, rfl, fun agrees => cancellationAgrees_kept agrees (by rfl) (by rfl)⟩

/-- The request back in progress carries no trace of a cancellation. -/
theorem returned_agrees (agrees : old.CancellationAgrees) : (returned old).CancellationAgrees := by
  unfold returned
  split
  · exact ⟨by simp, fun _ => rfl⟩
  · rename_i live
    refine (cancellationAgrees_status_iff agrees (by rfl)).mpr ?_
    simp [live]

theorem cancelled_agrees (reason : Option String) (now : Time) (userId : UserId) :
    Request.CancellationAgrees
      { old with
        status := .cancelled
        cancelReason := reason
        cancelledAt := some now
        cancelledByUserId := some userId } :=
  ⟨by simp, fun live => absurd rfl live⟩

theorem cancellationsAgree_requests_iff (agree : CancellationsAgree db) (op : RequestsOp) :
    CancellationsAgree (op.step db) ↔ LeavesCancellation db (.requests op) := by
  cases op with
  | create dto user now =>
      refine iff_of_true (everyRequest_create agree dto user now ?_) trivial
      intro id
      exact ⟨by simp [newRequest], fun _ => rfl⟩
  | remove id user now =>
      refine iff_of_true (everyRequest_remove agree id user now ?_) trivial
      intro request agrees
      exact cancellationAgrees_kept agrees (by rfl) (by rfl)
  | update id dto user => exact cancellationsAgree_update_iff agree id dto user
  | markAsPendingReview id user =>
      exact cancellationsAgree_setStatus_iff rfl agree id user rfl (by decide)
  | confirmCompletion id user =>
      exact cancellationsAgree_setStatus_iff rfl agree id user rfl (by decide)
  | addInfo id dto user infoId now =>
      exact iff_of_true (cancellationsAgree_editInfo rfl rfl agree) trivial
  | updateAdditionalInfo id infoId dto user now =>
      exact iff_of_true (cancellationsAgree_editInfo rfl rfl agree) trivial
  | removeAdditionalInfo id infoId user now =>
      exact iff_of_true (cancellationsAgree_editInfo rfl rfl agree) trivial
  | cancel id reason user now =>
      refine iff_of_true (everyRequest_kept rfl agree ?_) trivial
      intro new row
      obtain ⟨old, found, rfl⟩ := Option.map_eq_some_iff.mp row
      exact ⟨old, Db.findRequest_self (cancellable_some found), rfl,
        fun _ => cancelled_agrees _ now user.id⟩
  | returnToProgress id user now =>
      refine iff_of_true (everyRequest_kept rfl agree ?_) trivial
      intro new row
      obtain ⟨old, found, rfl⟩ := Option.map_eq_some_iff.mp row
      have stored := (owned_some (Option.filter_eq_some_iff.mp found).1).1
      exact ⟨old, Db.findRequest_self stored, returned_id old, returned_agrees⟩

/-! ## Every call of `TasksService` -/

/-- Requests keep their cancellation, and an open one is started at most. -/
def StartsAtMost (db after : Db) : Prop :=
  ∀ row ∈ after.requests.rows, ∃ old ∈ db.requests.rows,
    row.cancellation = old.cancellation ∧
      (row.status = old.status ∨ old.status = .open ∧ row.status = .inProgress)

theorem startsAtMost_of_same (same : after.requests = db.requests) : StartsAtMost db after := by
  intro row member
  rw [same] at member
  exact ⟨row, member, rfl, Or.inl rfl⟩

theorem startsAtMost_of_guarded {α : Type} {program : Service α} {Post : α → Db → Prop}
    (guarded : program.Guarded db Post)
    (passed : ∀ value after, Post value after → StartsAtMost db after) :
    StartsAtMost db (program.run db).2 :=
  Prog.Guarded.after (motive := StartsAtMost db) guarded (startsAtMost_of_same rfl) passed

theorem startsAtMost_started {request : Request} (found : db.findRequest request.id = some request)
    (started : after.requests = TasksService.startedRequests db request) :
    StartsAtMost db after := by
  by_cases isOpen : request.status = .open
  · rw [TasksService.startedRequests, if_pos isOpen] at started
    intro row member
    rw [started] at member
    obtain ⟨old, stored, rfl⟩ := (Table.mem_update _ _ _ _).mp member
    refine ⟨old, stored, ?_⟩
    split
    · rename_i hit
      have here : old = request :=
        Table.eq_of_key stored (Db.findRequest_some found).1 (of_decide_eq_true hit)
      exact ⟨rfl, Or.inr ⟨here ▸ isOpen, rfl⟩⟩
    · exact ⟨rfl, Or.inl rfl⟩
  · rw [TasksService.startedRequests, if_neg isOpen] at started
    exact startsAtMost_of_same started

theorem startsAtMost_accepted (delegation : TaskDelegation) (request : Option Request)
    (organizationId : OrgId) :
    StartsAtMost db (TasksService.accepted db delegation request organizationId) := by
  cases request with
  | none => exact startsAtMost_of_same rfl
  | some request =>
      intro row member
      obtain ⟨old, stored, rfl⟩ := (Table.mem_update _ _ _ _).mp member
      refine ⟨old, stored, ?_⟩
      split <;> exact ⟨rfl, Or.inl rfl⟩

theorem TasksOp.startsAtMost (required : Nat) (db : Db) (op : TasksOp) :
    StartsAtMost db (op.step required db) := by
  cases op with
  | create requestId dto user =>
      apply startsAtMost_of_guarded (TasksService.create_guarded requestId dto user db)
      intro _ _ post
      obtain ⟨_, rfl⟩ := post
      exact startsAtMost_of_same rfl
  | update taskId dto user =>
      apply startsAtMost_of_guarded (TasksService.update_guarded taskId dto user db)
      intro _ _ post
      obtain ⟨_, _, _, rfl⟩ := post
      exact startsAtMost_of_same rfl
  | deleteTask taskId user now =>
      apply startsAtMost_of_guarded (TasksService.deleteTask_guarded taskId user now db)
      intro _ _ post
      obtain ⟨_, _, _, rfl⟩ := post
      exact startsAtMost_of_same rfl
  | assignVolunteer taskId dto user now =>
      have commits := TasksService.assignVolunteer_commits required taskId dto user now db
      refine commits.after (motive := StartsAtMost db) (startsAtMost_of_same rfl) ?_
      intro _ _ post
      obtain ⟨task, request, assigned⟩ := post
      obtain ⟨_, _, _, _, _, rfl⟩ := assigned.effect
      exact startsAtMost_started (Db.findRequest_self assigned.present) rfl
  | withdrawAssignment taskId user =>
      apply startsAtMost_of_guarded (TasksService.withdrawAssignment_guarded taskId user db)
      intro _ _ post
      obtain ⟨_, _, _, rfl⟩ := post
      apply startsAtMost_of_same
      unfold TasksService.withdrawn
      split <;> rfl
  | updateAssignmentStatus taskId newStatus user =>
      apply startsAtMost_of_guarded
        (TasksService.updateAssignmentStatus_guarded taskId newStatus user db)
      intro _ _ post
      obtain ⟨_, _, _, _, _, rfl⟩ := post
      exact startsAtMost_of_same rfl
  | completeTask taskId user now =>
      apply startsAtMost_of_guarded (TasksService.completeTask_guarded taskId user now db)
      intro _ _ post
      obtain ⟨_, _, _, _, rfl⟩ := post
      exact startsAtMost_of_same rfl
  | returnToProgress taskId user now =>
      apply startsAtMost_of_guarded (TasksService.returnToProgress_guarded taskId user now db)
      intro _ _ post
      obtain ⟨_, _, _, rfl⟩ := post
      exact startsAtMost_of_same rfl
  | confirmTaskCompletion taskId user now =>
      apply startsAtMost_of_guarded (TasksService.confirmTaskCompletion_guarded taskId user now db)
      intro _ _ post
      obtain ⟨task, _, found, _, _, reviewing, rfl⟩ := post
      obtain ⟨stored, _, live⟩ := Db.findTask_some found
      -- the completion check never passes, so the request is left alone
      exact startsAtMost_of_same (confirmed_requests stored live reviewing)
  | rejectTask taskId user =>
      apply startsAtMost_of_guarded (TasksService.rejectTask_guarded taskId user db)
      intro _ _ post
      obtain ⟨_, _, _, rfl⟩ := post
      exact startsAtMost_of_same rfl
  | updateTaskStatusAdmin taskId status user =>
      apply startsAtMost_of_guarded
        (TasksService.updateTaskStatusAdmin_guarded taskId status user db)
      intro _ _ post
      obtain ⟨_, _, _, rfl⟩ := post
      exact startsAtMost_of_same rfl
  | cancelTask taskId user =>
      apply startsAtMost_of_guarded (TasksService.cancelTask_guarded taskId user db)
      intro _ _ post
      obtain ⟨_, _, rfl⟩ := post
      exact startsAtMost_of_same rfl
  | renewTask taskId user =>
      apply startsAtMost_of_guarded (TasksService.renewTask_guarded taskId user db)
      intro _ _ post
      obtain ⟨_, _, _, _, _, _, rfl⟩ := post
      exact startsAtMost_of_same rfl
  | delegateTask taskId dto user now =>
      apply startsAtMost_of_guarded (TasksService.delegateTask_guarded taskId dto user now db)
      intro _ _ post
      obtain ⟨_, rfl⟩ := post
      obtain ⟨delegations, same⟩ := TasksService.upserted_eq taskId dto user now db
      exact startsAtMost_of_same (by rw [same])
  | acceptDelegation taskId organizationId user =>
      apply startsAtMost_of_guarded
        (TasksService.acceptDelegation_guarded taskId organizationId user db)
      intro _ _ post
      obtain ⟨delegation, request, _, rfl⟩ := post
      exact startsAtMost_accepted delegation request organizationId
  | unacceptDelegation taskId organizationId user =>
      apply startsAtMost_of_guarded
        (TasksService.unacceptDelegation_guarded taskId organizationId user db)
      intro _ _ post
      obtain ⟨_, _, rfl⟩ := post
      exact startsAtMost_of_same rfl
  | declineDelegation taskId organizationId user =>
      apply startsAtMost_of_guarded
        (TasksService.declineDelegation_guarded taskId organizationId user db)
      intro _ _ post
      obtain ⟨_, _, rfl⟩ := post
      exact startsAtMost_of_same rfl

theorem cancellationsAgree_started (agree : CancellationsAgree db)
    (starts : StartsAtMost db after) : CancellationsAgree after := by
  intro row member
  obtain ⟨old, stored, kept, status⟩ := starts row member
  apply (cancellationAgrees_status_iff (agree old stored) kept).mpr
  rcases status with same | ⟨wasOpen, started⟩
  · rw [same]
  · simp [wasOpen, started]

/-! ## Every run -/

theorem cancellationsAgree_step_iff (required : Nat) (agree : CancellationsAgree db) (op : Op) :
    CancellationsAgree (op.step required db) ↔ LeavesCancellation db op := by
  cases op with
  | tasks op =>
      exact iff_of_true
        (cancellationsAgree_started agree (TasksOp.startsAtMost required db op)) trivial
  | users op =>
      have same := (UsersOp.effect required db op).requests
      exact iff_of_true
        (cancellationsAgree_started agree (startsAtMost_of_same same)) trivial
  | requests op => exact cancellationsAgree_requests_iff agree op

/-- The cancellation columns of all requests go with their statuses throughout a run exactly
when no call of it writes a status that begins or ends a cancellation without them. -/
theorem cancellationsAgree_iff (required : Nat) {db : Db} (start : CancellationsAgree db)
    (ops : List Op) :
    Always (Op.step required) CancellationsAgree db ops ↔
      Throughout (Op.step required) LeavesCancellation db ops := by
  apply always_iff_throughout (I := fun _ => True) (A := fun _ => True)
  · exact fun _ _ _ _ => trivial
  · intro db op _ _ agree
    exact cancellationsAgree_step_iff required agree op
  · trivial
  · exact start
  · exact fun _ _ => trivial

/-- The author cancels the request and submits it for review. -/
def cancelledAndSubmitted : List Op :=
  [.requests (.cancel 0 none author 5), .requests (.markAsPendingReview 0 author)]

theorem cancellationsAgree_board (level : ClearanceLevel) :
    CancellationsAgree (exampleBoard level) := by
  intro request member
  have same : request = { exampleRequest level with id := 0 } := List.mem_singleton.mp member
  rw [same]
  exact ⟨by simp [exampleRequest, newRequest], fun _ => rfl⟩

theorem cancellationsAgree_iff_witness :
    Always (Op.step 3) CancellationsAgree (exampleBoard .local) cancelledAndSubmitted ↔
      Throughout (Op.step 3) LeavesCancellation (exampleBoard .local) cancelledAndSubmitted :=
  cancellationsAgree_iff 3 (cancellationsAgree_board .local) cancelledAndSubmitted

/-- Afterwards the request is `PENDING_REVIEW` and still says when and by whom it was
cancelled. -/
theorem cancellationsAgree_fails :
    CancellationsAgree (exampleBoard .local) ∧
      ¬ Always (Op.step 3) CancellationsAgree (exampleBoard .local) cancelledAndSubmitted := by
  refine ⟨cancellationsAgree_board .local, ?_⟩
  intro always
  have stale : ∃ request ∈
      (execute (Op.step 3) (exampleBoard .local) cancelledAndSubmitted).requests.rows,
      request.status = .pendingReview ∧ request.cancelledAt ≠ none ∧
        request.cancelledByUserId ≠ none := by
    decide +kernel
  obtain ⟨request, member, status, recorded⟩ := stale
  have cancelled := (always_end always request member).recorded.mpr recorded
  rw [status] at cancelled
  cases cancelled

end VolunteerApi
