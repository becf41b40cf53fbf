import VolunteerApi.Effects.RequestWrites

/-!
# Ten minutes to take a cancellation back

`returnToProgress` brings a cancelled request back within ten minutes of its
cancellation.  The limit is looked at only while the request is `CANCELLED`, and
only against the time stored last: a call that leaves the status, or cancels
again, opens a way around it.
-/

set_option autoImplicit false

namespace VolunteerApi

open Relational Programs
open RequestsService

def NotInProgress (id : RequestId) (db : Db) : Prop :=
  ∀ request ∈ db.requests.rows, request.id = id → request.status ≠ .inProgress

/-- The call does not take back the cancellation while there is time. -/
def NotReturnedInTime (id : RequestId) (since : Time) (db : Db) (op : RequestsOp) : Prop :=
  match op with
  | .returnToProgress other _ now =>
      other = id → now ≤ since + tenMinutesInMs → (op.run db).1.succeeded = false
  | _ => True

/-- A request cancelled at `since` and not taken back in time does not get back in progress. -/
def StaysOutOfProgress (id : RequestId) (since : Time) (db : Db) (ops : List RequestsOp) : Prop :=
  Throughout RequestsOp.step (NotReturnedInTime id since) db ops →
    Always RequestsOp.step (NotInProgress id) db ops

/-- No `update` sets the status to `IN_PROGRESS`, and a later `returnToProgress` finds the
request cancelled more than ten minutes ago. -/
def MeetsTheLimit (id : RequestId) (since : Time) (db : Db) : RequestsOp → Prop
  | .update other dto user =>
      other = id → dto.status = some .inProgress →
        editableFor db other user dto.managingOrganizationId = none
  | .returnToProgress other user now =>
      other = id → since + tenMinutesInMs < now →
        ∀ request, owned db other user = some request →
          request.status = .cancelled ∧
            ∀ cancelledAt, request.cancelledAt = some cancelledAt →
              tenMinutesInMs < now - cancelledAt
  | _ => True

variable {db : Db} {id : RequestId} {since : Time} {old new : Request}

theorem returnable_false_iff {request : Request} {now : Time} :
    returnable request now = false ↔
      request.status = .cancelled ∧ ∀ cancelledAt, request.cancelledAt = some cancelledAt →
        tenMinutesInMs < now - cancelledAt := by
  rw [← Bool.not_eq_true, returnable]
  cases known : request.cancelledAt with
  | none => simp
  | some cancelledAt =>
      simp only [Option.any_some, decide_eq_true_eq, not_or, ne_eq, not_not, Option.some.injEq,
        Nat.not_le, forall_eq']

/-! ## One call -/

theorem notInProgress_update_iff (before : NotInProgress id db) (other : RequestId)
    (dto : UpdateRequestDto) (user : User) :
    NotInProgress id (RequestsOp.step db (.update other dto user)) ↔
      MeetsTheLimit id since db (.update other dto user) := by
  apply everyRequest_saves_iff rfl before
  · intro missed _ _
    simpa [RequestsOp.saved] using missed
  · intro new row
    obtain ⟨old, found, rfl⟩ := Option.map_eq_some_iff.mp row
    have present := editable_some (editableFor_some found).1
    obtain ⟨stored, sameId, _⟩ := Db.findRequest_some present
    refine ⟨old, Db.findRequest_self present, rfl, ?_⟩
    have unstarted := before old stored
    simp only [MeetsTheLimit, found, UpdateRequestDto.assign, reduceCtorEq, sameId] at unstarted ⊢
    cases given : dto.status with
    | none => simpa using unstarted
    | some status => simp

theorem notInProgress_return_iff (before : NotInProgress id db) (other : RequestId) (user : User)
    (now : Time)
    (unreturned : NotReturnedInTime id since db (.returnToProgress other user now)) :
    NotInProgress id (RequestsOp.step db (.returnToProgress other user now)) ↔
      MeetsTheLimit id since db (.returnToProgress other user now) := by
  apply everyRequest_saves_iff rfl before
  · intro missed here late request found
    apply returnable_false_iff.mp
    rw [RequestsOp.saved, found, Option.map_eq_none_iff] at missed
    simpa using missed
  · intro new row
    obtain ⟨old, passed, rfl⟩ := Option.map_eq_some_iff.mp row
    obtain ⟨found, inTime⟩ := Option.filter_eq_some_iff.mp passed
    obtain ⟨_, sameId, _⟩ := Db.findRequest_some (owned_some found).1
    refine ⟨old, Db.findRequest_self (owned_some found).1, returned_id old, ?_⟩
    rw [returned_id, returned_status, sameId]
    constructor
    · intro elsewhere here
      exact absurd rfl (elsewhere here)
    · intro meets here
      -- the call succeeds, so it comes after the window
      have late : since + tenMinutesInMs < now := by
        by_contra early
        have failed := unreturned here (Nat.not_lt.mp early)
        cases RequestsOp.ended (.returnToProgress other user now) rfl db with
        | refused error missed ran =>
            rw [row] at missed
            cases missed
        | saved _ _ ran =>
            rw [ran] at failed
            cases failed
      have refused := returnable_false_iff.mpr (meets here late old found)
      rw [inTime] at refused
      cases refused

theorem notInProgress_step_iff (before : NotInProgress id db) (op : RequestsOp)
    (unreturned : NotReturnedInTime id since db op) :
    NotInProgress id (op.step db) ↔ MeetsTheLimit id since db op := by
  cases op with
  | create dto user now =>
      refine iff_of_true (everyRequest_create before dto user now ?_) trivial
      intro _ _
      simp [newRequest]
  | remove other user now =>
      exact iff_of_true (everyRequest_remove before other user now fun _ kept => kept) trivial
  | update other dto user => exact notInProgress_update_iff before other dto user
  | returnToProgress other user now =>
      exact notInProgress_return_iff before other user now unreturned
  | addInfo other dto user infoId now =>
      refine iff_of_true (everyRequest_kept rfl before ?_) trivial
      intro new row
      obtain ⟨old, infos, found, rfl⟩ := RequestsOp.saved_info rfl row
      exact ⟨old, found, rfl, fun kept => kept⟩
  | updateAdditionalInfo other infoId dto user now =>
      refine iff_of_true (everyRequest_kept rfl before ?_) trivial
      intro new row
      obtain ⟨old, infos, found, rfl⟩ := RequestsOp.saved_info rfl row
      exact ⟨old, found, rfl, fun kept => kept⟩
  | removeAdditionalInfo other infoId user now =>
      refine iff_of_true (everyRequest_kept rfl before ?_) trivial
      intro new row
      obtain ⟨old, infos, found, rfl⟩ := RequestsOp.saved_info rfl row
      exact ⟨old, found, rfl, fun kept => kept⟩
  | markAsPendingReview other user =>
      refine iff_of_true (everyRequest_kept rfl before ?_) trivial
      intro new row
      obtain ⟨old, found, rfl⟩ := Option.map_eq_some_iff.mp row
      exact ⟨old, Db.findRequest_self (owned_some found).1, rfl, by simp⟩
  | confirmCompletion other user =>
      refine iff_of_true (everyRequest_kept rfl before ?_) trivial
      intro new row
      obtain ⟨old, found, rfl⟩ := Option.map_eq_some_iff.mp row
      exact ⟨old, Db.findRequest_self (owned_some found).1, rfl, by simp⟩
  | cancel other reason user now =>
      refine iff_of_true (everyRequest_kept rfl before ?_) trivial
      intro new row
      obtain ⟨old, found, rfl⟩ := Option.map_eq_some_iff.mp row
      exact ⟨old, Db.findRequest_self (cancellable_some found), rfl, by simp⟩

/-! ## Every run -/

theorem notInProgress_of_cancelled {reason : Option String} {user : User}
    (cancelled : (RequestsOp.run db (.cancel id reason user since)).1.succeeded = true) :
    NotInProgress id (RequestsOp.step db (.cancel id reason user since)) := by
  unfold RequestsOp.step
  cases RequestsOp.ended (.cancel id reason user since) rfl db with
  | refused error missed ran =>
      rw [ran] at cancelled
      cases cancelled
  | saved new row ran =>
      obtain ⟨old, found, rfl⟩ := Option.map_eq_some_iff.mp row
      obtain ⟨stored, sameId, _⟩ := Db.findRequest_some (cancellable_some found)
      rw [ran]
      intro request member here
      have replaced := Table.replaced_save
        { old with
          status := .cancelled
          cancelReason := cancelReasonOf reason
          cancelledAt := some since
          cancelledByUserId := some user.id } stored rfl rfl
      rw [replaced.eq_new member (here.trans sameId.symm)]
      simp

/-- After a cancellation at `since`, a run in which it is not taken back in time leaves the
request out of progress exactly when its calls meet the limit. -/
theorem staysOutOfProgress_iff {reason : Option String} {user : User}
    (cancelled : (RequestsOp.run db (.cancel id reason user since)).1.succeeded = true)
    (ops : List RequestsOp) :
    StaysOutOfProgress id since (RequestsOp.step db (.cancel id reason user since)) ops ↔
      (Throughout RequestsOp.step (NotReturnedInTime id since)
          (RequestsOp.step db (.cancel id reason user since)) ops →
        Throughout RequestsOp.step (MeetsTheLimit id since)
          (RequestsOp.step db (.cancel id reason user since)) ops) := by
  apply imp_congr_right
  intro unreturned
  apply always_iff_throughout_of (I := fun _ => True) (A := NotReturnedInTime id since)
  · exact fun _ _ _ _ => trivial
  · intro db op _ unreturned before
    exact notInProgress_step_iff before op unreturned
  · trivial
  · exact notInProgress_of_cancelled cancelled
  · exact unreturned

/-- Submitted for review after the cancellation, and back in progress an hour later. -/
def submittedAndReturned : List RequestsOp :=
  [.markAsPendingReview 0 author, .returnToProgress 0 author (60 * 60 * 1000)]

theorem staysOutOfProgress_iff_witness :
    StaysOutOfProgress 0 0
        (RequestsOp.step (exampleBoard .local) (.cancel 0 none author 0)) submittedAndReturned ↔
      (Throughout RequestsOp.step (NotReturnedInTime 0 0)
          (RequestsOp.step (exampleBoard .local) (.cancel 0 none author 0)) submittedAndReturned →
        Throughout RequestsOp.step (MeetsTheLimit 0 0)
          (RequestsOp.step (exampleBoard .local) (.cancel 0 none author 0))
          submittedAndReturned) :=
  staysOutOfProgress_iff (by decide +kernel) submittedAndReturned

theorem staysOutOfProgress_fails :
    (RequestsOp.run (exampleBoard .local) (.cancel 0 none author 0)).1.succeeded = true ∧
      ¬ StaysOutOfProgress 0 0
        (RequestsOp.step (exampleBoard .local) (.cancel 0 none author 0)) submittedAndReturned := by
  refine ⟨by decide +kernel, ?_⟩
  intro stays
  have unreturned : Throughout RequestsOp.step (NotReturnedInTime 0 0)
      (RequestsOp.step (exampleBoard .local) (.cancel 0 none author 0)) submittedAndReturned :=
    ⟨trivial, fun _ early => absurd early (by decide), trivial⟩
  have back : ∃ request ∈ (execute RequestsOp.step
      (RequestsOp.step (exampleBoard .local) (.cancel 0 none author 0))
      submittedAndReturned).requests.rows, request.id = 0 ∧ request.status = .inProgress := by
    decide +kernel
  obtain ⟨request, member, here, status⟩ := back
  exact always_end (stays unreturned) request member here status

end VolunteerApi
