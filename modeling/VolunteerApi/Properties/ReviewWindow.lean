import VolunteerApi.Effects.TasksEffects

/-!
# An hour to take a submission back

`returnToProgress` lets an assignee take a task back within an hour of `pendingReviewAt`.  The
column is not the time of the submission: completing a task that is under review writes it
again, and an admin who puts a task under review leaves it as it was, which may be `null`.
-/

set_option autoImplicit false

namespace VolunteerApi

open Relational Programs
open TasksService

/-- The time the operation reads from the clock. -/
def TasksOp.clock : TasksOp → Option Time
  | .deleteTask _ _ now => some now
  | .assignVolunteer _ _ _ now => some now
  | .completeTask _ _ now => some now
  | .returnToProgress _ _ now => some now
  | .confirmTaskCompletion _ _ now => some now
  | .delegateTask _ _ _ now => some now
  | _ => none

/-- An operation and the time it is executed at. -/
structure TimedCall where
  op : TasksOp
  now : Time
  clock : ∀ time ∈ op.clock, time = now

def Db.underReview (db : Db) (taskId : TaskId) : Bool :=
  db.tasks.rows.any fun task => task.id = taskId ∧ task.status = .pendingReview

/-- The database, and the time at which each task's status last changed to `PENDING_REVIEW`. -/
structure ReviewState where
  db : Db
  submitted : TaskId → Option Time

def ReviewState.step (required : Nat) (s : ReviewState) (call : TimedCall) : ReviewState where
  db := call.op.step required s.db
  submitted taskId :=
    if s.db.underReview taskId = false ∧
        (call.op.step required s.db).underReview taskId = true then some call.now
    else s.submitted taskId

/-- Nobody but an admin takes a task back more than an hour after its submission. -/
def ReturnsInTime (required : Nat) (s : ReviewState) (call : TimedCall) : Prop :=
  match call.op with
  | .returnToProgress taskId user now =>
      (call.op.run required s.db).1.succeeded = true → user.systemRole ≠ .admin →
        ∀ since ∈ s.submitted taskId, now ≤ since + oneHourInMs
  | _ => True

/-- An assignee who comes more than an hour after the submission finds a `pendingReviewAt` that
is more than an hour old as well. -/
def FindsOldStamp (s : ReviewState) (call : TimedCall) : Prop :=
  match call.op with
  | .returnToProgress taskId user now =>
      ∀ task, s.db.findTask taskId = some task →
        isReturningAssignee (s.db.loaded task) user = true → user.systemRole ≠ .admin →
        task.status = .pendingReview → s.db.findRequest task.requestId ≠ none →
        ∀ since ∈ s.submitted taskId, since + oneHourInMs < now →
          ∃ stamp, task.pendingReviewAt = some stamp ∧ oneHourInMs < now - stamp
  | _ => True

theorem returnExpired_iff {task : Task} {now : Time} :
    returnExpired task now = true ↔
      ∃ stamp, task.pendingReviewAt = some stamp ∧ oneHourInMs < now - stamp := by
  unfold returnExpired
  cases task.pendingReviewAt with
  | none => simp
  | some stamp => simp

theorem return_succeeds_iff (required : Nat) (db : Db) (taskId : TaskId) (user : User)
    (now : Time) :
    (TasksOp.run required db (.returnToProgress taskId user now)).1.succeeded = true ↔
      ∃ task, Returnable db taskId user now task := by
  constructor
  · intro succeeded
    rcases (returnToProgress_checked taskId user now db).cases with
      ⟨error, failed⟩ | ⟨_, _, _, task, returnable, _⟩
    · simp only [TasksOp.run, failed] at succeeded
      cases succeeded
    · exact ⟨task, returnable⟩
  · rintro ⟨task, returnable⟩
    simp only [TasksOp.run, returnToProgress_run returnable]
    rfl

theorem returnsInTime_iff (required : Nat) (s : ReviewState) (call : TimedCall) :
    ReturnsInTime required s call ↔ FindsOldStamp s call := by
  obtain ⟨op, moment, clock⟩ := call
  cases op with
  | returnToProgress taskId user now =>
      simp only [ReturnsInTime, FindsOldStamp, return_succeeds_iff]
      constructor
      · intro inTime task found assignee notAdmin reviewing present since submitted late
        by_contra early
        rw [← returnExpired_iff, Bool.not_eq_true] at early
        have returnable : Returnable s.db taskId user now task :=
          ⟨found, Or.inl assignee, reviewing, Or.inl early, present⟩
        exact Nat.not_le.mpr late (inTime ⟨task, returnable⟩ notAdmin since submitted)
      · rintro old ⟨task, returnable⟩ notAdmin since submitted
        by_contra late
        have expired := returnExpired_iff.mpr (old task returnable.found
          (returnable.allowed.resolve_right notAdmin) notAdmin returnable.reviewing
          returnable.present since submitted (Nat.not_le.mp late))
        rw [returnable.inTime.resolve_right notAdmin] at expired
        cases expired
  | _ => exact Iff.rfl

/-- In every run nobody but an admin takes a task back more than an hour after its status
changed to `PENDING_REVIEW`, exactly if whoever comes that late finds an old stamp. -/
theorem returnsInTime_throughout_iff (required : Nat) (s : ReviewState) (calls : List TimedCall) :
    Throughout (ReviewState.step required) (ReturnsInTime required) s calls ↔
      Throughout (ReviewState.step required) FindsOldStamp s calls :=
  throughout_congr (returnsInTime_iff required) s calls

/-! ## What makes a stamp wrong -/

/-- A task under review carries a stamp, from its submission or before. -/
def ReviewsStamped (s : ReviewState) : Prop :=
  ∀ task ∈ s.db.tasks.rows, task.status = .pendingReview →
    ∃ stamp, task.pendingReviewAt = some stamp ∧ ∀ since ∈ s.submitted task.id, stamp ≤ since

/-- No task is completed again while it is under review, and no admin puts a task under review
that has no stamp. -/
def StampsOnce (s : ReviewState) (call : TimedCall) : Prop :=
  match call.op with
  | .completeTask taskId user _ =>
      ∀ task, s.db.findTask taskId = some task → mayComplete (s.db.loaded task) user →
        task.status ≠ .pendingReview
  | .updateTaskStatusAdmin taskId .pendingReview _ =>
      ∀ task, s.db.findTask taskId = some task → task.status ≠ .pendingReview →
        ∃ stamp, task.pendingReviewAt = some stamp ∧ stamp ≤ call.now
  | _ => True

section Step

variable {required : Nat} {s : ReviewState} {call : TimedCall}

theorem underReview_of_mem {db : Db} {task : Task} (stored : task ∈ db.tasks.rows)
    (reviewing : task.status = .pendingReview) : db.underReview task.id = true :=
  List.any_eq_true.mpr ⟨task, stored, decide_eq_true ⟨rfl, reviewing⟩⟩

theorem underReview_false {db : Db} {task : Task} (stored : task ∈ db.tasks.rows)
    (working : task.status ≠ .pendingReview) : db.underReview task.id = false := by
  rw [Db.underReview, List.any_eq_false]
  intro other otherStored hit
  obtain ⟨same, reviewing⟩ := of_decide_eq_true hit
  rw [Table.eq_of_key otherStored stored same] at reviewing
  exact working reviewing

theorem submitted_kept {task : Task} (stored : task ∈ s.db.tasks.rows)
    (reviewing : task.status = .pendingReview) :
    (s.step required call).submitted task.id = s.submitted task.id := by
  refine if_neg ?_
  rintro ⟨before, _⟩
  rw [underReview_of_mem stored reviewing] at before
  cases before

theorem submitted_now {task later : Task} (stored : task ∈ s.db.tasks.rows)
    (working : task.status ≠ .pendingReview)
    (after : later ∈ (s.step required call).db.tasks.rows) (same : later.id = task.id)
    (reviewing : later.status = .pendingReview) :
    (s.step required call).submitted later.id = some call.now := by
  refine if_pos ⟨?_, underReview_of_mem after reviewing⟩
  rw [same]
  exact underReview_false stored working

theorem reviewsStamped_step (before : ReviewsStamped s) (once : StampsOnce s call) :
    ReviewsStamped (s.step required call) := by
  intro row member reviewing
  have kept : ∀ old ∈ s.db.tasks.rows, old.status = .pendingReview → old.id = row.id →
      old.pendingReviewAt = row.pendingReviewAt → ∃ stamp, row.pendingReviewAt = some stamp ∧
        ∀ since ∈ (s.step required call).submitted row.id, stamp ≤ since := by
    intro old stored wasReviewing same sameStamp
    rw [← same, submitted_kept stored wasReviewing, ← sameStamp]
    exact before old stored wasReviewing
  have origin := (TasksOp.effect required s.db call.op).taskOrigin member
  obtain ⟨op, now, clock⟩ := call
  cases origin with
  | kept _ _ stored => exact kept row stored reviewing rfl rfl
  | created requestId dto user request present => cases reviewing
  | started dto user now old found todo => cases reviewing
  | reset user assignment old stored found unfinished alone => cases reviewing
  | edited _ old _ found edit =>
      have stored := (Db.findTask_some found).1
      cases edit with
      | update dto user idle => exact kept old stored reviewing rfl rfl
      | deleteTask user now idle => exact kept old stored reviewing rfl rfl
      | completeTask user time allowed present =>
          have working := once old found allowed
          refine ⟨time, rfl, ?_⟩
          intro since submitted
          rw [submitted_now stored working member rfl rfl] at submitted
          obtain rfl := Option.mem_some_iff.mp submitted
          exact Nat.le_of_eq (clock time rfl)
      | updateTaskStatusAdmin status user admin =>
          cases reviewing
          by_cases wasReviewing : old.status = .pendingReview
          · exact kept old stored wasReviewing rfl rfl
          · obtain ⟨stamp, stamped, early⟩ := once old found wasReviewing
            refine ⟨stamp, stamped, ?_⟩
            intro since submitted
            rw [submitted_now stored wasReviewing member rfl rfl] at submitted
            obtain rfl := Option.mem_some_iff.mp submitted
            exact early
      | returnToProgress user now wasReviewing => cases reviewing
      | confirmTaskCompletion user now wasReviewing => cases reviewing
      | rejectTask user wasReviewing => cases reviewing
      | cancelTask user => cases reviewing
      | renewTask user request present allowed cancelled => cases reviewing

theorem findsOldStamp_of_stamped (stamped : ReviewsStamped s) : FindsOldStamp s call := by
  obtain ⟨op, moment, clock⟩ := call
  cases op with
  | returnToProgress taskId user now =>
      intro task found _ _ reviewing _ since submitted late
      obtain ⟨stored, rfl, _⟩ := Db.findTask_some found
      obtain ⟨stamp, held, early⟩ := stamped task stored reviewing
      have older : stamp + oneHourInMs < now :=
        Nat.lt_of_le_of_lt (Nat.add_le_add_right (early since submitted) _) late
      exact ⟨stamp, held, Nat.lt_sub_of_add_lt ((Nat.add_comm _ _).trans_lt older)⟩
  | _ => trivial

end Step

/-- As long as no task is submitted twice and no admin puts a task without a stamp under
review, everybody comes in time. -/
theorem returnsInTime_of_stampsOnce (required : Nat) {s : ReviewState} (start : ReviewsStamped s)
    {calls : List TimedCall}
    (once : Throughout (ReviewState.step required) StampsOnce s calls) :
    Throughout (ReviewState.step required) (ReturnsInTime required) s calls := by
  apply throughout_of_preserved _ start once
  intro s call stamped here
  exact ⟨reviewsStamped_step stamped here,
    (returnsInTime_iff required s call).mpr (findsOldStamp_of_stamped stamped)⟩

/-! ## Late by an hour and a half -/

def onceTakenBoard : ReviewState where
  db := TasksOp.step 3 (exampleBoard .local) (.assignVolunteer 0 ⟨none⟩ firstVolunteer 0)
  submitted := fun _ => none

def minutes (count : Nat) : Time := count * 60 * 1000

/-- Completed, completed again fifty minutes later, and taken back after forty minutes more. -/
def completedTwice : List TimedCall :=
  [⟨.completeTask 0 firstVolunteer (minutes 10), minutes 10, by simp [TasksOp.clock]⟩,
    ⟨.completeTask 0 firstVolunteer (minutes 60), minutes 60, by simp [TasksOp.clock]⟩,
    ⟨.returnToProgress 0 firstVolunteer (minutes 100), minutes 100, by simp [TasksOp.clock]⟩]

theorem returnsInTime_throughout_fails :
    ¬ Throughout (ReviewState.step 3) (ReturnsInTime 3) onceTakenBoard completedTwice := by
  rintro ⟨_, _, inTime, _⟩
  have succeeds : ((TasksOp.run 3 ((onceTakenBoard.step 3 completedTwice[0]).step 3
      completedTwice[1]).db (.returnToProgress 0 firstVolunteer (minutes 100))).1).succeeded =
        true := by
    decide +kernel
  have submitted : ((onceTakenBoard.step 3 completedTwice[0]).step 3
      completedTwice[1]).submitted 0 = some (minutes 10) := by
    decide +kernel
  have early := inTime succeeds (by decide) (minutes 10) submitted
  exact absurd early (by decide)

end VolunteerApi
