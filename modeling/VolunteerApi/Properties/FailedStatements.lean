import VolunteerApi.Model.RequestContent
import VolunteerApi.Programs.Failures
import VolunteerApi.Properties.Completion

/-!
# A statement that fails on the way

`create` and `confirmTaskCompletion` write in several statements, outside of a transaction.
When one of them fails, what was written before it stays: a request without a task, or
volunteers who are credited and whose task is still under review, to be credited again.
-/

set_option autoImplicit false

namespace VolunteerApi

open Relational Programs RequestsService TasksService

/-! ## Calls -/

inductive WriteCall where
  | create (dto : NewRequestDto) (creator : User) (now : Time)
  | confirmTaskCompletion (taskId : TaskId) (requester : User) (now : Time)

def WriteCall.program : WriteCall → Service Unit
  | .create dto creator now => (createRequest dto creator now).bind fun _ => .ret ()
  | .confirmTaskCompletion taskId requester now =>
      (TasksService.confirmTaskCompletion taskId requester now).bind fun _ => .ret ()

/-- The requests, tasks, assignments and users are as they were. -/
structure Untouched (db after : Db) : Prop where
  requests : after.requests = db.requests
  tasks : after.tasks = db.tasks
  assignments : after.assignments = db.assignments
  users : after.users = db.users

/-- If the call comes to the statement with this number and the statement fails, the call
leaves the database as it was, and a second call does what the first one should have done. -/
def FailsCleanly (db : Db) (call : WriteCall) (n : Nat) : Prop :=
  ∀ error left, call.program.before n db ≠ none →
    call.program.runFailing error n db = (.error error, left) →
    Untouched db left ∧ call.program.run left = call.program.run db

/-- The statement is not behind one that changes something. -/
def NothingWritten (db : Db) (n : Nat) : WriteCall → Prop
  | .create dto _ _ => db.hasManager dto.managingOrganizationId = true →
      n ≠ 1 ∧ (NewRequestDto.location dto ≠ none → n ≠ 2)
  | .confirmTaskCompletion taskId requester _ =>
      ∀ task request, Confirmable db taskId requester task request →
        (2 ≤ n → n ≤ 5 → ∀ assignment ∈ db.assignments.rows, assignment.taskId = taskId →
          assignment.status ≠ .assigned) ∧
        (3 ≤ n → n ≤ 5 → ∀ assignment ∈ db.assignments.rows, assignment.taskId = taskId →
          ∀ user ∈ db.users.rows, user.id = assignment.userId → user.trustScore = 10000)

theorem failsCleanly_iff_of_before {db : Db} {call : WriteCall} {n : Nat} {left : Db}
    (found : call.program.before n db = some left) :
    FailsCleanly db call n ↔
      Untouched db left ∧ call.program.run left = call.program.run db := by
  constructor
  · intro clean
    refine clean .typeError left ?_ (Prog.runFailing_of_before found .typeError)
    rw [found]
    exact Option.some_ne_none left
  · intro clean error other _ failed
    rw [Prog.runFailing_of_before found error] at failed
    cases failed
    exact clean

theorem failsCleanly_of_not_reached {db : Db} {call : WriteCall} {n : Nat}
    (missing : call.program.before n db = none) : FailsCleanly db call n := by
  intro error left reached
  exact absurd missing reached

/-! ## Creating a request -/

section Creating

variable (db : Db) (dto : NewRequestDto) (creator : User) (now : Time)

/-- After the first statement. -/
def Db.withNewRequest : Db :=
  { db with
    requests := db.requests.append (newRequestRow dto creator now)
      (newRequestRow_id dto creator now) }

/-- After the second one. -/
def Db.withNewTask : Db :=
  { db.withNewRequest dto creator now with
    tasks := db.tasks.append (autoTask db.requests.next creator)
      (autoTask_id db.requests.next creator) }

/-- A creation that the foreign key refuses comes to no second statement. -/
theorem create_before_unmanaged (unstored : db.hasManager dto.managingOrganizationId = false)
    (n : Nat) : (WriteCall.create dto creator now).program.before (n + 1) db = none := by
  have refused :
      ¬ db.hasManager (newRequestRow dto creator now db.requests.next).managingOrganizationId
        = true := by
    rw [newRequestRow_managed, unstored]
    exact Bool.false_ne_true
  simp only [WriteCall.program, createRequest, insertRequest, Prog.bind_eq, Prog.bind_assoc,
    Prog.before_execOr_succ, if_neg refused]

theorem create_before (managed : db.hasManager dto.managingOrganizationId = true) (n : Nat) :
    (WriteCall.create dto creator now).program.before n db =
      match n with
      | 0 => some db
      | 1 => some (db.withNewRequest dto creator now)
      | 2 =>
          if NewRequestDto.location dto ≠ none then some (db.withNewTask dto creator now)
          else none
      | _ => none := by
  have stored :
      db.hasManager (newRequestRow dto creator now db.requests.next).managingOrganizationId
        = true := managed
  simp only [WriteCall.program, createRequest, insertRequest, Prog.bind_eq, Prog.bind_assoc,
    Prog.pure_eq, Prog.bind]
  obtain _ | _ | _ | n := n
  · rfl
  · rw [Prog.before_execOr_succ, if_pos stored]
    rfl
  · simp only [Prog.before_execOr_succ, if_pos stored, Prog.before_exec_succ,
      Prog.before_onlyIf]
    split <;> rfl
  · simp only [Prog.before_execOr_succ, if_pos stored, Prog.before_exec_succ,
      Prog.before_onlyIf]
    split
    · exact Prog.before_ret n () _
    · exact Prog.before_ret (n + 1) () _

theorem not_untouched_of_new_request {left : Db}
    (stored : left.requests = (db.withNewRequest dto creator now).requests) :
    ¬ Untouched db left := by
  intro untouched
  have rows : (db.withNewRequest dto creator now).requests.rows = db.requests.rows := by
    rw [← stored, untouched.requests]
  simp [Db.withNewRequest] at rows

theorem create_managed_failsCleanly_iff
    (managed : db.hasManager dto.managingOrganizationId = true) (n : Nat) :
    FailsCleanly db (.create dto creator now) n ↔
      n ≠ 1 ∧ (NewRequestDto.location dto ≠ none → n ≠ 2) := by
  have found := create_before db dto creator now managed n
  match n, found with
  | 0, found =>
      rw [failsCleanly_iff_of_before found]
      exact iff_of_true ⟨⟨rfl, rfl, rfl, rfl⟩, rfl⟩ ⟨by decide, fun _ => by decide⟩
  | 1, found =>
      rw [failsCleanly_iff_of_before found]
      refine iff_of_false ?_ fun nothing => nothing.1 rfl
      rintro ⟨untouched, _⟩
      exact not_untouched_of_new_request db dto creator now rfl untouched
  | 2, found =>
      by_cases located : NewRequestDto.location dto ≠ none
      · simp only [if_pos located] at found
        rw [failsCleanly_iff_of_before found]
        refine iff_of_false ?_ fun nothing => nothing.2 located rfl
        have stored : (db.withNewTask dto creator now).requests =
            (db.withNewRequest dto creator now).requests := rfl
        rintro ⟨untouched, _⟩
        exact not_untouched_of_new_request db dto creator now stored untouched
      · simp only [if_neg located] at found
        exact iff_of_true (failsCleanly_of_not_reached found)
          ⟨by decide, fun given => absurd given located⟩
  | n + 3, found =>
      exact iff_of_true (failsCleanly_of_not_reached found) ⟨by omega, fun _ => by omega⟩

theorem create_failsCleanly_iff (n : Nat) :
    FailsCleanly db (.create dto creator now) n ↔
      NothingWritten db n (.create dto creator now) := by
  cases managed : db.hasManager dto.managingOrganizationId with
  | true =>
      rw [create_managed_failsCleanly_iff db dto creator now managed n]
      exact ⟨fun nothing _ => nothing, fun nothing => nothing managed⟩
  | false =>
      refine iff_of_true ?_ fun stored => absurd (managed.symm.trans stored) Bool.false_ne_true
      cases n with
      | zero =>
          have found : (WriteCall.create dto creator now).program.before 0 db = some db := rfl
          rw [failsCleanly_iff_of_before found]
          exact ⟨⟨rfl, rfl, rfl, rfl⟩, rfl⟩
      | succ n =>
          exact failsCleanly_of_not_reached (create_before_unmanaged db dto creator now managed n)

end Creating

/-! ## Confirming a task -/

section Confirming

variable {db : Db} {task : Task} {requester : User}

/-- The assignments after the bulk update. -/
def completedAssignments (db : Db) (taskId : TaskId) (now : Time) :
    Table TaskAssignment.id TaskAssignment.slot :=
  db.assignments.update
    (fun assignment => assignment.taskId = taskId ∧ assignment.status = .assigned)
    (completedPatch now)

/-- What the statement with this number finds, after the checks. -/
def Db.interrupted (db : Db) (task : Task) (now : Time) (n : Nat) : Db :=
  { db with
    assignments :=
      if 2 ≤ n then completedAssignments db task.id now else db.assignments
    users :=
      if 3 ≤ n then creditedUsers db ((db.assignmentsOf task.id).map TaskAssignment.userId)
      else db.users }

/-- The statements after the checks. -/
def confirmThen (loaded : LoadedTask) (now : Time) : Service Unit := do
  completeAssigned loaded.task.id now
  boostVolunteerScores (loaded.assignments.map TaskAssignment.userId)
  checkRequestCompletion loaded.task.requestId
  let _saved ← saveTask { loaded with task := { loaded.task with status := .done } }
  return ()

/-- Behind the first statement, the checks have passed. -/
theorem confirm_before_succ {taskId : TaskId} {now : Time} {n : Nat} {left : Db} :
    (WriteCall.confirmTaskCompletion taskId requester now).program.before (n + 1) db =
        some left ↔
      ∃ task request, Confirmable db taskId requester task request ∧
        (confirmThen (db.loaded task) now).before n db = some left := by
  simp only [WriteCall.program, TasksService.confirmTaskCompletion, requestOf, Prog.bind_eq,
    Prog.bind_assoc, Prog.before_query_succ, Prog.before_orThrow, Prog.before_throwIf]
  constructor
  · rintro ⟨loaded, hit, request, present, allowed, reviewing, found⟩
    obtain ⟨task, taskFound, rfl⟩ := Db.loadTask_eq_some.mp hit
    obtain ⟨_, rfl, _⟩ := Db.findTask_some taskFound
    exact ⟨task, request, ⟨taskFound, present, by simpa using allowed, not_not.mp reviewing⟩,
      found⟩
  · rintro ⟨task, request, confirmable, found⟩
    obtain ⟨_, rfl, _⟩ := Db.findTask_some confirmable.found
    exact ⟨db.loaded task, Db.loadTask_eq_some.mpr ⟨task, confirmable.found, rfl⟩, request,
      confirmable.present, by simp [confirmable.allowed], not_not.mpr confirmable.reviewing,
      found⟩

theorem check_before {α : Type} {s : Db} {requestId : RequestId} (undone : ¬ AllDone s requestId)
    (f : Unit → Service α) (n : Nat) :
    ((checkRequestCompletion requestId).bind f).before n s =
      if 2 ≤ n then (f ()).before (n - 2) s else some s := by
  have differ : ¬ (countTasks s requestId > 0 ∧ countTasks s requestId = countDone s requestId) :=
    undone
  simp only [checkRequestCompletion, Prog.bind_eq, Prog.bind_assoc]
  obtain _ | _ | n := n
  · rfl
  · rfl
  · rw [Prog.before_query_succ, Prog.before_query_succ, Prog.before_onlyIf, if_neg differ,
      if_pos (Nat.le_add_left 2 n)]
    rfl

theorem save_before {s : Db} {loaded : LoadedTask} (requested : loaded.request ≠ none) (n : Nat) :
    ((saveTask loaded).bind fun _ => .ret ()).before n s = if n = 0 then some s else none := by
  have saves : (Prog.throwIf (loaded.request = none)
      (.queryFailed "null value in column request_id violates not-null constraint") :
        Service Unit) = .ret () := if_neg requested
  simp only [saveTask, Prog.bind_eq, saves, Prog.bind, Prog.bind_assoc]
  cases n with
  | zero => rfl
  | succ n =>
      rw [Prog.before_execLocking_succ]
      exact Prog.before_ret n () _

theorem boost_before {α : Type} (s : Db) (userIds : List UserId) (f : Unit → Service α) (n : Nat) :
    ((boostVolunteerScores userIds).bind f).before n s =
      if userIds = [] then (f ()).before n s
      else if n = 0 then some s
      else (f ()).before (n - 1) { s with users := creditedUsers s userIds } := by
  simp only [boostVolunteerScores, creditedUsers, Prog.before_onlyIf]
  by_cases nobody : userIds = []
  · rw [if_pos nobody, if_neg (not_not.mpr nobody)]
  · rw [if_neg nobody, if_pos nobody, if_pos nobody]
    cases n with
    | zero => rfl
    | succ n => rfl

/-- The counts and the save, in a store with the same tasks. -/
theorem finish_before {s : Db} {request : Request}
    (present : db.findRequest task.requestId = some request)
    (undone : ¬ AllDone s task.requestId) (n : Nat) :
    ((checkRequestCompletion (db.loaded task).task.requestId).bind fun _ =>
      (saveTask { db.loaded task with task := { task with status := .done } }).bind
        fun _ => .ret () : Service Unit).before n s = if n ≤ 2 then some s else none := by
  have unfinished : ¬ AllDone s (db.loaded task).task.requestId := undone
  have requested : ({ db.loaded task with task := { task with status := .done } } :
      LoadedTask).request ≠ none := by
    rw [show (db.loaded task).request = some request from present]
    exact Option.some_ne_none request
  rw [check_before unfinished, save_before requested]
  by_cases counted : 2 ≤ n
  · rw [if_pos counted]
    by_cases last : n = 2
    · rw [if_pos (by omega), if_pos (by omega)]
    · rw [if_neg (by omega), if_neg (by omega)]
  · rw [if_neg counted, if_pos (by omega)]

/-- The statements after the checks: the bulk update, the credit if there is anybody, the
counts and the save. -/
theorem settle_before {request : Request} (present : db.findRequest task.requestId = some request)
    (undone : ¬ AllDone db task.requestId) (now : Time) (n : Nat) :
    (confirmThen (db.loaded task) now).before n db =
      if n = 0 then some db
      else if (db.assignmentsOf task.id).map TaskAssignment.userId = [] then
        if n ≤ 3 then some (db.interrupted task now (n + 1)) else none
      else if n ≤ 4 then some (db.interrupted task now (n + 1)) else none := by
  cases n with
  | zero => rfl
  | succ n =>
      have stillUndone : ∀ assignments users,
          ¬ AllDone { db with assignments := assignments, users := users } task.requestId :=
        fun _ _ => undone
      rw [if_neg (Nat.succ_ne_zero n)]
      refine (boost_before { db with assignments := completedAssignments db task.id now }
        ((db.assignmentsOf task.id).map TaskAssignment.userId) _ n).trans ?_
      by_cases nobody : (db.assignmentsOf task.id).map TaskAssignment.userId = []
      · rw [if_pos nobody, if_pos nobody]
        refine (finish_before present (stillUndone _ db.users) n).trans ?_
        by_cases reached : n ≤ 2
        · rw [if_pos reached, if_pos (by omega)]
          simp [Db.interrupted, creditedUsers, nobody]
        · rw [if_neg reached, if_neg (by omega)]
      · rw [if_neg nobody, if_neg nobody]
        cases n with
        | zero => rfl
        | succ n =>
            rw [if_neg (Nat.succ_ne_zero n)]
            refine (finish_before present (stillUndone _ _) n).trans ?_
            by_cases reached : n ≤ 2
            · rw [if_pos reached, if_pos (by omega)]
              rfl
            · rw [if_neg reached, if_neg (by omega)]

theorem completedAssignments_eq_iff (db : Db) (taskId : TaskId) (now : Time) :
    completedAssignments db taskId now = db.assignments ↔
      ∀ assignment ∈ db.assignments.rows, assignment.taskId = taskId →
        assignment.status ≠ .assigned := by
  rw [completedAssignments, Table.update_eq_self_iff]
  constructor
  · intro same assignment stored here assigned
    have kept := same assignment stored (decide_eq_true ⟨here, assigned⟩)
    have status := congrArg TaskAssignment.status kept
    rw [assigned] at status
    cases status
  · intro none assignment stored hit
    obtain ⟨here, assigned⟩ := of_decide_eq_true hit
    exact absurd assigned (none assignment stored here)

theorem boostedScore_eq_iff (score : Nat) : boostedScore score = score ↔ score = 10000 := by
  unfold boostedScore
  omega

theorem boosted_eq_iff (user : User) :
    boostedPatch.run user = user ↔ user.trustScore = 10000 := by
  rw [← boostedScore_eq_iff]
  constructor
  · intro same
    have score : (boostedPatch.run user).trustScore = boostedScore user.trustScore := rfl
    rw [← score, same]
  · intro kept
    simp only [boostedPatch, kept]

theorem creditedUsers_eq_iff (db : Db) (taskId : TaskId) :
    creditedUsers db ((db.assignmentsOf taskId).map TaskAssignment.userId) = db.users ↔
      ∀ assignment ∈ db.assignments.rows, assignment.taskId = taskId →
        ∀ user ∈ db.users.rows, user.id = assignment.userId → user.trustScore = 10000 := by
  have listed : creditedUsers db ((db.assignmentsOf taskId).map TaskAssignment.userId) =
      db.users.update
        (fun user => user.id ∈ (db.assignmentsOf taskId).map TaskAssignment.userId)
        boostedPatch := by
    by_cases nobody : (db.assignmentsOf taskId).map TaskAssignment.userId = []
    · rw [creditedUsers, if_neg (not_not.mpr nobody), nobody]
      exact (Table.update_none db.users boostedPatch).symm
    · rw [creditedUsers, if_pos nobody]
  rw [listed, Table.update_eq_self_iff]
  constructor
  · intro same assignment stored here user userStored owner
    have member : user.id ∈ (db.assignmentsOf taskId).map TaskAssignment.userId := by
      rw [owner]
      exact List.mem_map_of_mem (Db.mem_assignmentsOf.mpr ⟨stored, here⟩)
    exact (boosted_eq_iff user).mp (same user userStored (decide_eq_true member))
  · intro full user userStored hit
    obtain ⟨assignment, member, owner⟩ := List.mem_map.mp (of_decide_eq_true hit)
    obtain ⟨stored, here⟩ := Db.mem_assignmentsOf.mp member
    exact (boosted_eq_iff user).mpr (full assignment stored here user userStored owner.symm)

theorem untouched_interrupted_iff (db : Db) (task : Task) (now : Time) (n : Nat) :
    Untouched db (db.interrupted task now n) ↔
      (2 ≤ n → ∀ assignment ∈ db.assignments.rows, assignment.taskId = task.id →
        assignment.status ≠ .assigned) ∧
      (3 ≤ n → ∀ assignment ∈ db.assignments.rows, assignment.taskId = task.id →
        ∀ user ∈ db.users.rows, user.id = assignment.userId → user.trustScore = 10000) := by
  rw [← completedAssignments_eq_iff db task.id now, ← creditedUsers_eq_iff]
  constructor
  · intro untouched
    refine ⟨fun updated => ?_, fun credited => ?_⟩
    · have kept := untouched.assignments
      rwa [Db.interrupted, if_pos updated] at kept
    · have kept := untouched.users
      simpa only [Db.interrupted, if_pos credited] using kept
  · rintro ⟨assignments, users⟩
    refine ⟨rfl, rfl, ?_, ?_⟩
    · by_cases updated : 2 ≤ n
      · simpa only [Db.interrupted, if_pos updated] using assignments updated
      · simp only [Db.interrupted, if_neg updated]
    · by_cases credited : 3 ≤ n
      · simpa only [Db.interrupted, if_pos credited] using users credited
      · simp only [Db.interrupted, if_neg credited]

/-- A store that differs in nothing is the same, so that a second call does the same. -/
theorem interrupted_eq_of_untouched {now : Time} {n : Nat}
    (untouched : Untouched db (db.interrupted task now n)) :
    db.interrupted task now n = db := by
  have assignments := untouched.assignments
  have users := untouched.users
  simp only [Db.interrupted] at assignments users ⊢
  rw [assignments, users]

theorem failsCleanly_interrupted_iff {call : WriteCall} {m n : Nat} {now : Time}
    (found : call.program.before m db = some (db.interrupted task now n)) :
    FailsCleanly db call m ↔ Untouched db (db.interrupted task now n) := by
  rw [failsCleanly_iff_of_before found]
  constructor
  · intro clean
    exact clean.1
  · intro untouched
    exact ⟨untouched, by rw [interrupted_eq_of_untouched untouched]⟩

/-- Where nobody holds an assignment, nothing that counts is written before the save. -/
theorem untouched_of_nobody (nobody : (db.assignmentsOf task.id).map TaskAssignment.userId = [])
    (now : Time) (n : Nat) : Untouched db (db.interrupted task now n) := by
  have absent : ∀ assignment ∈ db.assignments.rows, assignment.taskId ≠ task.id := by
    intro assignment stored here
    have member := Db.mem_assignmentsOf.mpr ⟨stored, here⟩
    rw [List.map_eq_nil_iff.mp nobody] at member
    cases member
  apply (untouched_interrupted_iff db task now n).mpr
  exact ⟨fun _ assignment stored here => absurd here (absent assignment stored),
    fun _ assignment stored here => absurd here (absent assignment stored)⟩

/-- A call that passes its checks fails cleanly at a later statement, exactly if the
statements before have changed nothing. -/
theorem confirmable_failsCleanly_iff {request : Request}
    (confirmable : Confirmable db task.id requester task request) (now : Time) (n : Nat) :
    FailsCleanly db (.confirmTaskCompletion task.id requester now) (n + 1) ↔
      (n ≤ 4 → Untouched db (db.interrupted task now (n + 1))) := by
  obtain ⟨stored, _, live⟩ := Db.findTask_some confirmable.found
  have undone := not_allDone_of_reviewing stored live confirmable.reviewing
  have settling := settle_before confirmable.present undone now n
  have found : ∀ left, (confirmThen (db.loaded task) now).before n db = some left →
      (WriteCall.confirmTaskCompletion task.id requester now).program.before (n + 1) db =
        some left :=
    fun left reached => confirm_before_succ.mpr ⟨task, request, confirmable, reached⟩
  have missing : (confirmThen (db.loaded task) now).before n db = none →
      (WriteCall.confirmTaskCompletion task.id requester now).program.before (n + 1) db =
        none := by
    intro unreached
    rw [Option.eq_none_iff_forall_ne_some]
    intro left reached
    obtain ⟨other, _, otherConfirmable, otherReached⟩ := confirm_before_succ.mp reached
    have same := confirmable.found.symm.trans otherConfirmable.found
    cases same
    rw [unreached] at otherReached
    cases otherReached
  by_cases first : n = 0
  · subst first
    rw [if_pos rfl] at settling
    have start : db.interrupted task now 1 = db := rfl
    rw [← start] at settling
    rw [failsCleanly_interrupted_iff (found _ settling)]
    exact ⟨fun untouched _ => untouched, fun untouched => untouched (Nat.zero_le 4)⟩
  · rw [if_neg first] at settling
    by_cases nobody : (db.assignmentsOf task.id).map TaskAssignment.userId = []
    · refine iff_of_true ?_ fun _ => untouched_of_nobody nobody now (n + 1)
      rw [if_pos nobody] at settling
      by_cases reached : n ≤ 3
      · rw [if_pos reached] at settling
        exact (failsCleanly_interrupted_iff (found _ settling)).mpr
          (untouched_of_nobody nobody now (n + 1))
      · rw [if_neg reached] at settling
        exact failsCleanly_of_not_reached (missing settling)
    · rw [if_neg nobody] at settling
      by_cases reached : n ≤ 4
      · rw [if_pos reached] at settling
        rw [failsCleanly_interrupted_iff (found _ settling)]
        exact ⟨fun untouched _ => untouched, fun untouched => untouched reached⟩
      · rw [if_neg reached] at settling
        exact iff_of_true (failsCleanly_of_not_reached (missing settling))
          fun early => absurd early reached

theorem confirm_failsCleanly_iff (db : Db) (taskId : TaskId) (requester : User) (now : Time)
    (n : Nat) :
    FailsCleanly db (.confirmTaskCompletion taskId requester now) n ↔
      NothingWritten db n (.confirmTaskCompletion taskId requester now) := by
  cases n with
  | zero =>
      have found : (WriteCall.confirmTaskCompletion taskId requester now).program.before 0 db =
          some db := rfl
      rw [failsCleanly_iff_of_before found]
      refine iff_of_true ⟨⟨rfl, rfl, rfl, rfl⟩, rfl⟩ fun _ _ _ => ⟨fun early => ?_, fun early => ?_⟩
      · exact absurd early (by decide)
      · exact absurd early (by decide)
  | succ n =>
      by_cases passes : ∃ task request, Confirmable db taskId requester task request
      · obtain ⟨task, request, confirmable⟩ := passes
        obtain ⟨_, rfl, _⟩ := Db.findTask_some confirmable.found
        rw [confirmable_failsCleanly_iff confirmable, untouched_interrupted_iff]
        constructor
        · intro untouched _ _ _
          exact ⟨fun early le => (untouched (Nat.le_of_succ_le_succ le)).1 early,
            fun early le => (untouched (Nat.le_of_succ_le_succ le)).2 early⟩
        · intro nothing le
          obtain ⟨assigned, full⟩ := nothing task request confirmable
          exact ⟨fun early => assigned early (Nat.succ_le_succ le),
            fun early => full early (Nat.succ_le_succ le)⟩
      · refine iff_of_true ?_ fun task request confirmable => absurd ⟨task, request, confirmable⟩
          passes
        apply failsCleanly_of_not_reached
        rw [Option.eq_none_iff_forall_ne_some]
        intro left reached
        obtain ⟨task, request, confirmable, _⟩ := confirm_before_succ.mp reached
        exact passes ⟨task, request, confirmable⟩

end Confirming

/-- A call fails cleanly at a statement, exactly if nothing has been written before it that
changes a row. -/
theorem failsCleanly_iff (db : Db) (call : WriteCall) (n : Nat) :
    FailsCleanly db call n ↔ NothingWritten db n call := by
  cases call with
  | create dto creator now => exact create_failsCleanly_iff db dto creator now n
  | confirmTaskCompletion taskId requester now =>
      exact confirm_failsCleanly_iff db taskId requester now n

def helpNeeded : NewRequestDto where
  title := "Потрібна допомога"
  requiredClearance := none
  managingOrganizationId := none

/-- A volunteer has completed the task of the author. -/
def reviewedBoard : Db :=
  execute (TasksOp.step 3) (exampleBoard .local)
    [.assignVolunteer 0 ⟨none⟩ firstVolunteer 1, .completeTask 0 firstVolunteer 2]

theorem reviewedBoard_confirmable :
    ∃ task request, Confirmable reviewedBoard 0 author task request := by
  have stored : ∃ task ∈ reviewedBoard.tasks.rows, ∃ request ∈ reviewedBoard.requests.rows,
      reviewedBoard.findTask 0 = some task ∧
        reviewedBoard.findRequest task.requestId = some request ∧
        mayReview request author = true ∧ task.status = .pendingReview := by
    decide +kernel
  obtain ⟨task, _, request, _, found, present, allowed, reviewing⟩ := stored
  exact ⟨task, request, found, present, allowed, reviewing⟩

/-- The request stays without a task, and the volunteer is credited while the task is still
under review. -/
theorem failsCleanly_fails :
    ¬ FailsCleanly (exampleBoard .local) (.create helpNeeded author 3) 1 ∧
      ¬ FailsCleanly reviewedBoard (.confirmTaskCompletion 0 author 3) 3 := by
  constructor
  · rw [create_failsCleanly_iff]
    exact fun nothing => (nothing rfl).1 rfl
  · rw [confirm_failsCleanly_iff]
    intro nothing
    obtain ⟨task, request, confirmable⟩ := reviewedBoard_confirmable
    have assigned : ∃ assignment ∈ reviewedBoard.assignments.rows,
        assignment.taskId = 0 ∧ assignment.status = .assigned := by
      decide +kernel
    obtain ⟨assignment, stored, here, status⟩ := assigned
    exact (nothing task request confirmable).1 (by decide) (by decide) assignment stored here
      status

end VolunteerApi
