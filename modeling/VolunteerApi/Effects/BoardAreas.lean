import VolunteerApi.Effects.PeopleAreas

/-!
# What the calls about tasks touch

A method of `TasksService` loads a task, checks and writes the copy it holds back.  What others
have changed in the meantime may be overwritten, but not the columns a copy cannot differ in:
`LoadedTask.Known` is what the method may rely on from the load on.
-/

set_option autoImplicit false

namespace VolunteerApi

open Relational Programs

open Prog Db

def boardScope : Scope := .ofTables [.requests, .tasks, .assignments, .chats, .delegations]

/-- A confirmation raises scores besides. -/
def confirmationScope : Scope where
  tables := .users :: boardScope.tables
  columns _ column := column = .trustScore
  newcomers _ := False

theorem boardScope_included : confirmationScope.Includes boardScope := .ofTables (by decide)

/-! ## Rows held in memory -/

/-- The held task and its held assignments are stored, as far as their fixed columns go. -/
structure LoadedTask.Known (loaded : LoadedTask) (db : Db) : Prop where
  task : db.tasks.Knows Task.authorship loaded.task
  assignments : ∀ assignment ∈ loaded.assignments,
    db.assignments.Knows TaskAssignment.slot assignment

namespace LoadedTask.Known

variable {loaded : LoadedTask} {db : Db}

theorem of_load {taskId : TaskId} (found : db.loadTask taskId = some loaded) :
    loaded.Known db := by
  obtain ⟨task, foundTask, rfl⟩ := Option.map_eq_some_iff.mp found
  refine ⟨Table.knows_of_mem (findTask_some foundTask).1, ?_⟩
  intro assignment held
  exact Table.knows_of_mem (mem_assignmentsOf.mp held).1

theorem evolves {after : Db} (known : loaded.Known db) (along : db.Evolves after) :
    loaded.Known after :=
  ⟨known.task.evolves along.tasks,
    fun assignment held => (known.assignments assignment held).evolves along.assignments⟩

theorem edited (known : loaded.Known db) {task : Task} (sameId : task.id = loaded.task.id)
    (sameAuthorship : task.authorship = loaded.task.authorship) :
    ({ loaded with task := task } : LoadedTask).Known db :=
  ⟨known.task.of_copy sameId sameAuthorship, known.assignments⟩

end LoadedTask.Known

namespace TasksService

theorem saveTaskRow_stays (task : Task) :
    (saveTaskRow task).Stays
      (While (fun db => db.tasks.Knows Task.authorship task) (Area boardScope)) := by
  refine ⟨?_, fun _ => trivial⟩
  intro db known
  refine Area.tasks (by decide) (Table.evolves_saveAll ?_)
  intro row held
  rw [List.mem_singleton.mp held]
  exact known

theorem saveTask_stays (loaded : LoadedTask) :
    (saveTask loaded).Stays (While loaded.Known (Area boardScope)) := by
  refine stays_throwIf.bind fun _ => Stays.bind ⟨?_, fun _ => trivial⟩ fun _ => stays_ret _
  intro db known
  have tasks : db.tasks.Evolves (fun old new => new.authorship = old.authorship)
      (db.tasks.saveAll [loaded.task]) :=
    Table.evolves_saveAll (by simpa using known.task)
  have assignments := Table.evolves_saveAll known.assignments
  refine ⟨{ Evolves.refl db with tasks := tasks, assignments := assignments }, ?_,
    Area.users_refl _⟩
  intro table outside
  cases table <;> first | rfl | exact absurd (by decide) outside

theorem saveEdited_stays (loaded : LoadedTask) {task : Task} (sameId : task.id = loaded.task.id)
    (sameAuthorship : task.authorship = loaded.task.authorship) :
    (saveTask { loaded with task := task }).Stays (While loaded.Known (Area boardScope)) :=
  (saveTask_stays _).weaken fun _ known => known.edited sameId sameAuthorship

theorem saveEditedRow_stays (loaded : LoadedTask) {task : Task} (sameId : task.id = loaded.task.id)
    (sameAuthorship : task.authorship = loaded.task.authorship) :
    (saveTaskRow task).Stays (While loaded.Known (Area boardScope)) :=
  (saveTaskRow_stays _).weaken fun _ known => known.task.of_copy sameId sameAuthorship

theorem requestOf_stays {guar : Db → Db → Prop} (loaded : LoadedTask) :
    (requestOf loaded).Stays guar := stays_orThrow

theorem guarantees_loaded {α : Type} {scope : Scope} {taskId : TaskId} {error : HttpException}
    {rest : LoadedTask → Service α}
    (stays : ∀ loaded, (rest loaded).Stays (While loaded.Known (Area scope))) (db : Db) :
    ((Prog.query fun db => db.loadTask taskId).bind fun found =>
      (Prog.orThrow found error).bind rest).Guarantees Db.Evolves (Area scope)
        (fun _ _ => True) db := by
  refine guarantees_found_bind Area.refl fun later _ loaded found => ?_
  refine (stays loaded).guarantees_while ?_ ?_ (LoadedTask.Known.of_load found)
  · exact fun _ _ known along => known.evolves along
  · exact fun _ _ known along => known.evolves along.evolves

/-! ## The methods -/

theorem create_stays (requestId : RequestId) (dto : CreateTaskDto) (creator : User) :
    (create requestId dto creator).Stays (Area boardScope) := by
  refine (stays_query Area.refl _).bind fun _ => ?_
  refine stays_orThrow.bind fun _ => ?_
  refine stays_throwIf.bind fun _ => stays_execReturning fun db => ?_
  exact Area.tasks (by decide) ((Table.added_append _ _ _).evolves fun _ => rfl)

theorem update_guarantees (id : TaskId) (dto : UpdateTaskDto) (user : User) (db : Db) :
    (update id dto user).Guarantees Db.Evolves (Area boardScope) (fun _ _ => True) db := by
  refine guarantees_loaded (fun loaded => ?_) db
  refine (requestOf_stays _).bind fun _ => ?_
  refine stays_throwIf.bind fun _ => ?_
  exact stays_throwIf.bind fun _ => saveEdited_stays loaded rfl rfl

theorem deleteTask_stays (taskId : TaskId) (user : User) (now : Time) :
    (deleteTask taskId user now).Stays (Area boardScope) := by
  refine (stays_query Area.refl _).bind fun _ => ?_
  refine stays_orThrow.bind fun _ => ?_
  refine (requestOf_stays _).bind fun _ => ?_
  iterate 2 refine stays_throwIf.bind fun _ => ?_
  refine ⟨fun db => Area.tasks (by decide) ?_, fun _ => trivial⟩
  exact Table.evolves_update (by intro _; rfl) _ _ (deletedPatch now) (by intro _; rfl)

theorem markWithdrawn_stays (assignmentId : AssignmentId) :
    (markWithdrawn assignmentId).Stays (Area boardScope) :=
  stays_exec fun _ => Area.assignments (by decide) (evolves_updateAssignments _ _ _)

theorem withdrawAssignment_stays (taskId : TaskId) (volunteer : User) :
    (withdrawAssignment taskId volunteer).Stays (Area boardScope) := by
  refine (stays_query Area.refl _).bind fun _ => ?_
  refine stays_orThrow.bind fun _ => ?_
  refine stays_throwIf.bind fun _ => ?_
  refine (markWithdrawn_stays _).bind fun _ => ?_
  refine (stays_query Area.refl _).bind fun _ => stays_onlyIf ?_
  refine ⟨fun db => Area.tasks (by decide) ?_, fun _ => trivial⟩
  exact Table.evolves_update (by intro _; rfl) _ _ resetPatch (by intro _; rfl)

theorem saveAssignment_stays (assignment : TaskAssignment) :
    (Prog.exec fun db => { db with assignments := db.assignments.saveAll [assignment] } :
      Service Unit).Stays
        (While (fun db => db.assignments.Knows TaskAssignment.slot assignment)
          (Area boardScope)) := by
  refine stays_exec fun db known => Area.assignments (by decide) (Table.evolves_saveAll ?_)
  intro row held
  rw [List.mem_singleton.mp held]
  exact known

theorem updateAssignmentStatus_guarantees (taskId : TaskId) (newStatus : String) (volunteer : User)
    (db : Db) :
    (updateAssignmentStatus taskId newStatus volunteer).Guarantees Db.Evolves (Area boardScope)
      (fun _ _ => True) db := by
  refine guarantees_orThrow_bind fun status _ => ?_
  refine guarantees_found_bind Area.refl fun later _ assignment found => ?_
  refine guarantees_throwIf_bind fun _ => ?_
  have stays := (saveAssignment_stays { assignment with status := status }).bind fun _ =>
    stays_ret { assignment with status := status }
  refine stays.guarantees_while ?_ ?_ ?_
  · exact fun _ _ known along => known.evolves along.assignments
  · exact fun _ _ known along => known.evolves along.evolves.assignments
  · exact (Table.knows_of_mem (findAssignment_some found).1).of_copy rfl rfl

theorem completeTask_guarantees (taskId : TaskId) (user : User) (now : Time) (db : Db) :
    (completeTask taskId user now).Guarantees Db.Evolves (Area boardScope) (fun _ _ => True)
      db := by
  refine guarantees_loaded (fun loaded => ?_) db
  exact stays_throwIf.bind fun _ => saveEdited_stays loaded rfl rfl

theorem returnToProgress_guarantees (taskId : TaskId) (user : User) (now : Time) (db : Db) :
    (returnToProgress taskId user now).Guarantees Db.Evolves (Area boardScope) (fun _ _ => True)
      db := by
  refine guarantees_loaded (fun loaded => ?_) db
  iterate 3 refine stays_throwIf.bind fun _ => ?_
  exact saveEdited_stays loaded rfl rfl

theorem setRequestStatus_stays (requestId : RequestId) (status : RequestStatus) :
    (setRequestStatus requestId status).Stays (Area boardScope) :=
  stays_exec fun _ => Area.requests (by decide)
    (Table.evolves_update (by intro _; rfl) _ _ (statusPatch status) (by intro _; rfl))

theorem checkRequestCompletion_stays (requestId : RequestId) :
    (checkRequestCompletion requestId).Stays (Area boardScope) := by
  refine (stays_query Area.refl _).bind fun _ => ?_
  exact (stays_query Area.refl _).bind fun _ => stays_onlyIf (setRequestStatus_stays _ _)

theorem confirmTaskCompletion_guarantees (taskId : TaskId) (requester : User) (now : Time)
    (db : Db) :
    (confirmTaskCompletion taskId requester now).Guarantees Db.Evolves (Area confirmationScope)
      (fun _ _ => True) db := by
  have completes : (completeAssigned taskId now).Stays (Area confirmationScope) :=
    stays_exec fun _ => Area.assignments (by decide) (evolves_updateAssignments _ _ _)
  have boosts (userIds : List UserId) :
      (boostVolunteerScores userIds).Stays (Area confirmationScope) := by
    refine stays_onlyIf (stays_exec fun _ => Area.of_users (by decide) ?_)
    exact Table.moves_update_within _ _ boostedPatch_touches fun _ _ _ column written =>
      List.mem_singleton.mp written
  refine guarantees_loaded (fun loaded => ?_) db
  refine (requestOf_stays _).bind fun _ => ?_
  iterate 2 refine stays_throwIf.bind fun _ => ?_
  refine completes.while.bind fun _ => ?_
  refine (boosts _).while.bind fun _ => ?_
  have saves : (saveTask { loaded with task := { loaded.task with status := .done } }).Stays
      (While loaded.Known (Area boardScope)) := saveEdited_stays loaded rfl rfl
  have ends := (checkRequestCompletion_stays loaded.task.requestId).while.bind fun _ => saves
  exact ends.mono fun _ _ moved known => (moved known).wider _ _ boardScope_included

theorem rejectTask_guarantees (taskId : TaskId) (requester : User) (db : Db) :
    (rejectTask taskId requester).Guarantees Db.Evolves (Area boardScope) (fun _ _ => True)
      db := by
  have reopens : (reopenCompleted taskId).Stays (Area boardScope) :=
    stays_exec fun _ => Area.assignments (by decide) (evolves_updateAssignments _ _ _)
  refine guarantees_loaded (fun loaded => ?_) db
  refine (requestOf_stays _).bind fun _ => ?_
  iterate 2 refine stays_throwIf.bind fun _ => ?_
  exact reopens.while.bind fun _ => saveEdited_stays loaded rfl rfl

theorem updateTaskStatusAdmin_guarantees (taskId : TaskId) (status : TaskStatus) (user : User)
    (db : Db) :
    (updateTaskStatusAdmin taskId status user).Guarantees Db.Evolves (Area boardScope)
      (fun _ _ => True) db := by
  refine guarantees_throwIf_bind fun _ => ?_
  refine guarantees_found_bind Area.refl fun later _ task found => ?_
  have stays := (saveTaskRow_stays { task with status := status }).bind fun _ =>
    stays_ret { task with status := status }
  refine stays.guarantees_while ?_ ?_ ?_
  · exact fun _ _ known along => known.evolves along.tasks
  · exact fun _ _ known along => known.evolves along.evolves.tasks
  · exact (Table.knows_of_mem (findTask_some found).1).of_copy rfl rfl

theorem cancelTask_guarantees (taskId : TaskId) (user : User) (db : Db) :
    (cancelTask taskId user).Guarantees Db.Evolves (Area boardScope) (fun _ _ => True) db := by
  refine guarantees_loaded (fun loaded => ?_) db
  refine (requestOf_stays _).bind fun _ => ?_
  exact stays_throwIf.bind fun _ => saveEdited_stays loaded rfl rfl

theorem renewTask_guarantees (taskId : TaskId) (user : User) (db : Db) :
    (renewTask taskId user).Guarantees Db.Evolves (Area boardScope) (fun _ _ => True) db := by
  refine guarantees_loaded (fun loaded => ?_) db
  refine (requestOf_stays _).bind fun _ => ?_
  iterate 2 refine stays_throwIf.bind fun _ => ?_
  refine Stays.bind (saveEditedRow_stays loaded ?_ ?_) fun _ => stays_ret _
  · rfl
  · rfl

/-! ## Delegation -/

theorem ensureOrgCoordinator_stays (organizationId : OrgId) (user : User) :
    (ensureOrgCoordinator organizationId user).Stays (Area boardScope) := by
  unfold ensureOrgCoordinator
  split
  · exact stays_ret ()
  · exact (stays_query Area.refl _).bind fun _ => stays_throwIf

theorem setAccepted_stays (loaded : LoadedDelegation) (isAccepted : Option Bool) :
    (setAccepted loaded isAccepted).Stays (Area boardScope) := by
  refine stays_throwIf.bind fun _ => stays_execOr Area.refl ?_
  intro db result saved
  cases (Option.ite_none_right_eq_some.mp saved).2
  exact Area.delegations (by decide)

theorem delegateTask_stays (taskId : TaskId) (dto : DelegateTaskDto) (coordinator : User)
    (now : Time) : (delegateTask taskId dto coordinator now).Stays (Area boardScope) := by
  refine (stays_query Area.refl _).bind fun _ => ?_
  refine stays_orThrow.bind fun _ => ?_
  refine (stays_query Area.refl _).bind fun _ => ?_
  refine stays_throwIf.bind fun _ => ?_
  refine (stays_query Area.refl _).bind fun _ => ?_
  refine stays_throwIf.bind fun _ => stays_execOr Area.refl ?_
  intro db result inserted
  cases (Option.ite_none_right_eq_some.mp inserted).2
  unfold upserted
  split
  · exact Area.delegations (by decide)
  · exact Area.delegations (by decide)

theorem acceptDelegation_stays (taskId : TaskId) (organizationId : OrgId) (user : User) :
    (acceptDelegation taskId organizationId user).Stays (Area boardScope) := by
  refine (ensureOrgCoordinator_stays _ _).bind fun _ => ?_
  refine (stays_query Area.refl _).bind fun _ => ?_
  refine stays_orThrow.bind fun loaded => ?_
  refine (stays_query Area.refl _).bind fun _ => ?_
  refine stays_throwIf.bind fun _ => ?_
  refine (setAccepted_stays _ _).bind fun _ => ?_
  split
  · refine stays_execOr Area.refl ?_
    intro db result managed
    cases (Option.ite_none_right_eq_some.mp managed).2
    exact Area.requests (by decide)
      (Table.evolves_update (by intro _; rfl) _ _ (managedPatch _) (by intro _; rfl))
  · exact stays_ret ()

theorem unacceptDelegation_stays (taskId : TaskId) (organizationId : OrgId) (user : User) :
    (unacceptDelegation taskId organizationId user).Stays (Area boardScope) := by
  refine (ensureOrgCoordinator_stays _ _).bind fun _ => ?_
  refine (stays_query Area.refl _).bind fun _ => ?_
  refine stays_orThrow.bind fun _ => ?_
  exact stays_throwIf.bind fun _ => setAccepted_stays _ _

theorem declineDelegation_stays (taskId : TaskId) (organizationId : OrgId) (user : User) :
    (declineDelegation taskId organizationId user).Stays (Area boardScope) := by
  refine (ensureOrgCoordinator_stays _ _).bind fun _ => ?_
  refine (stays_query Area.refl _).bind fun _ => ?_
  exact stays_orThrow.bind fun _ => setAccepted_stays _ _

/-! ## Taking a task

The transaction reads the task and the withdrawn assignment before it writes anything. -/

theorem insertAssignment_stays (taskId : TaskId) (dto : AssignTaskDto) (volunteer : User)
    (now : Time) : (insertAssignment taskId dto volunteer now).Stays (Area boardScope) := by
  refine stays_execOr Area.refl ?_
  intro db result inserted
  obtain ⟨assignments, added, rfl⟩ := Option.map_eq_some_iff.mp inserted
  exact Area.assignments (by decide) ((Table.added_insert added).evolves fun _ => rfl)

theorem enterTask_stays (task : Task) (request : Request) (volunteer : User)
    (assignments : List TaskAssignment) :
    (enterTask task request volunteer assignments).Stays
      (While (fun db => db.tasks.Knows Task.authorship task) (Area boardScope)) := by
  have creates : (createChatWithAssignments task request volunteer assignments).Stays
      (Area boardScope) :=
    stays_throwIf.bind fun _ => stays_execReturning fun _ => Area.chats (by decide)
      ((Table.added_append _ _ _).evolves Chat.Becomes.refl)
  have joins (chatId : ChatId) : (addParticipant chatId volunteer.id).Stays (Area boardScope) :=
    stays_exec fun _ => Area.chats (by decide)
      (Table.evolves_update Chat.Becomes.refl _ _ _ (Chat.Becomes.joined volunteer.id))
  unfold enterTask
  split
  · refine creates.while.bind fun chat => (saveTaskRow_stays _).weaken ?_
    exact fun db known => known.of_copy rfl rfl
  · split
    · exact (joins _).while
    · exact stays_ret ()

/-- What a transaction still writes moves the committed tables along `Area boardScope`. -/
def Settles {α : Type} (p : Service α) (pending : Db → Db) (db : Db) : Prop :=
  p.Ensures Db.Evolves
    (fun _ written now => ∀ later, now.Evolves later → Area boardScope later (written later))
    pending db

/-- The rest of `assignVolunteer` after the assignment. -/
def entersTask (task : Task) (request : Request) (volunteer : User)
    (assignments : List TaskAssignment) (assignment : TaskAssignment) :
    Service TaskAssignment := do
  enterTask task request volunteer assignments
  Prog.onlyIf (request.status = .open) (setRequestStatus request.id .inProgress)
  return assignment

theorem entersTask_stays (task : Task) (request : Request) (volunteer : User)
    (assignments : List TaskAssignment) (assignment : TaskAssignment) :
    (entersTask task request volunteer assignments assignment).Stays
      (While (fun db => db.tasks.Knows Task.authorship task) (Area boardScope)) := by
  refine (enterTask_stays task request volunteer assignments).bind fun _ => ?_
  exact (stays_onlyIf (setRequestStatus_stays _ _)).while.bind fun _ => stays_ret _

theorem upsertAssignment_settles (task : Task) (taskId : TaskId) (dto : AssignTaskDto)
    (volunteer : User) (now : Time) {rest : TaskAssignment → Service TaskAssignment}
    (stays : ∀ assignment, (rest assignment).Stays
      (While (fun db => db.tasks.Knows Task.authorship task) (Area boardScope)))
    {db : Db} (known : db.tasks.Knows Task.authorship task) :
    Settles ((upsertAssignment taskId dto volunteer now).bind rest) id db := by
  rw [upsertAssignment, Prog.bind_eq, Prog.bind_assoc]
  refine ensures_query_bind fun later along => ?_
  have knownLater := known.evolves along.tasks
  cases found : later.findAssignment taskId volunteer.id with
  | none =>
      simp only [id_eq, found]
      refine ((insertAssignment_stays _ _ _ _).while.bind stays).ensures_while Area.trans ?_ ?_
        (fun a _ => .refl a) knownLater
      · exact fun _ _ knows moved => knows.evolves moved.tasks
      · exact fun _ _ knows moved => knows.evolves moved.evolves.tasks
  | some existing =>
      -- From here on the transaction holds the assignment besides the task.
      let held : LoadedTask := { task := task, request := none, assignments := [existing] }
      have saves : (Prog.exec fun db =>
          { db with assignments := db.assignments.saveAll [reassigned existing dto now] } :
          Service Unit).Stays (While held.Known (Area boardScope)) :=
        (saveAssignment_stays _).weaken fun _ knows =>
          (knows.assignments existing (by simp [held])).of_copy rfl rfl
      have enters : (rest (reassigned existing dto now)).Stays
          (While held.Known (Area boardScope)) := (stays _).weaken fun _ knows => knows.task
      have knownHeld : held.Known later := by
        refine ⟨knownLater, ?_⟩
        intro assignment same
        rw [List.mem_singleton.mp same]
        exact Table.knows_of_mem (findAssignment_some found).1
      simp only [id_eq, found, Prog.bind_eq, Prog.pure_eq, Prog.bind_assoc, Prog.bind]
      refine ensures_throwIf_bind ((saves.bind fun _ => enters).ensures_while Area.trans ?_ ?_
        (fun a _ => .refl a) knownHeld)
      · exact fun _ _ knows moved => knows.evolves moved
      · exact fun _ _ knows moved => knows.evolves moved.evolves

theorem checkAdmission_writes (required : Nat) (request : Request) (volunteer : User) :
    (checkAdmission required request volunteer).Writes (· = id) := by
  unfold checkAdmission
  split
  · split
    · trivial
    · exact Writes.bind ⟨rfl, fun _ => trivial⟩ fun _ => writes_throwIf
  · exact writes_throwIf

theorem assignVolunteer_settles (required : Nat) (taskId : TaskId) (dto : AssignTaskDto)
    (volunteer : User) (now : Time) (db : Db) :
    Settles (assignVolunteer required taskId dto volunteer now) id db := by
  intro locked _
  refine ensures_orThrow_bind fun task found => ?_
  have known : locked.tasks.Knows Task.authorship task :=
    Table.knows_of_mem (findTask_some found).1
  refine ensures_query_bind fun first alongFirst => ?_
  refine ensures_query_bind fun second alongSecond => ?_
  refine ensures_orThrow_bind fun request _ => ?_
  refine ensures_throwIf_bind ?_
  have admission : (checkAdmission required request volunteer).Ensures Db.Evolves
      (fun _ written now => written = id ∧ second.Evolves now) id second := by
    refine (checkAdmission_writes required request volunteer).ensures ?_ Db.Evolves.refl
      (fun {a b c} => Db.Evolves.trans a b c) rfl
    rintro _ _ rfl rfl
    rfl
  refine admission.bind fun _ written third checked => ?_
  obtain ⟨rfl, alongThird⟩ := checked
  refine ensures_throwIf_bind ?_
  refine upsertAssignment_settles task taskId dto volunteer now
    (entersTask_stays task request volunteer _) ?_
  exact ((known.evolves alongFirst.tasks).evolves alongSecond.tasks).evolves alongThird.tasks

end TasksService

end VolunteerApi
