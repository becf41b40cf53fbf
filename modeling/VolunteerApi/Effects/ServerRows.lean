import VolunteerApi.Effects.OrganizationsOutcomes
import VolunteerApi.Effects.ServerEffects
import VolunteerApi.Properties.DirectPairs
import VolunteerApi.Properties.ExactLocations

/-!
# Where the rows of the server come from

For a chat, a task and a request that is stored after a call of a user: whether it was there
before, and if it was not, which call made it what it is and what its caller had to be.
-/

set_option autoImplicit false

namespace VolunteerApi

open Relational Programs Db
open TasksService ChatService

/-! ## Chats -/

def Db.HasTaken (db : Db) (taskId : TaskId) (userId : UserId) : Prop :=
  ∃ assignment ∈ db.assignments.rows, assignment.taskId = taskId ∧ assignment.userId = userId

/-- How a call can have produced a stored chat. -/
inductive ChatSource (db after : Db) : UserOp → Chat → Prop
  | kept (op : UserOp) (chat : Chat) (stored : chat ∈ db.chats.rows) : ChatSource db after op chat
  | started (dto : AssignTaskDto) (user : User) (now : Time) (task : Task) (request : Request)
      (found : db.findTask task.id = some task)
      (present : db.findRequest task.requestId = some request)
      (taken : after.HasTaken task.id user.id) :
      ChatSource db after (.tasks (.assignVolunteer task.id dto user now))
        (newChat task request user (db.assignmentsOf task.id) db.chats.next)
  | joined (dto : AssignTaskDto) (user : User) (now : Time) (task : Task) (old : Chat)
      (stored : old ∈ db.chats.rows) (found : db.findTask task.id = some task)
      (linked : task.chatId = some old.id) (taken : after.HasTaken task.id user.id) :
      ChatSource db after (.tasks (.assignVolunteer task.id dto user now))
        ((joinedPatch user.id).run old)
  | direct (targetUserId : UserId) (user : User) :
      ChatSource db after (.conversations (.getOrCreateDirect targetUserId user))
        (newDirectChat user.id targetUserId db.chats.next)
  | organization (op : OrganizationsOp) (chat : Chat) (type : chat.type = .orgChat) :
      ChatSource db after (.organizations op) chat

theorem TasksService.Upserted.taken {db : Db} {taskId : TaskId} {dto : AssignTaskDto} {user : User}
    {now : Time} {assignments : Table TaskAssignment.id TaskAssignment.slot}
    (upserted : Upserted db taskId dto user now assignments) :
    ∃ assignment ∈ assignments.rows, assignment.taskId = taskId ∧ assignment.userId = user.id := by
  cases upserted with
  | retaken existing found left =>
      obtain ⟨stored, sameTask, owner⟩ := Db.findAssignment_some found
      have replaced := Table.replaced_save (reassigned existing dto now) stored rfl rfl
      exact ⟨_, (replaced.mem _).mpr (Or.inl rfl), sameTask, owner⟩
  | fresh _ missing inserted =>
      exact ⟨_, ((Table.added_insert inserted).mem _).mpr (Or.inr rfl), rfl, rfl⟩

theorem TasksEffect.chatSource {required : Nat} {db after : Db} {op : TasksOp}
    (effect : TasksEffect required db op after) {chat : Chat} (stored : chat ∈ after.chats.rows) :
    ChatSource db after (.tasks op) chat := by
  cases effect with
  | quiet _ _ same => exact .kept _ chat (same.chats ▸ stored)
  | created requestId dto user request present => exact .kept _ chat stored
  | edited _ task new _ found edit tasks assignments chats requests =>
      exact .kept _ chat (chats ▸ stored)
  | withdrawn taskId user assignment found unfinished =>
      unfold TasksService.withdrawn at stored
      refine .kept _ chat ?_
      split at stored <;> exact stored
  | moved taskId newStatus user assignment status found active allowed =>
      exact .kept _ chat stored
  | assigned taskId dto user now task request _ assigned =>
      have found := assigned.found
      have present := assigned.present
      obtain ⟨_, rfl, _⟩ := Db.findTask_some found
      obtain ⟨assignments, tasks, chats, upserted, entered, rfl⟩ := assigned.effect
      cases entered with
      | starts todo =>
          have added := Table.added_append db.chats
            (newChat task request user (db.assignmentsOf task.id)) fun _ => rfl
          rcases (added.mem chat).mp stored with before | rfl
          · exact .kept _ chat before
          · exact .started dto user now task request found present upserted.taken
      | joins chatId busy linked =>
          obtain ⟨old, oldStored, rfl⟩ := (Table.mem_update _ _ _ _).mp stored
          by_cases here : old.id = chatId
          · subst here
            rw [if_pos (decide_eq_true rfl)]
            exact .joined dto user now task old oldStored found linked upserted.taken
          · rw [if_neg (by simpa using here)]
            exact .kept _ old oldStored
      | unheard busy linked => exact .kept _ chat stored

theorem ConversationOp.chatSource (env : ServerEnv) (db : Db) (op : ConversationOp) {chat : Chat}
    (stored : chat ∈ (UserOp.run env db (.conversations op)).2.chats.rows) :
    ChatSource db (UserOp.run env db (.conversations op)).2 (.conversations op) chat := by
  cases op with
  | getOrCreateDirect targetUserId user =>
      have ran : (UserOp.run env db (.conversations (.getOrCreateDirect targetUserId user))).2 =
          (DirectCall.finish db ⟨user, targetUserId, env.found⟩).2 :=
        congrArg Prod.snd (Prog.run_discard _ _)
      have finished := finish_finished db ⟨user, targetUserId, env.found⟩
      rw [ran] at stored ⊢
      generalize DirectCall.finish db ⟨user, targetUserId, env.found⟩ = ended at finished stored
      cases finished with
      | existing => exact .kept _ chat stored
      | created missing =>
          rcases mem_withDirectChat.mp stored with before | rfl
          · exact .kept _ chat before
          · exact .direct targetUserId user
      | refused => exact .kept _ chat stored
  | sendMessage chatId dto user now =>
      have area := (sendMessage_stays chatId user dto now).discard.run Area.refl Area.trans db
      exact .kept _ chat (area.same .chats (by decide) ▸ stored)
  | markAsRead chatId user =>
      have area := (markAsRead_stays env.returned chatId user).discard.run Area.refl Area.trans db
      exact .kept _ chat (area.same .chats (by decide) ▸ stored)

theorem UserOp.chatSource (env : ServerEnv) (db : Db) (op : UserOp) {chat : Chat}
    (stored : chat ∈ (op.run env db).2.chats.rows) :
    ChatSource db (op.run env db).2 op chat := by
  have untouched (outside : Db.TableName.chats ∉ op.scope.tables) :
      ChatSource db (op.run env db).2 op chat :=
    .kept op chat ((op.area env db).same .chats outside ▸ stored)
  cases op with
  | tasks op =>
      rw [UserOp.run_tasks] at stored ⊢
      exact (op.effect env.required db).chatSource stored
  | organizations op =>
      rcases (op.stays.run OrganizationsArea.refl OrganizationsArea.trans db).chats chat stored with
        before | ofOrganization
      · exact .kept _ chat before
      · exact .organization op chat ofOrganization
  | conversations op => exact op.chatSource env db stored
  | users op => exact untouched (op.untouched (by decide))
  | requests op => exact untouched (by simp [UserOp.scope, requestScope])
  | content op => exact untouched (by simp [UserOp.scope, requestScope])
  | reports op => exact untouched (by simp [UserOp.scope, reportScope])
  | personal op => exact untouched (by simp [UserOp.scope, personalScope])

/-! ## Tasks -/

/-- How a call can have produced a stored task. -/
inductive TaskSource (db : Db) : UserOp → Task → Prop
  | kept (op : UserOp) (task : Task) (stored : task ∈ db.tasks.rows) : TaskSource db op task
  | board (op : TasksOp) (task : Task) (origin : TaskRowOrigin db op task) :
      TaskSource db (.tasks op) task
  | automatic (dto : NewRequestDto) (user : User) (now : Time) :
      TaskSource db (.content (.create dto user now))
        (RequestsService.autoTask db.requests.next user db.tasks.next)

theorem UserOp.run_created (env : ServerEnv) (db : Db) (dto : NewRequestDto) (user : User)
    (now : Time) :
    (UserOp.run env db (.content (.create dto user now))).2 = createdDb db dto user now :=
  congrArg Prod.snd (Prog.run_discard _ _)

theorem UserOp.run_edited (env : ServerEnv) (db : Db) (id : RequestId) (dto : LocatedEditDto)
    (user : User) :
    (UserOp.run env db (.content (.update id dto user))).2 = db ∨
      ∃ old new, RequestsService.editable db id user = some old ∧ new.id = old.id ∧
        (UserOp.run env db (.content (.update id dto user))).2 =
          RequestsService.withRequest db new := by
  have ran : (UserOp.run env db (.content (.update id dto user))).2 =
      ((RequestsService.updateRequest id dto user).run db).2 :=
    (congrArg Prod.snd (Prog.run_discard _ _)).trans
      (congrArg Prod.snd (RequestsService.updateCascading_run id dto user db))
  have saves := updateRequest_savesRow db id dto user
  rw [ran]
  cases row : (RequestsService.editableFor db id user dto.managingOrganizationId.join).bind
      (LocatedEditDto.row dto) with
  | none =>
      rw [row] at saves
      obtain ⟨error, ended⟩ := saves
      rw [ended]
      exact Or.inl rfl
  | some new =>
      rw [row] at saves
      obtain ⟨value, ended⟩ := saves
      obtain ⟨old, passes, left⟩ := Option.bind_eq_some_iff.mp row
      rw [ended]
      exact Or.inr ⟨old, new, (RequestsService.editableFor_some passes).1, row_id left, rfl⟩

theorem UserOp.taskSource (env : ServerEnv) (db : Db) {user : User} {op : UserOp}
    (own : op.By user) {task : Task} (stored : task ∈ (op.run env db).2.tasks.rows) :
    TaskSource db op task := by
  have untouched (outside : Db.TableName.tasks ∉ op.scope.tables) : TaskSource db op task :=
    .kept op task ((op.area env db).same .tasks outside ▸ stored)
  cases op with
  | tasks op =>
      rw [UserOp.run_tasks] at stored
      exact .board op task ((op.effect env.required db).taskOrigin stored)
  | content op =>
      cases op with
      | create dto user now =>
          rw [UserOp.run_created] at stored
          rcases of_mem_createdDb_tasks stored with before | rfl
          · exact .kept _ task before
          · exact .automatic dto user now
      | update id dto user =>
          rcases UserOp.run_edited env db id dto user with same | ⟨_, _, _, _, same⟩ <;>
            · rw [same] at stored
              exact .kept _ task stored
  | requests op =>
      rw [UserOp.run_requests] at stored
      have effect := op.effect db
      generalize (op.run db).2 = after at effect stored
      cases effect with
      | created dto user now => cases own
      | unchanged => exact .kept _ task stored
      | saved => exact .kept _ task stored
      | removed => exact .kept _ task stored
  | users op => exact untouched (op.untouched (by decide))
  | organizations op =>
      exact untouched (by simp [UserOp.scope, organizationScope, membershipScope])
  | conversations op =>
      exact untouched (by simp [UserOp.scope, conversationScope])
  | reports op => exact untouched (by simp [UserOp.scope, reportScope])
  | personal op => exact untouched (by simp [UserOp.scope, personalScope])

/-! ## Requests -/

/-- How a call of the user can have produced a stored request.  What its owner or an admin makes
of it is left open. -/
inductive RequestSource (db after : Db) (user : User) : UserOp → Request → Prop
  | kept (op : UserOp) (request : Request) (stored : request ∈ db.requests.rows) :
      RequestSource db after user op request
  | created (dto : NewRequestDto) (now : Time) :
      RequestSource db after user (.content (.create dto user now))
        (createdRow dto user now db.requests.next)
  | edited (op : UserOp) (old new : Request) (stored : old ∈ db.requests.rows)
      (same : new.id = old.id) (mine : RequestsService.isOwnerOrAdmin old user = true) :
      RequestSource db after user op new
  | cancelled (reason : Option String) (now : Time) (old : Request)
      (stored : old ∈ db.requests.rows) (allowed : mayCancel old user = true) :
      RequestSource db after user (.requests (.cancel old.id reason user now))
        { old with
          status := .cancelled
          cancelReason := RequestsService.cancelReasonOf reason
          cancelledAt := some now
          cancelledByUserId := some user.id }
  | started (dto : AssignTaskDto) (now : Time) (task : Task) (old : Request)
      (stored : old ∈ db.requests.rows) (found : db.findTask task.id = some task)
      (ofTask : old.id = task.requestId) (untaken : old.status = .open)
      (taken : after.HasTaken task.id user.id) :
      RequestSource db after user (.tasks (.assignVolunteer task.id dto user now))
        ((statusPatch .inProgress).run old)
  | managed (taskId : TaskId) (organizationId : OrgId) (old : Request)
      (stored : old ∈ db.requests.rows) (coordinates : Coordinates db organizationId user) :
      RequestSource db after user (.tasks (.acceptDelegation taskId organizationId user))
        ((managedPatch organizationId).run old)
  | unmanaged (id : OrgId) (old : Request) (stored : old ∈ db.requests.rows)
      (managed : old.managingOrganizationId = some id)
      (deletable : OrganizationsOp.deletable db id user = true) :
      RequestSource db after user (.organizations (.delete id user))
        (OrganizationsService.unmanagedPatch.run old)

theorem mem_statusPatch {db : Db} {id : RequestId} {patch : Patch Request.id Request.id}
    {request : Request}
    (stored : request ∈ (db.requests.update (fun request => request.id = id) patch).rows) :
    request ∈ db.requests.rows ∨ ∃ old ∈ db.requests.rows, old.id = id ∧ request = patch.run old := by
  obtain ⟨old, oldStored, rfl⟩ := (Table.mem_update _ _ _ _).mp stored
  split
  · next hit => exact Or.inr ⟨old, oldStored, by simpa using hit, rfl⟩
  · exact Or.inl oldStored

theorem TasksOp.requestSource (required : Nat) (db : Db) (op : TasksOp) {request : Request}
    (stored : request ∈ (op.step required db).requests.rows) :
    RequestSource db (op.step required db) op.caller (.tasks op) request := by
  have unchanged {α : Type} {program : Service α} {Post : α → Db → Prop}
      (guarded : program.Guarded db Post)
      (same : ∀ value after, Post value after → after.requests = db.requests)
      (stored : request ∈ (program.run db).2.requests.rows) :
      RequestSource db (op.step required db) op.caller (.tasks op) request := by
    have kept : (program.run db).2.requests = db.requests :=
      Prog.Guarded.after (motive := fun after => after.requests = db.requests) guarded rfl same
    exact .kept _ request (kept ▸ stored)
  cases op with
  | create requestId dto user =>
      refine unchanged (TasksService.create_guarded requestId dto user db) ?_ stored
      rintro _ _ ⟨_, rfl⟩
      rfl
  | update taskId dto user =>
      refine unchanged (update_guarded taskId dto user db) ?_ stored
      rintro _ _ ⟨_, _, _, rfl⟩
      rfl
  | deleteTask taskId user now =>
      refine unchanged (deleteTask_guarded taskId user now db) ?_ stored
      rintro _ _ ⟨_, _, _, rfl⟩
      rfl
  | withdrawAssignment taskId user =>
      refine unchanged (withdrawAssignment_guarded taskId user db) ?_ stored
      rintro _ _ ⟨_, _, _, rfl⟩
      unfold TasksService.withdrawn
      split <;> rfl
  | updateAssignmentStatus taskId newStatus user =>
      refine unchanged (updateAssignmentStatus_guarded taskId newStatus user db) ?_ stored
      rintro _ _ ⟨_, _, _, _, _, rfl⟩
      rfl
  | completeTask taskId user now =>
      refine unchanged (completeTask_guarded taskId user now db) ?_ stored
      rintro _ _ ⟨_, _, _, _, rfl⟩
      rfl
  | returnToProgress taskId user now =>
      refine unchanged (returnToProgress_guarded taskId user now db) ?_ stored
      rintro _ _ ⟨_, _, _, rfl⟩
      rfl
  | rejectTask taskId user =>
      refine unchanged (rejectTask_guarded taskId user db) ?_ stored
      rintro _ _ ⟨_, _, _, rfl⟩
      rfl
  | updateTaskStatusAdmin taskId status user =>
      refine unchanged (updateTaskStatusAdmin_guarded taskId status user db) ?_ stored
      rintro _ _ ⟨_, _, _, rfl⟩
      rfl
  | cancelTask taskId user =>
      refine unchanged (cancelTask_guarded taskId user db) ?_ stored
      rintro _ _ ⟨_, _, rfl⟩
      rfl
  | renewTask taskId user =>
      refine unchanged (renewTask_guarded taskId user db) ?_ stored
      rintro _ _ ⟨_, _, _, _, _, _, rfl⟩
      rfl
  | delegateTask taskId dto user now =>
      refine unchanged (delegateTask_guarded taskId dto user now db) ?_ stored
      rintro _ _ ⟨_, rfl⟩
      obtain ⟨delegations, same⟩ := upserted_eq taskId dto user now db
      rw [same]
  | unacceptDelegation taskId organizationId user =>
      refine unchanged (unacceptDelegation_guarded taskId organizationId user db) ?_ stored
      rintro _ _ ⟨_, _, rfl⟩
      rfl
  | declineDelegation taskId organizationId user =>
      refine unchanged (declineDelegation_guarded taskId organizationId user db) ?_ stored
      rintro _ _ ⟨_, _, rfl⟩
      rfl
  | assignVolunteer taskId dto user now =>
      revert stored
      refine Prog.Commits.after (motive := fun after => request ∈ after.requests.rows →
          RequestSource db after user (.tasks (.assignVolunteer taskId dto user now)) request)
        (assignVolunteer_commits required taskId dto user now db)
        (fun stored => .kept _ request stored) ?_
      rintro _ _ ⟨task, ofTask, assigned⟩ stored
      obtain ⟨_, rfl, _⟩ := Db.findTask_some assigned.found
      obtain ⟨_, _, _, upserted, _, rfl⟩ := assigned.effect
      obtain ⟨_, sameId, _⟩ := Db.findRequest_some assigned.present
      by_cases untaken : ofTask.status = .open
      · have stored : request ∈ (startedRequests db ofTask).rows := stored
        rw [startedRequests, if_pos untaken] at stored
        rcases mem_statusPatch stored with before | ⟨old, oldStored, same, rfl⟩
        · exact .kept _ request before
        · obtain rfl := Table.eq_of_key oldStored (Db.findRequest_some assigned.present).1 same
          exact .started dto now task old oldStored assigned.found sameId untaken upserted.taken
      · have stored : request ∈ (startedRequests db ofTask).rows := stored
        rw [startedRequests, if_neg untaken] at stored
        exact .kept _ request stored
  | confirmTaskCompletion taskId user now =>
      revert stored
      refine Prog.Guarded.after (motive := fun after => request ∈ after.requests.rows →
          RequestSource db after user (.tasks (.confirmTaskCompletion taskId user now)) request)
        (confirmTaskCompletion_guarded taskId user now db)
        (fun stored => .kept _ request stored) ?_
      rintro _ _ ⟨task, ofTask, _, present, allowed, _, rfl⟩ stored
      have stored : request ∈ (checkedRequests db task.requestId).rows := stored
      unfold checkedRequests at stored
      split at stored
      · rcases mem_statusPatch stored with before | ⟨old, oldStored, same, rfl⟩
        · exact .kept _ request before
        · obtain ⟨ofTaskStored, sameId, _⟩ := Db.findRequest_some present
          obtain rfl := Table.eq_of_key oldStored ofTaskStored (same.trans sameId.symm)
          exact .edited _ old _ oldStored rfl allowed
      · exact .kept _ request stored
  | acceptDelegation taskId organizationId user =>
      revert stored
      refine Prog.Guarded.after (motive := fun after => request ∈ after.requests.rows →
          RequestSource db after user (.tasks (.acceptDelegation taskId organizationId user)) request)
        (acceptDelegation_guarded taskId organizationId user db)
        (fun stored => .kept _ request stored) ?_
      rintro _ _ ⟨delegation, loaded, accepting, rfl⟩ stored
      cases loaded with
      | none => exact .kept _ request stored
      | some ofTask =>
          rcases mem_statusPatch stored with before | ⟨old, oldStored, _, rfl⟩
          · exact .kept _ request before
          · exact .managed taskId organizationId old oldStored accepting.coordinates

/-- The call cancels a request that the user may cancel. -/
def RequestsOp.Cancels (op : RequestsOp) (user : User) (old new : Request) : Prop :=
  mayCancel old user = true ∧ ∃ reason now, op = .cancel old.id reason user now ∧
    new = { old with
      status := .cancelled
      cancelReason := RequestsService.cancelReasonOf reason
      cancelledAt := some now
      cancelledByUserId := some user.id }

/-- A row that a call saves is the caller's own, or he cancels it. -/
theorem RequestsOp.saved_by {db : Db} {user : User} {op : RequestsOp} (own : op.By user)
    {new : Request} (row : op.saved db = some new) :
    ∃ old ∈ db.requests.rows, new.id = old.id ∧
      (RequestsService.isOwnerOrAdmin old user = true ∨ op.Cancels user old new) := by
  have mine {id : RequestId} {old : Request} (found : RequestsService.owned db id user = some old)
      (same : new.id = old.id) :
      ∃ old ∈ db.requests.rows, new.id = old.id ∧
        (RequestsService.isOwnerOrAdmin old user = true ∨ op.Cancels user old new) :=
    ⟨old, (Db.findRequest_some (RequestsService.owned_some found).1).1, same,
      Or.inl (RequestsService.owned_some found).2⟩
  cases op with
  | create dto caller now => cases row
  | update id dto caller => cases own
  | remove id caller now => cases row
  | addInfo id dto caller infoId now =>
      cases own
      obtain ⟨old, found, rfl⟩ := Option.map_eq_some_iff.mp row
      exact mine found rfl
  | updateAdditionalInfo id infoId dto caller now =>
      cases own
      obtain ⟨old, found, edited⟩ := Option.bind_eq_some_iff.mp row
      obtain ⟨entry, _, rfl⟩ := Option.map_eq_some_iff.mp edited
      exact mine found rfl
  | removeAdditionalInfo id infoId caller now =>
      cases own
      obtain ⟨old, found, edited⟩ := Option.bind_eq_some_iff.mp row
      obtain ⟨entry, _, rfl⟩ := Option.map_eq_some_iff.mp edited
      exact mine found rfl
  | markAsPendingReview id caller =>
      cases own
      obtain ⟨old, found, rfl⟩ := Option.map_eq_some_iff.mp row
      exact mine found rfl
  | confirmCompletion id caller =>
      cases own
      obtain ⟨old, found, rfl⟩ := Option.map_eq_some_iff.mp row
      exact mine found rfl
  | returnToProgress id caller now =>
      cases own
      obtain ⟨old, found, rfl⟩ := Option.map_eq_some_iff.mp row
      exact mine (Option.filter_eq_some_iff.mp found).1 (RequestsService.returned_id old)
  | cancel id reason caller now =>
      cases own
      obtain ⟨old, found, rfl⟩ := Option.map_eq_some_iff.mp row
      obtain ⟨present, allowed⟩ := Option.filter_eq_some_iff.mp found
      obtain ⟨stored, rfl, _⟩ := Db.findRequest_some present
      simp only [decide_eq_true_eq] at allowed
      exact ⟨old, stored, rfl, Or.inr ⟨allowed.1, reason, now, rfl, rfl⟩⟩

theorem remove_owned (id : RequestId) (requester : User) (now : Time) (db : Db) :
    (RequestsService.remove id requester now).Guarded db fun _ after =>
      ∃ request ∈ db.requests.rows, request.id = id ∧
        RequestsService.isOwnerOrAdmin request requester = true ∧
        after.requests = db.requests.update (fun request => request.id = id)
          (RequestsService.deletedPatch now) := by
  refine Prog.guarded_query_bind (Prog.guarded_orThrow_bind ?_)
  intro loaded hit
  obtain ⟨request, found, rfl⟩ := Option.map_eq_some_iff.mp hit
  obtain ⟨stored, sameId, _⟩ := Db.findRequest_some found
  apply Prog.guarded_throwIf_bind
  intro mine
  apply Prog.guarded_throwIf_bind
  intro _
  exact Prog.guarded_of_run _ _ rfl ⟨request, stored, sameId, by simpa using mine, rfl⟩

theorem RequestsOp.requestSource (db : Db) {user : User} {op : RequestsOp} (own : op.By user)
    {request : Request} (stored : request ∈ (op.run db).2.requests.rows) :
    RequestSource db (op.run db).2 user (.requests op) request := by
  by_cases saves : op.saves = true
  · cases op.ended saves db with
    | refused error row ran =>
        rw [ran] at stored
        exact .kept _ request stored
    | saved new row ran =>
        rw [ran] at stored
        obtain ⟨old, oldStored, same, allowed⟩ := RequestsOp.saved_by own row
        have replaced := Table.replaced_save new oldStored same same
        rcases (replaced.mem request).mp stored with rfl | ⟨before, _⟩
        · rcases allowed with mine | ⟨may, reason, now, rfl, rfl⟩
          · exact .edited _ old request oldStored same mine
          · exact .cancelled reason now old oldStored may
        · exact .kept _ request before
  · cases op with
    | create dto user now => cases own
    | remove id caller now =>
        cases own
        revert stored
        refine Prog.Guarded.after (motive := fun after => request ∈ after.requests.rows →
            RequestSource db after user (.requests (.remove id user now)) request)
          (remove_owned id user now db) (fun stored => .kept _ request stored) ?_
        rintro _ _ ⟨found, foundStored, sameId, mine, requests⟩ stored
        rw [requests] at stored
        rcases mem_statusPatch stored with before | ⟨old, oldStored, same, rfl⟩
        · exact .kept _ request before
        · obtain rfl := Table.eq_of_key oldStored foundStored (same.trans sameId.symm)
          exact .edited _ old _ oldStored rfl mine
    | _ => exact absurd rfl saves

theorem ContentOp.requestSource (env : ServerEnv) (db : Db) {user : User} {op : ContentOp}
    (own : op.caller = user) {request : Request}
    (stored : request ∈ (UserOp.run env db (.content op)).2.requests.rows) :
    RequestSource db (UserOp.run env db (.content op)).2 user (.content op) request := by
  cases op with
  | create dto caller now =>
      obtain rfl : caller = user := own
      rw [UserOp.run_created] at stored
      rcases of_mem_createdDb stored with before | rfl
      · exact .kept _ request before
      · exact .created dto now
  | update id dto caller =>
      obtain rfl : caller = user := own
      rcases UserOp.run_edited env db id dto caller with same | ⟨old, new, editable, sameId, same⟩
      · rw [same] at stored
        exact .kept _ request stored
      · rw [same] at stored
        have mine := RequestsService.owned_some (Option.filter_eq_some_iff.mp editable).1
        obtain ⟨oldStored, _, _⟩ := Db.findRequest_some mine.1
        have replaced := Table.replaced_save new oldStored sameId sameId
        rcases (replaced.mem request).mp stored with rfl | ⟨before, _⟩
        · exact .edited _ old request oldStored sameId mine.2
        · exact .kept _ request before

/-- Deleting an organization takes its requests away from it. -/
theorem delete_requests (db : Db) (id : OrgId) (user : User) :
    (OrganizationsController.delete id user).Leaves db fun after =>
      after.requests = db.requests ∨
        OrganizationsOp.deletable db id user = true ∧
          after.requests = db.requests.update
            (fun request => request.managingOrganizationId = some id)
            OrganizationsService.unmanagedPatch := by
  apply leaves_canActivate_bind
  · intro _
    exact Or.inl rfl
  · intro activated
    apply leaves_checkLeaderOrAdmin_bind
    · intro _
      exact Or.inl rfl
    · intro coordinating
      apply leaves_findById_bind
      · intro _
        exact Or.inl rfl
      · intro organization found
        apply Prog.leaves_throwIf_bind
        · intro _
          exact Or.inl rfl
        · intro childless
          have none_below : db.childrenOf id = [] := not_not.mp childless
          refine Or.inr ⟨?_, rfl⟩
          simp [OrganizationsOp.deletable, activated, coordinating, Db.hasOrganization, found,
            none_below]

theorem OrganizationsOp.requestSource (db : Db) {op : OrganizationsOp} {request : Request}
    (stored : request ∈ (op.program.run db).2.requests.rows) :
    RequestSource db (op.program.run db).2 op.caller (.organizations op) request := by
  by_cases deletes : ∃ id user, op = .delete id user
  · obtain ⟨id, user, rfl⟩ := deletes
    rw [OrganizationsOp.run_program] at stored
    rcases delete_requests db id user with same | ⟨deletable, same⟩
    · exact .kept _ request (same ▸ stored)
    · have stored : request ∈ (((OrganizationsController.delete id user).run db).2).requests.rows :=
        stored
      rw [same] at stored
      obtain ⟨old, oldStored, rfl⟩ := (Table.mem_update _ _ _ _).mp stored
      split
      · next managed =>
        exact .unmanaged id old oldStored (by simpa using managed) deletable
      · exact .kept _ old oldStored
  · have keeps : ∀ id user, op ≠ .delete id user := fun id user same => deletes ⟨id, user, same⟩
    have area := (OrganizationsOp.stays_of_keeps keeps).run OrganizationsArea.refl
      OrganizationsArea.trans db
    exact .kept _ request (area.same .requests (by decide) ▸ stored)

theorem UserOp.requestSource (env : ServerEnv) (db : Db) {user : User} {op : UserOp}
    (own : op.By user) {request : Request}
    (stored : request ∈ (op.run env db).2.requests.rows) :
    RequestSource db (op.run env db).2 user op request := by
  have untouched (outside : Db.TableName.requests ∉ op.scope.tables) :
      RequestSource db (op.run env db).2 user op request :=
    .kept op request ((op.area env db).same .requests outside ▸ stored)
  cases op with
  | tasks op =>
      obtain rfl : op.caller = user := own
      rw [UserOp.run_tasks] at stored ⊢
      exact op.requestSource env.required db stored
  | requests op =>
      rw [UserOp.run_requests] at stored ⊢
      exact RequestsOp.requestSource db own stored
  | content op => exact ContentOp.requestSource env db own stored
  | organizations op =>
      obtain rfl : op.caller = user := own
      exact op.requestSource db stored
  | users op => exact untouched (op.untouched (by decide))
  | conversations op =>
      exact untouched (by simp [UserOp.scope, conversationScope])
  | reports op => exact untouched (by simp [UserOp.scope, reportScope])
  | personal op => exact untouched (by simp [UserOp.scope, personalScope])

end VolunteerApi
