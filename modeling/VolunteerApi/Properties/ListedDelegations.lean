import VolunteerApi.Model.RequestMeta
import VolunteerApi.Model.System

/-!
# Organizations and assignments in the request list

`enrichRequestMeta` joins the tasks of a request with their accepted delegations, the
organizations, the user's assignments and his memberships.  The joins multiply rows, which the
aggregates do not notice; but raw SQL sees the tasks that were deleted, too.
-/

set_option autoImplicit false

namespace VolunteerApi

open Relational Programs RequestsService

/-! ## What a task says -/

section Task

variable (db : Db) (userId : UserId) (task : Task)

def AcceptedBy (orgId : OrgId) : Prop :=
  ∃ delegation ∈ db.delegations.rows, delegation.taskId = task.id ∧
    delegation.organizationId = orgId ∧ delegation.isAccepted = some true

def IsMemberOf (orgId : OrgId) : Prop :=
  ∃ member ∈ db.members.rows, member.organizationId = orgId ∧ member.userId = userId

def NamesDelegate (name : String) : Prop :=
  ∃ org ∈ db.organizations.rows, AcceptedBy db task org.id ∧ org.name = name

def NamesOwnDelegate (name : String) : Prop :=
  ∃ org ∈ db.organizations.rows,
    AcceptedBy db task org.id ∧ IsMemberOf db userId org.id ∧ org.name = name

def HasOwnDelegate : Prop := ∃ orgId, AcceptedBy db task orgId ∧ IsMemberOf db userId orgId

def WorksOn : Prop :=
  ∃ assignment ∈ db.assignments.rows, assignment.taskId = task.id ∧
    assignment.userId = userId ∧ assignment.active = true

end Task

/-- The added fields say what some of the tasks say. -/
structure MetaOfTasks (db : Db) (userId : UserId) (tasks : List Task) (added : RequestMeta) :
    Prop where
  names : ∀ name, name ∈ added.delegatedOrgNames ↔ ∃ task ∈ tasks, NamesDelegate db task name
  distinct : added.delegatedOrgNames.Nodup
  ownNames : ∀ name, name ∈ added.myDelegatedOrgNames ↔
    ∃ task ∈ tasks, NamesOwnDelegate db userId task name
  ownDistinct : added.myDelegatedOrgNames.Nodup
  own : added.isMyOrgDelegating = true ↔ ∃ task ∈ tasks, HasOwnDelegate db userId task
  assigned : added.isUserAssigned = true ↔ ∃ task ∈ tasks, WorksOn db userId task

def Db.tasksOf (db : Db) (requestId : RequestId) : List Task :=
  db.tasks.find fun task => task.requestId = requestId

/-- What holds of a deleted task of the request holds of one that is not deleted as well. -/
def LiveTasksCover (db : Db) (requestId : RequestId) (tells : Task → Prop) : Prop :=
  ∀ deleted ∈ db.tasksOf requestId, deleted.deletedAt ≠ none → tells deleted →
    ∃ task ∈ db.liveTasks requestId, tells task

/-- The deleted tasks of the request have nothing to add to what the others say. -/
structure DeletedAddNothing (db : Db) (userId : UserId) (requestId : RequestId) : Prop where
  names : ∀ name, LiveTasksCover db requestId fun task => NamesDelegate db task name
  ownNames : ∀ name, LiveTasksCover db requestId fun task => NamesOwnDelegate db userId task name
  own : LiveTasksCover db requestId (HasOwnDelegate db userId)
  assigned : LiveTasksCover db requestId (WorksOn db userId)

/-! ## The rows of the query -/

section Rows

variable {db : Db} {userId : UserId} {requestIds : List RequestId} {requestId : RequestId}

/-- One row for each task and each choice of partners. -/
theorem mem_metaRows {row : MetaRow} :
    row ∈ metaRows requestIds userId db ↔
      row.requestId ∈ requestIds ∧ row.task ∈ db.tasksOf row.requestId ∧
        row.delegation ∈ partners db.delegations.rows (joinsDelegation row.task) ∧
        row.org ∈ partners db.organizations.rows (joinsOrg row.delegation) ∧
        row.assignment ∈ partners db.assignments.rows (joinsAssignment userId row.task) ∧
        row.member ∈ partners db.members.rows (joinsMember userId row.delegation) := by
  simp only [metaRows, List.mem_map, Db.tasksOf, Table.mem_find, decide_eq_true_eq]
  constructor
  · rintro ⟨⟨⟨⟨⟨⟨id, task⟩, delegation⟩, org⟩, assignment⟩, member⟩, joined, rfl⟩
    simp only [mem_leftJoin, mem_innerJoin, decide_eq_true_eq] at joined
    obtain ⟨⟨⟨⟨⟨listed, stored, same⟩, delegated⟩, named⟩, assigned⟩, mine⟩ := joined
    exact ⟨listed, ⟨stored, same⟩, delegated, named, assigned, mine⟩
  · rintro ⟨listed, ⟨stored, same⟩, delegated, named, assigned, mine⟩
    refine ⟨⟨⟨⟨⟨⟨row.requestId, row.task⟩, row.delegation⟩, row.org⟩, row.assignment⟩,
      row.member⟩, ?_, rfl⟩
    simp only [mem_leftJoin, mem_innerJoin, decide_eq_true_eq]
    exact ⟨⟨⟨⟨⟨listed, stored, same⟩, delegated⟩, named⟩, assigned⟩, mine⟩

def requestGroup (requestIds : List RequestId) (userId : UserId) (db : Db)
    (requestId : RequestId) : List MetaRow :=
  groupOf (groupBy MetaRow.requestId (metaRows requestIds userId db)) requestId

theorem task_of_mem_group {row : MetaRow}
    (grouped : row ∈ requestGroup requestIds userId db requestId) :
    row.task ∈ db.tasksOf requestId := by
  obtain ⟨joined, rfl⟩ := mem_groupOf.mp grouped
  exact (mem_metaRows.mp joined).2.1

theorem accepted_of_partner {task : Task} {delegation : TaskDelegation}
    (partner : some delegation ∈ partners db.delegations.rows (joinsDelegation task)) :
    AcceptedBy db task delegation.organizationId := by
  obtain ⟨stored, hit⟩ := some_mem_partners.mp partner
  obtain ⟨same, accepted⟩ := of_decide_eq_true hit
  exact ⟨delegation, stored, same, rfl, accepted⟩

theorem partner_of_accepted {task : Task} {orgId : OrgId} (accepted : AcceptedBy db task orgId) :
    ∃ delegation, delegation.organizationId = orgId ∧
      some delegation ∈ partners db.delegations.rows (joinsDelegation task) := by
  obtain ⟨delegation, stored, same, named, taken⟩ := accepted
  exact ⟨delegation, named, some_mem_partners.mpr ⟨stored, decide_eq_true ⟨same, taken⟩⟩⟩

theorem member_of_partner {delegation : Option TaskDelegation} {member : OrganizationMember}
    (partner : some member ∈ partners db.members.rows (joinsMember userId delegation)) :
    ∃ present, delegation = some present ∧ IsMemberOf db userId present.organizationId := by
  obtain ⟨stored, hit⟩ := some_mem_partners.mp partner
  obtain ⟨joined, same⟩ := of_decide_eq_true hit
  cases delegation with
  | none => cases joined
  | some present => exact ⟨present, rfl, member, stored, of_decide_eq_true joined, same⟩

theorem partner_of_member {delegation : TaskDelegation}
    (mine : IsMemberOf db userId delegation.organizationId) :
    ∃ member, some member ∈ partners db.members.rows (joinsMember userId (some delegation)) := by
  obtain ⟨member, stored, joined, same⟩ := mine
  exact ⟨member, some_mem_partners.mpr ⟨stored, decide_eq_true ⟨decide_eq_true joined, same⟩⟩⟩

theorem org_of_partner {task : Task} {delegation : Option TaskDelegation} {org : Organization}
    (delegated : delegation ∈ partners db.delegations.rows (joinsDelegation task))
    (partner : some org ∈ partners db.organizations.rows (joinsOrg delegation)) :
    org ∈ db.organizations.rows ∧ AcceptedBy db task org.id ∧
      ∃ present, delegation = some present ∧ org.id = present.organizationId := by
  obtain ⟨stored, hit⟩ := some_mem_partners.mp partner
  cases delegation with
  | none => cases hit
  | some present =>
      have same : org.id = present.organizationId := of_decide_eq_true hit
      rw [same]
      exact ⟨stored, accepted_of_partner delegated, present, rfl, rfl⟩

theorem partner_of_org {delegation : TaskDelegation} {org : Organization}
    (stored : org ∈ db.organizations.rows) (same : delegation.organizationId = org.id) :
    some org ∈ partners db.organizations.rows (joinsOrg (some delegation)) :=
  some_mem_partners.mpr ⟨stored, decide_eq_true same.symm⟩

variable (listed : requestId ∈ requestIds)
include listed

/-- A choice of partners for a task of a listed request is a row of that request. -/
theorem mem_requestGroup {task : Task} {delegation : Option TaskDelegation}
    {org : Option Organization} {assignment : Option TaskAssignment}
    {member : Option OrganizationMember} (ofRequest : task ∈ db.tasksOf requestId)
    (delegated : delegation ∈ partners db.delegations.rows (joinsDelegation task))
    (named : org ∈ partners db.organizations.rows (joinsOrg delegation))
    (assigned : assignment ∈ partners db.assignments.rows (joinsAssignment userId task))
    (mine : member ∈ partners db.members.rows (joinsMember userId delegation)) :
    ⟨requestId, task, delegation, org, assignment, member⟩ ∈
      requestGroup requestIds userId db requestId := by
  have joined : (⟨requestId, task, delegation, org, assignment, member⟩ : MetaRow) ∈
      metaRows requestIds userId db :=
    mem_metaRows.mpr ⟨listed, ofRequest, delegated, named, assigned, mine⟩
  exact mem_groupOf.mpr ⟨joined, rfl⟩

theorem group_names (name : String) :
    (∃ row ∈ requestGroup requestIds userId db requestId,
        row.org.map Organization.name = some name) ↔
      ∃ task ∈ db.tasksOf requestId, NamesDelegate db task name := by
  constructor
  · rintro ⟨row, grouped, named⟩
    obtain ⟨org, joined, rfl⟩ := Option.map_eq_some_iff.mp named
    obtain ⟨_, _, delegated, partner, _⟩ := mem_metaRows.mp (mem_groupOf.mp grouped).1
    rw [joined] at partner
    obtain ⟨stored, accepted, _⟩ := org_of_partner delegated partner
    exact ⟨row.task, task_of_mem_group grouped, org, stored, accepted, rfl⟩
  · rintro ⟨task, ofRequest, org, stored, accepted, rfl⟩
    obtain ⟨delegation, same, delegated⟩ := partner_of_accepted accepted
    obtain ⟨assignment, assigned⟩ :=
      exists_partner db.assignments.rows (joinsAssignment userId task)
    obtain ⟨member, mine⟩ :=
      exists_partner db.members.rows (joinsMember userId (some delegation))
    exact ⟨_, mem_requestGroup listed ofRequest delegated (partner_of_org stored same) assigned
      mine, rfl⟩

theorem group_ownNames (name : String) :
    (∃ row ∈ requestGroup requestIds userId db requestId,
        (if row.member ≠ none then row.org.map Organization.name else none) = some name) ↔
      ∃ task ∈ db.tasksOf requestId, NamesOwnDelegate db userId task name := by
  constructor
  · rintro ⟨row, grouped, named⟩
    obtain ⟨present, named⟩ := Option.ite_none_right_eq_some.mp named
    obtain ⟨org, joined, rfl⟩ := Option.map_eq_some_iff.mp named
    obtain ⟨member, memberJoined⟩ := Option.ne_none_iff_exists'.mp present
    obtain ⟨_, _, delegated, partner, _, mine⟩ := mem_metaRows.mp (mem_groupOf.mp grouped).1
    rw [joined] at partner
    rw [memberJoined] at mine
    obtain ⟨stored, accepted, delegation, found, same⟩ := org_of_partner delegated partner
    obtain ⟨other, otherFound, isMember⟩ := member_of_partner mine
    obtain rfl : delegation = other := Option.some.inj (found.symm.trans otherFound)
    exact ⟨row.task, task_of_mem_group grouped, org, stored, accepted, same ▸ isMember, rfl⟩
  · rintro ⟨task, ofRequest, org, stored, accepted, isMember, rfl⟩
    obtain ⟨delegation, same, delegated⟩ := partner_of_accepted accepted
    obtain ⟨assignment, assigned⟩ :=
      exists_partner db.assignments.rows (joinsAssignment userId task)
    obtain ⟨member, mine⟩ := partner_of_member (same.symm ▸ isMember)
    exact ⟨_, mem_requestGroup listed ofRequest delegated (partner_of_org stored same) assigned
      mine, rfl⟩

theorem group_own :
    (∃ row ∈ requestGroup requestIds userId db requestId,
        decide (row.delegation ≠ none ∧ row.member ≠ none) = true) ↔
      ∃ task ∈ db.tasksOf requestId, HasOwnDelegate db userId task := by
  constructor
  · rintro ⟨row, grouped, both⟩
    obtain ⟨member, memberJoined⟩ := Option.ne_none_iff_exists'.mp (of_decide_eq_true both).2
    obtain ⟨_, _, delegated, _, _, mine⟩ := mem_metaRows.mp (mem_groupOf.mp grouped).1
    rw [memberJoined] at mine
    obtain ⟨delegation, found, isMember⟩ := member_of_partner mine
    rw [found] at delegated
    exact ⟨row.task, task_of_mem_group grouped, delegation.organizationId,
      accepted_of_partner delegated, isMember⟩
  · rintro ⟨task, ofRequest, orgId, accepted, isMember⟩
    obtain ⟨delegation, rfl, delegated⟩ := partner_of_accepted accepted
    obtain ⟨org, named⟩ := exists_partner db.organizations.rows (joinsOrg (some delegation))
    obtain ⟨assignment, assigned⟩ :=
      exists_partner db.assignments.rows (joinsAssignment userId task)
    obtain ⟨member, mine⟩ := partner_of_member isMember
    exact ⟨_, mem_requestGroup listed ofRequest delegated named assigned mine, rfl⟩

theorem group_assigned :
    (∃ row ∈ requestGroup requestIds userId db requestId,
        decide (row.assignment ≠ none) = true) ↔
      ∃ task ∈ db.tasksOf requestId, WorksOn db userId task := by
  constructor
  · rintro ⟨row, grouped, present⟩
    obtain ⟨assignment, joined⟩ := Option.ne_none_iff_exists'.mp (of_decide_eq_true present)
    obtain ⟨_, _, _, _, assigned, _⟩ := mem_metaRows.mp (mem_groupOf.mp grouped).1
    rw [joined] at assigned
    obtain ⟨stored, hit⟩ := some_mem_partners.mp assigned
    obtain ⟨same, mine, active⟩ := of_decide_eq_true hit
    exact ⟨row.task, task_of_mem_group grouped, assignment, stored, same, mine,
      decide_eq_true (not_or.mp active)⟩
  · rintro ⟨task, ofRequest, assignment, stored, same, mine, active⟩
    obtain ⟨delegation, delegated⟩ := exists_partner db.delegations.rows (joinsDelegation task)
    obtain ⟨org, named⟩ := exists_partner db.organizations.rows (joinsOrg delegation)
    obtain ⟨member, joinedMember⟩ :=
      exists_partner db.members.rows (joinsMember userId delegation)
    have assigned :
        some assignment ∈ partners db.assignments.rows (joinsAssignment userId task) :=
      some_mem_partners.mpr
        ⟨stored, decide_eq_true ⟨same, mine, not_or.mpr (of_decide_eq_true active)⟩⟩
    exact ⟨_, mem_requestGroup listed ofRequest delegated named assigned joinedMember, rfl⟩

section Fields

variable (names : OrderBy fun _ _ : String => True)

theorem metaOf_names (name : String) :
    name ∈ (metaOf names (requestGroup requestIds userId db requestId)).delegatedOrgNames ↔
      ∃ task ∈ db.tasksOf requestId, NamesDelegate db task name := by
  have same : (∃ row ∈ requestGroup requestIds userId db requestId,
      row.org.map Organization.name = some name) ↔
        ∃ task ∈ db.tasksOf requestId, NamesDelegate db task name := group_names listed name
  rw [← same]
  exact mem_arrayAggDistinct

theorem metaOf_ownNames (name : String) :
    name ∈ (metaOf names (requestGroup requestIds userId db requestId)).myDelegatedOrgNames ↔
      ∃ task ∈ db.tasksOf requestId, NamesOwnDelegate db userId task name := by
  rw [← group_ownNames listed name]
  exact mem_arrayAggDistinct

theorem metaOf_own :
    (metaOf names (requestGroup requestIds userId db requestId)).isMyOrgDelegating = true ↔
      ∃ task ∈ db.tasksOf requestId, HasOwnDelegate db userId task := by
  rw [← group_own listed]
  exact boolOr_getD

theorem metaOf_assigned :
    (metaOf names (requestGroup requestIds userId db requestId)).isUserAssigned = true ↔
      ∃ task ∈ db.tasksOf requestId, WorksOn db userId task := by
  rw [← group_assigned listed]
  exact boolOr_getD

omit listed in
theorem nodup_metaOf (group : List MetaRow) :
    (metaOf names group).delegatedOrgNames.Nodup ∧
      (metaOf names group).myDelegatedOrgNames.Nodup := by
  unfold metaOf
  exact ⟨nodup_arrayAggDistinct, nodup_arrayAggDistinct⟩

/-- The added fields say what the tasks say, the deleted ones included. -/
theorem metaOf_group :
    MetaOfTasks db userId (db.tasksOf requestId)
      (metaOf names (requestGroup requestIds userId db requestId)) :=
  ⟨metaOf_names listed names, (nodup_metaOf names _).1, metaOf_ownNames listed names,
    (nodup_metaOf names _).2, metaOf_own listed names, metaOf_assigned listed names⟩

end Fields

end Rows

/-! ## Deleted tasks -/

section Deleted

variable {db : Db} {userId : UserId} {requestId : RequestId}

theorem liveTasksCover_iff {tells : Task → Prop} {told : Prop}
    (all : told ↔ ∃ task ∈ db.tasksOf requestId, tells task) :
    (told ↔ ∃ task ∈ db.liveTasks requestId, tells task) ↔ LiveTasksCover db requestId tells := by
  have live : ∀ task, task ∈ db.liveTasks requestId ↔
      task ∈ db.tasksOf requestId ∧ task.deletedAt = none := by
    intro task
    simp [Db.tasksOf, and_assoc]
  constructor
  · intro same deleted listed _ holds
    exact same.mp (all.mpr ⟨deleted, listed, holds⟩)
  · intro cover
    rw [all]
    constructor
    · rintro ⟨task, listed, holds⟩
      by_cases gone : task.deletedAt = none
      · exact ⟨task, (live task).mpr ⟨listed, gone⟩, holds⟩
      · exact cover task listed gone holds
    · rintro ⟨task, listed, holds⟩
      exact ⟨task, ((live task).mp listed).1, holds⟩

theorem metaOfTasks_live_iff {added : RequestMeta}
    (all : MetaOfTasks db userId (db.tasksOf requestId) added) :
    MetaOfTasks db userId (db.liveTasks requestId) added ↔
      DeletedAddNothing db userId requestId := by
  constructor
  · intro live
    exact
      { names := fun name => (liveTasksCover_iff (all.names name)).mp (live.names name)
        ownNames := fun name => (liveTasksCover_iff (all.ownNames name)).mp (live.ownNames name)
        own := (liveTasksCover_iff all.own).mp live.own
        assigned := (liveTasksCover_iff all.assigned).mp live.assigned }
  · intro nothing
    exact
      { names := fun name => (liveTasksCover_iff (all.names name)).mpr (nothing.names name)
        distinct := all.distinct
        ownNames := fun name =>
          (liveTasksCover_iff (all.ownNames name)).mpr (nothing.ownNames name)
        ownDistinct := all.ownDistinct
        own := (liveTasksCover_iff all.own).mpr nothing.own
        assigned := (liveTasksCover_iff all.assigned).mpr nothing.assigned }

end Deleted

/-! ## The answer -/

/-- Every entry of the answer says what the tasks of its request say that are not deleted. -/
def AddsLiveMeta (names : OrderBy fun _ _ : String => True) (db : Db)
    (requests : List ListedRequest) (userId : UserId) : Prop :=
  ∀ entries, ((enrichRequestMeta names requests (some userId)).run db).1 = .ok entries →
    ∀ entry ∈ entries, ∃ added, entry.added = some added ∧
      MetaOfTasks db userId (db.liveTasks entry.row.id) added

def addedMeta (names : OrderBy fun _ _ : String => True) (db : Db)
    (requests : List ListedRequest) (userId : UserId) (requestId : RequestId) : RequestMeta :=
  metaOf names (requestGroup (requests.map fun entry => entry.row.id) userId db requestId)

theorem enrichRequestMeta_run (names : OrderBy fun _ _ : String => True) (db : Db)
    (requests : List ListedRequest) (userId : UserId) :
    (enrichRequestMeta names requests (some userId)).run db =
      (.ok (requests.map fun entry =>
        { entry with added := some (addedMeta names db requests userId entry.row.id) }), db) := by
  by_cases none_ : requests = []
  · rw [none_]
    rfl
  · simp only [enrichRequestMeta, if_neg none_, Prog.bind_eq, Prog.pure_eq, Prog.run_query_bind,
      Prog.run_ret]
    rfl

theorem addedMeta_tasks (names : OrderBy fun _ _ : String => True) {db : Db}
    {requests : List ListedRequest} {userId : UserId} {entry : ListedRequest}
    (listed : entry ∈ requests) :
    MetaOfTasks db userId (db.tasksOf entry.row.id)
      (addedMeta names db requests userId entry.row.id) :=
  metaOf_group (List.mem_map_of_mem (f := fun entry => entry.row.id) listed) names

/-- The added fields agree with the entities that are not deleted, exactly if for every listed
request the deleted tasks have nothing to add. -/
theorem addsLiveMeta_iff (names : OrderBy fun _ _ : String => True) (db : Db)
    (requests : List ListedRequest) (userId : UserId) :
    AddsLiveMeta names db requests userId ↔
      ∀ entry ∈ requests, DeletedAddNothing db userId entry.row.id := by
  rw [AddsLiveMeta, enrichRequestMeta_run]
  constructor
  · intro adds entry listed
    obtain ⟨added, same, live⟩ := adds _ rfl _ (List.mem_map_of_mem listed)
    rw [← Option.some.inj same] at live
    exact (metaOfTasks_live_iff (addedMeta_tasks names listed)).mp live
  · intro nothing entries answers entry listed
    rw [← Except.ok.inj answers] at listed
    obtain ⟨old, member, rfl⟩ := List.mem_map.mp listed
    exact ⟨_, rfl, (metaOfTasks_live_iff (addedMeta_tasks names member)).mpr (nothing old member)⟩

/-- An organization took over the only task of the request; then the author deleted the task. -/
def delegatedAndDeleted : Db :=
  ((TasksService.deleteTask 0 author 9).run
    { exampleBoard .local with
      organizations := Table.empty.append fun id =>
        { id := id
          name := "Штаб"
          description := none
          logoUrl := none
          bannerUrl := none
          chatId := none
          parentOrgId := none
          tags := none }
      delegations :=
        { rows :=
            [{ id := 0
               taskId := 0
               organizationId := 0
               delegatedByUserId := some author.id
               delegatedAt := 1
               isAccepted := some true
               message := none }]
          next := 1
          below := by decide
          keys := by decide
          slots := by decide } }).2

/-- The organization is still named. -/
theorem addsLiveMeta_fails :
    ¬ AddsLiveMeta OrderBy.asStored delegatedAndDeleted
      [listedRequest delegatedAndDeleted (exampleRequest .local)] firstVolunteer.id := by
  intro adds
  have named : "Штаб" ∈ (addedMeta OrderBy.asStored delegatedAndDeleted
      [listedRequest delegatedAndDeleted (exampleRequest .local)] firstVolunteer.id
        0).delegatedOrgNames := by
    decide +kernel
  have none_ : delegatedAndDeleted.liveTasks 0 = [] := by decide +kernel
  have answered := enrichRequestMeta_run OrderBy.asStored delegatedAndDeleted
    [listedRequest delegatedAndDeleted (exampleRequest .local)] firstVolunteer.id
  obtain ⟨added, same, live⟩ := adds _ (congrArg Prod.fst answered) _ List.mem_cons_self
  rw [← Option.some.inj same] at live
  obtain ⟨task, listed, _⟩ := (live.names "Штаб").mp named
  have inside : task ∈ delegatedAndDeleted.liveTasks 0 := listed
  rw [none_] at inside
  exact absurd inside List.not_mem_nil

end VolunteerApi
