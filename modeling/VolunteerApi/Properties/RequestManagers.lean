import VolunteerApi.Effects.DelegationOutcomes
import VolunteerApi.Model.System

/-!
# The organization that manages a request

`acceptDelegation` hands the request of the task to the organization that accepts.
`unacceptDelegation` and `declineDelegation` end the acceptance and leave the
request as it is, also when it was the organization's last one on the request.
-/

set_option autoImplicit false

namespace VolunteerApi

open Relational Programs
open TasksService

/-- The delegation is accepted, by the organization, on a task of the request. -/
structure Holding (db : Db) (requestId : RequestId) (organizationId : OrgId)
    (delegation : TaskDelegation) : Prop where
  stored : delegation ∈ db.delegations.rows
  accepted : delegation.isAccepted = some true
  organization : delegation.organizationId = organizationId
  request : ∃ task, db.findTask delegation.taskId = some task ∧ task.requestId = requestId

/-- Whoever manages a request has accepted one of its tasks. -/
def ManagersHold (db : Db) : Prop :=
  ∀ request ∈ db.requests.rows, ∀ organizationId,
    request.managingOrganizationId = some organizationId →
      ∃ delegation, Holding db request.id organizationId delegation

/-- Each request the organization manages has another task it has accepted. -/
def HoldsWithout (db : Db) (taskId : TaskId) (organizationId : OrgId) : Prop :=
  ∀ request ∈ db.requests.rows, request.managingOrganizationId = some organizationId →
    ∃ delegation, Holding db request.id organizationId delegation ∧ delegation.taskId ≠ taskId

/-- A call that ends an acceptance does not end the last one that its organization has
on a request it manages. -/
def EndsNotLast (db : Db) : TasksOp → Prop
  | .unacceptDelegation taskId organizationId user =>
      ∀ delegation, Unaccepting db taskId organizationId user delegation →
        HoldsWithout db taskId organizationId
  | .declineDelegation taskId organizationId user =>
      ∀ delegation, Declining db taskId organizationId user delegation →
        HoldsWithout db taskId organizationId
  | _ => True

def OnDelegations : TasksOp → Prop
  | .delegateTask _ _ _ _ => True
  | .acceptDelegation _ _ _ => True
  | .unacceptDelegation _ _ _ => True
  | .declineDelegation _ _ _ => True
  | _ => False

/-! ## What the writes do to the holdings -/

theorem Holding.later {db later : Db} {requestId : RequestId} {organizationId : OrgId}
    {delegation : TaskDelegation} (holding : Holding db requestId organizationId delegation)
    (tasks : later.tasks = db.tasks) (stored : delegation ∈ later.delegations.rows) :
    Holding later requestId organizationId delegation := by
  refine ⟨stored, holding.accepted, holding.organization, ?_⟩
  unfold Db.findTask
  rw [tasks]
  exact holding.request

/-- A call that passes its checks with the delegation `copy` not accepted, or saved as such,
takes away at most what is held in the slot of `copy`. -/
theorem holding_withAccepted_iff {db : Db} {copy : TaskDelegation} (stored : Stored db copy)
    {isAccepted : Option Bool} (ends : isAccepted ≠ some true) {requestId : RequestId}
    {organizationId : OrgId} {delegation : TaskDelegation} :
    Holding (withAccepted db copy isAccepted) requestId organizationId delegation ↔
      Holding db requestId organizationId delegation ∧ delegation.slot ≠ copy.slot := by
  constructor
  · intro holding
    rcases mem_of_withAccepted holding.stored with before | rfl
    · refine ⟨⟨before, holding.accepted, holding.organization, holding.request⟩, ?_⟩
      intro here
      obtain ⟨old, oldSlot, replaced⟩ := withAccepted_replaced stored isAccepted
      have new : delegation = { copy with isAccepted := isAccepted } :=
        Table.eq_of_uniq holding.stored replaced.new_mem here
      apply ends
      rw [← holding.accepted, new]
    · exact absurd holding.accepted ends
  · rintro ⟨holding, apart⟩
    exact holding.later rfl (mem_withAccepted stored holding.stored apart)

theorem managersHold_ended_iff {db : Db} {taskId : TaskId} {organizationId : OrgId}
    {copy : TaskDelegation} (found : findDelegation db taskId organizationId = some copy)
    {isAccepted : Option Bool} (ends : isAccepted ≠ some true) (hold : ManagersHold db) :
    ManagersHold (withAccepted db copy isAccepted) ↔ HoldsWithout db taskId organizationId := by
  obtain ⟨stored, slot⟩ := stored_of_findDelegation found
  constructor
  · intro after request member manages
    obtain ⟨delegation, holding⟩ := after request member organizationId manages
    obtain ⟨before, apart⟩ := (holding_withAccepted_iff stored ends).mp holding
    refine ⟨delegation, before, ?_⟩
    intro here
    apply apart
    rw [slot, TaskDelegation.slot, here, before.organization]
  · intro others request member manager manages
    have kept : ∃ delegation, Holding db request.id manager delegation ∧
        delegation.slot ≠ copy.slot := by
      by_cases same : manager = organizationId
      · subst same
        obtain ⟨delegation, holding, other⟩ := others request member manages
        refine ⟨delegation, holding, ?_⟩
        intro here
        rw [slot] at here
        exact other (Prod.mk.inj here).1
      · obtain ⟨delegation, holding⟩ := hold request member manager manages
        refine ⟨delegation, holding, ?_⟩
        intro here
        rw [slot] at here
        exact same (holding.organization.symm.trans (Prod.mk.inj here).2)
    obtain ⟨delegation, holding, apart⟩ := kept
    exact ⟨delegation, (holding_withAccepted_iff stored ends).mpr ⟨holding, apart⟩⟩

theorem managersHold_upserted {db : Db} {taskId : TaskId} {dto : DelegateTaskDto}
    {coordinator : User} (now : Time) (delegating : Delegating db taskId dto coordinator)
    (hold : ManagersHold db) : ManagersHold (upserted taskId dto coordinator now db) := by
  have member : ∀ {delegation : TaskDelegation}, delegation ∈ db.delegations.rows →
      delegation.isAccepted = some true →
        delegation ∈ (upserted taskId dto coordinator now db).delegations.rows := by
    intro delegation stored isAccepted
    apply mem_upserted stored
    intro here
    obtain ⟨rfl, sameOrg⟩ := Prod.mk.inj here
    apply delegating.pending
    rw [← sameOrg, findDelegation_of_mem stored]
    exact isAccepted
  intro request requestMember manager manages
  obtain ⟨delegations, same⟩ := upserted_eq taskId dto coordinator now db
  have requests : (upserted taskId dto coordinator now db).requests = db.requests := by rw [same]
  have tasks : (upserted taskId dto coordinator now db).tasks = db.tasks := by rw [same]
  rw [requests] at requestMember
  obtain ⟨delegation, holding⟩ := hold request requestMember manager manages
  exact ⟨delegation, holding.later tasks (member holding.stored holding.accepted)⟩

theorem holding_accepted {db : Db} {copy : TaskDelegation} (stored : Stored db copy)
    {requestId : RequestId} {manager : OrgId} {delegation : TaskDelegation}
    (holding : Holding db requestId manager delegation) :
    ∃ later, Holding (withAccepted db copy (some true)) requestId manager later := by
  obtain ⟨old, oldSlot, replaced⟩ := withAccepted_replaced stored (some true)
  by_cases here : delegation = old
  · have slot : copy.slot = delegation.slot := oldSlot.symm.trans (congrArg _ here.symm)
    obtain ⟨sameTask, sameOrg⟩ := Prod.mk.inj slot
    refine ⟨{ copy with isAccepted := some true }, replaced.new_mem, rfl,
      sameOrg.trans holding.organization, ?_⟩
    change ∃ task, db.findTask copy.taskId = some task ∧ _
    rw [sameTask]
    exact holding.request
  · exact ⟨delegation, holding.later rfl (replaced.kept holding.stored here)⟩

theorem managersHold_accepted {db : Db} {taskId : TaskId} {organizationId : OrgId} {user : User}
    {copy : TaskDelegation} {request : Option Request}
    (accepting : Accepting db taskId organizationId user copy request) (hold : ManagersHold db) :
    ManagersHold (accepted db copy request organizationId) := by
  obtain ⟨stored, slot⟩ := stored_of_findDelegation accepting.found
  obtain ⟨rfl, sameOrg⟩ := Prod.mk.inj slot
  have saved : ManagersHold (withAccepted db copy (some true)) := by
    intro row member manager manages
    obtain ⟨delegation, holding⟩ := hold row member manager manages
    exact holding_accepted stored holding
  cases request with
  | none => exact saved
  | some request =>
      intro row member manager manages
      obtain ⟨old, oldMember, rfl⟩ := (Table.mem_update _ _ _ _).mp member
      by_cases hit : old.id = request.id
      · -- the request of the accepted task
        rw [if_pos (decide_eq_true hit)] at manages ⊢
        cases manages
        obtain ⟨task, taskFound, requestFound⟩ := Option.bind_eq_some_iff.mp accepting.loaded.symm
        obtain ⟨_, _, replaced⟩ := withAccepted_replaced stored (some true)
        refine ⟨{ copy with isAccepted := some true }, replaced.new_mem, rfl, sameOrg, task,
          taskFound, ?_⟩
        exact (Db.findRequest_some requestFound).2.1.symm.trans hit.symm
      · rw [if_neg (by simpa using hit)] at manages ⊢
        obtain ⟨delegation, holding⟩ := saved old oldMember manager manages
        exact ⟨delegation, holding.later rfl holding.stored⟩

/-! ## Every call -/

/-- A call that ends an acceptance when its checks pass, and leaves all as it was when they
do not. -/
theorem managersHold_ending_iff {db after : Db} {taskId : TaskId} {organizationId : OrgId}
    {isAccepted : Option Bool} (ends : isAccepted ≠ some true) {Passed : TaskDelegation → Prop}
    (found : ∀ copy, Passed copy → findDelegation db taskId organizationId = some copy)
    (passed : ∀ copy, Passed copy → after = withAccepted db copy isAccepted)
    (refused : (¬ ∃ copy, Passed copy) → after = db) (hold : ManagersHold db) :
    ManagersHold after ↔ ∀ copy, Passed copy → HoldsWithout db taskId organizationId := by
  by_cases some : ∃ copy, Passed copy
  · obtain ⟨copy, here⟩ := some
    rw [passed copy here, managersHold_ended_iff (found copy here) ends hold]
    constructor
    · intro others _ _
      exact others
    · intro allowed
      exact allowed copy here
  · rw [refused some]
    refine iff_of_true hold ?_
    intro copy here
    exact absurd ⟨copy, here⟩ some

theorem managersHold_unaccept_iff (required : Nat) {db : Db} (taskId : TaskId)
    (organizationId : OrgId) (user : User) (hold : ManagersHold db) :
    ManagersHold (TasksOp.step required db (.unacceptDelegation taskId organizationId user)) ↔
      EndsNotLast db (.unacceptDelegation taskId organizationId user) := by
  apply managersHold_ending_iff (by simp : (none : Option Bool) ≠ some true)
    (fun _ unaccepting => unaccepting.found) ?_ ?_ hold
  · intro copy unaccepting
    exact congrArg Prod.snd (unacceptDelegation_run unaccepting)
  · intro never
    apply Prog.Guarded.refused (unacceptDelegation_guarded taskId organizationId user db)
    intro _ _ post
    obtain ⟨copy, unaccepting, _⟩ := post
    exact never ⟨copy, unaccepting⟩

theorem managersHold_decline_iff (required : Nat) {db : Db} (taskId : TaskId)
    (organizationId : OrgId) (user : User) (hold : ManagersHold db) :
    ManagersHold (TasksOp.step required db (.declineDelegation taskId organizationId user)) ↔
      EndsNotLast db (.declineDelegation taskId organizationId user) := by
  apply managersHold_ending_iff (by simp : some false ≠ some true)
    (fun _ declining => declining.found) ?_ ?_ hold
  · intro copy declining
    exact congrArg Prod.snd (declineDelegation_run declining)
  · intro never
    apply Prog.Guarded.refused (declineDelegation_guarded taskId organizationId user db)
    intro _ _ post
    obtain ⟨copy, declining, _⟩ := post
    exact never ⟨copy, declining⟩

theorem managersHold_step_iff (required : Nat) (db : Db) (op : TasksOp)
    (onDelegations : OnDelegations op) (hold : ManagersHold db) :
    ManagersHold (op.step required db) ↔ EndsNotLast db op := by
  cases op with
  | unacceptDelegation taskId organizationId user =>
      exact managersHold_unaccept_iff required taskId organizationId user hold
  | declineDelegation taskId organizationId user =>
      exact managersHold_decline_iff required taskId organizationId user hold
  | delegateTask taskId dto coordinator now =>
      refine iff_of_true ?_ trivial
      have guarded := delegateTask_guarded taskId dto coordinator now db
      apply Prog.Guarded.after (motive := ManagersHold) guarded hold
      intro _ _ post
      obtain ⟨delegating, rfl⟩ := post
      exact managersHold_upserted now delegating hold
  | acceptDelegation taskId organizationId user =>
      refine iff_of_true ?_ trivial
      have guarded := acceptDelegation_guarded taskId organizationId user db
      apply Prog.Guarded.after (motive := ManagersHold) guarded hold
      intro _ _ post
      obtain ⟨copy, request, accepting, rfl⟩ := post
      exact managersHold_accepted accepting hold
  | _ => exact onDelegations.elim

/-- In every run of delegation calls that begins with requests nobody manages, the
managers hold a task of their requests exactly when no call ends a manager's last
acceptance on a request. -/
theorem managersHold_iff (required : Nat) {db : Db}
    (unmanaged : ∀ request ∈ db.requests.rows, request.managingOrganizationId = none)
    {ops : List TasksOp} (onDelegations : ∀ op ∈ ops, OnDelegations op) :
    Always (TasksOp.step required) ManagersHold db ops ↔
      Throughout (TasksOp.step required) EndsNotLast db ops := by
  have start : ManagersHold db := by
    intro request member manager manages
    rw [unmanaged request member] at manages
    cases manages
  refine @always_iff_throughout Db TasksOp (TasksOp.step required) (fun _ => True) ManagersHold
    OnDelegations EndsNotLast (fun _ _ _ _ => trivial) ?_ db ops trivial start onDelegations
  intro db op _ onDelegations hold
  exact managersHold_step_iff required db op onDelegations hold

/-- A task is delegated, accepted and given back. -/
def acceptedAndReturned : List TasksOp :=
  [.delegateTask 0 ⟨0, none⟩ firstAdmin 0,
   .acceptDelegation 0 0 firstAdmin,
   .unacceptDelegation 0 0 firstAdmin]

theorem managersHold_iff_witness :
    Always (TasksOp.step 3) ManagersHold (organizedBoard .local) acceptedAndReturned ↔
      Throughout (TasksOp.step 3) EndsNotLast (organizedBoard .local) acceptedAndReturned := by
  apply managersHold_iff 3
  · decide
  · simp [acceptedAndReturned, OnDelegations]

theorem managersHold_fails :
    (∀ request ∈ (organizedBoard .local).requests.rows, request.managingOrganizationId = none) ∧
      (∀ op ∈ acceptedAndReturned, OnDelegations op) ∧
      ¬ Always (TasksOp.step 3) ManagersHold (organizedBoard .local) acceptedAndReturned := by
  refine ⟨by decide, by simp [acceptedAndReturned, OnDelegations], ?_⟩
  intro all
  have stale : ∃ request ∈ (execute (TasksOp.step 3) (organizedBoard .local)
      acceptedAndReturned).requests.rows, request.managingOrganizationId = some 0 ∧
      ∀ delegation ∈ (execute (TasksOp.step 3) (organizedBoard .local)
        acceptedAndReturned).delegations.rows, delegation.isAccepted ≠ some true := by
    decide +kernel
  obtain ⟨request, member, manages, noneAccepted⟩ := stale
  obtain ⟨delegation, holding⟩ := always_end all request member 0 manages
  exact noneAccepted delegation holding.stored holding.accepted

end VolunteerApi
