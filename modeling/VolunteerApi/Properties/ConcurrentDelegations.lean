import VolunteerApi.Effects.DelegationSessions
import VolunteerApi.Model.System

/-!
# Organizations that answer a delegation at the same time

`acceptDelegation` looks for another acceptance of the task and writes its own in
separate statements, and `delegateTask` looks whether the delegation is accepted
and overwrites it in separate statements.  In between, another call may accept.
As long as none does, a task has one accepted delegation at most, and nobody but
the organization itself ends an acceptance.
-/

set_option autoImplicit false

namespace VolunteerApi

open Relational Programs
open TasksService

/-- At most one delegation of the task is accepted. -/
def AcceptedOnce (taskId : TaskId) (db : Db) : Prop :=
  ∀ left ∈ db.delegations.rows, ∀ right ∈ db.delegations.rows,
    left.taskId = taskId → right.taskId = taskId →
      left.isAccepted = some true → right.isAccepted = some true → left = right

instance (taskId : TaskId) (db : Db) : Decidable (AcceptedOnce taskId db) :=
  inferInstanceAs (Decidable (∀ _ ∈ _, _))

/-- What `acceptDelegation` has checked: no other organization has accepted the task. -/
def NoOtherAccepted (taskId : TaskId) (db : Db) : DelegationCall → Prop
  | .accept otherTask organizationId _ =>
      otherTask = taskId → ∀ row ∈ db.delegations.rows, row.taskId = taskId →
        row.isAccepted = some true → row.organizationId = organizationId
  | _ => True

section Sessions

variable {ι : Type} [DecidableEq ι]

/-- While an organization saves its acceptance of the task, no other one is about to. -/
def NoRival (taskId : TaskId) (calls : ι → DelegationCall) (c : DelegationSessions ι) (i : ι) :
    Prop :=
  ∀ organizationId user, calls i = .accept taskId organizationId user → AtWrite calls c i →
    ∀ j rival rivalUser, calls j = .accept taskId rival rivalUser → AtWrite calls c j →
      rival = organizationId

theorem noOtherAccepted_of_passed {taskId : TaskId} (db : Db) (call : DelegationCall)
    (once : AcceptedOnce taskId db) (passed : Passed db call) :
    NoOtherAccepted taskId db call := by
  cases call with
  | accept otherTask organizationId user =>
      rintro rfl row member sameTask isAccepted
      cases found : acceptedOn db otherTask with
      | none =>
          have missed := Table.findOne_none.mp found row member
          simp [sameTask, isAccepted] at missed
      | some other =>
          obtain ⟨otherMember, hit⟩ := Table.findOne_mem found
          simp only [decide_eq_true_eq] at hit
          rw [once row member other otherMember sameTask hit.1 isAccepted hit.2]
          exact passed other found
  | delegate otherTask dto coordinator now => trivial
  | unaccept otherTask organizationId user => trivial
  | decline otherTask organizationId user => trivial

/-- An accepted row was accepted before, or the statement is the one that accepts it. -/
theorem accepted_of_writes {Checked : Db → DelegationCall → Prop} {db after : Db}
    {rest : Service Unit} {call : DelegationCall} (writes : Writes Checked db rest call after)
    {row : TaskDelegation} (member : row ∈ after.delegations.rows)
    (isAccepted : row.isAccepted = some true) :
    row ∈ db.delegations.rows ∨
      ∃ taskId organizationId user, call = .accept taskId organizationId user ∧
        call.AboutToWrite rest ∧ Checked db call ∧ row.slot = (taskId, organizationId) := by
  cases writes with
  | nothing call after same => exact Or.inl (same ▸ member)
  | upserts taskId dto coordinator now checked => exact Or.inl (mem_of_upserted member isAccepted)
  | accepts taskId organizationId user copy stored slot checked about =>
      rcases mem_of_withAccepted member with old | rfl
      · exact Or.inl old
      · exact Or.inr ⟨taskId, organizationId, user, rfl, about, checked, slot⟩
  | unaccepts taskId organizationId user copy stored slot =>
      rcases mem_of_withAccepted member with old | rfl
      · exact Or.inl old
      · cases isAccepted
  | declines taskId organizationId user copy stored slot =>
      rcases mem_of_withAccepted member with old | rfl
      · exact Or.inl old
      · cases isAccepted

theorem acceptedOnce_of_writes {taskId : TaskId} {db after : Db} {rest : Service Unit}
    {call : DelegationCall} (once : AcceptedOnce taskId db)
    (writes : Writes (NoOtherAccepted taskId) db rest call after) : AcceptedOnce taskId after := by
  -- if the statement accepts the task, whatever is accepted is in the same slot
  have same : ∀ left ∈ after.delegations.rows, ∀ right ∈ after.delegations.rows,
      left.taskId = taskId → right.taskId = taskId → left.isAccepted = some true →
        right.isAccepted = some true → right ∈ db.delegations.rows ∨ left.slot = right.slot := by
    intro left leftMember right rightMember leftTask rightTask leftAccepted rightAccepted
    rcases accepted_of_writes writes rightMember rightAccepted with
      before | ⟨_, organizationId, user, rfl, about, checked, rightSlot⟩
    · exact Or.inl before
    · right
      obtain ⟨rfl, rightOrg⟩ := Prod.mk.inj rightSlot
      rcases accepted_of_writes writes leftMember leftAccepted with
        before | ⟨_, _, _, call, _, _, leftSlot⟩
      · have leftOrg := checked rightTask left before leftTask leftAccepted
        rw [rightSlot, TaskDelegation.slot, leftTask, leftOrg, rightTask]
      · cases call
        rw [leftSlot, rightSlot]
  intro left leftMember right rightMember leftTask rightTask leftAccepted rightAccepted
  rcases same left leftMember right rightMember leftTask rightTask leftAccepted rightAccepted with
    rightBefore | slots
  · rcases same right rightMember left leftMember rightTask leftTask rightAccepted leftAccepted with
      leftBefore | slots
    · exact once left leftBefore right rightBefore leftTask rightTask leftAccepted rightAccepted
    · exact Table.eq_of_uniq leftMember rightMember slots.symm
  · exact Table.eq_of_uniq leftMember rightMember slots

theorem acceptedOnce_step {taskId : TaskId} {calls : ι → DelegationCall}
    {c : DelegationSessions ι} {i : ι}
    (inOrder : InOrder (AcceptedOnce taskId) (NoOtherAccepted taskId) calls c)
    (noRival : NoRival taskId calls c i) :
    InOrder (AcceptedOnce taskId) (NoOtherAccepted taskId) calls (c.step i) := by
  refine (inOrder.step i ?_ ?_).1
  · intro rest after _ writes
    exact acceptedOnce_of_writes inOrder.inv writes
  · intro rest after here writes j _ about checked
    cases kind : calls j with
    | accept otherTask rival rivalUser =>
        rintro rfl row member sameTask isAccepted
        rw [kind] at checked
        rcases accepted_of_writes writes member isAccepted with
          before | ⟨_, organizationId, user, call, aboutHere, _, slot⟩
        · exact checked rfl row before sameTask isAccepted
        · obtain ⟨rowTask, rowOrg⟩ := Prod.mk.inj slot
          rw [← rowTask, sameTask] at call
          rw [rowOrg]
          exact (noRival organizationId user call ⟨rest, here, aboutHere⟩ j rival rivalUser
            kind about).symm
    | delegate otherTask dto coordinator now => trivial
    | unaccept otherTask organizationId user => trivial
    | decline otherTask organizationId user => trivial

/-- As long as no organization saves its acceptance of a task while another one is about
to, at most one delegation of the task is accepted at every moment. -/
theorem acceptedOnce_always {taskId : TaskId} {db : Db} (once : AcceptedOnce taskId db)
    (calls : ι → DelegationCall) (schedule : List ι)
    (noRival : Throughout Sessions.step (NoRival taskId calls) (openedDelegations calls db)
      schedule) :
    Always Sessions.step (fun c => AcceptedOnce taskId c.store) (openedDelegations calls db)
      schedule := by
  have inOrder : Always Sessions.step
      (InOrder (AcceptedOnce taskId) (NoOtherAccepted taskId) calls) _ schedule :=
    always_of_preserved (fun _ _ inside allowed => acceptedOnce_step inside allowed)
      (openedDelegations_inOrder noOtherAccepted_of_passed calls once) noRival
  exact inOrder.mono fun _ inside => inside.inv

end Sessions

/-- A task two organizations were asked to take, and a coordinator of each. -/
def delegatedBoard : Db :=
  { organizedBoard .local with
    members :=
      { rows := [⟨0, 0, 1, .coordinator, true, false⟩, ⟨1, 1, 2, .leader, true, false⟩]
        next := 2
        below := by decide
        keys := by decide
        slots := by decide }
    delegations :=
      { rows := [newDelegation 0 ⟨0, none⟩ firstAdmin 0 0, newDelegation 0 ⟨1, none⟩ firstAdmin 0 1]
        next := 2
        below := by decide
        keys := by decide
        slots := by decide } }

/-- Both organizations accept. -/
def bothAccept : Bool → DelegationCall
  | false => .accept 0 0 firstVolunteer
  | true => .accept 0 1 secondVolunteer

/-- Both calls check before either of them saves. -/
def bothChecked : List Bool := [false, false, false, true, true, true, false, true]

theorem acceptedOnce_fails :
    AcceptedOnce 0 delegatedBoard ∧
      ¬ AcceptedOnce 0
        (execute Sessions.step (openedDelegations bothAccept delegatedBoard)
          bothChecked).store := by
  constructor
  · decide +kernel
  · decide +kernel

/-- One organization accepts while the task is delegated to the other. -/
def acceptAndDelegate : Bool → DelegationCall
  | false => .accept 0 0 firstVolunteer
  | true => .delegate 0 ⟨1, none⟩ firstAdmin 1

theorem acceptedOnce_always_witness :
    Always Sessions.step (fun c => AcceptedOnce 0 c.store)
      (openedDelegations acceptAndDelegate delegatedBoard)
      [false, true, false, true, false, true, false, true] := by
  apply acceptedOnce_always (by decide +kernel)
  apply throughout_iff.mpr
  intro _ i _ _ organizationId user accepts _ j rival rivalUser rivals _
  cases i with
  | true => cases accepts
  | false =>
      cases j with
      | true => cases rivals
      | false =>
          cases accepts
          cases rivals
          rfl

/-! ## Acceptances that stand -/

section Sessions

variable {ι : Type} [DecidableEq ι]

/-- What `delegateTask` has checked: the organization has not accepted the task. -/
def NotYetAccepted (slot : TaskId × OrgId) (db : Db) : DelegationCall → Prop
  | .delegate taskId dto _ _ =>
      (taskId, dto.organizationId) = slot → ∀ row ∈ db.delegations.rows, row.slot = slot →
        row.isAccepted ≠ some true
  | _ => True

/-- While the organization saves its acceptance, no `delegateTask` is about to overwrite
the delegation. -/
def NoOverwrite (slot : TaskId × OrgId) (calls : ι → DelegationCall) (c : DelegationSessions ι)
    (i : ι) : Prop :=
  ∀ user, calls i = .accept slot.1 slot.2 user → AtWrite calls c i →
    ∀ j dto coordinator now, calls j = .delegate slot.1 dto coordinator now →
      dto.organizationId = slot.2 → ¬ AtWrite calls c j

/-- What a call leaves of the organization's acceptance of the task: `delegateTask` does
not touch it, and only the organization's own calls end it. -/
def LeavesAcceptance (slot : TaskId × OrgId) (db after : Db) : DelegationCall → Prop
  | .delegate _ _ _ _ =>
      ∀ row ∈ db.delegations.rows, row.slot = slot → row.isAccepted = some true →
        row ∈ after.delegations.rows
  | .accept _ _ _ =>
      ∀ row ∈ db.delegations.rows, row.slot = slot → row.isAccepted = some true →
        ∃ later ∈ after.delegations.rows, later.id = row.id ∧ later.isAccepted = some true
  | .unaccept taskId organizationId _ | .decline taskId organizationId _ =>
      (taskId, organizationId) ≠ slot →
        ∀ row ∈ db.delegations.rows, row.slot = slot → row.isAccepted = some true →
          row ∈ after.delegations.rows

def AcceptanceStands (slot : TaskId × OrgId) (calls : ι → DelegationCall)
    (c : DelegationSessions ι) (i : ι) : Prop :=
  LeavesAcceptance slot c.store (c.step i).store (calls i)

theorem notYetAccepted_of_passed {slot : TaskId × OrgId} (db : Db) (call : DelegationCall)
    (_ : True) (passed : Passed db call) : NotYetAccepted slot db call := by
  cases call with
  | delegate taskId dto coordinator now =>
      rintro rfl row member sameSlot isAccepted
      obtain ⟨rfl, sameOrg⟩ := Prod.mk.inj sameSlot
      apply passed
      rw [← sameOrg, findDelegation_of_mem member]
      exact isAccepted
  | accept taskId organizationId user => trivial
  | unaccept taskId organizationId user => trivial
  | decline taskId organizationId user => trivial

theorem leavesAcceptance_of_same {slot : TaskId × OrgId} {db after : Db}
    (same : after.delegations = db.delegations) (call : DelegationCall) :
    LeavesAcceptance slot db after call := by
  unfold LeavesAcceptance
  rw [same]
  cases call with
  | delegate taskId dto coordinator now => exact fun _ member _ _ => member
  | accept taskId organizationId user => exact fun row member _ yes => ⟨row, member, rfl, yes⟩
  | unaccept taskId organizationId user => exact fun _ _ member _ _ => member
  | decline taskId organizationId user => exact fun _ _ member _ _ => member

theorem leavesAcceptance_of_writes {slot : TaskId × OrgId} {db after : Db} {rest : Service Unit}
    {call : DelegationCall} (writes : Writes (NotYetAccepted slot) db rest call after) :
    LeavesAcceptance slot db after call := by
  cases writes with
  | nothing call after same => exact leavesAcceptance_of_same same call
  | upserts taskId dto coordinator now checked =>
      intro row member sameSlot isAccepted
      apply mem_upserted member
      intro here
      exact checked (here.symm.trans sameSlot) row member sameSlot isAccepted
  | accepts taskId organizationId user copy stored copySlot checked about =>
      intro row member sameSlot isAccepted
      by_cases here : row.slot = copy.slot
      · obtain ⟨old, oldSlot, replaced⟩ := withAccepted_replaced stored (some true)
        have one : row = old :=
          Table.eq_of_uniq member replaced.stored (here.trans oldSlot.symm)
        exact ⟨_, replaced.new_mem, replaced.sameKey.trans (congrArg TaskDelegation.id one.symm),
          rfl⟩
      · exact ⟨row, mem_withAccepted stored member here, rfl, isAccepted⟩
  | unaccepts taskId organizationId user copy stored copySlot =>
      intro apart row member sameSlot isAccepted
      apply mem_withAccepted stored member
      rw [sameSlot, copySlot]
      exact apart.symm
  | declines taskId organizationId user copy stored copySlot =>
      intro apart row member sameSlot isAccepted
      apply mem_withAccepted stored member
      rw [sameSlot, copySlot]
      exact apart.symm

theorem acceptanceStands_step {slot : TaskId × OrgId} {calls : ι → DelegationCall}
    {c : DelegationSessions ι} {i : ι}
    (inOrder : InOrder (fun _ => True) (NotYetAccepted slot) calls c)
    (noOverwrite : NoOverwrite slot calls c i) :
    InOrder (fun _ => True) (NotYetAccepted slot) calls (c.step i) ∧
      AcceptanceStands slot calls c i := by
  have stepped := inOrder.step i (fun _ _ _ _ => trivial) ?_
  · refine ⟨stepped.1, ?_⟩
    rcases stepped.2 with unchanged | ⟨rest, writes⟩
    · exact leavesAcceptance_of_same (by rw [unchanged]) (calls i)
    · exact leavesAcceptance_of_writes writes
  · intro rest after here writes j _ about checked
    cases kind : calls j with
    | delegate taskId dto coordinator now =>
        rintro rfl row member sameSlot isAccepted
        rw [kind] at checked
        rcases accepted_of_writes writes member isAccepted with
          before | ⟨_, organizationId, user, call, aboutHere, _, rowSlot⟩
        · exact checked rfl row before sameSlot isAccepted
        · obtain ⟨rfl, rfl⟩ := Prod.mk.inj (rowSlot.symm.trans sameSlot)
          exact noOverwrite user call ⟨rest, here, aboutHere⟩ j dto coordinator now kind rfl about
    | accept taskId organizationId user => trivial
    | unaccept taskId organizationId user => trivial
    | decline taskId organizationId user => trivial

/-- As long as no organization saves its acceptance while a `delegateTask` is about to
overwrite the delegation, no `delegateTask` touches an acceptance, and only the
organization's own calls end it. -/
theorem acceptanceStands_throughout (slot : TaskId × OrgId) (db : Db)
    (calls : ι → DelegationCall) (schedule : List ι)
    (noOverwrite : Throughout Sessions.step (NoOverwrite slot calls) (openedDelegations calls db)
      schedule) :
    Throughout Sessions.step (AcceptanceStands slot calls) (openedDelegations calls db)
      schedule := by
  have start : InOrder (fun _ => True) (NotYetAccepted slot) calls (openedDelegations calls db) :=
    openedDelegations_inOrder notYetAccepted_of_passed calls trivial
  exact throughout_of_preserved (fun _ _ inside allowed => acceptanceStands_step inside allowed)
    start noOverwrite

end Sessions

/-- An organization accepts the task while it is delegated to it once more. -/
def acceptAndOverwrite : Bool → DelegationCall
  | false => .delegate 0 ⟨0, some "Ще раз"⟩ firstAdmin 1
  | true => .accept 0 0 firstVolunteer

/-- The acceptance between the check of `delegateTask` and its upsert. -/
def acceptedBeforeUpsert : List Bool := [false, false, false, true, true, true, true, false]

theorem acceptanceStands_fails :
    ¬ Throughout Sessions.step (AcceptanceStands (0, 0) acceptAndOverwrite)
      (openedDelegations acceptAndOverwrite delegatedBoard) acceptedBeforeUpsert := by
  rintro ⟨_, _, _, _, _, _, _, stands, _⟩
  revert stands
  simp only [AcceptanceStands, LeavesAcceptance, acceptAndOverwrite]
  decide +kernel

theorem acceptanceStands_throughout_witness :
    Throughout Sessions.step (AcceptanceStands (0, 0) acceptAndDelegate)
      (openedDelegations acceptAndDelegate delegatedBoard)
      [false, true, false, true, false, true, false, true] := by
  apply acceptanceStands_throughout
  apply throughout_iff.mpr
  intro _ i _ _ user accepts _ j dto coordinator now delegates sameOrg
  cases j with
  | false => cases delegates
  | true =>
      cases delegates
      cases sameOrg

end VolunteerApi
