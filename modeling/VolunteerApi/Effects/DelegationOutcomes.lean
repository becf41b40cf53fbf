import VolunteerApi.Effects.TasksOutcomes

/-!
# What the delegation methods leave behind

The checks of `delegateTask`, `acceptDelegation`, `unacceptDelegation` and
`declineDelegation`, the delegations and requests after a call that passed them,
and which rows one of their writes keeps.
-/

set_option autoImplicit false

namespace VolunteerApi

open Relational Programs

namespace TasksService

/-- What `ensureOrgCoordinator` asks for. -/
def Coordinates (db : Db) (organizationId : OrgId) (user : User) : Prop :=
  user.systemRole = .admin ∨
    ((db.members.findOne fun member =>
      member.organizationId = organizationId ∧ member.userId = user.id ∧
        member.isActive = true).map isCoordinating).getD false = true

theorem ensureOrgCoordinator_guarded (organizationId : OrgId) (user : User) (db : Db) :
    (ensureOrgCoordinator organizationId user).Guarded db fun _ after =>
      after = db ∧ Coordinates db organizationId user := by
  unfold ensureOrgCoordinator
  by_cases admin : user.systemRole = .admin
  · rw [if_pos admin]
    exact Prog.guarded_ret ⟨rfl, Or.inl admin⟩
  · rw [if_neg admin]
    refine Prog.guarded_query_bind (Prog.guarded_throwIf ?_)
    intro member
    exact ⟨rfl, Or.inr (by simpa using member)⟩

theorem ensureOrgCoordinator_run {organizationId : OrgId} {user : User} {db : Db}
    (coordinates : Coordinates db organizationId user) :
    (ensureOrgCoordinator organizationId user).run db = (.ok (), db) := by
  unfold ensureOrgCoordinator
  by_cases admin : user.systemRole = .admin
  · rw [if_pos admin]
    rfl
  · rw [if_neg admin, Prog.bind_eq, Prog.run_query_bind, Prog.run_throwIf]
    refine if_neg ?_
    rw [coordinates.resolve_left admin]
    exact Bool.noConfusion

theorem findDelegation_some {db : Db} {taskId : TaskId} {organizationId : OrgId}
    {delegation : TaskDelegation}
    (found : findDelegation db taskId organizationId = some delegation) :
    delegation ∈ db.delegations.rows ∧ delegation.taskId = taskId ∧
      delegation.organizationId = organizationId := by
  simpa [findDelegation] using Table.findOne_mem found

theorem findDelegation_of_mem {db : Db} {delegation : TaskDelegation}
    (member : delegation ∈ db.delegations.rows) :
    findDelegation db delegation.taskId delegation.organizationId = some delegation := by
  apply Table.findOne_eq_some member (by simp)
  intro other otherMember hit
  simp only [decide_eq_true_eq] at hit
  exact Table.eq_of_uniq otherMember member (by simp [TaskDelegation.slot, hit])

/-! ## `delegateTask` -/

/-- The checks of `delegateTask`. -/
structure Delegating (db : Db) (taskId : TaskId) (dto : DelegateTaskDto) (coordinator : User) :
    Prop where
  found : db.findTask taskId ≠ none
  member : coordinator.systemRole = .admin ∨
    (db.members.findOne fun member =>
      member.userId = coordinator.id ∧ member.isActive = true ∧
        isCoordinating member = true) ≠ none
  pending : (findDelegation db taskId dto.organizationId).bind TaskDelegation.isAccepted ≠ some true
  linked : db.hasOrganization dto.organizationId = true ∧ db.hasUser coordinator.id = true

theorem upserted_eq (taskId : TaskId) (dto : DelegateTaskDto) (coordinator : User) (now : Time)
    (db : Db) : ∃ delegations, upserted taskId dto coordinator now db =
      { db with delegations := delegations } := by
  unfold upserted
  split
  · exact ⟨_, rfl⟩
  · exact ⟨_, rfl⟩

theorem delegateTask_guarded (taskId : TaskId) (dto : DelegateTaskDto) (coordinator : User)
    (now : Time) (db : Db) :
    (delegateTask taskId dto coordinator now).Guarded db fun _ after =>
      Delegating db taskId dto coordinator ∧
        after = upserted taskId dto coordinator now db := by
  refine Prog.guarded_query_bind (Prog.guarded_orThrow_bind ?_)
  intro task found
  refine Prog.guarded_query_bind (Prog.guarded_throwIf_bind ?_)
  intro refused
  refine Prog.guarded_query_bind (Prog.guarded_throwIf_bind ?_)
  intro pending
  apply Prog.guarded_execOr
  intro result inserted
  obtain ⟨linked, same⟩ := Option.ite_none_right_eq_some.mp inserted
  cases same
  refine ⟨⟨?_, ?_, pending, linked⟩, rfl⟩
  · rw [found]
    exact Option.some_ne_none task
  · by_contra neither
    rw [not_or, not_not] at neither
    exact refused neither

/-! ## Saving an answer -/

def withAccepted (db : Db) (delegation : TaskDelegation) (isAccepted : Option Bool) : Db :=
  { db with delegations := db.delegations.saveAll [{ delegation with isAccepted := isAccepted }] }

theorem setAccepted_guarded (loaded : LoadedDelegation) (isAccepted : Option Bool) (db : Db) :
    (setAccepted loaded isAccepted).Guarded db fun _ after =>
      loaded.task ≠ none ∧ db.hasOrganization loaded.delegation.organizationId = true ∧
        after = withAccepted db loaded.delegation isAccepted := by
  apply Prog.guarded_throwIf_bind
  intro task
  apply Prog.guarded_execOr
  intro result saved
  obtain ⟨organization, same⟩ := Option.ite_none_right_eq_some.mp saved
  cases same
  exact ⟨task, organization, rfl⟩

theorem setAccepted_run {loaded : LoadedDelegation} {db : Db} (task : loaded.task ≠ none)
    (organization : db.hasOrganization loaded.delegation.organizationId = true)
    (isAccepted : Option Bool) :
    (setAccepted loaded isAccepted).run db =
      (.ok (), withAccepted db loaded.delegation isAccepted) := by
  rw [setAccepted, Prog.bind_eq, Prog.run_throwIf_bind, if_neg task, saveDelegation,
    Prog.run_execOr, if_pos organization]
  rfl

theorem loadDelegation_some {db : Db} {taskId : TaskId} {organizationId : OrgId}
    {loaded : LoadedDelegation} (hit : loadDelegation db taskId organizationId = some loaded) :
    findDelegation db taskId organizationId = some loaded.delegation ∧
      loaded.task = db.findTask taskId ∧
      loaded.request = (db.findTask taskId).bind fun task => db.findRequest task.requestId := by
  obtain ⟨delegation, found, rfl⟩ := Option.map_eq_some_iff.mp hit
  exact ⟨found, rfl, rfl⟩

/-! ## `acceptDelegation` -/

/-- The accepted delegation of a task the code looks at. -/
def acceptedOn (db : Db) (taskId : TaskId) : Option TaskDelegation :=
  db.delegations.findOne fun delegation =>
    delegation.taskId = taskId ∧ delegation.isAccepted = some true

/-- The checks of `acceptDelegation`, with what it loaded. -/
structure Accepting (db : Db) (taskId : TaskId) (organizationId : OrgId) (user : User)
    (delegation : TaskDelegation) (request : Option Request) : Prop where
  coordinates : Coordinates db organizationId user
  found : findDelegation db taskId organizationId = some delegation
  loaded : request = (db.findTask taskId).bind fun task => db.findRequest task.requestId
  free : ∀ other, acceptedOn db taskId = some other → other.organizationId = organizationId
  task : db.findTask taskId ≠ none
  organization : db.hasOrganization organizationId = true

def accepted (db : Db) (delegation : TaskDelegation) (request : Option Request)
    (organizationId : OrgId) : Db :=
  match request with
  | some request =>
      { withAccepted db delegation (some true) with
        requests := db.requests.update (fun stored => stored.id = request.id)
          (managedPatch organizationId) }
  | none => withAccepted db delegation (some true)

theorem acceptDelegation_guarded (taskId : TaskId) (organizationId : OrgId) (user : User)
    (db : Db) :
    (acceptDelegation taskId organizationId user).Guarded db fun _ after =>
      ∃ delegation request,
        Accepting db taskId organizationId user delegation request ∧
          after = accepted db delegation request organizationId := by
  apply Prog.guarded_bind_of_check (ensureOrgCoordinator_guarded organizationId user db)
  intro _ coordinates
  refine Prog.guarded_query_bind (Prog.guarded_orThrow_bind ?_)
  intro loaded hit
  obtain ⟨found, sameTask, sameRequest⟩ := loadDelegation_some hit
  obtain ⟨_, _, sameOrg⟩ := findDelegation_some found
  refine Prog.guarded_query_bind (Prog.guarded_throwIf_bind ?_)
  intro free
  refine Prog.guarded_bind_of_total (setAccepted_guarded loaded (some true) db) ?_
  rintro _ _ ⟨task, organization, rfl⟩
  rw [sameOrg] at organization
  have accepting : Accepting db taskId organizationId user loaded.delegation loaded.request := by
    refine ⟨coordinates, found, sameRequest, ?_, sameTask ▸ task, organization⟩
    intro other hit
    change ¬ (acceptedOn db taskId).any _ = true at free
    rw [hit] at free
    simpa using free
  cases loadedRequest : loaded.request with
  | none =>
      rw [loadedRequest] at accepting
      exact ⟨(), _, rfl, loaded.delegation, none, accepting, rfl⟩
  | some request =>
      rw [loadedRequest] at accepting
      -- the organization is still there for the second statement
      refine ⟨(), accepted db loaded.delegation (some request) organizationId, ?_,
        loaded.delegation, some request, accepting, rfl⟩
      have remains : (withAccepted db loaded.delegation (some true)).hasOrganization
          organizationId = true := organization
      simp only [setManagingOrganization, Prog.run_execOr, if_pos remains]
      rfl

/-! ## `unacceptDelegation` and `declineDelegation` -/

/-- The checks of `declineDelegation`, and what its save asks for. -/
structure Declining (db : Db) (taskId : TaskId) (organizationId : OrgId) (user : User)
    (delegation : TaskDelegation) : Prop where
  coordinates : Coordinates db organizationId user
  found : findDelegation db taskId organizationId = some delegation
  task : db.findTask taskId ≠ none
  organization : db.hasOrganization organizationId = true

theorem Declining.of_load {db : Db} {taskId : TaskId} {organizationId : OrgId} {user : User}
    {loaded : LoadedDelegation} (coordinates : Coordinates db organizationId user)
    (hit : loadDelegation db taskId organizationId = some loaded) (task : loaded.task ≠ none)
    (organization : db.hasOrganization loaded.delegation.organizationId = true) :
    Declining db taskId organizationId user loaded.delegation := by
  obtain ⟨found, sameTask, _⟩ := loadDelegation_some hit
  obtain ⟨_, _, sameOrg⟩ := findDelegation_some found
  exact ⟨coordinates, found, sameTask ▸ task, sameOrg ▸ organization⟩

theorem Declining.saves {db : Db} {taskId : TaskId} {organizationId : OrgId} {user : User}
    {delegation : TaskDelegation} (declining : Declining db taskId organizationId user delegation)
    (isAccepted : Option Bool) :
    ∃ loaded, loadDelegation db taskId organizationId = some loaded ∧
      loaded.delegation = delegation ∧
      (setAccepted loaded isAccepted).run db = (.ok (), withAccepted db delegation isAccepted) := by
  refine ⟨_, by rw [loadDelegation, declining.found]; rfl, rfl, ?_⟩
  apply setAccepted_run declining.task
  rw [(findDelegation_some declining.found).2.2]
  exact declining.organization

theorem declineDelegation_guarded (taskId : TaskId) (organizationId : OrgId) (user : User)
    (db : Db) :
    (declineDelegation taskId organizationId user).Guarded db fun _ after =>
      ∃ delegation, Declining db taskId organizationId user delegation ∧
        after = withAccepted db delegation (some false) := by
  apply Prog.guarded_bind_of_check (ensureOrgCoordinator_guarded organizationId user db)
  intro _ coordinates
  refine Prog.guarded_query_bind (Prog.guarded_orThrow_bind ?_)
  intro loaded hit
  apply (setAccepted_guarded loaded (some false) db).mono
  rintro _ _ ⟨task, organization, rfl⟩
  exact ⟨loaded.delegation, .of_load coordinates hit task organization, rfl⟩

theorem declineDelegation_run {db : Db} {taskId : TaskId} {organizationId : OrgId} {user : User}
    {delegation : TaskDelegation} (declining : Declining db taskId organizationId user delegation) :
    (declineDelegation taskId organizationId user).run db =
      (.ok (), withAccepted db delegation (some false)) := by
  obtain ⟨loaded, hit, _, saved⟩ := declining.saves (some false)
  rw [declineDelegation, Prog.bind_eq,
    Prog.run_bind_of_ok (ensureOrgCoordinator_run declining.coordinates), Prog.bind_eq,
    Prog.run_query_bind, hit]
  exact saved

/-- `unacceptDelegation` also asks for a delegation that is accepted. -/
structure Unaccepting (db : Db) (taskId : TaskId) (organizationId : OrgId) (user : User)
    (delegation : TaskDelegation) : Prop extends
    Declining db taskId organizationId user delegation where
  accepted : delegation.isAccepted = some true

theorem unacceptDelegation_guarded (taskId : TaskId) (organizationId : OrgId) (user : User)
    (db : Db) :
    (unacceptDelegation taskId organizationId user).Guarded db fun _ after =>
      ∃ delegation, Unaccepting db taskId organizationId user delegation ∧
        after = withAccepted db delegation none := by
  apply Prog.guarded_bind_of_check (ensureOrgCoordinator_guarded organizationId user db)
  intro _ coordinates
  refine Prog.guarded_query_bind (Prog.guarded_orThrow_bind ?_)
  intro loaded hit
  apply Prog.guarded_throwIf_bind
  intro accepted
  apply (setAccepted_guarded loaded none db).mono
  rintro _ _ ⟨task, organization, rfl⟩
  exact ⟨loaded.delegation, ⟨.of_load coordinates hit task organization, not_not.mp accepted⟩, rfl⟩

theorem unacceptDelegation_run {db : Db} {taskId : TaskId} {organizationId : OrgId} {user : User}
    {delegation : TaskDelegation}
    (unaccepting : Unaccepting db taskId organizationId user delegation) :
    (unacceptDelegation taskId organizationId user).run db =
      (.ok (), withAccepted db delegation none) := by
  obtain ⟨loaded, hit, same, saved⟩ := unaccepting.saves none
  have accepted : ¬ loaded.delegation.isAccepted ≠ some true :=
    not_not.mpr (same ▸ unaccepting.accepted)
  rw [unacceptDelegation, Prog.bind_eq,
    Prog.run_bind_of_ok (ensureOrgCoordinator_run unaccepting.coordinates), Prog.bind_eq,
    Prog.run_query_bind, hit, Prog.bind_eq, Prog.run_orThrow_bind]
  simp only [Prog.bind_eq, Prog.run_throwIf_bind, if_neg accepted]
  exact saved

end TasksService

open TasksService

/-! ## The delegations after a write -/

/-- Delegations keep their number, task and organization. -/
def SlotsKept (db later : Db) : Prop :=
  ∀ row ∈ db.delegations.rows, ∃ new ∈ later.delegations.rows,
    new.id = row.id ∧ new.slot = row.slot

theorem SlotsKept.trans {first second third : Db} (before : SlotsKept first second)
    (after : SlotsKept second third) : SlotsKept first third := by
  intro row member
  obtain ⟨middle, middleMember, sameId, sameSlot⟩ := before row member
  obtain ⟨new, newMember, newId, newSlot⟩ := after middle middleMember
  exact ⟨new, newMember, newId.trans sameId, newSlot.trans sameSlot⟩

theorem slotsKept_of_same {db later : Db} (same : later.delegations = db.delegations) :
    SlotsKept db later := by
  intro row member
  exact ⟨row, same ▸ member, rfl, rfl⟩

theorem slotsKept_of_update {db later : Db} {wanted : TaskDelegation → Bool}
    {patch : Patch TaskDelegation.id TaskDelegation.slot}
    (delegations : later.delegations = db.delegations.update wanted patch) :
    SlotsKept db later := by
  intro row member
  refine ⟨_, delegations ▸ Table.image_mem_update wanted patch member, ?_⟩
  split
  · exact ⟨patch.key_run row, patch.uniq_run row⟩
  · exact ⟨rfl, rfl⟩

theorem slotsKept_upserted (taskId : TaskId) (dto : DelegateTaskDto) (coordinator : User)
    (now : Time) (db : Db) : SlotsKept db (upserted taskId dto coordinator now db) := by
  unfold upserted
  cases inserted : db.delegations.insert (newDelegation taskId dto coordinator now) with
  | none => exact slotsKept_of_update rfl
  | some delegations =>
      intro row member
      exact ⟨row, ((Table.added_insert inserted).mem row).mpr (Or.inl member), rfl, rfl⟩

theorem slotsKept_withAccepted (db : Db) (delegation : TaskDelegation) (isAccepted : Option Bool) :
    SlotsKept db (withAccepted db delegation isAccepted) := slotsKept_of_update rfl

/-- An upsert accepts nothing. -/
theorem mem_of_upserted {taskId : TaskId} {dto : DelegateTaskDto} {coordinator : User}
    {now : Time} {db : Db} {row : TaskDelegation}
    (member : row ∈ (upserted taskId dto coordinator now db).delegations.rows)
    (isAccepted : row.isAccepted = some true) : row ∈ db.delegations.rows := by
  unfold upserted at member
  cases inserted : db.delegations.insert (newDelegation taskId dto coordinator now) with
  | none =>
      rw [inserted] at member
      obtain ⟨old, oldMember, rfl⟩ := (Table.mem_update _ _ _ _).mp member
      split at isAccepted
      · cases isAccepted
      · rwa [if_neg (by assumption)]
  | some delegations =>
      rw [inserted] at member
      rcases ((Table.added_insert inserted).mem row).mp member with old | rfl
      · exact old
      · cases isAccepted

theorem mem_upserted {taskId : TaskId} {dto : DelegateTaskDto} {coordinator : User}
    {now : Time} {db : Db} {row : TaskDelegation} (member : row ∈ db.delegations.rows)
    (other : row.slot ≠ (taskId, dto.organizationId)) :
    row ∈ (upserted taskId dto coordinator now db).delegations.rows := by
  unfold upserted
  cases inserted : db.delegations.insert (newDelegation taskId dto coordinator now) with
  | none =>
      have image := Table.image_mem_update (fun delegation : TaskDelegation =>
        delegation.taskId = taskId ∧ delegation.organizationId = dto.organizationId)
        (redelegatedPatch dto coordinator now) member
      rwa [if_neg (by simpa [TaskDelegation.slot] using other)] at image
  | some delegations => exact ((Table.added_insert inserted).mem row).mpr (Or.inl member)

/-- The row a held copy was loaded from is stored. -/
def Stored (db : Db) (copy : TaskDelegation) : Prop :=
  ∃ row ∈ db.delegations.rows, row.id = copy.id ∧ row.slot = copy.slot

theorem Stored.later {db later : Db} {copy : TaskDelegation} (stored : Stored db copy)
    (kept : SlotsKept db later) : Stored later copy := by
  obtain ⟨row, member, sameId, sameSlot⟩ := stored
  obtain ⟨new, newMember, newId, newSlot⟩ := kept row member
  exact ⟨new, newMember, newId.trans sameId, newSlot.trans sameSlot⟩

theorem stored_of_findDelegation {db : Db} {taskId : TaskId} {organizationId : OrgId}
    {copy : TaskDelegation} (found : findDelegation db taskId organizationId = some copy) :
    Stored db copy ∧ copy.slot = (taskId, organizationId) := by
  obtain ⟨member, sameTask, sameOrg⟩ := findDelegation_some found
  exact ⟨⟨copy, member, rfl, rfl⟩, by rw [TaskDelegation.slot, sameTask, sameOrg]⟩

theorem withAccepted_replaced {db : Db} {copy : TaskDelegation} (stored : Stored db copy)
    (isAccepted : Option Bool) :
    ∃ old : TaskDelegation, old.slot = copy.slot ∧
      db.delegations.Replaced old { copy with isAccepted := isAccepted }
        (withAccepted db copy isAccepted).delegations := by
  obtain ⟨old, member, sameId, sameSlot⟩ := stored
  exact ⟨old, sameSlot, Table.replaced_save _ member sameId.symm sameSlot.symm⟩

theorem mem_withAccepted {db : Db} {copy row : TaskDelegation} {isAccepted : Option Bool}
    (stored : Stored db copy) (member : row ∈ db.delegations.rows)
    (other : row.slot ≠ copy.slot) :
    row ∈ (withAccepted db copy isAccepted).delegations.rows := by
  obtain ⟨old, sameSlot, replaced⟩ := withAccepted_replaced stored isAccepted
  apply replaced.kept member
  intro here
  exact other (by rw [here, sameSlot])

theorem mem_of_withAccepted {db : Db} {copy row : TaskDelegation} {isAccepted : Option Bool}
    (member : row ∈ (withAccepted db copy isAccepted).delegations.rows) :
    row ∈ db.delegations.rows ∨ row = { copy with isAccepted := isAccepted } := by
  rcases Table.mem_saveAll member with old | new
  · exact Or.inl old
  · exact Or.inr (List.mem_singleton.mp new)

end VolunteerApi
