import VolunteerApi.Effects.OrganizationsOutcomes
import VolunteerApi.Effects.ServerEffects
import VolunteerApi.Model.Premises

/-!
# What a call does to hubs and settings

`PremisesOutcome` lists what the routes of hubs and settings leave, with what their checks have
established of the caller.
-/

set_option autoImplicit false

namespace VolunteerApi

open Relational Programs
open OrganizationsService OrganizationsOp

/-! ## The checks -/

theorem checkLeaderOrAdmin_guarded (id : OrgId) (user : User) (db : Db) :
    (checkLeaderOrAdmin id user).Guarded db fun _ after =>
      after = db ∧ coordinates db id user = true := by
  unfold checkLeaderOrAdmin coordinates
  by_cases admin : user.systemRole = .admin
  · rw [if_pos admin]
    exact Prog.guarded_ret ⟨rfl, by simp [admin]⟩
  · rw [if_neg admin]
    refine Prog.guarded_query_bind (Prog.guarded_throwIf fun passes => ⟨rfl, ?_⟩)
    simpa [admin] using passes

theorem canActivate_guarded (requiredRoles : List OrgRole) (path : String) (id : OrgId)
    (user : User) (db : Db) :
    (OrganizationRoleGuard.canActivate requiredRoles path id user).Guarded db fun _ after =>
      after = db ∧ activates requiredRoles path db id user = true := by
  unfold OrganizationRoleGuard.canActivate activates
  by_cases admin : user.systemRole = .admin
  · rw [if_pos admin]
    exact Prog.guarded_ret ⟨rfl, by simp [admin]⟩
  · rw [if_neg admin]
    refine Prog.guarded_query_bind (Prog.guarded_orThrow_bind fun membership found =>
      Prog.guarded_throwIf fun passes => ⟨rfl, ?_⟩)
    simp only [found, Option.any_some, decide_eq_true_eq]
    by_cases standsIn : OrganizationRoleGuard.standsIn requiredRoles path membership = true
    · simp [standsIn]
    · simp_all

/-! ## What a route leaves -/

/-- The organization whose hubs the route writes. -/
def PremisesOp.hubsOf : PremisesOp → Option OrgId
  | .createHub id _ | .updateHub id _ _ | .uploadHubMedia id _ _ | .deleteHub id _ => some id
  | .getSettings _ | .updateSettings _ _ => none

inductive PremisesOutcome (premises : Premises) (user : User) : PremisesOp → Premises → Prop
  | refused (op : PremisesOp) : PremisesOutcome premises user op premises
  | hubAdded {id : OrgId} {dto : CreateHubDto} (allowed : coordinates premises.db id user = true)
      (present : premises.db.hasOrganization id = true) (hub : Hub)
      (organization : hub.organizationId = some id)
      (owner : hub.ownerUserId = some user.id) :
      PremisesOutcome premises user (.createHub id dto)
        { premises with hubs := premises.hubs.append fun n => { hub with id := n } }
  | hubSaved {op : PremisesOp} {id : OrgId} (about : op.hubsOf = some id)
      (allowed : coordinates premises.db id user = true) (old : Hub)
      (stored : old ∈ premises.hubs.rows) (organization : old.organizationId = some id) (new : Hub)
      (sameId : new.id = old.id) (sameOrganization : new.organizationId = old.organizationId)
      (sameOwner : new.ownerUserId = old.ownerUserId) :
      PremisesOutcome premises user op { premises with hubs := premises.hubs.saveAll [new] }
  | hubDeleted {id : OrgId} {hubId : HubId} (allowed : coordinates premises.db id user = true)
      (old : Hub) (stored : old ∈ premises.hubs.rows) (organization : old.organizationId = some id) :
      PremisesOutcome premises user (.deleteHub id hubId)
        { premises with hubs := premises.hubs.delete fun other => other.id = old.id }
  | settingsAdded {id : OrgId}
      (allowed : activates [.leader, .coordinator] "/api/organizations/:id/settings" premises.db
        id user = true) (present : premises.db.hasOrganization id = true)
      (table : Table OrganizationSettings.id OrganizationSettings.organizationId)
      (inserted : premises.settings.insert (newSettings id) = some table) :
      PremisesOutcome premises user (.getSettings id) { premises with settings := table }
  | settingsSaved {id : OrgId} {dto : UpdateOrgSettingsDto}
      (allowed : activates [.leader] "/api/organizations/:id/settings" premises.db id user = true)
      (table : Table OrganizationSettings.id OrganizationSettings.organizationId)
      (loaded : table = premises.settings ∨ premises.db.hasOrganization id = true ∧
        premises.settings.insert (newSettings id) = some table)
      (saved : List OrganizationSettings)
      (about : ∀ settings ∈ saved, settings.organizationId = id) :
      PremisesOutcome premises user (.updateSettings id dto)
        { premises with settings := table.saveAll saved }

/-- The properties of a body leave the id, the organization and the owner alone. -/
theorem HubProperties.assign_kept {dto : HubProperties} {old new : Hub}
    (assigned : dto.assign old = some new) :
    new.id = old.id ∧ new.organizationId = old.organizationId ∧
      new.ownerUserId = old.ownerUserId := by
  simp only [HubProperties.assign, Option.bind_eq_bind, Option.bind_eq_some_iff, Option.pure_def,
    Option.some.injEq] at assigned
  obtain ⟨_, _, _, _, _, _, _, _, _, _, rfl⟩ := assigned
  exact ⟨rfl, rfl, rfl⟩

theorem UpdateHubDto.assign_kept {dto : UpdateHubDto} {old new : Hub}
    (assigned : dto.assign old = some new) :
    new.id = old.id ∧ new.organizationId = old.organizationId ∧
      new.ownerUserId = old.ownerUserId := by
  simp only [UpdateHubDto.assign, Option.bind_eq_bind, Option.bind_eq_some_iff] at assigned
  obtain ⟨name, _, assigned⟩ := assigned
  obtain ⟨sameId, sameOrganization, sameOwner⟩ := HubProperties.assign_kept assigned
  exact ⟨sameId, sameOrganization, sameOwner⟩

theorem UpdateOrgSettingsDto.assign_kept {dto : UpdateOrgSettingsDto}
    {old new : OrganizationSettings} (assigned : dto.assign old = some new) :
    new.id = old.id ∧ new.organizationId = old.organizationId := by
  simp only [UpdateOrgSettingsDto.assign, Option.bind_eq_bind, Option.bind_eq_some_iff,
    Option.pure_def, Option.some.injEq] at assigned
  obtain ⟨_, _, _, _, _, _, _, _, _, _, rfl⟩ := assigned
  exact ⟨rfl, rfl⟩

section Routes

variable {premises : Premises} {user : User}

theorem createHub_outcome (id : OrgId) (dto : CreateHubDto) :
    (createHub id dto user).Leaves premises
      (PremisesOutcome premises user (.createHub id dto)) := by
  refine Prog.leaves_within_bind _ (checkLeaderOrAdmin_guarded id user premises.db)
    (.refused _) fun _ allowed => Prog.leaves_execOr (fun _ => .refused _) fun result added => ?_
  split at added
  case isTrue references =>
    obtain ⟨hub, assigned, rfl⟩ := Option.map_eq_some_iff.mp added
    obtain ⟨_, organization, owner⟩ := HubProperties.assign_kept assigned
    exact .hubAdded allowed references.1 hub organization owner
  case isFalse => cases added

theorem findHub_leaves_bind {α : Type} {id : OrgId} {hubId : HubId} {f : Hub → PremisesService α}
    {motive : Premises → Prop} (refused : motive premises)
    (found : ∀ hub ∈ premises.hubs.rows, hub.id = hubId → hub.organizationId = some id →
      (f hub).Leaves premises motive) : ((findHub id hubId).bind f).Leaves premises motive := by
  simp only [findHub, Prog.bind_eq, Prog.bind_assoc]
  refine Prog.leaves_query_bind (Prog.leaves_orThrow_bind (fun _ => refused) fun hub hit => ?_)
  obtain ⟨stored, matching⟩ := Table.findOne_mem hit
  have named : hub.id = hubId ∧ hub.organizationId = some id := by simpa using matching
  exact found hub stored named.1 named.2

theorem updateHub_outcome {op : PremisesOp} {id : OrgId} (about : op.hubsOf = some id)
    (hubId : HubId) (dto : UpdateHubDto) :
    (OrganizationsService.updateHub id hubId dto user).Leaves premises
      (PremisesOutcome premises user op) := by
  refine Prog.leaves_within_bind _ (checkLeaderOrAdmin_guarded id user premises.db)
    (.refused _) fun _ allowed => ?_
  refine findHub_leaves_bind (.refused _) fun old stored _ organization => ?_
  refine Prog.leaves_orThrow_bind (fun _ => .refused _) fun new assigned => ?_
  obtain ⟨sameId, sameOrganization, sameOwner⟩ := UpdateHubDto.assign_kept assigned
  exact .hubSaved about allowed old stored organization new sameId sameOrganization sameOwner

theorem deleteHub_outcome (id : OrgId) (hubId : HubId) :
    (OrganizationsService.deleteHub id hubId user).Leaves premises
      (PremisesOutcome premises user (.deleteHub id hubId)) := by
  refine Prog.leaves_within_bind _ (checkLeaderOrAdmin_guarded id user premises.db)
    (.refused _) fun _ allowed => ?_
  refine findHub_leaves_bind (.refused _) fun old stored _ organization => ?_
  exact .hubDeleted allowed old stored organization

/-- `getSettings` answers the stored settings or stores new ones. -/
theorem getSettings_leaves_bind {α : Type} {id : OrgId}
    {f : OrganizationSettings → PremisesService α} {motive : Premises → Prop}
    (refused : motive premises)
    (stored : ∀ settings : OrganizationSettings, settings.organizationId = id →
      (f settings).Leaves premises motive)
    (added : ∀ table settings, premises.db.hasOrganization id = true →
      premises.settings.insert (newSettings id) = some table → settings.organizationId = id →
        (f settings).Leaves { premises with settings := table } motive) :
    ((OrganizationsService.getSettings id).bind f).Leaves premises motive := by
  simp only [OrganizationsService.getSettings, Prog.bind_eq, Prog.bind_assoc]
  refine Prog.leaves_query_bind ?_
  cases found : premises.settings.findOne fun settings => settings.organizationId = id with
  | some settings => exact stored settings (by simpa using (Table.findOne_mem found).2)
  | none =>
      refine Prog.leaves_execOr_bind (fun _ => refused) fun result inserted => ?_
      split at inserted
      case isTrue present =>
        obtain ⟨table, success, rfl⟩ := Option.map_eq_some_iff.mp inserted
        exact added table _ present success rfl
      case isFalse => cases inserted

theorem getSettings_outcome (id : OrgId) :
    (OrganizationsController.getSettings id user).Leaves premises
      (PremisesOutcome premises user (.getSettings id)) := by
  refine Prog.leaves_within_bind _ (canActivate_guarded _ _ id user premises.db)
    (.refused _) fun _ allowed => ?_
  rw [← Prog.bind_ret (OrganizationsService.getSettings id)]
  exact getSettings_leaves_bind (.refused _) (fun _ _ => .refused _)
    fun table _ present inserted _ => .settingsAdded allowed present table inserted

theorem updateSettings_outcome (id : OrgId) (dto : UpdateOrgSettingsDto) :
    (OrganizationsController.updateSettings id dto user).Leaves premises
      (PremisesOutcome premises user (.updateSettings id dto)) := by
  refine Prog.leaves_within_bind _ (canActivate_guarded _ _ id user premises.db)
    (.refused _) fun _ allowed => ?_
  have save {settings : OrganizationSettings} (about : settings.organizationId = id)
      {new : OrganizationSettings} (assigned : dto.assign settings = some new) :
      ∀ row ∈ [new], row.organizationId = id := by
    intro row listed
    rw [List.mem_singleton.mp listed, (UpdateOrgSettingsDto.assign_kept assigned).2, about]
  refine getSettings_leaves_bind (.refused _) (fun settings about => ?_)
    fun table settings present inserted about => ?_
  · refine Prog.leaves_orThrow_bind (fun _ => .refused _) fun new assigned => ?_
    exact .settingsSaved allowed premises.settings (Or.inl rfl) [new] (save about assigned)
  · refine Prog.leaves_orThrow_bind (fun _ => ?_) fun new assigned => ?_
    · have untouched : PremisesOutcome premises user (.updateSettings id dto)
          { premises with settings := table.saveAll [] } :=
        .settingsSaved allowed table (Or.inr ⟨present, inserted⟩) [] (by simp)
      rwa [Table.saveAll_of_mem (by simp)] at untouched
    · exact .settingsSaved allowed table (Or.inr ⟨present, inserted⟩) [new] (save about assigned)

theorem PremisesOp.outcome (premises : Premises) (user : User) (op : PremisesOp) :
    PremisesOutcome premises user op ((op.program user).run premises).2 := by
  cases op with
  | createHub id dto =>
      simp only [PremisesOp.program, Prog.run_discard]
      exact createHub_outcome id dto
  | updateHub id hubId dto =>
      simp only [PremisesOp.program, Prog.run_discard]
      exact Prog.leaves_within_bind _ (canActivate_guarded _ _ id user premises.db)
        (.refused _) fun _ _ => updateHub_outcome rfl hubId _
  | uploadHubMedia id hubId filename =>
      simp only [PremisesOp.program, Prog.run_discard]
      exact Prog.leaves_within_bind _ (canActivate_guarded _ _ id user premises.db)
        (.refused _) fun _ _ => Prog.leaves_orThrow_bind (fun _ => .refused _)
          fun file _ => updateHub_outcome rfl hubId _
  | deleteHub id hubId =>
      simp only [PremisesOp.program, Prog.run_discard]
      exact Prog.leaves_within_bind _ (canActivate_guarded _ _ id user premises.db)
        (.refused _) fun _ _ => deleteHub_outcome id hubId
  | getSettings id =>
      simp only [PremisesOp.program, Prog.run_discard]
      exact getSettings_outcome id
  | updateSettings id dto =>
      simp only [PremisesOp.program, Prog.run_discard]
      exact updateSettings_outcome id dto

end Routes

/-! ## Founding an organization -/

theorem checkParent_guarded (parentOrgId : Option OrgId) (db : Db) :
    (checkParent parentOrgId).Guarded db fun _ after =>
      after = db ∧ parentOrgId.all db.hasOrganization = true := by
  unfold checkParent
  cases parentOrgId with
  | none => exact Prog.guarded_ret ⟨rfl, rfl⟩
  | some id =>
      refine Prog.guarded_query_bind (Prog.guarded_throwIf fun found => ⟨rfl, ?_⟩)
      simpa [Db.hasOrganization, Option.isSome_iff_ne_none] using found

/-- What `create` does before its first statement that writes. -/
def checkCreation (dto : CreateOrgDto) : Service Unit := do
  checkParent dto.parentOrgId
  Prog.throwIf (organizationNameLength < dto.name.length)
    (.queryFailed "value too long for type character varying(255)")

theorem checkCreation_guarded (dto : CreateOrgDto) (db : Db) :
    (checkCreation dto).Guarded db fun _ after => after = db ∧ creatable db dto = true := by
  apply Prog.guarded_bind_of_check (checkParent_guarded dto.parentOrgId db)
  intro _ parented
  apply Prog.guarded_throwIf
  intro short
  exact ⟨rfl, by simp [creatable, parented, Nat.not_lt.mp short]⟩

theorem create_eq (dto : CreateOrgDto) (creator : User) :
    OrganizationsService.create dto creator = (checkCreation dto).bind fun _ => (do
      let organization ← Prog.execReturning
        (fun db => { db with organizations := db.organizations.append (newOrganization dto) })
        (fun db => newOrganization dto db.organizations.next)
      let _leader ← insertMember organization.id creator.id .leader
      Prog.recover (giveChat organization [creator.id]) fun _ => return organization) := by
  rw [checkCreation, Prog.bind_eq, Prog.bind_assoc]
  rfl

/-- The settings of a new organization are refused only if its number is taken. -/
inductive FoundingOutcome (premises : Premises) (dto : CreateOrgDto) (creator : User) :
    Premises → Prop
  | refused (unfounded : ((OrganizationsService.create dto creator).run premises.db).2 =
      premises.db) : FoundingOutcome premises dto creator premises
  | unset (taken : premises.settings.insert (newSettings premises.db.organizations.next) = none) :
      FoundingOutcome premises dto creator
        { premises with
          db := { premises.db with
            organizations := premises.db.organizations.append (newOrganization dto) } }
  | founded (parented : creatable premises.db dto = true)
      (table : Table OrganizationSettings.id OrganizationSettings.organizationId)
      (inserted : premises.settings.insert (newSettings premises.db.organizations.next) =
        some table) :
      FoundingOutcome premises dto creator
        { premises with
          db := ((OrganizationsService.create dto creator).run premises.db).2
          settings := table }

theorem hasOrganization_append (db : Db) (dto : CreateOrgDto) :
    Db.hasOrganization { db with organizations := db.organizations.append (newOrganization dto) }
      db.organizations.next = true := by
  refine Db.hasOrganization_iff.mpr ⟨newOrganization dto db.organizations.next, ?_, rfl⟩
  exact ((Table.added_append db.organizations (newOrganization dto) fun _ => rfl).mem _).mpr
    (Or.inr rfl)

theorem createWithSettings_outcome (dto : CreateOrgDto) (creator : User) (premises : Premises) :
    (createWithSettings dto creator).Leaves premises (FoundingOutcome premises dto creator) := by
  unfold Prog.Leaves
  rcases (checkCreation_guarded dto premises.db).cases with
    ⟨error, ended⟩ | ⟨⟨⟩, _, ended, rfl, parented⟩
  · have unfounded : ((OrganizationsService.create dto creator).run premises.db).2 =
        premises.db := by
      rw [create_eq, Prog.run_bind, ended]
    have outcome : FoundingOutcome premises dto creator premises := .refused unfounded
    simp only [checkCreation, Prog.bind_eq] at ended
    simpa [createWithSettings, Premises.dbPart, ended] using outcome
  · have checked := ended
    simp only [checkCreation, Prog.bind_eq] at checked
    simp only [createWithSettings, Premises.dbPart, Prog.bind_eq, Prog.run_within_bind, checked,
      Prog.run_execReturning]
    refine Prog.leaves_execOr_bind (fun refused => ?_) fun result inserted => ?_
    · simp only [newOrganization, hasOrganization_append, if_true, Option.map_eq_none_iff]
        at refused
      exact .unset refused
    · simp only [newOrganization, hasOrganization_append, if_true, Option.map_eq_some_iff]
        at inserted
      obtain ⟨table, success, rfl⟩ := inserted
      have outcome : FoundingOutcome premises dto creator
          { premises with
            db := ((OrganizationsService.create dto creator).run premises.db).2
            settings := table } := .founded parented table success
      simp only [create_eq, Prog.bind_eq, Prog.run_bind_of_ok ended,
        Prog.run_execReturning_bind] at outcome
      unfold Prog.Leaves
      rw [Prog.run_within]
      exact outcome

/-! ## A call -/

/-- The call of the server that `create` with its settings stands for. -/
def Call.founding (payload : JwtClaims) (dto : CreateOrgDto) : Call :=
  .user payload (fun user => .organizations (.create dto user)) fun _ => rfl

inductive PremisesEffect (env : ServerEnv) (premises : Premises) : PremisesCall → Premises → Prop
  | served (call : Call) (other : ¬ call.Founds) :
      PremisesEffect env premises (.server call other)
        { premises with db := call.step env premises.db }.cascade
  | unfounded (payload : JwtClaims) (dto : CreateOrgDto)
      (refused : (Call.founding payload dto).step env premises.db = premises.db) :
      PremisesEffect env premises (.create payload dto) premises
  | founding (payload : JwtClaims) (dto : CreateOrgDto) (user : User)
      (ran : (Call.founding payload dto).step env premises.db =
        ((OrganizationsService.create dto user).run premises.db).2)
      {after : Premises} (outcome : FoundingOutcome premises dto user after) :
      PremisesEffect env premises (.create payload dto) after
  | refused (payload : JwtClaims) (op : PremisesOp) :
      PremisesEffect env premises (.premises payload op) premises
  | acted (payload : JwtClaims) (op : PremisesOp) (user : User)
      (authenticates : Authenticates premises.db payload user) {after : Premises}
      (outcome : PremisesOutcome premises user op after) :
      PremisesEffect env premises (.premises payload op) after

theorem PremisesCall.effect (env : ServerEnv) (premises : Premises) (call : PremisesCall) :
    PremisesEffect env premises call (call.step env premises) := by
  cases call with
  | server call other => exact .served call other
  | create payload dto =>
      rcases JwtStrategy.validate_ran payload premises.db with
        ⟨error, ended⟩ | ⟨user, ended, authenticates⟩
      · simp only [PremisesCall.step, Premises.serve, ended]
        exact .unfounded payload dto (by simp only [Call.founding, Call.step, Call.run, ended])
      · simp only [PremisesCall.step, Premises.serve, ended, Prog.run_discard]
        refine .founding payload dto user ?_ (createWithSettings_outcome dto user premises)
        simp only [Call.founding, Call.step, Call.run, ended, UserOp.run_organizations]
        rfl
  | premises payload op =>
      rcases JwtStrategy.validate_ran payload premises.db with
        ⟨error, ended⟩ | ⟨user, ended, authenticates⟩
      · simp only [PremisesCall.step, Premises.serve, ended]
        exact .refused payload op
      · simp only [PremisesCall.step, Premises.serve, ended]
        exact .acted payload op user authenticates (PremisesOp.outcome premises user op)

end VolunteerApi
