import VolunteerApi.Effects.OrganizationRows
import VolunteerApi.Effects.PremisesEffects
import VolunteerApi.Relational.Evolution

/-!
# Whose hubs and settings

The hubs of an organization and its settings are its managers'.  Whatever everybody else calls,
and whatever happens to other organizations, they stay as they are as long as the organization
stands.  No hub moves to another organization.  To everything else the two tables make no
difference.
-/

set_option autoImplicit false

namespace VolunteerApi

open Relational Programs
open OrganizationsService

/-! ## The tables and the others -/

/-- What the foreign keys guarantee. -/
structure Premises.Consistent (premises : Premises) : Prop where
  hubs : ∀ hub ∈ premises.hubs.rows, ∀ id, hub.organizationId = some id →
    premises.db.hasOrganization id = true
  settings : ∀ settings ∈ premises.settings.rows,
    premises.db.hasOrganization settings.organizationId = true

theorem Premises.cascade_consistent (premises : Premises) : premises.cascade.Consistent where
  hubs := by
    intro hub stored id organization
    obtain ⟨old, _, rfl⟩ := (Table.mem_update _ _ _ _).mp stored
    split at organization
    case isTrue => cases organization
    case isFalse stands => simpa [organization, Premises.cascade] using stands
  settings := by
    intro settings stored
    simpa [Premises.cascade] using ((Table.mem_delete _ _ _).mp stored).2

section Step

variable {env : ServerEnv} {premises after : Premises}

theorem hasOrganization_create (dto : CreateOrgDto) (creator : User) {db : Db} {id : OrgId}
    (stands : db.hasOrganization id = true) :
    ((OrganizationsService.create dto creator).run db).2.hasOrganization id = true := by
  have kept : (OrganizationsOp.step db (.create dto creator)).hasOrganization id = true :=
    OrganizationsOp.hasOrganization_step stands fun _ _ _ deletes => by cases deletes
  exact kept

theorem Premises.Consistent.grown (consistent : premises.Consistent) {db : Db}
    (stands : ∀ id, premises.db.hasOrganization id = true → db.hasOrganization id = true) :
    { premises with db := db }.Consistent where
  hubs hub stored id organization := stands id (consistent.hubs hub stored id organization)
  settings settings stored := stands _ (consistent.settings settings stored)

theorem Premises.Consistent.withSettings (consistent : premises.Consistent)
    {table : Table OrganizationSettings.id OrganizationSettings.organizationId}
    (about : ∀ settings ∈ table.rows, settings ∈ premises.settings.rows ∨
      premises.db.hasOrganization settings.organizationId = true) :
    { premises with settings := table }.Consistent where
  hubs := consistent.hubs
  settings settings stored := (about settings stored).elim (consistent.settings settings) id

theorem inserted_about {id : OrgId}
    {table : Table OrganizationSettings.id OrganizationSettings.organizationId}
    (inserted : premises.settings.insert (newSettings id) = some table)
    {settings : OrganizationSettings} (stored : settings ∈ table.rows) :
    settings ∈ premises.settings.rows ∨ settings.organizationId = id := by
  rcases ((Table.added_insert inserted).mem settings).mp stored with before | rfl
  · exact Or.inl before
  · exact Or.inr rfl

theorem FoundingOutcome.consistent (consistent : premises.Consistent) {dto : CreateOrgDto}
    {user : User} (outcome : FoundingOutcome premises dto user after) : after.Consistent := by
  cases outcome with
  | refused _ => exact consistent
  | unset _ =>
      refine consistent.grown fun id stands => ?_
      obtain ⟨organization, stored, named⟩ := Db.hasOrganization_iff.mp stands
      have added := Table.added_append premises.db.organizations (newOrganization dto)
        (by intro _; rfl)
      exact Db.hasOrganization_iff.mpr
        ⟨organization, (added.mem organization).mpr (Or.inl stored), named⟩
  | founded parented table inserted =>
      have grown := consistent.grown fun id stands => hasOrganization_create dto user stands
      refine grown.withSettings fun settings stored => ?_
      rcases inserted_about inserted stored with before | about
      · exact Or.inl before
      · refine Or.inr ?_
        rw [about]
        exact OrganizationsOp.hasOrganization_created parented user

theorem PremisesOutcome.consistent (consistent : premises.Consistent) {user : User}
    {op : PremisesOp} (outcome : PremisesOutcome premises user op after) : after.Consistent := by
  cases outcome with
  | refused _ => exact consistent
  | @hubAdded id dto allowed present hub organization owner =>
      refine ⟨?_, consistent.settings⟩
      intro row stored other named
      rcases ((Table.added_append premises.hubs _ _).mem row).mp stored with before | rfl
      · exact consistent.hubs row before other named
      · obtain rfl : id = other := Option.some.inj (organization.symm.trans named)
        exact present
  | hubSaved about allowed old stored organization new sameId sameOrganization sameOwner =>
      refine ⟨?_, consistent.settings⟩
      intro row saved other named
      rcases Table.mem_saveAll saved with before | same
      · exact consistent.hubs row before other named
      · obtain rfl : row = new := List.mem_singleton.mp same
        exact consistent.hubs old stored other (sameOrganization.symm.trans named)
  | hubDeleted allowed old stored organization =>
      refine ⟨?_, consistent.settings⟩
      intro row remaining
      exact consistent.hubs row ((Table.mem_delete _ _ _).mp remaining).1
  | settingsAdded allowed present table inserted =>
      refine consistent.withSettings fun settings stored => ?_
      rcases inserted_about inserted stored with before | about
      · exact Or.inl before
      · exact Or.inr (about ▸ present)
  | @settingsSaved id dto allowed table loaded saved about =>
      refine consistent.withSettings fun settings stored => ?_
      obtain ⟨old, oldStored, rfl⟩ := (Table.mem_update _ _ _ _).mp stored
      let saving : Patch OrganizationSettings.id OrganizationSettings.organizationId :=
        Table.writeBack saved
      have sameSlot : (saving.run old).organizationId = old.organizationId := saving.uniq_run old
      have stands : premises.db.hasOrganization old.organizationId = true := by
        rcases loaded with rfl | ⟨present, inserted⟩
        · exact consistent.settings old oldStored
        · rcases inserted_about inserted oldStored with before | named
          · exact consistent.settings old before
          · exact named ▸ present
      refine Or.inr ?_
      rw [if_pos rfl, sameSlot]
      exact stands

theorem PremisesEffect.consistent (consistent : premises.Consistent) {call : PremisesCall}
    (effect : PremisesEffect env premises call after) : after.Consistent := by
  cases effect with
  | served call other => exact Premises.cascade_consistent _
  | unfounded payload dto refused => exact consistent
  | founding payload dto user ran outcome => exact outcome.consistent consistent
  | refused payload op => exact consistent
  | acted payload op user authenticates outcome => exact outcome.consistent consistent

theorem Premises.Consistent.unnamed (consistent : premises.Consistent) :
    premises.settings.insert (newSettings premises.db.organizations.next) ≠ none := by
  have free : ∀ settings ∈ premises.settings.rows,
      settings.organizationId ≠ premises.db.organizations.next := by
    intro settings stored same
    obtain ⟨organization, organizationStored, named⟩ :=
      Db.hasOrganization_iff.mp (consistent.settings settings stored)
    exact Table.key_ne_next organizationStored (named.trans same)
  have inserted : ∃ table, premises.settings.insert
      (newSettings premises.db.organizations.next) = some table :=
    Table.insert_isSome (fun _ => rfl) free
  obtain ⟨table, inserted⟩ := inserted
  simp [inserted]

/-- The calls that the server sees of it. -/
def PremisesCall.served : PremisesCall → List Call
  | .server call _ => [call]
  | .create payload dto => [.founding payload dto]
  | .premises _ _ => []

theorem PremisesEffect.db_eq (consistent : premises.Consistent) {call : PremisesCall}
    (effect : PremisesEffect env premises call after) :
    after.db = execute (Call.step env) premises.db call.served := by
  cases effect with
  | served call other => rfl
  | unfounded payload dto refused => exact refused.symm
  | founding payload dto user ran outcome =>
      cases outcome with
      | refused unfounded => exact unfounded.symm.trans ran.symm
      | unset taken => exact absurd taken consistent.unnamed
      | founded parented table inserted => exact ran.symm
  | refused payload op => rfl
  | acted payload op user authenticates outcome => cases outcome <;> rfl

end Step

/-- Hubs and settings never name an organization that is not stored, and whatever is done with
them, the database develops as it does without them: no call of the server fails on them. -/
theorem premises_served (env : ServerEnv) (premises : Premises)
    (consistent : premises.Consistent) (calls : List PremisesCall) :
    Always (PremisesCall.step env) Premises.Consistent premises calls ∧
      (execute (PremisesCall.step env) premises calls).db =
        execute (Call.step env) premises.db (calls.flatMap PremisesCall.served) := by
  constructor
  · exact always_of_invariant
      (fun premises call consistent => (call.effect env premises).consistent consistent)
      consistent calls
  · induction calls generalizing premises with
    | nil => rfl
    | cons call rest ih =>
        have effect := call.effect env premises
        rw [execute_cons, ih _ (effect.consistent consistent), effect.db_eq consistent,
          List.flatMap_cons, execute_append]

/-- Two volunteers have founded an organization each, and each of them has a hub. -/
def twoHouses : Premises where
  db := execute OrganizationsOp.step (exampleBoard .local)
    [.create { name := "Штаб", description := none, parentOrgId := none, tags := none }
        firstVolunteer,
      .create { name := "Склад", description := none, parentOrgId := none, tags := none }
        secondVolunteer]
  hubs := (Table.empty.append (bareHub 0 "Підвал" firstVolunteer)).append
    (bareHub 1 "Гараж" secondVolunteer)
  settings := Table.empty

/-- The first volunteer sends a picture of his hub, tries to delete the other one and founds a
third organization; the second one looks up his settings. -/
def houseCalls : List PremisesCall :=
  [.premises firstVolunteer.claims (.uploadHubMedia 0 0 (some "pidval.jpg")),
    .premises firstVolunteer.claims (.deleteHub 1 1),
    .create firstVolunteer.claims
      { name := "Кухня", description := none, parentOrgId := some 0, tags := none },
    .premises secondVolunteer.claims (.getSettings 1)]

theorem twoHouses_consistent : twoHouses.Consistent where
  hubs := by
    have named : ∀ hub ∈ twoHouses.hubs.rows, hub.organizationId.all twoHouses.db.hasOrganization =
        true := by decide +kernel
    intro hub stored id organization
    simpa [organization] using named hub stored
  settings := by decide +kernel

theorem premises_served_founded :
    (execute (PremisesCall.step exampleServer) twoHouses houseCalls).db =
      execute (Call.step exampleServer) twoHouses.db
        [.founding firstVolunteer.claims
          { name := "Кухня", description := none, parentOrgId := some 0, tags := none }] :=
  (premises_served exampleServer twoHouses twoHouses_consistent houseCalls).2

/-! ## The hubs of an organization -/

/-- The call writes the hubs of the organization for a user who leads or coordinates it, or for
an admin. -/
def PremisesCall.ManagesHubs (db : Db) (org : OrgId) (call : PremisesCall) : Prop :=
  ∃ payload op user, call = .premises payload op ∧ op.hubsOf = some org ∧
    Authenticates db payload user ∧ coordinates db org user = true

def Premises.hubsAt (premises : Premises) (org : OrgId) : List Hub :=
  premises.hubs.find fun hub => hub.organizationId = some org

section Hubs

variable {env : ServerEnv} {premises after : Premises} {org : OrgId}

theorem getHubs_run (premises : Premises) (org : OrgId) :
    (getHubs org).run premises = (.ok (premises.hubsAt org).reverse, premises) := rfl

theorem hubsAt_cascade (stands : premises.db.hasOrganization org = true) :
    premises.cascade.hubsAt org = premises.hubsAt org := by
  refine Table.find_update_outside fun hub stored homeless => ⟨?_, by simp [unhousedPatch]⟩
  rw [decide_eq_false_iff_not]
  intro named
  simp [named, stands] at homeless

theorem PremisesOutcome.hubsAt {user : User} {op : PremisesOp}
    (outcome : PremisesOutcome premises user op after)
    (others : ∀ id, op.hubsOf = some id → coordinates premises.db id user = true → id ≠ org) :
    after.hubsAt org = premises.hubsAt org := by
  cases outcome with
  | refused _ => rfl
  | hubAdded allowed present hub organization owner =>
      have other := others _ rfl allowed
      exact Table.find_append_outside (by simp [organization, other])
  | hubSaved about allowed old stored organization new sameId sameOrganization sameOwner =>
      have other := others _ about allowed
      refine Table.find_saveAll_outside fun copy held => ?_
      obtain rfl : copy = new := List.mem_singleton.mp held
      refine ⟨by simp [sameOrganization, organization, other], fun row rowStored sameKey _ => ?_⟩
      obtain rfl : row = old := Table.eq_of_key rowStored stored (sameKey.symm.trans sameId)
      simp [organization, other]
  | hubDeleted allowed old stored organization =>
      have other := others _ rfl allowed
      refine Table.find_delete_outside fun row rowStored gone => ?_
      obtain rfl : row = old := Table.eq_of_key rowStored stored (of_decide_eq_true gone)
      simp [organization, other]
  | settingsAdded allowed present table inserted => rfl
  | settingsSaved allowed table loaded saved about => rfl

theorem PremisesEffect.hubsAt {call : PremisesCall}
    (effect : PremisesEffect env premises call after)
    (stands : after.db.hasOrganization org = true)
    (unmanaged : ¬ call.ManagesHubs premises.db org) :
    after.hubsAt org = premises.hubsAt org := by
  cases effect with
  | served call other => exact hubsAt_cascade stands
  | unfounded payload dto refused => rfl
  | founding payload dto user ran outcome => cases outcome <;> rfl
  | refused payload op => rfl
  | acted payload op user authenticates outcome =>
      refine outcome.hubsAt fun id about allowed same => ?_
      subst same
      exact unmanaged ⟨payload, op, user, rfl, about, authenticates, allowed⟩

end Hubs

/-- As long as an organization stands and nobody who manages it works on its hubs, they are
listed as before, whatever is called in between. -/
theorem hubs_kept (env : ServerEnv) (premises : Premises) (org : OrgId)
    (calls : List PremisesCall)
    (stands : Always (PremisesCall.step env)
      (fun premises => premises.db.hasOrganization org = true) premises calls)
    (unmanaged : Throughout (PremisesCall.step env)
      (fun premises call => ¬ call.ManagesHubs premises.db org) premises calls) :
    ((getHubs org).run (execute (PremisesCall.step env) premises calls)).1 =
      ((getHubs org).run premises).1 := by
  simp only [getHubs_run]
  congr 2
  exact execute_same_of (Q := fun premises => premises.hubsAt org)
    (fun premises call _ stands unmanaged => (call.effect env premises).hubsAt stands unmanaged)
    stands unmanaged

theorem houseCalls_stand : Always (PremisesCall.step exampleServer)
    (fun premises => premises.db.hasOrganization 1 = true) twoHouses houseCalls := by
  have last : (execute (PremisesCall.step exampleServer) twoHouses houseCalls).db.hasOrganization 1 =
      true := by
    decide +kernel
  exact ⟨by decide +kernel, by decide +kernel, by decide +kernel, by decide +kernel, last⟩

/-- To the second organization the first volunteer is nobody. -/
theorem hubs_kept_refused :
    ((getHubs 1).run (execute (PremisesCall.step exampleServer) twoHouses houseCalls)).1 =
      ((getHubs 1).run twoHouses).1 := by
  refine hubs_kept exampleServer twoHouses 1 houseCalls houseCalls_stand ⟨?_, ?_, ?_, ?_, trivial⟩
  · rintro ⟨payload, op, user, same, about, _⟩
    cases same
    exact absurd about (by decide)
  · rintro ⟨payload, op, user, same, about, authenticates, allowed⟩
    cases same
    obtain ⟨row, stored, named, _, rfl⟩ := authenticates.loads
    have stranger : ∀ row ∈ (PremisesCall.step exampleServer twoHouses
        (.premises firstVolunteer.claims (.uploadHubMedia 0 0 (some "pidval.jpg")))).db.users.rows,
        row.id = firstVolunteer.claims.sub →
          coordinates (PremisesCall.step exampleServer twoHouses
            (.premises firstVolunteer.claims (.uploadHubMedia 0 0 (some "pidval.jpg")))).db 1
            row.select.entity = false := by
      decide +kernel
    exact absurd allowed (by simp [stranger row stored named])
  · rintro ⟨payload, op, user, same, _⟩
    cases same
  · rintro ⟨payload, op, user, same, about, _⟩
    cases same
    cases about

/-! ## The settings of an organization -/

/-- The call changes the settings for a user who leads the organization or stands in for a leader,
or for an admin. -/
def PremisesCall.ManagesSettings (db : Db) (org : OrgId) (call : PremisesCall) : Prop :=
  ∃ payload dto user, call = .premises payload (.updateSettings org dto) ∧
    Authenticates db payload user ∧
      activates [.leader] "/api/organizations/:id/settings" db org user = true

/-- The settings without their number. -/
def OrganizationSettings.values (settings : OrganizationSettings) : OrganizationSettings :=
  { settings with id := 0 }

/-- An organization without settings has those that it would get. -/
def Premises.valuesAt (premises : Premises) (org : OrgId) : OrganizationSettings :=
  let stored := premises.settings.findOne fun settings => settings.organizationId = org
  (stored.getD (newSettings org 0)).values

section Settings

variable {env : ServerEnv} {premises after : Premises} {org : OrgId}

theorem valuesAt_of_find
    (same : (after.settings.find fun settings => settings.organizationId = org) =
      premises.settings.find fun settings => settings.organizationId = org) :
    after.valuesAt org = premises.valuesAt org := by
  unfold Premises.valuesAt Table.findOne
  rw [← List.head?_filter, ← List.head?_filter]
  exact congrArg (fun found => (found.head?.getD (newSettings org 0)).values) same

theorem valuesAt_insert {id : OrgId} {db : Db}
    {table : Table OrganizationSettings.id OrganizationSettings.organizationId}
    (inserted : premises.settings.insert (newSettings id) = some table) :
    { premises with db := db, settings := table }.valuesAt org = premises.valuesAt org := by
  by_cases same : id = org
  · subst same
    have free := Table.insert_free inserted
    have absent : (premises.settings.rows.find? fun settings => settings.organizationId = id) =
        none := by
      rw [List.find?_eq_none]
      intro settings stored named
      exact free settings stored (of_decide_eq_true named)
    simp [Premises.valuesAt, Table.findOne, Table.insert_rows inserted, absent, newSettings,
      OrganizationSettings.values]
  · exact valuesAt_of_find (Table.find_insert_outside inserted (by simp [newSettings, same]))

theorem getSettings_run (stands : premises.db.hasOrganization org = true) :
    ((getSettings org).run premises).1.map OrganizationSettings.values =
      .ok (premises.valuesAt org) := by
  unfold Premises.valuesAt
  simp only [getSettings, Prog.bind_eq, Prog.run_query_bind]
  cases found : premises.settings.findOne fun settings => settings.organizationId = org with
  | some settings => rfl
  | none =>
      have free : ∀ settings ∈ premises.settings.rows, settings.organizationId ≠ org := by
        simpa [Table.findOne_none] using found
      have inserted : ∃ table, premises.settings.insert (newSettings org) = some table :=
        Table.insert_isSome (fun _ => rfl) free
      obtain ⟨table, inserted⟩ := inserted
      simp [insertSettings, stands, inserted, Except.map, newSettings, OrganizationSettings.values]

theorem valuesAt_cascade (stands : premises.db.hasOrganization org = true) :
    premises.cascade.valuesAt org = premises.valuesAt org := by
  refine valuesAt_of_find (Table.find_delete_outside fun settings stored gone => ?_)
  rw [decide_eq_false_iff_not]
  rintro rfl
  simp [stands] at gone

theorem PremisesOutcome.valuesAt {user : User} {op : PremisesOp}
    (outcome : PremisesOutcome premises user op after)
    (others : ∀ id dto, op = .updateSettings id dto →
      activates [.leader] "/api/organizations/:id/settings" premises.db id user = true → id ≠ org) :
    after.valuesAt org = premises.valuesAt org := by
  cases outcome with
  | refused _ => rfl
  | hubAdded allowed present hub organization owner => rfl
  | hubSaved about allowed old stored organization new sameId sameOrganization sameOwner => rfl
  | hubDeleted allowed old stored organization => rfl
  | settingsAdded allowed present table inserted => exact valuesAt_insert inserted
  | settingsSaved allowed table loaded saved about =>
      have other := others _ _ rfl allowed
      have kept : { premises with settings := table.saveAll saved }.valuesAt org =
          { premises with settings := table }.valuesAt org := by
        refine valuesAt_of_find (Table.find_saveAll_outside fun copy held => ?_)
        refine ⟨by simp [about copy held, other], fun row _ _ sameSlot => ?_⟩
        simp [← sameSlot, about copy held, other]
      rcases loaded with rfl | ⟨_, inserted⟩
      · exact kept
      · exact kept.trans (valuesAt_insert inserted)

theorem PremisesEffect.valuesAt {call : PremisesCall}
    (effect : PremisesEffect env premises call after)
    (stands : after.db.hasOrganization org = true)
    (unmanaged : ¬ call.ManagesSettings premises.db org) :
    after.valuesAt org = premises.valuesAt org := by
  cases effect with
  | served call other => exact valuesAt_cascade stands
  | unfounded payload dto refused => rfl
  | founding payload dto user ran outcome =>
      cases outcome with
      | refused _ => rfl
      | unset taken => rfl
      | founded parented table inserted => exact valuesAt_insert inserted
  | refused payload op => rfl
  | acted payload op user authenticates outcome =>
      refine outcome.valuesAt fun id dto about allowed same => ?_
      subst same about
      exact unmanaged ⟨payload, dto, user, rfl, authenticates, allowed⟩

end Settings

/-- As long as an organization stands and nobody who leads it changes its settings, they are
answered with the same values, also if they are stored only in between. -/
theorem settings_kept (env : ServerEnv) (premises : Premises) (org : OrgId)
    (calls : List PremisesCall)
    (stands : Always (PremisesCall.step env)
      (fun premises => premises.db.hasOrganization org = true) premises calls)
    (unmanaged : Throughout (PremisesCall.step env)
      (fun premises call => ¬ call.ManagesSettings premises.db org) premises calls) :
    ((getSettings org).run (execute (PremisesCall.step env) premises calls)).1.map
        OrganizationSettings.values =
      ((getSettings org).run premises).1.map OrganizationSettings.values := by
  have standing : premises.db.hasOrganization org = true :=
    always_start (P := fun premises : Premises => premises.db.hasOrganization org = true) stands
  have stillStanding :
      (execute (PremisesCall.step env) premises calls).db.hasOrganization org = true :=
    always_end (P := fun premises : Premises => premises.db.hasOrganization org = true) stands
  rw [getSettings_run standing, getSettings_run stillStanding]
  congr 1
  exact execute_same_of (Q := fun premises => premises.valuesAt org)
    (fun premises call _ stands unmanaged => (call.effect env premises).valuesAt stands unmanaged)
    stands unmanaged

/-- The settings of the second organization are stored in between. -/
theorem settings_kept_stored :
    ((getSettings 1).run (execute (PremisesCall.step exampleServer) twoHouses houseCalls)).1.map
        OrganizationSettings.values =
      ((getSettings 1).run twoHouses).1.map OrganizationSettings.values := by
  refine settings_kept exampleServer twoHouses 1 houseCalls houseCalls_stand
    ⟨?_, ?_, ?_, ?_, trivial⟩
  all_goals
    rintro ⟨payload, dto, user, same, _⟩
    cases same

/-! ## Where a hub comes from -/

/-- The hub keeps its owner, and moves to no other organization. -/
structure Hub.Becomes (old new : Hub) : Prop where
  id : new.id = old.id
  owner : new.ownerUserId = old.ownerUserId
  organization : new.organizationId = old.organizationId ∨ new.organizationId = none

/-- The call adds the hub for an organization that the caller leads or coordinates, unless he is
an admin, and he is the owner. -/
def PremisesCall.Houses (premises : Premises) (call : PremisesCall) (hub : Hub) : Prop :=
  ∃ payload id dto user, call = .premises payload (.createHub id dto) ∧
    Authenticates premises.db payload user ∧ coordinates premises.db id user = true ∧
      hub.id = premises.hubs.next ∧ hub.organizationId = some id ∧
        hub.ownerUserId = some user.id

namespace Hub.Becomes

theorem refl (hub : Hub) : hub.Becomes hub := ⟨rfl, rfl, Or.inl rfl⟩

theorem trans {a b c : Hub} (first : a.Becomes b) (second : b.Becomes c) : a.Becomes c where
  id := second.id.trans first.id
  owner := second.owner.trans first.owner
  organization := by
    rcases second.organization with same | homeless
    · exact first.organization.imp same.trans same.trans
    · exact Or.inr homeless

end Hub.Becomes

section Origin

variable {env : ServerEnv} {premises after : Premises} {hub : Hub}

theorem PremisesEffect.hubOrigin {call : PremisesCall}
    (effect : PremisesEffect env premises call after) (stored : hub ∈ after.hubs.rows) :
    (∃ old ∈ premises.hubs.rows, old.Becomes hub) ∨ call.Houses premises hub := by
  have stays (before : hub ∈ premises.hubs.rows) :
      (∃ old ∈ premises.hubs.rows, old.Becomes hub) ∨ call.Houses premises hub :=
    Or.inl ⟨hub, before, .refl hub⟩
  cases effect with
  | served call other =>
      obtain ⟨old, before, rfl⟩ := (Table.mem_update _ _ _ _).mp stored
      refine Or.inl ⟨old, before, ?_⟩
      split
      · exact ⟨rfl, rfl, Or.inr rfl⟩
      · exact .refl old
  | unfounded payload dto refused => exact stays stored
  | founding payload dto user ran outcome => cases outcome <;> exact stays stored
  | refused payload op => exact stays stored
  | acted payload op user authenticates outcome =>
      cases outcome with
      | refused _ => exact stays stored
      | @hubAdded id dto allowed present new organization owner =>
          rcases ((Table.added_append premises.hubs _ _).mem hub).mp stored with before | rfl
          · exact stays before
          · exact Or.inr
              ⟨payload, id, dto, user, rfl, authenticates, allowed, rfl, organization, owner⟩
      | hubSaved about allowed old oldStored organization new sameId sameOrganization sameOwner =>
          rcases Table.mem_saveAll stored with before | same
          · exact stays before
          · obtain rfl : hub = new := List.mem_singleton.mp same
            exact Or.inl ⟨old, oldStored, sameId, sameOwner, Or.inl sameOrganization⟩
      | hubDeleted allowed old oldStored organization =>
          exact stays ((Table.mem_delete _ _ _).mp stored).1
      | settingsAdded allowed present table inserted => exact stays stored
      | settingsSaved allowed table loaded saved about => exact stays stored

end Origin

/-- Whatever is called, a hub that is stored afterwards was stored before, with the same owner and
for the same organization, or one of the calls has added it for an organization that its caller
managed at that moment. -/
theorem hub_origin (env : ServerEnv) (premises : Premises) (calls : List PremisesCall) :
    ∀ hub ∈ (execute (PremisesCall.step env) premises calls).hubs.rows,
      (∃ old ∈ premises.hubs.rows, old.Becomes hub) ∨
        ∃ first call second new, calls = first ++ call :: second ∧
          call.Houses (execute (PremisesCall.step env) premises first) new ∧ new.Becomes hub := by
  intro hub stored
  exact execute_origin (fun (premises : Premises) hub => hub ∈ premises.hubs.rows) Hub.Becomes
    (fun premises call hub => PremisesCall.Houses premises call hub)
    Hub.Becomes.refl Hub.Becomes.trans
    (fun premises call hub stored => (call.effect env premises).hubOrigin stored) stored

/-- The hub with the picture is the one that the first volunteer has owned all along. -/
theorem hub_origin_pictured :
    ∃ hub ∈ (execute (PremisesCall.step exampleServer) twoHouses houseCalls).hubs.rows,
      hub.mediaUrl = some "/uploads/hubs/pidval.jpg" ∧
      ((∃ old ∈ twoHouses.hubs.rows, old.Becomes hub) ∨
        ∃ first call second new, houseCalls = first ++ call :: second ∧
          call.Houses (execute (PremisesCall.step exampleServer) twoHouses first) new ∧
            new.Becomes hub) := by
  have stored : ∃ hub ∈ (execute (PremisesCall.step exampleServer) twoHouses houseCalls).hubs.rows,
      hub.mediaUrl = some "/uploads/hubs/pidval.jpg" := by
    decide +kernel
  obtain ⟨hub, stored, pictured⟩ := stored
  exact ⟨hub, stored, pictured, hub_origin exampleServer twoHouses houseCalls hub stored⟩

end VolunteerApi
