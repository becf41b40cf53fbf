import VolunteerApi.Effects.OrganizationRows
import VolunteerApi.Programs.Runs
import VolunteerApi.Relational.Forest

/-!
# The ancestors of an organization

No route writes `parentOrgId` of a stored organization: a subgroup is created under a
stored parent, an update keeps the parent, and an organization is deleted only without
subgroups.  The tree stays acyclic, so the loop of `getAncestors`, which has neither a bound
nor a set of visited organizations, comes to its end at a root.
-/

set_option autoImplicit false

namespace VolunteerApi

open Relational Programs OrganizationsService Relation

def ParentOf (db : Db) : OrgId → OrgId → Prop :=
  Below Organization.id Organization.parentOrgId db.organizations.rows

def AcyclicOrganizations (db : Db) : Prop :=
  Acyclic Organization.id Organization.parentOrgId db.organizations.rows

/-- The foreign key of the parents. -/
def ParentsStored (db : Db) : Prop :=
  Rooted Organization.id Organization.parentOrgId db.organizations.rows

/-- What `ancestors` shows of an organization. -/
def Ancestor.of (organization : Organization) : Ancestor :=
  ⟨organization.id, organization.name, organization.parentOrgId⟩

/-- Each element names the one before it as its parent, and the first one `before`. -/
def Chained : Option OrgId → List Ancestor → Prop
  | _, [] => True
  | before, ancestor :: rest => ancestor.parentOrgId = before ∧ Chained (some ancestor.id) rest

/-- The chain of the proper ancestors of the organization, from a root down to its parent. -/
structure AncestorsOf (db : Db) (organization : Organization) (ancestors : List Ancestor) :
    Prop where
  exact : ∀ ancestor, ancestor ∈ ancestors ↔ ∃ above ∈ db.organizations.rows,
    Ancestor.of above = ancestor ∧ TransGen (ParentOf db) organization.id above.id
  distinct : (ancestors.map Ancestor.id).Nodup
  chained : Chained none ancestors
  parent : organization.parentOrgId = ancestors.getLast?.map Ancestor.id

/-- The loop ends, after at most one round more than there are organizations, with the chain
of the ancestors. -/
def AncestorsFound (db : Db) (organization : Organization) : Prop :=
  ∃ ancestors, AncestorsOf db organization ancestors ∧
    ∀ fuel, db.organizations.rows.length < fuel →
      (getAncestors fuel organization.parentOrgId).run db = (.ok (some ancestors), db)

/-! ## The loop -/

section Loop

variable {db : Db} {start : Option OrgId} {chain : List Organization}

theorem organizations_unique (db : Db) :
    ∀ left ∈ db.organizations.rows, ∀ right ∈ db.organizations.rows,
      left.id = right.id → left = right := by
  intro left leftStored right rightStored same
  exact Table.eq_of_key leftStored rightStored same

/-- The loop climbs a lineage and puts it in front of what it has. -/
theorem ancestorsLoop_run
    (lineage : Lineage Organization.id Organization.parentOrgId db.organizations.rows start chain)
    (fuel : Nat) (enough : chain.length < fuel) (ancestors : List Ancestor) :
    (ancestorsLoop fuel start ancestors).run db =
      (.ok (some (chain.map Ancestor.of ++ ancestors)), db) := by
  induction lineage generalizing fuel ancestors with
  | top =>
      obtain ⟨fuel, rfl⟩ := Nat.exists_eq_succ_of_ne_zero (Nat.ne_of_gt enough)
      rfl
  | @under row chain stored above ih =>
      obtain ⟨fuel, rfl⟩ := Nat.exists_eq_succ_of_ne_zero (Nat.ne_of_gt (Nat.zero_lt_of_lt enough))
      have shorter : chain.length < fuel := by
        simpa using enough
      rw [ancestorsLoop, Prog.bind_eq, Prog.run_query_bind]
      simp only [Db.findOrganization_of_mem stored]
      rw [ih fuel shorter]
      simp [Ancestor.of]

theorem chained_append {before : Option OrgId} {ancestors : List Ancestor} {last : Ancestor}
    (chained : Chained before ancestors)
    (next : last.parentOrgId = (ancestors.getLast?.map Ancestor.id).or before) :
    Chained before (ancestors ++ [last]) := by
  induction ancestors generalizing before with
  | nil => exact ⟨next, trivial⟩
  | cons first rest ih =>
      refine ⟨chained.1, ih chained.2 ?_⟩
      rw [next, List.getLast?_cons]
      cases rest.getLast? <;> rfl

theorem start_of_lineage
    (lineage : Lineage Organization.id Organization.parentOrgId db.organizations.rows start chain) :
    start = chain.getLast?.map Organization.id := by
  cases lineage with
  | top => rfl
  | under _ _ => simp

theorem chained_of_lineage
    (lineage : Lineage Organization.id Organization.parentOrgId db.organizations.rows start chain) :
    Chained none (chain.map Ancestor.of) := by
  induction lineage with
  | top => trivial
  | @under row chain stored above ih =>
      rw [List.map_append]
      apply chained_append ih
      rw [List.getLast?_map, Option.map_map, Option.or_none]
      exact start_of_lineage above

theorem ancestorsFound (acyclic : AcyclicOrganizations db) (parents : ParentsStored db)
    {organization : Organization} (stored : organization ∈ db.organizations.rows) :
    AncestorsFound db organization := by
  obtain ⟨chain, lineage⟩ := exists_lineage acyclic parents stored
  have unique := organizations_unique db
  have members := lineage.mem_iff unique
  refine ⟨chain.map Ancestor.of, ⟨?_, ?_, ?_, ?_⟩, ?_⟩
  · intro ancestor
    rw [List.mem_map]
    constructor
    · rintro ⟨above, listed, same⟩
      obtain ⟨aboveStored, id, named, path⟩ := (members above).mp listed
      exact ⟨above, aboveStored, same, .head' ⟨organization, stored, rfl, named⟩ path⟩
    · rintro ⟨above, aboveStored, same, path⟩
      obtain ⟨id, ⟨child, childStored, sameKey, named⟩, rest⟩ :=
        TransGen.head'_iff.mp path
      obtain rfl := unique child childStored organization stored sameKey
      exact ⟨above, (members above).mpr ⟨aboveStored, id, named, rest⟩, same⟩
  · rw [List.map_map]
    apply List.Nodup.map_on ?_ (lineage.nodup unique acyclic)
    intro left leftListed right rightListed same
    exact unique left ((members left).mp leftListed).1 right ((members right).mp rightListed).1 same
  · exact chained_of_lineage lineage
  · rw [List.getLast?_map, Option.map_map]
    exact start_of_lineage lineage
  · intro fuel enough
    have shorter := Nat.lt_of_le_of_lt (lineage.length_le unique acyclic) enough
    have ran := ancestorsLoop_run lineage fuel shorter []
    rwa [List.append_nil] at ran

end Loop

/-! ## One call -/

section Calls

open OrganizationsOp

variable {db : Db}

/-- Nobody is below the organization to come. -/
theorem not_parentOf_next (parents : ParentsStored db) {organization : Organization}
    (stored : organization ∈ db.organizations.rows) :
    organization.parentOrgId ≠ some db.organizations.next := by
  intro named
  obtain ⟨above, aboveStored, fresh⟩ := parents organization stored _ named
  exact Table.key_ne_next aboveStored fresh

theorem acyclicOrganizations_step (acyclic : AcyclicOrganizations db)
    (parents : ParentsStored db) (op : OrganizationsOp) :
    AcyclicOrganizations (op.step db) := by
  have rows := (step_leaves db op).organizations.mem
  apply Acyclic.of_leaf acyclic db.organizations.next
  · rintro child ⟨organization, member, _, named⟩
    rcases (rows organization).mp member with saved | ⟨stored, _⟩
    · cases savesOrganization_of_writes saved with
      | created parented _ parent =>
          rw [parent] at named
          have stored := parent_of_creatable parented named
          obtain ⟨above, aboveStored, fresh⟩ := Db.hasOrganization_iff.mp stored
          exact Table.key_ne_next aboveStored fresh
      | edited stored _ parent => exact not_parentOf_next parents stored (parent.symm.trans named)
    · exact not_parentOf_next parents stored named
  · rintro child above ⟨organization, member, sameKey, named⟩ old
    rcases (rows organization).mp member with saved | ⟨stored, _⟩
    · cases savesOrganization_of_writes saved with
      | created _ fresh _ => exact absurd (sameKey.symm.trans fresh) old
      | edited stored same parent =>
          exact ⟨_, stored, same.symm.trans sameKey, parent.symm.trans named⟩
    · exact ⟨organization, stored, sameKey, named⟩

/-- The parent of a stored organization is not deleted. -/
theorem parent_step (parents : ParentsStored db) (op : OrganizationsOp) {child : Organization}
    (stored : child ∈ db.organizations.rows) {id : OrgId} (named : child.parentOrgId = some id) :
    (op.step db).hasOrganization id = true := by
  apply hasOrganization_step (Db.hasOrganization_iff.mpr (parents child stored id named))
  rintro organization _ rfl deletes
  cases deletes with
  | deleted gone =>
      have childless : db.childrenOf organization.id = [] := (of_decide_eq_true gone).2.2.2
      have listed : child ∈ db.childrenOf organization.id :=
        (Table.mem_find _ _ _).mpr ⟨stored, decide_eq_true named⟩
      rw [childless] at listed
      cases listed

theorem parentsStored_step (parents : ParentsStored db) (op : OrganizationsOp) :
    ParentsStored (op.step db) := by
  intro organization member id named
  apply Db.hasOrganization_iff.mp
  rcases ((step_leaves db op).organizations.mem organization).mp member with saved | ⟨stored, _⟩
  · cases savesOrganization_of_writes saved with
    | created parented _ parent =>
        rw [parent] at named
        apply hasOrganization_step (parent_of_creatable parented named)
        intro _ _ _ deletes
        cases deletes
    | edited stored _ parent => exact parent_step parents op stored (parent.symm.trans named)
  · exact parent_step parents op stored named

end Calls

/-! ## Every run -/

/-- In every state a run of the routes reaches, the parents are acyclic, and the loop of
`getAncestors` ends with the chain of the ancestors of each organization. -/
theorem ancestorsFound_always {db : Db} (acyclic : AcyclicOrganizations db)
    (parents : ParentsStored db) (ops : List OrganizationsOp) :
    Always OrganizationsOp.step (fun later => AcyclicOrganizations later ∧
      ∀ organization ∈ later.organizations.rows, AncestorsFound later organization) db ops := by
  have kept : Always OrganizationsOp.step
      (fun later => AcyclicOrganizations later ∧ ParentsStored later) db ops := by
    apply always_of_invariant
    · rintro later op ⟨acyclic, parents⟩
      exact ⟨acyclicOrganizations_step acyclic parents op, parentsStored_step parents op⟩
    · exact ⟨acyclic, parents⟩
  refine kept.mono ?_
  rintro later ⟨acyclic, parents⟩
  exact ⟨acyclic, fun organization stored => ancestorsFound acyclic parents stored⟩

/-- A group, a subgroup and a subgroup of that. -/
def threeLevels : List OrganizationsOp :=
  [.create { name := "Правий Берег", description := none, parentOrgId := none, tags := none }
      firstVolunteer,
    .create { name := "Логістика", description := none, parentOrgId := some 0, tags := none }
      firstVolunteer,
    .create { name := "Склад #1", description := none, parentOrgId := some 1, tags := none }
      firstVolunteer]

theorem organizations_board (level : ClearanceLevel) :
    AcyclicOrganizations (exampleBoard level) ∧ ParentsStored (exampleBoard level) := by
  have empty : (exampleBoard level).organizations.rows = [] := rfl
  constructor
  · intro id cycle
    obtain ⟨_, ⟨organization, stored, _⟩, _⟩ := TransGen.head'_iff.mp cycle
    rw [empty] at stored
    cases stored
  · intro organization stored
    rw [empty] at stored
    cases stored

theorem ancestorsFound_always_witness :
    Always OrganizationsOp.step (fun later => AcyclicOrganizations later ∧
      ∀ organization ∈ later.organizations.rows, AncestorsFound later organization)
      (exampleBoard .local) threeLevels :=
  ancestorsFound_always (organizations_board .local).1 (organizations_board .local).2 threeLevels

end VolunteerApi
