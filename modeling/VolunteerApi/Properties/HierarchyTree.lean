import VolunteerApi.Properties.OrganizationTree
import VolunteerApi.Relational.Hierarchy

/-!
# The tree of the organizations

`getHierarchyTree` joins the children of an organization once.  The trees it returns are the
whole hierarchy only where no child has children.
-/

set_option autoImplicit false

namespace VolunteerApi

open Relational Programs OrganizationsService Relation

/-- The nested lists that the entity stands for. -/
def OrganizationsService.HierarchyOrganization.tree (loaded : HierarchyOrganization) :
    RowTree Organization :=
  .node loaded.organization (loaded.children.map fun child => .node child [])

/-- The call returns the organizations it starts from with all that is below them, nested under
their parents, and without an argument this is every organization. -/
def ReturnsHierarchy (db : Db) (rootOrgId : Option OrgId) : Prop :=
  ∃ loaded, (getHierarchyTree rootOrgId).run db = (.ok loaded, db) ∧
    Hierarchy Organization.id Organization.parentOrgId db.organizations.rows
      (hierarchyRoots db rootOrgId) (loaded.map HierarchyOrganization.tree) ∧
    (rootOrgId = none → ∀ organization ∈ db.organizations.rows,
      organization ∈ RowTree.allRows (loaded.map HierarchyOrganization.tree))

/-- No child of an organization the call starts from has children. -/
def Shallow (db : Db) (rootOrgId : Option OrgId) : Prop :=
  ∀ root ∈ hierarchyRoots db rootOrgId, ∀ child ∈ db.childrenOf root.id,
    db.childrenOf child.id = []

instance (db : Db) (rootOrgId : Option OrgId) : Decidable (Shallow db rootOrgId) :=
  inferInstanceAs (Decidable (∀ _ ∈ _, ∀ _ ∈ _, _ = _))

section Tree

variable {db : Db} {rootOrgId : Option OrgId}

theorem loadHierarchy_tree (db : Db) (organization : Organization) :
    (loadHierarchy db organization).tree =
      grow Organization.id Organization.parentOrgId db.organizations.rows 1 organization := rfl

theorem shallow_iff :
    Shallow db rootOrgId ↔
      level Organization.id Organization.parentOrgId db.organizations.rows
        (hierarchyRoots db rootOrgId) 2 = [] := by
  simp only [Shallow, level, List.flatMap_eq_nil_iff, List.mem_flatMap]
  constructor
  · rintro shallow child ⟨root, listed, member⟩
    exact shallow root listed child member
  · intro empty root listed child member
    exact empty child ⟨root, listed, member⟩

theorem organizations_nodup (db : Db) : db.organizations.rows.Nodup :=
  List.Nodup.of_map _ db.organizations.keys

theorem hierarchyRoots_stored {root : Organization} (listed : root ∈ hierarchyRoots db rootOrgId) :
    root ∈ db.organizations.rows := by
  cases rootOrgId with
  | some rootOrgId => exact ((Table.mem_find _ _ _).mp listed).1
  | none => exact ((Table.mem_find _ _ _).mp listed).1

/-- No organization that a call starts from is below another. -/
theorem hierarchyRoots_spread (acyclic : AcyclicOrganizations db) :
    Spread Organization.id Organization.parentOrgId db.organizations.rows
      (hierarchyRoots db rootOrgId) := by
  cases rootOrgId with
  | some rootOrgId =>
      refine ⟨fun _ => hierarchyRoots_stored, (organizations_nodup db).filter _, ?_⟩
      intro low lowListed high highListed path
      have lowId := of_decide_eq_true ((Table.mem_find _ _ _).mp lowListed).2
      have highId := of_decide_eq_true ((Table.mem_find _ _ _).mp highListed).2
      rw [lowId, highId] at path
      exact acyclic rootOrgId path
  | none =>
      refine ⟨fun _ => hierarchyRoots_stored, (organizations_nodup db).filter _, ?_⟩
      intro low lowListed high _ path
      obtain ⟨lowStored, parentless⟩ := (Table.mem_find _ _ _).mp lowListed
      obtain ⟨_, ⟨child, childStored, same, named⟩, _⟩ := TransGen.head'_iff.mp path
      obtain rfl := organizations_unique db child childStored low lowStored same
      rw [of_decide_eq_true parentless] at named
      cases named

/-- In a forest every organization is below one without a parent. -/
theorem below_parentless (acyclic : AcyclicOrganizations db) (parents : ParentsStored db)
    {organization : Organization} (stored : organization ∈ db.organizations.rows) :
    ∃ root ∈ hierarchyRoots db none,
      ReflTransGen (ParentOf db) organization.id root.id := by
  obtain ⟨chain, lineage⟩ := exists_lineage_of_stored acyclic parents stored
  obtain ⟨root, rootStored, parentless, path⟩ := lineage.parentless rfl
  exact ⟨root, (Table.mem_find _ _ _).mpr ⟨rootStored, decide_eq_true parentless⟩, path⟩

theorem loaded_trees (db : Db) (rootOrgId : Option OrgId) :
    ((hierarchyRoots db rootOrgId).map (loadHierarchy db)).map HierarchyOrganization.tree =
      (hierarchyRoots db rootOrgId).map
        (grow Organization.id Organization.parentOrgId db.organizations.rows 1) := by
  rw [List.map_map]
  exact List.map_congr_left fun organization _ => loadHierarchy_tree db organization

/-- The trees of one level are the whole hierarchy, exactly if there is no second one. -/
theorem hierarchy_iff_shallow (acyclic : AcyclicOrganizations db) :
    Hierarchy Organization.id Organization.parentOrgId db.organizations.rows
        (hierarchyRoots db rootOrgId)
        (((hierarchyRoots db rootOrgId).map (loadHierarchy db)).map HierarchyOrganization.tree) ↔
      Shallow db rootOrgId := by
  rw [loaded_trees, shallow_iff]
  exact grow_hierarchy_iff (organizations_unique db) (hierarchyRoots_spread acyclic)
    (organizations_nodup db) 1

theorem shallow_of_returns (acyclic : AcyclicOrganizations db)
    (returns : ReturnsHierarchy db rootOrgId) : Shallow db rootOrgId := by
  obtain ⟨loaded, ⟨⟩, hierarchy, _⟩ := returns
  exact (hierarchy_iff_shallow acyclic).mp hierarchy

/-- In a forest a call returns the whole hierarchy, exactly if no child of an organization it
starts from has children. -/
theorem returnsHierarchy_iff (acyclic : AcyclicOrganizations db) (parents : ParentsStored db) :
    ReturnsHierarchy db rootOrgId ↔ Shallow db rootOrgId := by
  constructor
  · exact shallow_of_returns acyclic
  · intro shallow
    have hierarchy := (hierarchy_iff_shallow acyclic).mpr shallow
    refine ⟨_, rfl, hierarchy, ?_⟩
    rintro rfl organization stored
    rw [hierarchy.complete]
    exact ⟨stored, below_parentless acyclic parents stored⟩

end Tree

/-- The example of the entity's comment: a group, its logistics, and a store of that. -/
def threeLevelsBoard : Db := execute OrganizationsOp.step (exampleBoard .local) threeLevels

theorem threeLevelsBoard_forest :
    AcyclicOrganizations threeLevelsBoard ∧ ParentsStored threeLevelsBoard := by
  have kept : Always OrganizationsOp.step
      (fun later => AcyclicOrganizations later ∧ ParentsStored later) (exampleBoard .local)
      threeLevels := by
    apply always_of_invariant
    · rintro later op ⟨acyclic, parents⟩
      exact ⟨acyclicOrganizations_step acyclic parents op, parentsStored_step parents op⟩
    · exact organizations_board .local
  exact always_end kept

theorem returnsHierarchy_iff_witness :
    ReturnsHierarchy threeLevelsBoard (some 0) ↔ Shallow threeLevelsBoard (some 0) :=
  returnsHierarchy_iff threeLevelsBoard_forest.1 threeLevelsBoard_forest.2

/-- The store is missing from both trees. -/
theorem returnsHierarchy_fails :
    AcyclicOrganizations threeLevelsBoard ∧ ParentsStored threeLevelsBoard ∧
      ¬ ReturnsHierarchy threeLevelsBoard (some 0) ∧ ¬ ReturnsHierarchy threeLevelsBoard none := by
  obtain ⟨acyclic, parents⟩ := threeLevelsBoard_forest
  refine ⟨acyclic, parents, ?_, ?_⟩
  · intro returns
    exact absurd (shallow_of_returns acyclic returns) (by decide +kernel)
  · intro returns
    exact absurd (shallow_of_returns acyclic returns) (by decide +kernel)

end VolunteerApi
