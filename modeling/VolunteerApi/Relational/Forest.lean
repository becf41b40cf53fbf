import Mathlib.Data.Set.Finite.List
import Mathlib.Data.List.Perm.Subperm
import Mathlib.Logic.Relation
import Mathlib.Order.WellFounded

/-!
# Rows that name a parent row

`Below` is the relation that a column naming another row's key draws between keys.  Where
it has no cycle and every named key is stored, each row has exactly one lineage: the rows
above it, from a root down.
-/

set_option autoImplicit false

namespace Relational

open Relation

universe u v

variable {Row : Type u} {Id : Type v}

/-- The row with the first key names the second one as its parent. -/
def Below (key : Row → Id) (parent : Row → Option Id) (rows : List Row) (child above : Id) :
    Prop :=
  ∃ row ∈ rows, key row = child ∧ parent row = some above

def Acyclic (key : Row → Id) (parent : Row → Option Id) (rows : List Row) : Prop :=
  ∀ id, ¬ TransGen (Below key parent rows) id id

/-- The foreign key: every parent is stored. -/
def Rooted (key : Row → Id) (parent : Row → Option Id) (rows : List Row) : Prop :=
  ∀ row ∈ rows, ∀ id, parent row = some id → ∃ above ∈ rows, key above = id

/-- The rows from a root down to the one with the given key. -/
inductive Lineage (key : Row → Id) (parent : Row → Option Id) (rows : List Row) :
    Option Id → List Row → Prop
  | top : Lineage key parent rows none []
  | under {row : Row} {chain : List Row} (stored : row ∈ rows)
      (above : Lineage key parent rows (parent row) chain) :
      Lineage key parent rows (some (key row)) (chain ++ [row])

section Rows

variable {key : Row → Id} {parent : Row → Option Id} {rows later : List Row}

/-! ## Changing the rows -/

theorem Acyclic.mono (acyclic : Acyclic key parent rows)
    (weaker : ∀ child above, Below key parent later child above →
      Below key parent rows child above) : Acyclic key parent later := by
  intro id cycle
  exact acyclic id (TransGen.mono weaker id id cycle)

theorem Acyclic.of_leaf (acyclic : Acyclic key parent rows) (leaf : Id)
    (childless : ∀ child, ¬ Below key parent later child leaf)
    (other : ∀ child above, Below key parent later child above → child ≠ leaf →
      Below key parent rows child above) : Acyclic key parent later := by
  have before : ∀ {low high}, TransGen (Below key parent later) low high → low ≠ leaf →
      TransGen (Below key parent rows) low high := by
    intro low high path notLeaf
    induction path with
    | single link => exact .single (other _ _ link notLeaf)
    | @tail middle high path link ih =>
        refine ih.tail (other _ _ link ?_)
        rintro rfl
        cases path with
        | single toLeaf => exact childless _ toLeaf
        | tail _ toLeaf => exact childless _ toLeaf
  intro id cycle
  by_cases here : id = leaf
  · subst here
    cases cycle with
    | single toLeaf => exact childless _ toLeaf
    | tail _ toLeaf => exact childless _ toLeaf
  · exact acyclic id (before cycle here)

/-! ## Lineages -/

/-- Upwards from a stored key, the keys come to an end. -/
theorem exists_lineage_of_stored (acyclic : Acyclic key parent rows)
    (rooted : Rooted key parent rows) {row : Row} (stored : row ∈ rows) :
    ∃ chain, Lineage key parent rows (some (key row)) chain := by
  have finite : Finite {id // id ∈ rows.map key} := (List.finite_toSet (rows.map key)).to_subtype
  let Above (high low : {id // id ∈ rows.map key}) : Prop :=
    TransGen (Below key parent rows) low.1 high.1
  have trans : IsTrans _ Above := ⟨fun _ _ _ first second => second.trans first⟩
  have irrefl : Std.Irrefl Above := ⟨fun id => acyclic id.1⟩
  have upwards := Finite.wellFounded_of_trans_of_irrefl Above
  suffices climbs : ∀ id : {id // id ∈ rows.map key},
      ∃ chain, Lineage key parent rows (some id.1) chain from
    climbs ⟨key row, List.mem_map_of_mem stored⟩
  intro id
  induction id using upwards.induction with
  | _ id ih =>
      obtain ⟨id, listed⟩ := id
      obtain ⟨row, stored, rfl⟩ := List.mem_map.mp listed
      cases named : parent row with
      | none =>
          refine ⟨[] ++ [row], .under stored ?_⟩
          rw [named]
          exact .top
      | some above =>
          obtain ⟨higher, higherStored, rfl⟩ := rooted row stored above named
          obtain ⟨chain, lineage⟩ := ih ⟨key higher, List.mem_map_of_mem higherStored⟩
            (.single ⟨row, stored, rfl, named⟩)
          refine ⟨chain ++ [row], .under stored ?_⟩
          rw [named]
          exact lineage

theorem exists_lineage (acyclic : Acyclic key parent rows) (rooted : Rooted key parent rows)
    {row : Row} (stored : row ∈ rows) : ∃ chain, Lineage key parent rows (parent row) chain := by
  cases named : parent row with
  | none => exact ⟨[], .top⟩
  | some above =>
      obtain ⟨higher, higherStored, rfl⟩ := rooted row stored above named
      exact exists_lineage_of_stored acyclic rooted higherStored

namespace Lineage

variable {start : Option Id} {chain : List Row}

theorem parentless (lineage : Lineage key parent rows start chain) {id : Id}
    (named : start = some id) :
    ∃ top ∈ rows, parent top = none ∧ ReflTransGen (Below key parent rows) id (key top) := by
  induction lineage generalizing id with
  | top => cases named
  | @under row chain stored above ih =>
      cases named
      cases upwards : parent row with
      | none => exact ⟨row, stored, upwards, .refl⟩
      | some next =>
          obtain ⟨top, topStored, noParent, path⟩ := ih upwards
          exact ⟨top, topStored, noParent, .head ⟨row, stored, rfl, upwards⟩ path⟩

theorem mem_iff (unique : ∀ left ∈ rows, ∀ right ∈ rows, key left = key right → left = right)
    (lineage : Lineage key parent rows start chain) (row : Row) :
    row ∈ chain ↔ row ∈ rows ∧
      ∃ id, start = some id ∧ ReflTransGen (Below key parent rows) id (key row) := by
  induction lineage with
  | top => simp
  | @under last chain stored above ih =>
      rw [List.mem_append, List.mem_singleton, ih]
      constructor
      · rintro (⟨rowStored, id, named, path⟩ | rfl)
        · exact ⟨rowStored, key last, rfl, .head ⟨last, stored, rfl, named⟩ path⟩
        · exact ⟨stored, key row, rfl, .refl⟩
      · rintro ⟨rowStored, id, ⟨⟩, path⟩
        rcases path.cases_head with same | ⟨higher, ⟨child, childStored, sameKey, named⟩, rest⟩
        · exact Or.inr (unique row rowStored last stored same.symm)
        · obtain rfl := unique child childStored last stored sameKey
          exact Or.inl ⟨rowStored, higher, named, rest⟩

theorem nodup (unique : ∀ left ∈ rows, ∀ right ∈ rows, key left = key right → left = right)
    (acyclic : Acyclic key parent rows) (lineage : Lineage key parent rows start chain) :
    chain.Nodup := by
  induction lineage with
  | top => exact List.nodup_nil
  | @under last chain stored above ih =>
      refine List.Nodup.append ih (List.nodup_singleton last) ?_
      rw [List.disjoint_singleton]
      intro listed
      obtain ⟨_, id, named, path⟩ := (above.mem_iff unique last).mp listed
      exact acyclic (key last) (.head' ⟨last, stored, rfl, named⟩ path)

theorem length_le (unique : ∀ left ∈ rows, ∀ right ∈ rows, key left = key right → left = right)
    (acyclic : Acyclic key parent rows) (lineage : Lineage key parent rows start chain) :
    chain.length ≤ rows.length := by
  refine ((lineage.nodup unique acyclic).subperm ?_).length_le
  intro row listed
  exact ((lineage.mem_iff unique row).mp listed).1

end Lineage

end Rows

end Relational
