import VolunteerApi.Relational.Forest

/-!
# Trees of rows

A row with the rows that name it as their parent, and so on downwards.  `grow` stops after a
number of levels; what it has reached then is the whole hierarchy exactly if nothing is stored
on the next level.
-/

set_option autoImplicit false

namespace Relational

open Relation

universe u v

inductive RowTree (Row : Type u) where
  | node (row : Row) (subtrees : List (RowTree Row))

namespace RowTree

variable {Row : Type u} {Id : Type v}

def row : RowTree Row → Row
  | .node row _ => row

mutual

def rows : RowTree Row → List Row
  | .node row subtrees => row :: allRows subtrees

def allRows : List (RowTree Row) → List Row
  | [] => []
  | tree :: rest => tree.rows ++ allRows rest

end

/-- Every subtree is that of a row that names the row above it as its parent. -/
inductive Nested (key : Row → Id) (parent : Row → Option Id) : RowTree Row → Prop
  | node {row : Row} {subtrees : List (RowTree Row)}
      (under : ∀ tree ∈ subtrees, parent tree.row = some (key row))
      (nested : ∀ tree ∈ subtrees, Nested key parent tree) :
      Nested key parent (.node row subtrees)

theorem allRows_map {α : Type u} (tree : α → RowTree Row) (list : List α) :
    allRows (list.map tree) = list.flatMap fun element => (tree element).rows := by
  induction list with
  | nil => rfl
  | cons first rest ih => rw [List.map_cons, allRows, ih, List.flatMap_cons]

end RowTree

variable {Row : Type u} {Id : Type v}

/-- The trees of the rows in `tops`: each row that is stored somewhere below them stands in
one place, under its parent. -/
structure Hierarchy (key : Row → Id) (parent : Row → Option Id) (rows tops : List Row)
    (trees : List (RowTree Row)) : Prop where
  roots : (trees.map RowTree.row).Perm tops
  nested : ∀ tree ∈ trees, tree.Nested key parent
  distinct : (RowTree.allRows trees).Nodup
  complete : ∀ row, row ∈ RowTree.allRows trees ↔
    row ∈ rows ∧ ∃ top ∈ tops, ReflTransGen (Below key parent rows) (key row) (key top)

/-- No row occurs twice, and none is below another. -/
structure Spread (key : Row → Id) (parent : Row → Option Id) (rows tops : List Row) : Prop where
  stored : ∀ top ∈ tops, top ∈ rows
  nodup : tops.Nodup
  apart : ∀ low ∈ tops, ∀ high ∈ tops,
    ¬ TransGen (Below key parent rows) (key low) (key high)

section Levels

variable [DecidableEq Id] (key : Row → Id) (parent : Row → Option Id) (rows : List Row)

def children (above : Row) : List Row :=
  rows.filter fun row => parent row = some (key above)

/-- The rows `depth` links below the rows in `tops`. -/
def level (tops : List Row) : Nat → List Row
  | 0 => tops
  | depth + 1 => level (tops.flatMap (children key parent rows)) depth

/-- The tree of a row, down to `depth` levels below it. -/
def grow : Nat → Row → RowTree Row
  | 0, row => .node row []
  | depth + 1, row => .node row ((children key parent rows row).map (grow depth))

variable {key parent rows}

@[simp] theorem mem_children {above row : Row} :
    row ∈ children key parent rows above ↔ row ∈ rows ∧ parent row = some (key above) := by
  simp [children]

theorem below_of_child {above row : Row} (child : row ∈ children key parent rows above) :
    Below key parent rows (key row) (key above) := by
  obtain ⟨stored, named⟩ := mem_children.mp child
  exact ⟨row, stored, rfl, named⟩

theorem children_stored {tops : List Row} {row : Row}
    (listed : row ∈ tops.flatMap (children key parent rows)) : row ∈ rows := by
  obtain ⟨_, _, child⟩ := List.mem_flatMap.mp listed
  exact (mem_children.mp child).1

theorem level_stored {tops : List Row} (stored : ∀ top ∈ tops, top ∈ rows) {depth : Nat}
    {row : Row} (listed : row ∈ level key parent rows tops depth) : row ∈ rows := by
  induction depth generalizing tops with
  | zero => exact stored row listed
  | succ depth ih => exact ih (fun _ member => children_stored member) listed

theorem level_succ_eq_nil {tops : List Row} {depth : Nat}
    (empty : level key parent rows tops depth = []) :
    level key parent rows tops (depth + 1) = [] := by
  induction depth generalizing tops with
  | zero =>
      have none : tops = [] := empty
      rw [none]
      rfl
  | succ depth ih => exact ih empty

theorem level_eq_nil_of_le {tops : List Row} {depth deeper : Nat} (le : depth ≤ deeper)
    (empty : level key parent rows tops depth = []) :
    level key parent rows tops deeper = [] := by
  induction le with
  | refl => exact empty
  | step _ ih => exact level_succ_eq_nil ih

/-! ## Levels and links -/

theorem path_of_level {tops : List Row} {depth : Nat} {row : Row}
    (listed : row ∈ level key parent rows tops depth) :
    ∃ top ∈ tops, ReflTransGen (Below key parent rows) (key row) (key top) := by
  induction depth generalizing tops with
  | zero => exact ⟨row, listed, .refl⟩
  | succ depth ih =>
      obtain ⟨child, member, path⟩ := ih listed
      obtain ⟨top, topListed, child⟩ := List.mem_flatMap.mp member
      exact ⟨top, topListed, path.tail (below_of_child child)⟩

theorem path_of_deeper {tops : List Row} {depth : Nat} {row : Row}
    (listed : row ∈ level key parent rows tops (depth + 1)) :
    ∃ top ∈ tops, TransGen (Below key parent rows) (key row) (key top) := by
  have onNext : row ∈ level key parent rows (tops.flatMap (children key parent rows)) depth :=
    listed
  obtain ⟨child, member, path⟩ := path_of_level onNext
  obtain ⟨top, topListed, child⟩ := List.mem_flatMap.mp member
  exact ⟨top, topListed, .tail' path (below_of_child child)⟩

theorem level_of_path (unique : ∀ left ∈ rows, ∀ right ∈ rows, key left = key right → left = right)
    {row : Row} (stored : row ∈ rows) {id : Id}
    (path : ReflTransGen (Below key parent rows) (key row) id) :
    ∀ tops : List Row, (∀ top ∈ tops, top ∈ rows) → (∃ top ∈ tops, key top = id) →
      ∃ depth, row ∈ level key parent rows tops depth := by
  induction path with
  | refl =>
      rintro tops topsStored ⟨top, listed, same⟩
      obtain rfl := unique top (topsStored top listed) row stored same
      exact ⟨0, listed⟩
  | tail path link ih =>
      rintro tops topsStored ⟨top, listed, rfl⟩
      obtain ⟨child, childStored, rfl, named⟩ := link
      have member : child ∈ tops.flatMap (children key parent rows) :=
        List.mem_flatMap.mpr ⟨top, listed, mem_children.mpr ⟨childStored, named⟩⟩
      obtain ⟨depth, reached⟩ := ih (tops.flatMap (children key parent rows))
        (fun _ member => children_stored member) ⟨child, member, rfl⟩
      exact ⟨depth + 1, reached⟩

/-! ## Growing -/

theorem grow_row (depth : Nat) (top : Row) : (grow key parent rows depth top).row = top := by
  cases depth <;> rfl

theorem grow_nested (depth : Nat) (top : Row) :
    (grow key parent rows depth top).Nested key parent := by
  induction depth generalizing top with
  | zero =>
      refine .node ?_ ?_
      · intro tree member
        cases member
      · intro tree member
        cases member
  | succ depth ih =>
      refine .node ?_ ?_
      · intro tree member
        obtain ⟨child, listed, rfl⟩ := List.mem_map.mp member
        rw [grow_row]
        exact (mem_children.mp listed).2
      · intro tree member
        obtain ⟨child, _, rfl⟩ := List.mem_map.mp member
        exact ih child

/-- The rows of the trees, level by level. -/
theorem grow_succ_perm (depth : Nat) (tops : List Row) :
    (RowTree.allRows (tops.map (grow key parent rows (depth + 1)))).Perm
      (tops ++ RowTree.allRows
        ((tops.flatMap (children key parent rows)).map (grow key parent rows depth))) := by
  rw [RowTree.allRows_map, RowTree.allRows_map, List.flatMap_assoc]
  have split := List.flatMap_append_perm tops (fun top => [top])
    (fun top => (children key parent rows top).flatMap fun child =>
      (grow key parent rows depth child).rows)
  rw [List.flatMap_singleton'] at split
  refine List.Perm.trans (List.Perm.of_eq ?_) split.symm
  congr 1
  funext top
  rw [grow, RowTree.rows, RowTree.allRows_map]
  rfl

theorem mem_grow {depth : Nat} {tops : List Row} {row : Row} :
    row ∈ RowTree.allRows (tops.map (grow key parent rows depth)) ↔
      ∃ reached ≤ depth, row ∈ level key parent rows tops reached := by
  induction depth generalizing tops with
  | zero =>
      have leaves : RowTree.allRows (tops.map (grow key parent rows 0)) = tops := by
        rw [RowTree.allRows_map]
        exact List.flatMap_singleton' tops
      rw [leaves]
      constructor
      · intro listed
        exact ⟨0, Nat.le_refl 0, listed⟩
      · rintro ⟨reached, le, listed⟩
        obtain rfl := Nat.le_zero.mp le
        exact listed
  | succ depth ih =>
      rw [(grow_succ_perm depth tops).mem_iff, List.mem_append, ih]
      constructor
      · rintro (listed | ⟨reached, le, listed⟩)
        · exact ⟨0, Nat.zero_le _, listed⟩
        · exact ⟨reached + 1, Nat.succ_le_succ le, listed⟩
      · rintro ⟨reached, le, listed⟩
        cases reached with
        | zero => exact Or.inl listed
        | succ reached => exact Or.inr ⟨reached, Nat.le_of_succ_le_succ le, listed⟩

/-! ## Spread rows -/

section Spreading

variable {tops : List Row}
  (unique : ∀ left ∈ rows, ∀ right ∈ rows, key left = key right → left = right)

include unique

theorem path_over_parent {above row : Row} (child : row ∈ children key parent rows above)
    {id : Id} (path : TransGen (Below key parent rows) (key row) id) :
    ReflTransGen (Below key parent rows) (key above) id := by
  obtain ⟨stored, named⟩ := mem_children.mp child
  obtain ⟨next, ⟨other, otherStored, same, otherNamed⟩, rest⟩ := TransGen.head'_iff.mp path
  obtain rfl := unique other otherStored row stored same
  rw [named] at otherNamed
  cases otherNamed
  exact rest

theorem Spread.children (spread : Spread key parent rows tops) (distinct : rows.Nodup) :
    Spread key parent rows (tops.flatMap (children key parent rows)) where
  stored := fun _ member => children_stored member
  nodup := by
    rw [List.nodup_flatMap]
    refine ⟨fun top _ => distinct.filter _, ?_⟩
    refine spread.nodup.imp_of_mem ?_
    intro left right leftListed rightListed different row leftChild rightChild
    have sameKey := (mem_children.mp leftChild).2.symm.trans (mem_children.mp rightChild).2
    exact different (unique left (spread.stored left leftListed) right
      (spread.stored right rightListed) (Option.some.inj sameKey))
  apart := by
    intro low lowMember high highMember path
    obtain ⟨lowTop, lowListed, lowChild⟩ := List.mem_flatMap.mp lowMember
    obtain ⟨highTop, highListed, highChild⟩ := List.mem_flatMap.mp highMember
    have upwards := path_over_parent unique lowChild path
    exact spread.apart lowTop lowListed highTop highListed
      (.tail' upwards (below_of_child highChild))

theorem Spread.level_unique (spread : Spread key parent rows tops) (distinct : rows.Nodup)
    {row : Row} {left right : Nat} (onLeft : row ∈ level key parent rows tops left)
    (onRight : row ∈ level key parent rows tops right) : left = right := by
  induction left generalizing tops right with
  | zero =>
      cases right with
      | zero => rfl
      | succ right =>
          obtain ⟨top, listed, path⟩ := path_of_deeper onRight
          exact absurd path (spread.apart row onLeft top listed)
  | succ left ih =>
      cases right with
      | zero =>
          obtain ⟨top, listed, path⟩ := path_of_deeper onLeft
          exact absurd path (spread.apart row onRight top listed)
      | succ right => rw [ih (spread.children unique distinct) onLeft onRight]

theorem grow_nodup (spread : Spread key parent rows tops) (distinct : rows.Nodup) (depth : Nat) :
    (RowTree.allRows (tops.map (grow key parent rows depth))).Nodup := by
  induction depth generalizing tops with
  | zero =>
      rw [RowTree.allRows_map]
      have leaves : (tops.flatMap fun top => (grow key parent rows 0 top).rows) = tops :=
        List.flatMap_singleton' tops
      rw [leaves]
      exact spread.nodup
  | succ depth ih =>
      rw [(grow_succ_perm depth tops).nodup_iff]
      refine List.Nodup.append spread.nodup (ih (spread.children unique distinct)) ?_
      rw [List.disjoint_left]
      intro row listed deeper
      obtain ⟨reached, _, onNext⟩ := mem_grow.mp deeper
      have onLevel : row ∈ level key parent rows tops (reached + 1) := onNext
      obtain ⟨top, topListed, path⟩ := path_of_deeper onLevel
      exact spread.apart row listed top topListed path

/-- Trees of `depth` levels are the whole hierarchy, exactly if the next level is empty. -/
theorem grow_hierarchy_iff (spread : Spread key parent rows tops) (distinct : rows.Nodup)
    (depth : Nat) :
    Hierarchy key parent rows tops (tops.map (grow key parent rows depth)) ↔
      level key parent rows tops (depth + 1) = [] := by
  constructor
  · intro hierarchy
    apply List.eq_nil_iff_forall_not_mem.mpr
    intro row listed
    have stored := level_stored spread.stored listed
    have complete := (hierarchy.complete row).mpr ⟨stored, path_of_level listed⟩
    obtain ⟨reached, le, onLevel⟩ := mem_grow.mp complete
    have same := spread.level_unique unique distinct listed onLevel
    omega
  · intro empty
    refine ⟨?_, ?_, grow_nodup unique spread distinct depth, ?_⟩
    · rw [List.map_map]
      have roots : RowTree.row ∘ grow key parent rows depth = id := funext (grow_row depth)
      rw [roots, List.map_id]
    · intro tree member
      obtain ⟨top, _, rfl⟩ := List.mem_map.mp member
      exact grow_nested depth top
    · intro row
      rw [mem_grow]
      constructor
      · rintro ⟨reached, _, listed⟩
        exact ⟨level_stored spread.stored listed, path_of_level listed⟩
      · rintro ⟨stored, top, topListed, path⟩
        obtain ⟨reached, listed⟩ :=
          level_of_path unique stored path tops spread.stored ⟨top, topListed, rfl⟩
        refine ⟨reached, ?_, listed⟩
        by_contra deeper
        rw [level_eq_nil_of_le (Nat.lt_of_not_le deeper) empty] at listed
        cases listed

end Spreading

end Levels

end Relational
