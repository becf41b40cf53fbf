import Mathlib.Data.List.Sort

/-!
# Ordered and paged rows

An `ORDER BY` clause fixes the order of the rows up to those it does not tell apart,
so a listing is any arrangement of the rows that the clause allows.  `LIMIT` and
`OFFSET` cut a page out of it.
-/

set_option autoImplicit false

namespace Relational

universe u

variable {Row : Type u}

/-- An `ORDER BY` clause with one choice for the rows it does not tell apart. -/
structure OrderBy (before : Row → Row → Prop) where
  run : List Row → List Row
  perm : ∀ rows, (run rows).Perm rows
  sorted : ∀ rows, (run rows).Pairwise before

namespace OrderBy

@[simp] theorem mem_run {before : Row → Row → Prop} (order : OrderBy before) (rows : List Row)
    (row : Row) : row ∈ order.run rows ↔ row ∈ rows :=
  (order.perm rows).mem_iff

/-- `LIMIT 1`. -/
def first {before : Row → Row → Prop} (order : OrderBy before) (rows : List Row) : Option Row :=
  (order.run rows).head?

theorem mem_of_first {before : Row → Row → Prop} {order : OrderBy before} {rows : List Row}
    {row : Row} (found : order.first rows = some row) : row ∈ rows :=
  (order.mem_run rows row).mp (List.mem_of_mem_head? found)

theorem first_eq_none_iff {before : Row → Row → Prop} {order : OrderBy before} {rows : List Row} :
    order.first rows = none ↔ rows = [] := by
  rw [first, List.head?_eq_none_iff]
  constructor
  · intro empty
    exact List.Perm.nil_eq (empty ▸ order.perm rows) |>.symm
  · rintro rfl
    exact (order.perm []).eq_nil

/-- No clause: the rows come as they are stored. -/
def asStored : OrderBy fun _ _ : Row => True where
  run rows := rows
  perm := List.Perm.refl
  sorted _ := List.pairwise_of_forall fun _ _ => trivial

/-- No clause, and the rows that were picked come first. -/
def picking (picked : Row → Bool) : OrderBy fun _ _ : Row => True where
  run rows := rows.filter picked ++ rows.filter fun row => !picked row
  perm := List.filter_append_perm picked
  sorted _ := List.pairwise_of_forall fun _ _ => trivial

theorem first_picking {picked : Row → Bool} {rows : List Row} {row : Row} (listed : row ∈ rows)
    (isPicked : picked row = true) (only : ∀ other ∈ rows, picked other = true → other = row) :
    (picking picked).first rows = some row := by
  have among : row ∈ rows.filter picked := List.mem_filter.mpr ⟨listed, isPicked⟩
  cases first : rows.filter picked with
  | nil =>
      rw [first] at among
      exact absurd among List.not_mem_nil
  | cons head rest =>
      have inside : head ∈ rows.filter picked := first ▸ List.mem_cons_self
      obtain ⟨stored, here⟩ := List.mem_filter.mp inside
      simp [OrderBy.first, picking, first, only head stored here]

/-- `DESC`: larger keys first, rows with the same key as they are stored. -/
def descending (key : Row → Nat) : OrderBy fun left right : Row => key right ≤ key left where
  run := List.insertionSort fun left right => key right ≤ key left
  perm := List.perm_insertionSort _
  sorted rows := by
    have total : Std.Total fun left right : Row => key right ≤ key left :=
      ⟨fun left right => Nat.le_total (key right) (key left)⟩
    have transitive : IsTrans Row fun left right => key right ≤ key left :=
      ⟨fun _ _ _ first second => Nat.le_trans second first⟩
    exact List.pairwise_insertionSort _ rows

/-- `ASC`: smaller keys first. -/
def ascending (key : Row → Nat) : OrderBy fun left right : Row => key left ≤ key right where
  run := List.insertionSort fun left right => key left ≤ key right
  perm := List.perm_insertionSort _
  sorted rows := by
    have total : Std.Total fun left right : Row => key left ≤ key right :=
      ⟨fun left right => Nat.le_total (key left) (key right)⟩
    have transitive : IsTrans Row fun left right => key left ≤ key right :=
      ⟨fun _ _ _ first second => Nat.le_trans first second⟩
    exact List.pairwise_insertionSort _ rows

end OrderBy

theorem mem_take_of_not_before {before : Row → Row → Prop} {rows : List Row}
    (sorted : rows.Pairwise before) {count : Nat} {row cursor : Row} (listed : row ∈ rows)
    (early : cursor ∈ rows.take count) (ahead : ¬ before cursor row) : row ∈ rows.take count := by
  rw [← List.take_append_drop count rows] at listed sorted
  rcases List.mem_append.mp listed with inside | beyond
  · exact inside
  · exact absurd ((List.pairwise_append.mp sorted).2.2 cursor early row beyond) ahead

section Map

variable {α : Type u}

/-- `map.set(key, row)` on the values of an insertion-ordered map: a row with the same key is
replaced in its place. -/
def setKey (key : Row → Nat) (row : Row) : List Row → List Row
  | [] => [row]
  | old :: rest => if key old = key row then row :: rest else old :: setKey key row rest

/-- Where the key decides `image`, nothing is lost by the replacement. -/
theorem image_mem_setKey {key : Row → Nat} {image : Row → α} {row : Row} {rows : List Row}
    (decided : ∀ old ∈ rows, key old = key row → image old = image row) (value : α) :
    value ∈ (setKey key row rows).map image ↔ value = image row ∨ value ∈ rows.map image := by
  induction rows with
  | nil => simp [setKey]
  | cons old rest ih =>
      have later := ih fun other member => decided other (List.mem_cons_of_mem old member)
      unfold setKey
      split
      · next same =>
        simp only [List.map_cons, List.mem_cons, decided old List.mem_cons_self same]
        tauto
      · simp only [List.map_cons, List.mem_cons, later]
        tauto

theorem mem_of_mem_setKey {key : Row → Nat} {row other : Row} {rows : List Row}
    (member : other ∈ setKey key row rows) : other = row ∨ other ∈ rows := by
  induction rows with
  | nil => exact Or.inl (List.mem_singleton.mp member)
  | cons old rest ih =>
      unfold setKey at member
      split at member
      · rcases List.mem_cons.mp member with same | later
        · exact Or.inl same
        · exact Or.inr (List.mem_cons_of_mem old later)
      · rcases List.mem_cons.mp member with same | later
        · exact Or.inr (same ▸ List.mem_cons_self)
        · exact (ih later).imp id (List.mem_cons_of_mem old)

theorem image_mem_foldl_setKey {key : Row → Nat} {image : Row → α} {P : Row → Prop}
    (decided : ∀ left right, P left → P right → key left = key right → image left = image right)
    {added rows : List Row} (addedHold : ∀ row ∈ added, P row) (hold : ∀ row ∈ rows, P row)
    (value : α) :
    value ∈ (added.foldl (fun rows row => setKey key row rows) rows).map image ↔
      value ∈ rows.map image ∨ value ∈ added.map image := by
  induction added generalizing rows with
  | nil => simp
  | cons row rest ih =>
      have here : P row := addedHold row List.mem_cons_self
      have next : ∀ other ∈ setKey key row rows, P other := by
        intro other member
        rcases mem_of_mem_setKey member with rfl | old
        · exact here
        · exact hold other old
      rw [List.foldl_cons, ih (fun other later => addedHold other (List.mem_cons_of_mem row later))
        next, image_mem_setKey fun old member => decided old row (hold old member) here,
        List.map_cons, List.mem_cons]
      tauto

end Map

/-- The rows that `LIMIT` and `OFFSET` leave; without a `LIMIT` all from the offset on. -/
structure Page where
  limit : Option Nat
  offset : Nat
  deriving DecidableEq, Repr

namespace Page

def of (page : Page) (rows : List Row) : List Row :=
  match page.limit with
  | some limit => (rows.drop page.offset).take limit
  | none => rows.drop page.offset

theorem mem_of {page : Page} {rows : List Row} {row : Row} (member : row ∈ page.of rows) :
    row ∈ rows := by
  unfold of at member
  split at member
  · exact List.mem_of_mem_drop (List.mem_of_mem_take member)
  · exact List.mem_of_mem_drop member

theorem of_sublist (page : Page) (rows : List Row) : (page.of rows).Sublist rows := by
  unfold of
  split
  · exact (List.take_sublist _ _).trans (List.drop_sublist _ _)
  · exact List.drop_sublist _ _

/-- The row at a position is on the page that the position falls into. -/
theorem mem_of_iff {rows : List Row} {size : Nat} (positive : 0 < size) {page : Nat} {row : Row} :
    row ∈ (Page.mk (some size) (page * size)).of rows ↔
      ∃ position, rows[position]? = some row ∧ position / size = page := by
  have falls (position : Nat) :
      position / size = page ↔ page * size ≤ position ∧ position < page * size + size := by
    rw [Nat.div_eq_iff positive]
    omega
  simp only [of, List.mem_iff_getElem?, falls]
  constructor
  · rintro ⟨index, found⟩
    rw [List.getElem?_take] at found
    split at found
    · rw [List.getElem?_drop] at found
      exact ⟨page * size + index, found, by omega, by omega⟩
    · cases found
  · rintro ⟨position, found, first, last⟩
    refine ⟨position - page * size, ?_⟩
    rw [List.getElem?_take_of_lt (by omega), List.getElem?_drop, Nat.add_sub_cancel' first]
    exact found

theorem existsUnique_of {rows : List Row} (distinct : rows.Nodup) {size : Nat}
    (positive : 0 < size) {row : Row} (listed : row ∈ rows) :
    ∃! page, row ∈ (Page.mk (some size) (page * size)).of rows := by
  obtain ⟨position, found⟩ := List.mem_iff_getElem?.mp listed
  refine ⟨position / size, (mem_of_iff positive).mpr ⟨position, found, rfl⟩, ?_⟩
  intro page member
  obtain ⟨other, otherFound, rfl⟩ := (mem_of_iff positive).mp member
  have same : other = position := by
    obtain ⟨inside, _⟩ := List.getElem?_eq_some_iff.mp otherFound
    exact (List.getElem?_inj inside distinct).mp (otherFound.trans found.symm)
  rw [same]

end Page

end Relational
