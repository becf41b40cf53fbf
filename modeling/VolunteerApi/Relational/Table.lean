import Mathlib.Data.List.Nodup
import Mathlib.Data.List.Perm.Subperm
import Mathlib.Data.List.Basic

/-!
# Tables with a generated primary key and one unique constraint

A table is a list of rows, each with a number the store generated for it
(`key`) and a value the schema declares unique (`uniq`).  Both constraints are
fields, so a table that breaks one cannot be built.  `next` is the number the
generator hands out next; a number is never handed out twice, also not after
the row that carried it was deleted.
-/

set_option autoImplicit false

namespace Relational

universe u v

variable {Row : Type u} {Slot : Type v}

structure Table (key : Row → Nat) (uniq : Row → Slot) where
  rows : List Row
  next : Nat
  below : ∀ row ∈ rows, key row < next
  keys : (rows.map key).Nodup
  slots : (rows.map uniq).Nodup

/-- A change of a row that leaves its primary key and its unique value alone. -/
structure Patch (key : Row → Nat) (uniq : Row → Slot) where
  run : Row → Row
  key_run : ∀ row, key (run row) = key row := by intro _; rfl
  uniq_run : ∀ row, uniq (run row) = uniq row := by intro _; rfl

namespace Table

variable {key : Row → Nat} {uniq : Row → Slot}

def empty : Table key uniq where
  rows := []
  next := 0
  below := by simp
  keys := by simp
  slots := by simp

/-! ## Reading -/

def find (table : Table key uniq) (wanted : Row → Bool) : List Row :=
  table.rows.filter wanted

def findOne (table : Table key uniq) (wanted : Row → Bool) : Option Row :=
  table.rows.find? wanted

def count (table : Table key uniq) (wanted : Row → Bool) : Nat :=
  (table.find wanted).length

@[simp] theorem mem_find (table : Table key uniq) (wanted : Row → Bool) (row : Row) :
    row ∈ table.find wanted ↔ row ∈ table.rows ∧ wanted row = true := by
  simp [find]

theorem findOne_mem {table : Table key uniq} {wanted : Row → Bool} {row : Row}
    (found : table.findOne wanted = some row) : row ∈ table.rows ∧ wanted row = true :=
  ⟨List.mem_of_find?_eq_some found, List.find?_some found⟩

theorem findOne_none {table : Table key uniq} {wanted : Row → Bool} :
    table.findOne wanted = none ↔ ∀ row ∈ table.rows, wanted row = false := by
  simp [findOne, List.find?_eq_none]

theorem count_eq_zero {table : Table key uniq} {wanted : Row → Bool} :
    table.count wanted = 0 ↔ ∀ row ∈ table.rows, wanted row = false := by
  simp [count, find, List.filter_eq_nil_iff]

/-- Two filters count alike only when no row tells them apart. -/
theorem count_eq_count_iff (table : Table key uniq) {narrow wide : Row → Bool}
    (weaker : ∀ row ∈ table.rows, narrow row = true → wide row = true) :
    table.count narrow = table.count wide ↔
      ∀ row ∈ table.rows, wide row = true → narrow row = true := by
  have sameNarrow : table.rows.filter narrow =
      (table.rows.filter wide).filter narrow := by
    rw [List.filter_filter]
    apply List.filter_congr
    intro row member
    cases hit : narrow row with
    | false => simp
    | true => simp [weaker row member hit]
  simp only [count, find]
  rw [sameNarrow, List.length_filter_eq_length_iff]
  constructor
  · intro all row member hit
    exact all row (List.mem_filter.mpr ⟨member, hit⟩)
  · intro all row member
    obtain ⟨inside, hit⟩ := List.mem_filter.mp member
    exact all row inside hit

theorem eq_of_key {table : Table key uniq} {left right : Row}
    (leftMember : left ∈ table.rows) (rightMember : right ∈ table.rows)
    (same : key left = key right) : left = right :=
  List.inj_on_of_nodup_map table.keys leftMember rightMember same

theorem eq_of_uniq {table : Table key uniq} {left right : Row}
    (leftMember : left ∈ table.rows) (rightMember : right ∈ table.rows)
    (same : uniq left = uniq right) : left = right :=
  List.inj_on_of_nodup_map table.slots leftMember rightMember same

theorem key_ne_next {table : Table key uniq} {row : Row} (member : row ∈ table.rows) :
    key row ≠ table.next := Nat.ne_of_lt (table.below row member)

theorem findOne_eq_some {table : Table key uniq} {wanted : Row → Bool} {row : Row}
    (member : row ∈ table.rows) (hit : wanted row = true)
    (only : ∀ other ∈ table.rows, wanted other = true → other = row) :
    table.findOne wanted = some row := by
  cases found : table.findOne wanted with
  | none =>
      have missed := findOne_none.mp found row member
      rw [hit] at missed
      cases missed
  | some other =>
      obtain ⟨otherMember, otherHit⟩ := findOne_mem found
      rw [only other otherMember otherHit]

theorem findOne_key {table : Table key uniq} {row : Row} (member : row ∈ table.rows) :
    (table.findOne fun other => key other = key row) = some row := by
  apply findOne_eq_some member (by simp)
  intro other otherMember hit
  exact eq_of_key otherMember member (of_decide_eq_true hit)

/-! ## Changing rows in place -/

def update (table : Table key uniq) (wanted : Row → Bool) (patch : Patch key uniq) :
    Table key uniq where
  rows := table.rows.map fun row => if wanted row then patch.run row else row
  next := table.next
  below := by
    intro row member
    obtain ⟨old, oldMember, rfl⟩ := List.mem_map.mp member
    have bound := table.below old oldMember
    split
    · rw [patch.key_run]; exact bound
    · exact bound
  keys := by
    have same : (table.rows.map fun row => if wanted row then patch.run row else row).map key =
        table.rows.map key := by
      rw [List.map_map]
      apply List.map_congr_left
      intro row _
      simp only [Function.comp_apply]
      split
      · exact patch.key_run row
      · rfl
    rw [same]
    exact table.keys
  slots := by
    have same : (table.rows.map fun row => if wanted row then patch.run row else row).map uniq =
        table.rows.map uniq := by
      rw [List.map_map]
      apply List.map_congr_left
      intro row _
      simp only [Function.comp_apply]
      split
      · exact patch.uniq_run row
      · rfl
    rw [same]
    exact table.slots

theorem mem_update (table : Table key uniq) (wanted : Row → Bool) (patch : Patch key uniq)
    (row : Row) :
    row ∈ (table.update wanted patch).rows ↔
      ∃ old ∈ table.rows, row = if wanted old then patch.run old else old := by
  simp only [update, List.mem_map]
  constructor
  · rintro ⟨old, member, same⟩
    exact ⟨old, member, same.symm⟩
  · rintro ⟨old, member, same⟩
    exact ⟨old, member, same.symm⟩

theorem image_mem_update {table : Table key uniq} (wanted : Row → Bool)
    (patch : Patch key uniq) {old : Row} (member : old ∈ table.rows) :
    (if wanted old then patch.run old else old) ∈ (table.update wanted patch).rows :=
  (mem_update table wanted patch _).mpr ⟨old, member, rfl⟩

theorem survives_update {table : Table key uniq} (wanted : Row → Bool)
    (patch : Patch key uniq) {old : Row} (member : old ∈ table.rows) :
    ∃ later ∈ (table.update wanted patch).rows, key later = key old := by
  refine ⟨_, image_mem_update wanted patch member, ?_⟩
  split
  · exact patch.key_run old
  · rfl

theorem findOne_key_update (table : Table key uniq) (wanted : Row → Bool)
    (patch : Patch key uniq) (wantedKey : Nat) :
    (table.update wanted patch).findOne (fun row => key row = wantedKey) =
      (table.findOne fun row => key row = wantedKey).map
        fun row => if wanted row then patch.run row else row := by
  have sameKey : ∀ row, key (if wanted row then patch.run row else row) = key row := by
    intro row
    split
    · exact patch.key_run row
    · rfl
  simp only [findOne, update, List.find?_map, Function.comp_def, sameKey]

theorem ext_rows {left right : Table key uniq} (rows : left.rows = right.rows)
    (next : left.next = right.next) : left = right := by
  cases left
  cases right
  simp only at rows next
  subst rows
  subst next
  rfl

/-- Writes rows back as a caller holds them in memory, by primary key.  A held
row never names another unique value than the stored one: unique values are set
at insertion only. -/
def writeBack [DecidableEq Slot] (held : List Row) : Patch key uniq where
  run row :=
    match held.find? fun copy => key copy = key row with
    | some copy => if uniq copy = uniq row then copy else row
    | none => row
  key_run := by
    intro row
    cases found : held.find? fun copy => decide (key copy = key row) with
    | none => rfl
    | some copy =>
        have same : key copy = key row := by simpa using List.find?_some found
        simp only
        split
        · exact same
        · rfl
  uniq_run := by
    intro row
    cases held.find? fun copy => decide (key copy = key row) with
    | none => rfl
    | some copy =>
        simp only
        split
        · assumption
        · rfl

def saveAll [DecidableEq Slot] (table : Table key uniq) (held : List Row) : Table key uniq :=
  table.update (fun _ => true) (writeBack held)

theorem mem_saveAll [DecidableEq Slot] {table : Table key uniq} {held : List Row} {row : Row}
    (member : row ∈ (table.saveAll held).rows) : row ∈ table.rows ∨ row ∈ held := by
  obtain ⟨old, oldMember, rfl⟩ := (mem_update _ _ _ _).mp member
  simp only [if_true, writeBack]
  cases found : held.find? fun copy => decide (key copy = key old) with
  | none => exact Or.inl oldMember
  | some copy =>
      simp only
      split
      · exact Or.inr (List.mem_of_find?_eq_some found)
      · exact Or.inl oldMember

/-- Saving the rows that were read before an update undoes it, as far as the
update stayed inside the rows that were read. -/
theorem saveAll_update_find [DecidableEq Slot] (table : Table key uniq)
    (touched loaded : Row → Bool) (patch : Patch key uniq)
    (inside : ∀ row ∈ table.rows, touched row = true → loaded row = true) :
    (table.update touched patch).saveAll (table.find loaded) = table := by
  refine ext_rows ?_ rfl
  simp only [saveAll, update, List.map_map]
  conv_rhs => rw [← List.map_id table.rows]
  apply List.map_congr_left
  intro row member
  have keySame : key (if touched row then patch.run row else row) = key row := by
    split
    · exact patch.key_run row
    · rfl
  have uniqSame : uniq (if touched row then patch.run row else row) = uniq row := by
    split
    · exact patch.uniq_run row
    · rfl
  simp only [Function.comp_apply, if_true, writeBack, keySame, uniqSame, id_eq]
  cases found : (table.find loaded).find? fun copy => decide (key copy = key row) with
  | none =>
      have notLoaded : loaded row = false := by
        cases hit : loaded row with
        | false => rfl
        | true =>
            have missed := List.find?_eq_none.mp found row ((mem_find _ _ _).mpr ⟨member, hit⟩)
            simp at missed
      have notTouched : touched row = false := by
        cases hit : touched row with
        | false => rfl
        | true => rw [inside row member hit] at notLoaded; cases notLoaded
      simp [notTouched]
  | some copy =>
      have copyMember := ((mem_find _ _ _).mp (List.mem_of_find?_eq_some found)).1
      have same : key copy = key row := by simpa using List.find?_some found
      have copyEq : copy = row := eq_of_key copyMember member same
      simp [copyEq]

theorem saveAll_find [DecidableEq Slot] (table : Table key uniq) (loaded : Row → Bool) :
    table.saveAll (table.find loaded) = table := by
  have untouched : table.update (fun _ => false) { run := fun row => row } = table := by
    refine ext_rows ?_ rfl
    simp [update]
  have undone := saveAll_update_find table (fun _ => false) loaded { run := fun row => row }
    (by simp)
  rwa [untouched] at undone

/-- A row that is saved and changed by its key is saved as it was changed. -/
theorem update_saveAll_key [DecidableEq Slot] (table : Table key uniq) {new : Row}
    (patch : Patch key uniq)
    (sameSlot : ∀ row ∈ table.rows, key new = key row → uniq new = uniq row) :
    (table.saveAll [new]).update (fun row => key row = key new) patch =
      table.saveAll [patch.run new] := by
  refine ext_rows ?_ rfl
  simp only [saveAll, update, List.map_map]
  apply List.map_congr_left
  intro row member
  simp only [Function.comp_apply, if_true, writeBack, List.find?_cons, List.find?_nil,
    patch.key_run]
  by_cases here : key new = key row
  · have slot : uniq new = uniq row := sameSlot row member here
    have later : uniq (patch.run new) = uniq row := (patch.uniq_run new).trans slot
    simp [here, slot, later]
  · simp [here, Ne.symm here]

/-- Only the stored rows matter to an update. -/
theorem update_congr {table : Table key uniq} {left right : Row → Bool} {patch : Patch key uniq}
    (same : ∀ row ∈ table.rows, left row = right row) :
    table.update left patch = table.update right patch := by
  refine ext_rows ?_ rfl
  apply List.map_congr_left
  intro row member
  rw [same row member]

/-- Only what a change does to the rows it applies to matters. -/
theorem update_patch_congr {table : Table key uniq} {wanted : Row → Bool}
    {left right : Patch key uniq}
    (same : ∀ row ∈ table.rows, wanted row = true → left.run row = right.run row) :
    table.update wanted left = table.update wanted right := by
  refine ext_rows ?_ rfl
  apply List.map_congr_left
  intro row member
  split
  · exact same row member ‹_›
  · rfl

theorem update_eq_self_iff {table : Table key uniq} {wanted : Row → Bool}
    {patch : Patch key uniq} :
    table.update wanted patch = table ↔
      ∀ row ∈ table.rows, wanted row = true → patch.run row = row := by
  have rows : table.update wanted patch = table ↔
      (table.rows.map fun row => if wanted row then patch.run row else row) =
        table.rows.map id := by
    rw [List.map_id]
    exact ⟨congrArg Table.rows, fun same => ext_rows same rfl⟩
  rw [rows, List.map_inj_left]
  apply forall₂_congr
  intro row _
  cases wanted row <;> simp

theorem update_eq_self {table : Table key uniq} {wanted : Row → Bool} {patch : Patch key uniq}
    (same : ∀ row ∈ table.rows, wanted row = true → patch.run row = row) :
    table.update wanted patch = table := update_eq_self_iff.mpr same

theorem update_none (table : Table key uniq) (patch : Patch key uniq) :
    table.update (fun _ => false) patch = table := by
  apply update_eq_self
  intro row _ never
  cases never

/-- Two updates with a change that applied twice is applied once are one, when the
change does not decide which rows the second one applies to. -/
theorem update_update (patch : Patch key uniq)
    (idempotent : ∀ row, patch.run (patch.run row) = patch.run row) {first second : Row → Bool}
    (stable : ∀ row, second (patch.run row) = second row) (table : Table key uniq) :
    (table.update first patch).update second patch =
      table.update (fun row => first row || second row) patch := by
  refine ext_rows ?_ rfl
  simp only [update, List.map_map]
  apply List.map_congr_left
  intro row _
  simp only [Function.comp_apply]
  by_cases hit : first row = true
  · simp [hit, stable, idempotent]
  · simp [hit]

/-- Updating rows one by one, by primary key, is one update. -/
theorem foldl_update_key (patch : Patch key uniq)
    (idempotent : ∀ row, patch.run (patch.run row) = patch.run row) (keys : List Nat)
    (table : Table key uniq) :
    keys.foldl (fun current id => current.update (fun row => key row = id) patch) table =
      table.update (fun row => key row ∈ keys) patch := by
  induction keys generalizing table with
  | nil => simpa using (update_none table patch).symm
  | cons id rest ih =>
      rw [List.foldl_cons, ih, update_update patch idempotent fun row => by rw [patch.key_run]]
      apply update_congr
      intro row _
      simp [Bool.decide_or]

/-- Reading rows and updating them one by one updates what was read. -/
theorem foldl_update_find (patch : Patch key uniq)
    (idempotent : ∀ row, patch.run (patch.run row) = patch.run row)
    (table : Table key uniq) (wanted : Row → Bool) :
    (table.find wanted).foldl
        (fun current copy => current.update (fun row => key row = key copy) patch) table =
      table.update wanted patch := by
  have byKey := foldl_update_key patch idempotent ((table.find wanted).map key) table
  rw [List.foldl_map] at byKey
  rw [byKey]
  apply update_congr
  intro row member
  cases hit : wanted row with
  | true =>
      have listed : key row ∈ (table.find wanted).map key :=
        List.mem_map_of_mem ((mem_find _ _ _).mpr ⟨member, hit⟩)
      exact decide_eq_true listed
  | false =>
      apply decide_eq_false
      intro listed
      obtain ⟨other, otherFound, same⟩ := List.mem_map.mp listed
      obtain ⟨otherMember, otherHit⟩ := (mem_find _ _ _).mp otherFound
      rw [eq_of_key otherMember member same, hit] at otherHit
      cases otherHit

/-! ## Counting -/

theorem count_congr {table : Table key uniq} {left right : Row → Bool}
    (same : ∀ row ∈ table.rows, left row = right row) : table.count left = table.count right := by
  unfold count find
  rw [List.filter_congr same]

theorem count_update (table : Table key uniq) (wanted counted : Row → Bool)
    (patch : Patch key uniq) :
    (table.update wanted patch).count counted =
      table.count fun row => counted (if wanted row then patch.run row else row) := by
  simp only [count, find, update, List.filter_map, List.length_map]
  rfl

theorem count_pos {table : Table key uniq} {counted : Row → Bool} {row : Row}
    (member : row ∈ table.rows) (hit : counted row = true) : 1 ≤ table.count counted := by
  by_contra zero
  have missed := count_eq_zero.mp (by omega : table.count counted = 0) row member
  rw [hit] at missed
  cases missed

theorem exists_other_of_one_lt_count {table : Table key uniq} {counted : Row → Bool}
    (several : 1 < table.count counted) (row : Row) :
    ∃ other ∈ table.rows, counted other = true ∧ other ≠ row := by
  by_contra alone
  have only : table.find counted ⊆ [row] := by
    intro other found
    obtain ⟨member, hit⟩ := (mem_find _ _ _).mp found
    rw [List.mem_singleton]
    by_contra different
    exact alone ⟨other, member, hit, different⟩
  have distinct : (table.find counted).Nodup := (List.Nodup.of_map key table.keys).filter _
  exact absurd (distinct.subperm only).length_le (Nat.not_le.mpr several)

/-! ## One row at a time -/

/-- `after` is `table` with the stored row `old` replaced by `new`. -/
structure Replaced (table : Table key uniq) (old new : Row) (after : Table key uniq) : Prop where
  stored : old ∈ table.rows
  sameKey : key new = key old
  mem : ∀ row, row ∈ after.rows ↔ row = new ∨ (row ∈ table.rows ∧ row ≠ old)

/-- `after` is `table` with one row more, under the next number. -/
structure Added (table : Table key uniq) (new : Row) (after : Table key uniq) : Prop where
  fresh : key new = table.next
  mem : ∀ row, row ∈ after.rows ↔ row ∈ table.rows ∨ row = new

theorem replaced_update {table : Table key uniq} {wanted : Row → Bool}
    {patch : Patch key uniq} {old : Row} (stored : old ∈ table.rows) (hit : wanted old = true)
    (only : ∀ other ∈ table.rows, wanted other = true → other = old) :
    table.Replaced old (patch.run old) (table.update wanted patch) := by
  refine ⟨stored, patch.key_run old, ?_⟩
  intro row
  rw [mem_update]
  constructor
  · rintro ⟨source, member, rfl⟩
    by_cases here : source = old
    · subst here
      left
      rw [if_pos hit]
    · have missed : wanted source ≠ true := fun hit => here (only source member hit)
      rw [if_neg missed]
      exact Or.inr ⟨member, here⟩
  · rintro (rfl | ⟨member, other⟩)
    · exact ⟨old, stored, by rw [if_pos hit]⟩
    · have missed : wanted row ≠ true := fun hit => other (only row member hit)
      exact ⟨row, member, by rw [if_neg missed]⟩

theorem replaced_update_key {table : Table key uniq} (patch : Patch key uniq) {old : Row}
    (stored : old ∈ table.rows) :
    table.Replaced old (patch.run old) (table.update (fun row => key row = key old) patch) := by
  apply replaced_update stored (decide_eq_true rfl)
  intro other otherMember hit
  exact eq_of_key otherMember stored (of_decide_eq_true hit)

theorem replaced_save [DecidableEq Slot] {table : Table key uniq} {old : Row} (new : Row)
    (stored : old ∈ table.rows) (sameKey : key new = key old) (sameSlot : uniq new = uniq old) :
    table.Replaced old new (table.saveAll [new]) := by
  have atOld : (writeBack [new] : Patch key uniq).run old = new := by
    simp [writeBack, sameKey, sameSlot]
  have elsewhere : ∀ row ∈ table.rows, row ≠ old →
      (writeBack [new] : Patch key uniq).run row = row := by
    intro row member other
    have otherKey : key new ≠ key row := by
      intro same
      exact other (eq_of_key member stored (same.symm.trans sameKey))
    simp [writeBack, otherKey]
  refine ⟨stored, sameKey, ?_⟩
  intro row
  rw [saveAll, mem_update]
  constructor
  · rintro ⟨source, member, rfl⟩
    rw [if_pos rfl]
    by_cases here : source = old
    · subst here
      exact Or.inl atOld
    · rw [elsewhere source member here]
      exact Or.inr ⟨member, here⟩
  · rintro (rfl | ⟨member, other⟩)
    · exact ⟨old, stored, by rw [if_pos rfl, atOld]⟩
    · exact ⟨row, member, by rw [if_pos rfl, elsewhere row member other]⟩

namespace Replaced

variable {table after : Table key uniq} {old new : Row}

theorem new_mem (replaced : table.Replaced old new after) : new ∈ after.rows :=
  (replaced.mem new).mpr (Or.inl rfl)

theorem kept (replaced : table.Replaced old new after) {row : Row} (member : row ∈ table.rows)
    (other : row ≠ old) : row ∈ after.rows :=
  (replaced.mem row).mpr (Or.inr ⟨member, other⟩)

theorem survives (replaced : table.Replaced old new after) {row : Row}
    (member : row ∈ table.rows) : ∃ later ∈ after.rows, key later = key row := by
  by_cases here : key row = key old
  · exact ⟨new, replaced.new_mem, by rw [replaced.sameKey, here]⟩
  · exact ⟨row, replaced.kept member (fun same => here (by rw [same])), rfl⟩

theorem eq_new (replaced : table.Replaced old new after) {row : Row} (member : row ∈ after.rows)
    (same : key row = key old) : row = new := by
  rcases (replaced.mem row).mp member with here | ⟨before, other⟩
  · exact here
  · exact absurd (eq_of_key before replaced.stored same) other

theorem later_of (replaced : table.Replaced old new after) {row later : Row}
    (member : row ∈ table.rows) (kept : later ∈ after.rows) (same : key later = key row) :
    (row = old ∧ later = new) ∨ later = row := by
  rcases (replaced.mem later).mp kept with rfl | ⟨before, _⟩
  · exact Or.inl ⟨eq_of_key member replaced.stored (same.symm.trans replaced.sameKey), rfl⟩
  · exact Or.inr (eq_of_key before member same)

end Replaced

/-! ## Inserting and deleting -/

/-- Inserts the row built from a fresh number, unless its unique value is taken. -/
def insert [DecidableEq Slot] (table : Table key uniq) (build : Nat → Row)
    (built : ∀ n, key (build n) = n := by intro _; rfl) : Option (Table key uniq) :=
  if free : ∀ row ∈ table.rows, uniq row ≠ uniq (build table.next) then
    some
      { rows := table.rows ++ [build table.next]
        next := table.next + 1
        below := by
          intro row member
          rcases List.mem_append.mp member with old | new
          · exact Nat.lt_succ_of_lt (table.below row old)
          · rw [List.mem_singleton.mp new, built]
            exact Nat.lt_succ_self _
        keys := by
          rw [List.map_append, List.nodup_append]
          refine ⟨table.keys, by simp, ?_⟩
          intro left leftMember right rightMember same
          obtain ⟨row, rowMember, rowKey⟩ := List.mem_map.mp leftMember
          simp only [List.map_cons, List.map_nil, List.mem_singleton] at rightMember
          apply key_ne_next rowMember
          rw [rowKey, same, rightMember, built]
        slots := by
          rw [List.map_append, List.nodup_append]
          refine ⟨table.slots, by simp, ?_⟩
          intro left leftMember right rightMember same
          obtain ⟨row, rowMember, rowSlot⟩ := List.mem_map.mp leftMember
          simp only [List.map_cons, List.map_nil, List.mem_singleton] at rightMember
          exact free row rowMember (by rw [rowSlot, same, rightMember]) }
  else none

theorem insert_rows [DecidableEq Slot] {table next : Table key uniq} {build : Nat → Row}
    {built : ∀ n, key (build n) = n} (success : table.insert build built = some next) :
    next.rows = table.rows ++ [build table.next] := by
  unfold insert at success
  split at success
  · cases success; rfl
  · cases success

theorem insert_next [DecidableEq Slot] {table next : Table key uniq} {build : Nat → Row}
    {built : ∀ n, key (build n) = n} (success : table.insert build built = some next) :
    next.next = table.next + 1 := by
  unfold insert at success
  split at success
  · cases success; rfl
  · cases success

theorem added_insert [DecidableEq Slot] {table next : Table key uniq} {build : Nat → Row}
    {built : ∀ n, key (build n) = n} (success : table.insert build built = some next) :
    table.Added (build table.next) next := by
  refine ⟨built _, ?_⟩
  intro row
  simp [insert_rows success]

theorem count_insert [DecidableEq Slot] {table next : Table key uniq} {build : Nat → Row}
    {built : ∀ n, key (build n) = n} (success : table.insert build built = some next)
    (counted : Row → Bool) :
    next.count counted = table.count counted + if counted (build table.next) then 1 else 0 := by
  simp only [count, find, insert_rows success, List.filter_append, List.length_append]
  by_cases hit : counted (build table.next) = true
  · simp [hit]
  · simp [hit]

theorem insert_free [DecidableEq Slot] {table next : Table key uniq} {build : Nat → Row}
    {built : ∀ n, key (build n) = n} (success : table.insert build built = some next) :
    ∀ row ∈ table.rows, uniq row ≠ uniq (build table.next) := by
  unfold insert at success
  split at success
  · assumption
  · cases success

theorem insert_isSome [DecidableEq Slot] {table : Table key uniq} {build : Nat → Row}
    (built : ∀ n, key (build n) = n)
    (free : ∀ row ∈ table.rows, uniq row ≠ uniq (build table.next)) :
    ∃ next, table.insert build built = some next := by
  unfold insert
  rw [dif_pos free]
  exact ⟨_, rfl⟩

/-- Inserting where the primary key is the only unique value cannot fail. -/
def append {key : Row → Nat} (table : Table key key) (build : Nat → Row)
    (built : ∀ n, key (build n) = n := by intro _; rfl) : Table key key :=
  (table.insert build built).getD table

@[simp] theorem append_rows {key : Row → Nat} (table : Table key key) (build : Nat → Row)
    (built : ∀ n, key (build n) = n) :
    (table.append build built).rows = table.rows ++ [build table.next] := by
  have free : ∀ row ∈ table.rows, key row ≠ key (build table.next) := by
    intro row member
    rw [built]
    exact key_ne_next member
  obtain ⟨next, success⟩ := insert_isSome built free
  simp only [append, success, Option.getD_some]
  exact insert_rows success

theorem added_append {key : Row → Nat} (table : Table key key) (build : Nat → Row)
    (built : ∀ n, key (build n) = n) :
    table.Added (build table.next) (table.append build built) := by
  refine ⟨built _, ?_⟩
  intro row
  simp

def delete (table : Table key uniq) (wanted : Row → Bool) : Table key uniq where
  rows := table.rows.filter fun row => !wanted row
  next := table.next
  below := by
    intro row member
    exact table.below row (List.mem_of_mem_filter member)
  keys := (List.filter_sublist.map key).nodup table.keys
  slots := (List.filter_sublist.map uniq).nodup table.slots

@[simp] theorem mem_delete (table : Table key uniq) (wanted : Row → Bool) (row : Row) :
    row ∈ (table.delete wanted).rows ↔ row ∈ table.rows ∧ wanted row = false := by
  simp [delete]

theorem count_delete (table : Table key uniq) (wanted counted : Row → Bool) :
    (table.delete wanted).count counted =
      table.count fun row => counted row && !wanted row := by
  simp only [count, find, delete, List.filter_filter]

theorem Added.replaced {table mid after : Table key uniq} {new newer : Row}
    (added : table.Added new mid) (replaced : mid.Replaced new newer after) :
    table.Added newer after := by
  refine ⟨replaced.sameKey.trans added.fresh, ?_⟩
  intro row
  rw [replaced.mem, added.mem]
  constructor
  · rintro (rfl | ⟨stored | rfl, other⟩)
    · exact Or.inr rfl
    · exact Or.inl stored
    · exact absurd rfl other
  · rintro (stored | rfl)
    · refine Or.inr ⟨Or.inl stored, ?_⟩
      rintro rfl
      exact key_ne_next stored added.fresh
    · exact Or.inl rfl

/-- `after` is `table` without the rows that are `gone`, and with the row `saved` under its
key, new or in the place of the stored one. -/
structure Changed (table : Table key uniq) (gone : Row → Bool) (saved : Option Row)
    (after : Table key uniq) : Prop where
  mem : ∀ row, row ∈ after.rows ↔
    saved = some row ∨
      row ∈ table.rows ∧ gone row = false ∧ ∀ new, saved = some new → key new ≠ key row

theorem changed_self (table : Table key uniq) : table.Changed (fun _ => false) none table where
  mem := by simp

theorem Added.changed {table after : Table key uniq} {new : Row}
    (added : table.Added new after) : table.Changed (fun _ => false) (some new) after where
  mem := by
    intro row
    rw [added.mem]
    constructor
    · rintro (stored | rfl)
      · refine Or.inr ⟨stored, rfl, ?_⟩
        rintro _ ⟨⟩ same
        exact key_ne_next stored (same.symm.trans added.fresh)
      · exact Or.inl rfl
    · rintro (⟨⟨⟩⟩ | ⟨stored, _, _⟩)
      · exact Or.inr rfl
      · exact Or.inl stored

theorem Replaced.changed {table after : Table key uniq} {old new : Row}
    (replaced : table.Replaced old new after) :
    table.Changed (fun _ => false) (some new) after where
  mem := by
    intro row
    rw [replaced.mem]
    constructor
    · rintro (rfl | ⟨stored, other⟩)
      · exact Or.inl rfl
      · refine Or.inr ⟨stored, rfl, ?_⟩
        rintro _ ⟨⟩ same
        exact other (eq_of_key stored replaced.stored (same.symm.trans replaced.sameKey))
    · rintro (⟨⟨⟩⟩ | ⟨stored, _, other⟩)
      · exact Or.inl rfl
      · refine Or.inr ⟨stored, ?_⟩
        rintro rfl
        exact other new rfl replaced.sameKey

theorem changed_delete (table : Table key uniq) (gone : Row → Bool) :
    table.Changed gone none (table.delete gone) where
  mem := by simp

theorem Changed.congr {table after : Table key uniq} {left right : Row → Bool}
    {saved : Option Row} (changed : table.Changed left saved after)
    (same : ∀ row ∈ table.rows, left row = right row) : table.Changed right saved after where
  mem := by
    intro row
    rw [changed.mem]
    constructor
    · rintro (new | ⟨stored, kept, other⟩)
      · exact Or.inl new
      · exact Or.inr ⟨stored, same row stored ▸ kept, other⟩
    · rintro (new | ⟨stored, kept, other⟩)
      · exact Or.inl new
      · exact Or.inr ⟨stored, (same row stored).trans kept, other⟩

end Table

end Relational
