import VolunteerApi.Relational.Table

/-!
# How a table evolves

`before.Evolves becomes after` says that no row is lost: each one is still stored under its
number, as a row it may become; `Moves` adds where the rows come from that are stored afterwards.
`Knows` is what a program may rely on that holds a copy of a
row: the row is stored, and agrees with the copy on the columns that never change.  `Within`
says which of the other columns a row may change in.
-/

set_option autoImplicit false

namespace Relational

universe u v w

variable {Row : Type u} {Slot : Type v} {Core : Type w}

namespace Table

variable {key : Row → Nat} {uniq : Row → Slot}

def Evolves (becomes : Row → Row → Prop) (before after : Table key uniq) : Prop :=
  ∀ old ∈ before.rows, ∃ new ∈ after.rows, key new = key old ∧ becomes old new

variable {becomes : Row → Row → Prop} {before mid after : Table key uniq}

theorem Evolves.refl (same : ∀ row, becomes row row) (table : Table key uniq) :
    table.Evolves becomes table := by
  intro row stored
  exact ⟨row, stored, rfl, same row⟩

theorem Evolves.trans (further : ∀ {a b c}, becomes a b → becomes b c → becomes a c)
    (first : before.Evolves becomes mid) (second : mid.Evolves becomes after) :
    before.Evolves becomes after := by
  intro old stored
  obtain ⟨row, rowStored, rowKey, became⟩ := first old stored
  obtain ⟨new, newStored, newKey, becameNew⟩ := second row rowStored
  exact ⟨new, newStored, newKey.trans rowKey, further became becameNew⟩

/-- The row that carries the number afterwards is what the old one has become. -/
theorem Evolves.later_of (evolves : before.Evolves becomes after) {old new : Row}
    (stored : old ∈ before.rows) (later : new ∈ after.rows) (same : key new = key old) :
    becomes old new := by
  obtain ⟨row, rowStored, rowKey, became⟩ := evolves old stored
  rw [eq_of_key later rowStored (same.trans rowKey.symm)]
  exact became

theorem evolves_update (same : ∀ row, becomes row row) (table : Table key uniq)
    (wanted : Row → Bool) (patch : Patch key uniq) (patched : ∀ row, becomes row (patch.run row)) :
    table.Evolves becomes (table.update wanted patch) := by
  intro old stored
  refine ⟨_, image_mem_update wanted patch stored, ?_, ?_⟩
  · split
    · exact patch.key_run old
    · rfl
  · split
    · exact patched old
    · exact same old

theorem Added.evolves (same : ∀ row, becomes row row) {new : Row}
    (added : before.Added new after) : before.Evolves becomes after := by
  intro old stored
  exact ⟨old, (added.mem old).mpr (Or.inl stored), rfl, same old⟩

/-! ## Rows that are born -/

/-- No row is lost, and each one comes from a row that was there or from one that was born. -/
structure Moves (becomes : Row → Row → Prop) (born : Row → Prop) (before after : Table key uniq) :
    Prop where
  evolves : before.Evolves becomes after
  stems : ∀ new ∈ after.rows,
    (∃ old ∈ before.rows, becomes old new) ∨ ∃ first, born first ∧ becomes first new

section Moves

variable {born : Row → Prop}

theorem Moves.refl (same : ∀ row, becomes row row) (table : Table key uniq) :
    table.Moves becomes born table :=
  ⟨Evolves.refl same table, fun row stored => Or.inl ⟨row, stored, same row⟩⟩

theorem Moves.trans (further : ∀ {a b c}, becomes a b → becomes b c → becomes a c)
    (first : before.Moves becomes born mid) (second : mid.Moves becomes born after) :
    before.Moves becomes born after where
  evolves := first.evolves.trans further second.evolves
  stems := by
    intro new stored
    rcases second.stems new stored with ⟨row, rowStored, became⟩ | ⟨row, isBorn, became⟩
    · rcases first.stems row rowStored with ⟨old, oldStored, before⟩ | ⟨root, isBorn, before⟩
      · exact Or.inl ⟨old, oldStored, further before became⟩
      · exact Or.inr ⟨root, isBorn, further before became⟩
    · exact Or.inr ⟨row, isBorn, became⟩

theorem Moves.mono {more : Row → Row → Prop} {wider : Row → Prop}
    (moves : before.Moves becomes born after) (implied : ∀ old new, becomes old new → more old new)
    (births : ∀ row, born row → wider row) : before.Moves more wider after where
  evolves := by
    intro old stored
    obtain ⟨new, newStored, sameKey, became⟩ := moves.evolves old stored
    exact ⟨new, newStored, sameKey, implied _ _ became⟩
  stems := by
    intro new stored
    rcases moves.stems new stored with ⟨old, oldStored, became⟩ | ⟨first, isBorn, became⟩
    · exact Or.inl ⟨old, oldStored, implied _ _ became⟩
    · exact Or.inr ⟨first, births _ isBorn, implied _ _ became⟩

theorem Added.moves (same : ∀ row, becomes row row) {new : Row} (added : before.Added new after)
    (isBorn : born new) : before.Moves becomes born after where
  evolves := added.evolves same
  stems := by
    intro row stored
    rcases (added.mem row).mp stored with before | rfl
    · exact Or.inl ⟨row, before, same row⟩
    · exact Or.inr ⟨row, isBorn, same row⟩

end Moves

/-! ## Copies in memory -/

variable {core : Row → Core}

def Knows (core : Row → Core) (table : Table key uniq) (row : Row) : Prop :=
  ∃ stored ∈ table.rows, key stored = key row ∧ core stored = core row

theorem knows_of_mem {row : Row} (stored : row ∈ before.rows) : before.Knows core row :=
  ⟨row, stored, rfl, rfl⟩

/-- A changed copy that keeps the number and the fixed columns. -/
theorem Knows.of_copy {row copy : Row} (knows : before.Knows core row) (sameKey : key copy = key row)
    (sameCore : core copy = core row) : before.Knows core copy := by
  obtain ⟨stored, member, storedKey, storedCore⟩ := knows
  exact ⟨stored, member, storedKey.trans sameKey.symm, storedCore.trans sameCore.symm⟩

theorem Knows.evolves {row : Row} (knows : before.Knows core row)
    (evolves : before.Evolves (fun old new => core new = core old) after) :
    after.Knows core row := by
  obtain ⟨stored, member, storedKey, storedCore⟩ := knows
  obtain ⟨new, newMember, newKey, newCore⟩ := evolves stored member
  exact ⟨new, newMember, newKey.trans storedKey, newCore.trans storedCore⟩

theorem evolves_saveAll [DecidableEq Slot] {held : List Row}
    (known : ∀ row ∈ held, before.Knows core row) :
    before.Evolves (fun old new => core new = core old) (before.saveAll held) := by
  intro old stored
  refine ⟨_, image_mem_update (fun _ => true) (writeBack held) stored, ?_, ?_⟩
  · rw [if_pos rfl]
    exact (writeBack held).key_run old
  · rw [if_pos rfl]
    simp only [writeBack]
    cases found : held.find? fun copy => decide (key copy = key old) with
    | none => rfl
    | some copy =>
        have sameKey : key copy = key old := by simpa using List.find?_some found
        obtain ⟨current, member, currentKey, currentCore⟩ :=
          known copy (List.mem_of_find?_eq_some found)
        simp only
        split
        · rw [← currentCore, eq_of_key member stored (currentKey.trans sameKey)]
        · rfl

/-- Copies of rows as they are stored change nothing. -/
theorem saveAll_of_mem [DecidableEq Slot] {table : Table key uniq} {held : List Row}
    (stored : ∀ row ∈ held, row ∈ table.rows) : table.saveAll held = table := by
  refine ext_rows ?_ rfl
  simp only [saveAll, update, if_true]
  conv_rhs => rw [← List.map_id table.rows]
  refine List.map_congr_left fun row member => ?_
  simp only [writeBack, id_eq]
  cases found : held.find? fun copy => decide (key copy = key row) with
  | none => rfl
  | some copy =>
      have same : key copy = key row := by simpa using List.find?_some found
      simp [eq_of_key (stored copy (List.mem_of_find?_eq_some found)) member same]

/-! ## What a query lists

A query lists the same rows after a statement that works on rows it lists neither before nor
afterwards. -/

theorem filter_map_outside {listed : Row → Bool} {change : Row → Row} {rows : List Row}
    (outside : ∀ row ∈ rows, change row = row ∨ listed row = false ∧ listed (change row) = false) :
    (rows.map change).filter listed = rows.filter listed := by
  induction rows with
  | nil => rfl
  | cons row rest ih =>
      have later := ih fun other member => outside other (List.mem_cons_of_mem row member)
      rw [List.map_cons, List.filter_cons, List.filter_cons, later]
      rcases outside row List.mem_cons_self with same | ⟨before, after⟩
      · rw [same]
      · simp [before, after]

variable {table : Table key uniq} {listed : Row → Bool}

theorem find_update_outside {wanted : Row → Bool} {patch : Patch key uniq}
    (outside : ∀ row ∈ table.rows, wanted row = true →
      listed row = false ∧ listed (patch.run row) = false) :
    (table.update wanted patch).find listed = table.find listed := by
  refine filter_map_outside fun row stored => ?_
  by_cases hit : wanted row = true
  · rw [if_pos hit]
    exact Or.inr (outside row stored hit)
  · rw [if_neg hit]
    exact Or.inl rfl

theorem find_saveAll_outside [DecidableEq Slot] {held : List Row}
    (outside : ∀ copy ∈ held, listed copy = false ∧ ∀ row ∈ table.rows, key copy = key row →
      uniq copy = uniq row → listed row = false) :
    (table.saveAll held).find listed = table.find listed := by
  refine filter_map_outside fun row stored => ?_
  simp only [if_true, writeBack]
  cases found : held.find? fun copy => decide (key copy = key row) with
  | none => exact Or.inl rfl
  | some copy =>
      simp only
      split
      case isTrue sameSlot =>
        have sameKey : key copy = key row := by simpa using List.find?_some found
        obtain ⟨unlisted, others⟩ := outside copy (List.mem_of_find?_eq_some found)
        exact Or.inr ⟨others row stored sameKey sameSlot, unlisted⟩
      case isFalse => exact Or.inl rfl

theorem find_insert_outside [DecidableEq Slot] {build : Nat → Row}
    {built : ∀ n, key (build n) = n} (success : table.insert build built = some after)
    (outside : listed (build table.next) = false) : after.find listed = table.find listed := by
  simp [find, insert_rows success, outside]

theorem find_append_outside {key : Row → Nat} {table : Table key key} {build : Nat → Row}
    {built : ∀ n, key (build n) = n} (outside : listed (build table.next) = false) :
    (table.append build built).find listed = table.find listed := by
  simp [find, outside]

theorem find_delete_outside {gone : Row → Bool}
    (outside : ∀ row ∈ table.rows, gone row = true → listed row = false) :
    (table.delete gone).find listed = table.find listed := by
  rw [find, find, delete, List.filter_filter]
  refine List.filter_congr fun row stored => ?_
  cases hit : gone row with
  | false => simp
  | true => simp [outside row stored hit]

end Table

/-! ## Columns -/

section Columns

variable {Column : Type u} {Value : Column → Type v} {core : Row → Core}
  {get : Row → ∀ column, Value column} {written : Core → Column → Prop}

/-- The row keeps its fixed columns, and has changed at most in columns that may be written in a
row with these. -/
structure Within (core : Row → Core) (get : Row → ∀ column, Value column)
    (written : Core → Column → Prop) (old new : Row) : Prop where
  fixed : core new = core old
  same : ∀ column, ¬ written (core old) column → get new column = get old column

namespace Within

theorem refl (row : Row) : Within core get written row row := ⟨rfl, fun _ _ => rfl⟩

theorem trans {a b c : Row} (first : Within core get written a b)
    (second : Within core get written b c) : Within core get written a c where
  fixed := second.fixed.trans first.fixed
  same := by
    intro column outside
    rw [second.same column (first.fixed ▸ outside), first.same column outside]

theorem mono {more : Core → Column → Prop} {old new : Row} (within : Within core get written old new)
    (implied : ∀ fixed column, written fixed column → more fixed column) :
    Within core get more old new :=
  ⟨within.fixed, fun column outside =>
    within.same column fun inside => outside (implied _ _ inside)⟩

end Within

def Patch.Touches {key : Row → Nat} {uniq : Row → Slot} (get : Row → ∀ column, Value column)
    (columns : List Column) (patch : Patch key uniq) : Prop :=
  ∀ row, ∀ column ∉ columns, get (patch.run row) column = get row column

theorem Table.moves_update_within {key : Row → Nat} {uniq : Row → Slot}
    {columns : List Column} {patch : Patch key uniq} {written : Nat × Slot → Column → Prop} {born : Row → Prop} (table : Table key uniq)
    (wanted : Row → Bool)
    (touches : patch.Touches get columns)
    (allowed : ∀ row ∈ table.rows, wanted row = true →
      ∀ column ∈ columns, written (key row, uniq row) column) :
    table.Moves (Within (fun row => (key row, uniq row)) get written) born
      (table.update wanted patch) := by
  have becomes (old : Row) (stored : old ∈ table.rows) :
      Within (fun row => (key row, uniq row)) get written old
        (if wanted old then patch.run old else old) := by
    split
    case isTrue hit =>
      refine ⟨Prod.ext (patch.key_run old) (patch.uniq_run old), ?_⟩
      intro column outside
      exact touches old column fun inside => outside (allowed old stored hit column inside)
    case isFalse missed => exact Within.refl old
  constructor
  · intro old stored
    have within := becomes old stored
    exact ⟨_, image_mem_update wanted patch stored, congrArg Prod.fst within.fixed, within⟩
  · intro new stored
    obtain ⟨old, oldStored, rfl⟩ := (mem_update table wanted patch new).mp stored
    exact Or.inl ⟨old, oldStored, becomes old oldStored⟩

end Columns

end Relational
