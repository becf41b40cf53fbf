import VolunteerApi.Relational.Listing

/-!
# Joins, groups and aggregates

The rows that `JOIN`, `LEFT JOIN` and `GROUP BY` build, and what the aggregates make of a group.
A row of a left join carries one partner, or none if there is none to carry; so every left row
stays, and a chain of left joins multiplies rows without losing any.
-/

set_option autoImplicit false

namespace Relational

universe u v w

variable {Left : Type u} {Right : Type v}

/-! ## Joins -/

def innerJoin (left : List Left) (right : List Right) (on : Left → Right → Bool) :
    List (Left × Right) :=
  left.flatMap fun row => (right.filter (on row)).map fun partner => (row, partner)

/-- The partners of a left row, or a single `NULL`. -/
def partners (right : List Right) (on : Right → Bool) : List (Option Right) :=
  if right.filter on = [] then [none] else (right.filter on).map some

def leftJoin (left : List Left) (right : List Right) (on : Left → Right → Bool) :
    List (Left × Option Right) :=
  left.flatMap fun row => (partners right (on row)).map fun partner => (row, partner)

theorem mem_innerJoin {left : List Left} {right : List Right} {on : Left → Right → Bool}
    {row : Left} {partner : Right} :
    (row, partner) ∈ innerJoin left right on ↔
      row ∈ left ∧ partner ∈ right ∧ on row partner = true := by
  simp [innerJoin]

theorem mem_leftJoin {left : List Left} {right : List Right} {on : Left → Right → Bool}
    {row : Left} {partner : Option Right} :
    (row, partner) ∈ leftJoin left right on ↔
      row ∈ left ∧ partner ∈ partners right (on row) := by
  simp [leftJoin]

theorem some_mem_partners {right : List Right} {on : Right → Bool} {partner : Right} :
    some partner ∈ partners right on ↔ partner ∈ right ∧ on partner = true := by
  unfold partners
  split
  · next none_ =>
    have out := List.filter_eq_nil_iff.mp none_ partner
    simpa using fun member => Bool.eq_false_iff.mpr (out member)
  · simp

theorem exists_partner (right : List Right) (on : Right → Bool) :
    ∃ partner, partner ∈ partners right on := by
  unfold partners
  split
  · exact ⟨none, List.mem_singleton_self none⟩
  · next some_ =>
    obtain ⟨partner, member⟩ := List.exists_mem_of_ne_nil _ some_
    exact ⟨some partner, List.mem_map_of_mem member⟩

/-! ## Distinct values -/

theorem nodup_eraseDups {α : Type u} [DecidableEq α] :
    ∀ list : List α, list.eraseDups.Nodup
  | [] => List.nodup_nil
  | first :: rest => by
      rw [List.eraseDups_cons, List.nodup_cons]
      refine ⟨by simp, ?_⟩
      have shorter := List.length_filter_le (fun other => !other == first) rest
      exact nodup_eraseDups (rest.filter fun other => !other == first)
  termination_by list => list.length
  decreasing_by exact Nat.lt_succ_of_le shorter

/-! ## Groups -/

section Groups

variable {Row : Type u} {Key : Type v} {Value : Type w} [DecidableEq Key] [DecidableEq Value]

/-- `GROUP BY`: the keys, each with its rows. -/
def groupBy (key : Row → Key) (rows : List Row) : List (Key × List Row) :=
  (rows.map key).eraseDups.map fun group => (group, rows.filter fun row => key row = group)

def groupOf (groups : List (Key × List Row)) (key : Key) : List Row :=
  ((groups.find? fun group => group.1 = key).map Prod.snd).getD []

theorem mem_groupOf {key : Row → Key} {rows : List Row} {group : Key} {row : Row} :
    row ∈ groupOf (groupBy key rows) group ↔ row ∈ rows ∧ key row = group := by
  unfold groupOf
  cases found : (groupBy key rows).find? fun entry => entry.1 = group with
  | none =>
      simp only [Option.map_none, Option.getD_none, List.not_mem_nil, false_iff, not_and]
      intro member same
      have listed : (group, rows.filter fun row => key row = group) ∈ groupBy key rows :=
        List.mem_map_of_mem
          (List.mem_eraseDups.mpr (List.mem_map.mpr ⟨row, member, same⟩))
      have missed := List.find?_eq_none.mp found _ listed
      exact missed (decide_eq_true rfl)
  | some entry =>
      have hit := List.find?_some found
      obtain ⟨other, _, rfl⟩ := List.mem_map.mp (List.mem_of_find?_eq_some found)
      obtain rfl : other = group := of_decide_eq_true hit
      simp

/-! ## Aggregates -/

/-- `array_agg(DISTINCT value) FILTER (…)`: `NULL` if the filter passes no row.  The server
sorts the values by their collation. -/
def arrayAggDistinct (order : OrderBy fun _ _ : Value => True) (value : Row → Option Value)
    (rows : List Row) : Option (List Value) :=
  if rows.filterMap value = [] then none else some (order.run (rows.filterMap value).eraseDups)

/-- `bool_or`: `NULL` on no rows. -/
def boolOr (test : Row → Bool) (rows : List Row) : Option Bool :=
  if rows = [] then none else some (rows.any test)

variable {order : OrderBy fun _ _ : Value => True} {value : Row → Option Value} {rows : List Row}

theorem mem_arrayAggDistinct {wanted : Value} :
    wanted ∈ (arrayAggDistinct order value rows).getD [] ↔
      ∃ row ∈ rows, value row = some wanted := by
  rw [← List.mem_filterMap, arrayAggDistinct]
  split
  · next none_ => simp [none_]
  · simp

theorem nodup_arrayAggDistinct : ((arrayAggDistinct order value rows).getD []).Nodup := by
  unfold arrayAggDistinct
  split
  · exact List.nodup_nil
  · exact (order.perm _).nodup_iff.mpr (nodup_eraseDups _)

theorem boolOr_getD {test : Row → Bool} :
    (boolOr test rows).getD false = true ↔ ∃ row ∈ rows, test row = true := by
  unfold boolOr
  split
  · next none_ => simp [none_]
  · simp

end Groups

end Relational
