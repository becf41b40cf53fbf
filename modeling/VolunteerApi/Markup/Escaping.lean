import Mathlib.Data.List.Basic

/-!
# Escaping by passes

A text is escaped by replacing one character after the other, each in a pass over the
whole text.  A pass also goes over what the passes before it have written.  As long as
no character that is still to be replaced stands in what has been written, the passes
together replace each character of the text once.
-/

set_option autoImplicit false

namespace Markup

variable {α : Type} [DecidableEq α]

/-- One pass: each `key` becomes `written`. -/
def replaceAll (key : α) (written : List α) (text : List α) : List α :=
  text.flatMap fun c => if c = key then written else [c]

/-- The passes, the first of the list first. -/
def replacePasses : List (α × List α) → List α → List α
  | [], text => text
  | pass :: later, text => replacePasses later (replaceAll pass.1 pass.2 text)

/-- What the passes make of a character, if each character is replaced once. -/
def substitute : List (α × List α) → α → List α
  | [], c => [c]
  | pass :: later, c => if c = pass.1 then pass.2 else substitute later c

/-- No pass writes a character that a later one replaces. -/
def Ordered (passes : List (α × List α)) : Prop :=
  passes.Pairwise fun earlier later => later.1 ∉ earlier.2

instance (passes : List (α × List α)) : Decidable (Ordered passes) :=
  inferInstanceAs (Decidable (passes.Pairwise _))

theorem substitute_of_not_key {passes : List (α × List α)} {c : α}
    (other : ∀ pass ∈ passes, pass.1 ≠ c) : substitute passes c = [c] := by
  induction passes with
  | nil => rfl
  | cons pass later ih =>
      rw [substitute, if_neg fun same => other pass (by simp) same.symm]
      exact ih fun pass stands => other pass (by simp [stands])

/-- What a pass has written stays, if no later pass replaces a character of it. -/
theorem flatMap_substitute_of_clean {passes : List (α × List α)} {written : List α}
    (clean : ∀ pass ∈ passes, pass.1 ∉ written) : written.flatMap (substitute passes) = written := by
  induction written with
  | nil => rfl
  | cons c rest ih =>
      have here : substitute passes c = [c] :=
        substitute_of_not_key fun pass stands same => clean pass stands (by simp [same])
      rw [List.flatMap_cons, here, ih fun pass stands inside => clean pass stands (by simp [inside])]
      rfl

/-- The passes replace each character of the text once. -/
theorem replacePasses_eq {passes : List (α × List α)} (ordered : Ordered passes) (text : List α) :
    replacePasses passes text = text.flatMap (substitute passes) := by
  induction passes generalizing text with
  | nil => exact (List.flatMap_singleton' text).symm
  | cons pass later ih =>
      obtain ⟨clean, ordered⟩ := List.pairwise_cons.mp ordered
      rw [replacePasses, ih ordered, replaceAll, List.flatMap_assoc]
      refine List.flatMap_congr fun c _ => ?_
      simp only [substitute]
      by_cases same : c = pass.1
      · rw [if_pos same, if_pos same]
        exact flatMap_substitute_of_clean clean
      · rw [if_neg same, if_neg same, List.flatMap_singleton]

end Markup
