import VolunteerApi.Programs.Prog

/-!
# Programs that read before they write, while others write

`p.Checks rely Ready s` says that `p` does nothing but read until it fails or is
`Ready` to go on, whichever way the store moves along `rely` before each of its
statements.  Nothing a statement has read is kept but what `Ready` says.
-/

set_option autoImplicit false

namespace Programs

namespace Prog

variable {σ Λ ε α β : Type}

inductive Checks (rely : σ → σ → Prop) (Ready : σ → Prog σ Λ ε α → Prop) :
    σ → Prog σ Λ ε α → Prop
  | ready {s : σ} {p : Prog σ Λ ε α} (there : Ready s p) : Checks rely Ready s p
  | fails {s : σ} (error : ε) : Checks rely Ready s (.fail error)
  | reads {s : σ} (next : σ → Prog σ Λ ε α)
      (later : ∀ now, rely s now → Checks rely Ready now (next now)) :
      Checks rely Ready s (.stmt none id next)

variable {rely : σ → σ → Prop} {Ready : σ → Prog σ Λ ε α → Prop} {s : σ}

theorem Checks.statement {lock : Option Λ} {effect : σ → σ} {next : σ → Prog σ Λ ε α}
    (checks : Checks rely Ready s (.stmt lock effect next)) :
    Ready s (.stmt lock effect next) ∨
      lock = none ∧ effect = id ∧ ∀ now, rely s now → Checks rely Ready now (next now) := by
  cases checks with
  | ready there => exact Or.inl there
  | reads _ later => exact Or.inr ⟨rfl, rfl, later⟩

theorem Checks.stable (trans : ∀ a b c, rely a b → rely b c → rely a c) {p : Prog σ Λ ε α}
    (checks : Checks rely Ready s p) {later : σ} (along : rely s later)
    (ready : Ready s p → Ready later p) : Checks rely Ready later p := by
  cases checks with
  | ready there => exact .ready (ready there)
  | fails error => exact .fails error
  | reads next rest =>
      refine .reads next ?_
      intro now further
      exact rest now (trans s later now along further)

theorem Checks.bind {Before : σ → Prog σ Λ ε α → Prop} {Ready : σ → Prog σ Λ ε β → Prop}
    {p : Prog σ Λ ε α} {f : α → Prog σ Λ ε β} (checks : Checks rely Before s p)
    (ready : ∀ now rest, Before now rest → Ready now (rest.bind f)) :
    Checks rely Ready s (p.bind f) := by
  induction checks with
  | ready there => exact .ready (ready _ _ there)
  | fails error => exact .fails error
  | reads next later ih => exact .reads _ ih

theorem checks_query_bind {read : σ → β} {f : β → Prog σ Λ ε α}
    (rest : ∀ now, rely s now → Checks rely Ready now (f (read now))) :
    Checks rely Ready s (bind (query read) f) :=
  .reads _ rest

theorem checks_throwIf_bind {condition : Prop} [Decidable condition] {error : ε}
    {f : Unit → Prog σ Λ ε α} (rest : ¬ condition → Checks rely Ready s (f ())) :
    Checks rely Ready s (bind (throwIf condition error) f) := by
  by_cases refused : condition
  · rw [throwIf, if_pos refused]
    exact .fails error
  · rw [throwIf, if_neg refused]
    exact rest refused

theorem checks_orThrow_bind {value : Option β} {error : ε} {f : β → Prog σ Λ ε α}
    (rest : ∀ present, value = some present → Checks rely Ready s (f present)) :
    Checks rely Ready s (bind (orThrow value error) f) := by
  cases value with
  | none => exact .fails error
  | some present => exact rest present rfl

end Prog

end Programs
