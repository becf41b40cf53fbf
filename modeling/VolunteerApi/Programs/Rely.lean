import VolunteerApi.Programs.Prog

/-!
# What a transaction ensures while others write

`p.Ensures rely Post pending s` says that a transaction with `pending` written
and `p` yet to do ends in `Post`, whichever way the committed store moves along
`rely` before each of its statements.  `Post` speaks about the result, the
writes to commit and the store committed at the last statement.
-/

set_option autoImplicit false

namespace Programs

namespace Prog

variable {σ Λ ε α β : Type}

def Ensures (rely : σ → σ → Prop) (Post : α → (σ → σ) → σ → Prop) :
    Prog σ Λ ε α → (σ → σ) → σ → Prop
  | .ret value, pending, s => Post value pending s
  | .fail _, _, _ => True
  | .stmt _ effect next, pending, s =>
      ∀ later, rely s later → Ensures rely Post (next (pending later)) (effect ∘ pending) later

/-- Every change the program may make is one of `P`. -/
def Writes (P : (σ → σ) → Prop) : Prog σ Λ ε α → Prop
  | .ret _ => True
  | .fail _ => True
  | .stmt _ effect next => P effect ∧ ∀ s, Writes P (next s)

variable {rely : σ → σ → Prop} {Post : α → (σ → σ) → σ → Prop} {pending : σ → σ} {s : σ}

theorem Ensures.stable (trans : ∀ {a b c}, rely a b → rely b c → rely a c)
    (stable : ∀ {value pending a b}, Post value pending a → rely a b → Post value pending b)
    {p : Prog σ Λ ε α} (ensures : p.Ensures rely Post pending s) {later : σ}
    (along : rely s later) : p.Ensures rely Post pending later := by
  cases p with
  | ret value => exact stable ensures along
  | fail error => trivial
  | stmt lock effect next =>
      intro further further_along
      exact ensures further (trans along further_along)

theorem Ensures.bind {Mid : α → (σ → σ) → σ → Prop} {Post : β → (σ → σ) → σ → Prop}
    {p : Prog σ Λ ε α} {f : α → Prog σ Λ ε β} (first : p.Ensures rely Mid pending s)
    (rest : ∀ value written now, Mid value written now →
      (f value).Ensures rely Post written now) :
    (p.bind f).Ensures rely Post pending s := by
  induction p generalizing pending s with
  | ret value => exact rest value pending s first
  | fail error => trivial
  | stmt lock effect next ih =>
      intro later along
      exact ih (pending later) (first later along)

theorem ensures_query_bind {read : σ → β} {f : β → Prog σ Λ ε α}
    (rest : ∀ later, rely s later → (f (read (pending later))).Ensures rely Post pending later) :
    (bind (query read) f).Ensures rely Post pending s := rest

theorem ensures_orThrow_bind {value : Option β} {error : ε} {f : β → Prog σ Λ ε α}
    (rest : ∀ present, value = some present → (f present).Ensures rely Post pending s) :
    (bind (orThrow value error) f).Ensures rely Post pending s := by
  cases value with
  | none => trivial
  | some present => exact rest present rfl

theorem ensures_throwIf_bind {condition : Prop} [Decidable condition] {error : ε}
    {f : Unit → Prog σ Λ ε α} (rest : (f ()).Ensures rely Post pending s) :
    (bind (throwIf condition error) f).Ensures rely Post pending s := by
  by_cases refused : condition
  · rw [throwIf, if_pos refused]
    trivial
  · rw [throwIf, if_neg refused]
    exact rest

theorem Writes.ensures {P Q : (σ → σ) → Prop}
    (compose : ∀ {effect written}, P effect → Q written → Q (effect ∘ written))
    (refl : ∀ a, rely a a) (trans : ∀ {a b c}, rely a b → rely b c → rely a c)
    {p : Prog σ Λ ε α} (writes : p.Writes P) (written : Q pending) :
    p.Ensures rely (fun _ after now => Q after ∧ rely s now) pending s := by
  have general : ∀ now, rely s now →
      p.Ensures rely (fun _ after now => Q after ∧ rely s now) pending now := by
    clear refl
    induction p generalizing pending with
    | ret value => exact fun now along => ⟨written, along⟩
    | fail error => exact fun _ _ => trivial
    | stmt lock effect next ih =>
        intro now along later further
        exact ih (pending later) (writes.2 (pending later)) (compose writes.1 written) later
          (trans along further)
  exact general s (refl s)

/-! ## The writes of the statements -/

variable {P : (σ → σ) → Prop}

theorem Writes.bind {p : Prog σ Λ ε α} {f : α → Prog σ Λ ε β} (first : p.Writes P)
    (rest : ∀ value, (f value).Writes P) : (p.bind f).Writes P := by
  induction p with
  | ret value => exact rest value
  | fail error => trivial
  | stmt lock effect next ih => exact ⟨first.1, fun s => ih s (first.2 s)⟩

theorem Writes.recover {p : Prog σ Λ ε α} {handler : ε → Prog σ Λ ε α} (body : p.Writes P)
    (rest : ∀ error, (handler error).Writes P) : (p.recover handler).Writes P := by
  induction p with
  | ret value => trivial
  | fail error => exact rest error
  | stmt lock effect next ih => exact ⟨body.1, fun s => ih s (body.2 s)⟩

theorem writes_query {read : σ → α} (quiet : P id) : (query read : Prog σ Λ ε α).Writes P :=
  ⟨quiet, fun _ => trivial⟩

theorem writes_exec {effect : σ → σ} (allowed : P effect) :
    (exec effect : Prog σ Λ ε Unit).Writes P :=
  ⟨allowed, fun _ => trivial⟩

theorem writes_execOr {error : ε} {effect : σ → Option (σ × α)}
    (allowed : P fun s => ((effect s).map Prod.fst).getD s) :
    (execOr error effect : Prog σ Λ ε α).Writes P := by
  refine ⟨allowed, ?_⟩
  intro s
  simp only
  split <;> trivial

theorem writes_throwIf {condition : Prop} [Decidable condition] {error : ε} :
    (throwIf condition error : Prog σ Λ ε Unit).Writes P := by
  unfold throwIf
  split <;> trivial

theorem writes_onlyIf {condition : Prop} [Decidable condition] {body : Prog σ Λ ε Unit}
    (writes : body.Writes P) : (onlyIf condition body).Writes P := by
  unfold onlyIf
  split
  · exact writes
  · trivial

end Prog

end Programs
