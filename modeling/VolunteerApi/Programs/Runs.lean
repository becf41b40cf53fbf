import Mathlib.Data.List.Basic

/-!
# Runs of a deterministic transition system

`execute` folds a list of operations over a state.  `Always` says that a
property holds in every state the run reaches, `Throughout` that a condition
relating a state to the operation executed in it holds at every step.
-/

set_option autoImplicit false

namespace Programs

section Runs

variable {σ ι : Type} (step : σ → ι → σ)

def execute : σ → List ι → σ
  | s, [] => s
  | s, op :: rest => execute (step s op) rest

def Always (P : σ → Prop) : σ → List ι → Prop
  | s, [] => P s
  | s, op :: rest => P s ∧ Always P (step s op) rest

def Throughout (C : σ → ι → Prop) : σ → List ι → Prop
  | _, [] => True
  | s, op :: rest => C s op ∧ Throughout C (step s op) rest

variable {step}

@[simp] theorem execute_nil (s : σ) : execute step s [] = s := rfl

@[simp] theorem execute_cons (s : σ) (op : ι) (rest : List ι) :
    execute step s (op :: rest) = execute step (step s op) rest := rfl

theorem execute_append (s : σ) (first second : List ι) :
    execute step s (first ++ second) = execute step (execute step s first) second := by
  induction first generalizing s with
  | nil => rfl
  | cons op rest ih => exact ih (step s op)

theorem always_start {P : σ → Prop} {s : σ} {ops : List ι} (all : Always step P s ops) : P s := by
  cases ops with
  | nil => exact all
  | cons op rest => exact all.1

/-- `Always` looks at exactly the states reached by the prefixes of the run. -/
theorem always_iff {P : σ → Prop} {s : σ} {ops : List ι} :
    Always step P s ops ↔ ∀ first second, ops = first ++ second → P (execute step s first) := by
  induction ops generalizing s with
  | nil =>
      constructor
      · intro all first second split
        obtain ⟨rfl, rfl⟩ := List.append_eq_nil_iff.mp split.symm
        exact all
      · intro all
        exact all [] [] rfl
  | cons op rest ih =>
      constructor
      · rintro ⟨here, later⟩ first second split
        cases first with
        | nil => exact here
        | cons head tail =>
            obtain ⟨rfl, restEq⟩ := List.cons.inj split
            exact ih.mp later tail second restEq
      · intro all
        refine ⟨all [] (op :: rest) rfl, ih.mpr ?_⟩
        intro first second split
        exact all (op :: first) second (by rw [split]; rfl)

theorem always_end {P : σ → Prop} {s : σ} {ops : List ι} (all : Always step P s ops) :
    P (execute step s ops) :=
  always_iff.mp all ops [] (List.append_nil ops).symm

theorem Always.mono {P Q : σ → Prop} {s : σ} {ops : List ι} (all : Always step P s ops)
    (weaker : ∀ s, P s → Q s) : Always step Q s ops := by
  induction ops generalizing s with
  | nil => exact weaker s all
  | cons op rest ih => exact ⟨weaker s all.1, ih all.2⟩

/-- `Throughout` looks at exactly the steps of the run. -/
theorem throughout_iff {C : σ → ι → Prop} {s : σ} {ops : List ι} :
    Throughout step C s ops ↔
      ∀ first op second, ops = first ++ op :: second → C (execute step s first) op := by
  induction ops generalizing s with
  | nil =>
      constructor
      · intro _ first op second split
        simp at split
      · intro _
        trivial
  | cons op rest ih =>
      constructor
      · rintro ⟨here, later⟩ first other second split
        cases first with
        | nil =>
            obtain ⟨rfl, _⟩ := List.cons.inj split
            exact here
        | cons head tail =>
            obtain ⟨rfl, restEq⟩ := List.cons.inj split
            exact ih.mp later tail other second restEq
      · intro all
        refine ⟨all [] op rest rfl, ih.mpr ?_⟩
        intro first other second split
        exact all (op :: first) other second (by rw [split]; rfl)

theorem Throughout.mono {C D : σ → ι → Prop} {s : σ} {ops : List ι}
    (all : Throughout step C s ops) (weaker : ∀ s op, C s op → D s op) :
    Throughout step D s ops := by
  induction ops generalizing s with
  | nil => trivial
  | cons op rest ih => exact ⟨weaker s op all.1, ih all.2⟩

theorem Throughout.and {C D : σ → ι → Prop} {s : σ} {ops : List ι}
    (first : Throughout step C s ops) (second : Throughout step D s ops) :
    Throughout step (fun s op => C s op ∧ D s op) s ops := by
  induction ops generalizing s with
  | nil => trivial
  | cons op rest ih => exact ⟨⟨first.1, second.1⟩, ih first.2 second.2⟩

theorem throughout_congr {C D : σ → ι → Prop} (same : ∀ s op, C s op ↔ D s op)
    (s : σ) (ops : List ι) : Throughout step C s ops ↔ Throughout step D s ops := by
  induction ops generalizing s with
  | nil => exact Iff.rfl
  | cons op rest ih => exact and_congr (same s op) (ih (step s op))

/-- Two conditions that agree under an invariant hold throughout the same runs. -/
theorem throughout_congr_of {I : σ → Prop} {C D : σ → ι → Prop}
    (kept : ∀ s op, I s → I (step s op)) (same : ∀ s op, I s → (C s op ↔ D s op)) {s : σ}
    (inside : I s) (ops : List ι) : Throughout step C s ops ↔ Throughout step D s ops := by
  induction ops generalizing s with
  | nil => exact Iff.rfl
  | cons op rest ih => exact and_congr (same s op inside) (ih (kept s op inside))

/-- The induction behind every statement about runs: a property that holds at
the start, and that every step allowed by `C` preserves, holds throughout. -/
theorem always_of_preserved {P : σ → Prop} {C : σ → ι → Prop}
    (preserved : ∀ s op, P s → C s op → P (step s op)) {s : σ} {ops : List ι}
    (start : P s) (allowed : Throughout step C s ops) : Always step P s ops := by
  induction ops generalizing s with
  | nil => exact start
  | cons op rest ih =>
      exact ⟨start, ih (preserved s op start allowed.1) allowed.2⟩

/-- The same for a condition on the steps. -/
theorem throughout_of_preserved {P : σ → Prop} {C D : σ → ι → Prop}
    (preserved : ∀ s op, P s → C s op → P (step s op) ∧ D s op) {s : σ} {ops : List ι}
    (start : P s) (allowed : Throughout step C s ops) : Throughout step D s ops := by
  induction ops generalizing s with
  | nil => trivial
  | cons op rest ih =>
      obtain ⟨next, here⟩ := preserved s op start allowed.1
      exact ⟨here, ih next allowed.2⟩

theorem always_of_invariant {P : σ → Prop} (preserved : ∀ s op, P s → P (step s op))
    {s : σ} (start : P s) (ops : List ι) : Always step P s ops := by
  induction ops generalizing s with
  | nil => exact start
  | cons op rest ih => exact ⟨start, ih (preserved s op start)⟩

theorem execute_of_preserved {P : σ → Prop} (preserved : ∀ s op, P s → P (step s op))
    {s : σ} (start : P s) (ops : List ι) : P (execute step s ops) := by
  induction ops generalizing s with
  | nil => exact start
  | cons op rest ih => exact ih (preserved s op start)

/-- What no step changes that starts and ends under `I`, a run under `I` does not change. -/
theorem execute_same_of {α : Type} {Q : σ → α} {I : σ → Prop} {C : σ → ι → Prop}
    (same : ∀ s op, I s → I (step s op) → C s op → Q (step s op) = Q s) {s : σ} {ops : List ι}
    (inside : Always step I s ops) (allowed : Throughout step C s ops) :
    Q (execute step s ops) = Q s := by
  induction ops generalizing s with
  | nil => rfl
  | cons op rest ih =>
      have here := same s op inside.1 (always_start inside.2) allowed.1
      exact (ih inside.2 allowed.2).trans here

/-- What is there after a run was there before it, or one of its steps has born it. -/
theorem execute_origin {R : Type} (present : σ → R → Prop) (becomes : R → R → Prop)
    (born : σ → ι → R → Prop) (same : ∀ row, becomes row row)
    (further : ∀ {a b c}, becomes a b → becomes b c → becomes a c)
    (origin : ∀ s op new, present (step s op) new →
      (∃ old, present s old ∧ becomes old new) ∨ born s op new)
    {s : σ} {ops : List ι} {new : R} (there : present (execute step s ops) new) :
    (∃ old, present s old ∧ becomes old new) ∨
      ∃ first op second row, ops = first ++ op :: second ∧
        born (execute step s first) op row ∧ becomes row new := by
  induction ops generalizing s with
  | nil => exact Or.inl ⟨new, there, same new⟩
  | cons op rest ih =>
      rcases ih there with ⟨mid, midThere, later⟩ | ⟨first, other, second, row, split, born, later⟩
      · rcases origin s op mid midThere with ⟨old, oldThere, became⟩ | born
        · exact Or.inl ⟨old, oldThere, further became later⟩
        · exact Or.inr ⟨[], op, rest, mid, rfl, born, later⟩
      · exact Or.inr ⟨op :: first, other, second, row, by rw [split]; rfl, born, later⟩

/-- Operations that change nothing as long as an invariant holds can be left out of a run. -/
theorem execute_filter {I : σ → Prop} {A : ι → Prop} {keep : ι → Bool}
    (kept : ∀ s op, I s → A op → I (step s op))
    (silent : ∀ s op, I s → keep op = false → step s op = s) {s : σ} (inside : I s)
    {ops : List ι} (allowed : ∀ op ∈ ops, A op) :
    execute step s (ops.filter keep) = execute step s ops := by
  induction ops generalizing s with
  | nil => rfl
  | cons op rest ih =>
      have later : ∀ other ∈ rest, A other :=
        fun other member => allowed other (List.mem_cons_of_mem op member)
      cases here : keep op with
      | true =>
          rw [List.filter_cons_of_pos here]
          exact ih (kept s op inside (allowed op List.mem_cons_self)) later
      | false =>
          rw [List.filter_cons_of_neg (by simp [here]), execute_cons, silent s op inside here]
          exact ih inside later

theorem throughout_of_mem {A : ι → Prop} {ops : List ι} (all : ∀ op ∈ ops, A op) (s : σ) :
    Throughout step (fun _ op => A op) s ops := by
  induction ops generalizing s with
  | nil => trivial
  | cons op rest ih =>
      refine ⟨all op (by simp), ih ?_ _⟩
      intro other member
      exact all other (List.mem_cons_of_mem op member)

/-- If, under an invariant `I` of the admissible steps, `C` says exactly when a
step preserves `P`, an admissible run keeps `P` exactly when all its steps
satisfy `C`. -/
theorem always_iff_throughout_of {I P : σ → Prop} {A C : σ → ι → Prop}
    (kept : ∀ s op, I s → A s op → I (step s op))
    (exactly : ∀ s op, I s → A s op → P s → (P (step s op) ↔ C s op)) {s : σ} {ops : List ι}
    (inside : I s) (start : P s) (admissible : Throughout step A s ops) :
    Always step P s ops ↔ Throughout step C s ops := by
  induction ops generalizing s with
  | nil => exact iff_of_true start trivial
  | cons op rest ih =>
      obtain ⟨here, later⟩ := admissible
      have insideNext := kept s op inside here
      constructor
      · rintro ⟨_, remaining⟩
        have startNext := always_start remaining
        exact ⟨(exactly s op inside here start).mp startNext,
          (ih insideNext startNext later).mp remaining⟩
      · rintro ⟨allowed, remaining⟩
        have startNext := (exactly s op inside here start).mpr allowed
        exact ⟨start, (ih insideNext startNext later).mpr remaining⟩

/-- The same where the operation alone says whether it is admissible. -/
theorem always_iff_throughout {I P : σ → Prop} {A : ι → Prop} {C : σ → ι → Prop}
    (kept : ∀ s op, I s → A op → I (step s op))
    (exactly : ∀ s op, I s → A op → P s → (P (step s op) ↔ C s op)) {s : σ} {ops : List ι}
    (inside : I s) (start : P s) (admissible : ∀ op ∈ ops, A op) :
    Always step P s ops ↔ Throughout step C s ops :=
  always_iff_throughout_of kept exactly inside start (throughout_of_mem admissible s)

/-- The same where the invariant is kept only as long as the property holds. -/
theorem always_iff_throughout_while {I P : σ → Prop} {C : σ → ι → Prop}
    (kept : ∀ s op, I s → P s → P (step s op) → I (step s op))
    (exactly : ∀ s op, I s → P s → (P (step s op) ↔ C s op)) {s : σ} {ops : List ι}
    (inside : I s) (start : P s) : Always step P s ops ↔ Throughout step C s ops := by
  induction ops generalizing s with
  | nil => exact iff_of_true start trivial
  | cons op rest ih =>
      constructor
      · rintro ⟨_, remaining⟩
        have startNext := always_start remaining
        exact ⟨(exactly s op inside start).mp startNext,
          (ih (kept s op inside start startNext) startNext).mp remaining⟩
      · rintro ⟨allowed, remaining⟩
        have startNext := (exactly s op inside start).mpr allowed
        exact ⟨start, (ih (kept s op inside start startNext) startNext).mpr remaining⟩

/-! ### Steps that keep a property exactly under a condition -/

/-- A step from `s` to `after` keeps the invariant `I`, and keeps `P` exactly if `C` holds. -/
def KeepsIff (I P : σ → Prop) (s after : σ) (C : Prop) : Prop :=
  I after ∧ (P s → (P after ↔ C))

theorem keepsIff_of_kept {I P : σ → Prop} {s after : σ} {C : Prop} (inside : I after)
    (kept : P s → P after) (holds : C) : KeepsIff I P s after C :=
  ⟨inside, fun here => iff_of_true (kept here) holds⟩

theorem keepsIff_self {I P : σ → Prop} {s : σ} {C : Prop} (inside : I s) (holds : C) :
    KeepsIff I P s s C :=
  keepsIff_of_kept inside id holds

theorem KeepsIff.congr {I P : σ → Prop} {s after : σ} {C D : Prop}
    (keeps : KeepsIff I P s after C) (same : C ↔ D) : KeepsIff I P s after D :=
  ⟨keeps.1, fun here => (keeps.2 here).trans same⟩

theorem always_iff_of_keepsIff {I P : σ → Prop} {A C : σ → ι → Prop}
    (steps : ∀ s op, I s → A s op → KeepsIff I P s (step s op) (C s op)) {s : σ} {ops : List ι}
    (inside : I s) (start : P s) (admissible : Throughout step A s ops) :
    Always step P s ops ↔ Throughout step C s ops :=
  always_iff_throughout_of (fun s op inside here => (steps s op inside here).1)
    (fun s op inside here => (steps s op inside here).2) inside start admissible

end Runs

end Programs
