import VolunteerApi.Programs.Prog

/-!
# Programs that check first and write afterwards

`Guarded p s Post` says what running `p` alone from `s` amounts to: it throws
and leaves `s` as it was, or it returns and `Post` holds of the result and the
store it leaves.  The rules below walk over the statements of a program and
collect what its checks established on the way.
-/

set_option autoImplicit false

namespace Programs

namespace Prog

variable {σ Λ ε α β : Type}

def Guarded (p : Prog σ Λ ε α) (s : σ) (Post : α → σ → Prop) : Prop :=
  match p.run s with
  | (.ok value, final) => Post value final
  | (.error _, final) => final = s

variable {s : σ} {Post : α → σ → Prop}

theorem guarded_of_run {p : Prog σ Λ ε α} (value : α) (final : σ)
    (finished : p.run s = (.ok value, final)) (post : Post value final) : p.Guarded s Post := by
  unfold Guarded
  rw [finished]
  exact post

theorem guarded_ret {value : α} (post : Post value s) :
    (Prog.ret value : Prog σ Λ ε α).Guarded s Post := post

theorem guarded_query_bind {read : σ → β} {f : β → Prog σ Λ ε α}
    (rest : (f (read s)).Guarded s Post) : (bind (query read) f).Guarded s Post := rest

theorem guarded_orThrow_bind {value : Option β} {error : ε} {f : β → Prog σ Λ ε α}
    (rest : ∀ present, value = some present → (f present).Guarded s Post) :
    (bind (orThrow value error) f).Guarded s Post := by
  cases value with
  | none => rfl
  | some present => exact rest present rfl

theorem guarded_throwIf_bind {condition : Prop} [Decidable condition] {error : ε}
    {f : Unit → Prog σ Λ ε α} (rest : ¬ condition → (f ()).Guarded s Post) :
    (bind (throwIf condition error) f).Guarded s Post := by
  by_cases refused : condition
  · rw [throwIf, if_pos refused]
    rfl
  · rw [throwIf, if_neg refused]
    exact rest refused

theorem guarded_throwIf {condition : Prop} [Decidable condition] {error : ε}
    {Post : Unit → σ → Prop} (post : ¬ condition → Post () s) :
    (throwIf condition error : Prog σ Λ ε Unit).Guarded s Post := by
  by_cases refused : condition
  · rw [throwIf, if_pos refused]
    rfl
  · rw [throwIf, if_neg refused]
    exact post refused

theorem guarded_execOr {error : ε} {effect : σ → Option (σ × α)}
    (post : ∀ result, effect s = some result → Post result.2 result.1) :
    (execOr error effect : Prog σ Λ ε α).Guarded s Post := by
  unfold Guarded
  rw [run_execOr]
  cases hit : effect s with
  | none => rfl
  | some result => exact post result hit

theorem guarded_bind_of_check {p : Prog σ Λ ε β} {f : β → Prog σ Λ ε α} {Passed : β → Prop}
    (check : p.Guarded s fun value final => final = s ∧ Passed value)
    (rest : ∀ value, Passed value → (f value).Guarded s Post) : (p.bind f).Guarded s Post := by
  unfold Guarded at check ⊢
  rw [run_bind]
  cases finished : p.run s with
  | mk result final =>
      rw [finished] at check
      cases result with
      | error error => exact check
      | ok value =>
          obtain ⟨rfl, passed⟩ := check
          exact rest value passed

theorem guarded_bind_of_total {p : Prog σ Λ ε β} {f : β → Prog σ Λ ε α} {Mid : β → σ → Prop}
    (first : p.Guarded s Mid)
    (rest : ∀ value mid, Mid value mid →
      ∃ result final, (f value).run mid = (.ok result, final) ∧ Post result final) :
    (p.bind f).Guarded s Post := by
  unfold Guarded at first ⊢
  rw [run_bind]
  cases finished : p.run s with
  | mk result mid =>
      rw [finished] at first
      cases result with
      | error error => exact first
      | ok value =>
          obtain ⟨result, final, ran, post⟩ := rest value mid first
          simp only [ran]
          exact post

theorem Guarded.mono {p : Prog σ Λ ε α} {Weaker : α → σ → Prop} (guarded : p.Guarded s Post)
    (weaker : ∀ value final, Post value final → Weaker value final) : p.Guarded s Weaker := by
  unfold Guarded at guarded ⊢
  cases finished : p.run s with
  | mk result final =>
      rw [finished] at guarded
      cases result with
      | error error => exact guarded
      | ok value => exact weaker value final guarded

theorem Guarded.cases {p : Prog σ Λ ε α} (guarded : p.Guarded s Post) :
    (∃ error, p.run s = (.error error, s)) ∨
      ∃ value final, p.run s = (.ok value, final) ∧ Post value final := by
  unfold Guarded at guarded
  cases finished : p.run s with
  | mk result final =>
      rw [finished] at guarded
      cases result with
      | error error => exact Or.inl ⟨error, by rw [guarded]⟩
      | ok value => exact Or.inr ⟨value, final, rfl, guarded⟩

theorem Guarded.leaves {p : Prog σ Λ ε α} (guarded : p.Guarded s Post) :
    (p.run s).2 = s ∨ ∃ value, Post value (p.run s).2 := by
  rcases guarded.cases with ⟨error, failed⟩ | ⟨value, final, finished, post⟩
  · exact Or.inl (by rw [failed])
  · exact Or.inr ⟨value, by rw [finished]; exact post⟩

/-- What holds of the store already, and of all that `Post` allows, holds afterwards. -/
theorem Guarded.after {p : Prog σ Λ ε α} {motive : σ → Prop} (guarded : p.Guarded s Post)
    (refused : motive s) (passed : ∀ value final, Post value final → motive final) :
    motive (p.run s).2 := by
  rcases guarded.leaves with same | ⟨value, post⟩
  · rw [same]
    exact refused
  · exact passed value _ post

/-- A program whose checks cannot pass leaves the store as it was. -/
theorem Guarded.refused {p : Prog σ Λ ε α} (guarded : p.Guarded s Post)
    (never : ∀ value final, ¬ Post value final) : (p.run s).2 = s :=
  guarded.leaves.resolve_right fun ⟨value, post⟩ => never value _ post

/-! ## What a transaction commits -/

/-- When `p` returns, `Post` holds.  Of a run that throws nothing is said: in a transaction it
leaves nothing behind, whatever it has written. -/
def Commits (p : Prog σ Λ ε α) (s : σ) (Post : α → σ → Prop) : Prop :=
  ∀ value final, p.run s = (.ok value, final) → Post value final

theorem Guarded.commits {p : Prog σ Λ ε α} (guarded : p.Guarded s Post) : p.Commits s Post := by
  intro value final finished
  unfold Guarded at guarded
  rw [finished] at guarded
  exact guarded

theorem Commits.bind {p : Prog σ Λ ε β} {f : β → Prog σ Λ ε α} {Mid : β → σ → Prop}
    (first : p.Commits s Mid) (rest : ∀ value mid, Mid value mid → (f value).Commits mid Post) :
    (p.bind f).Commits s Post := by
  intro value final finished
  rw [run_bind] at finished
  cases ran : p.run s with
  | mk result mid =>
      rw [ran] at finished
      cases result with
      | error error => cases finished
      | ok middle => exact rest middle mid (first middle mid ran) value final finished

theorem commits_query_bind {read : σ → β} {f : β → Prog σ Λ ε α}
    (rest : (f (read s)).Commits s Post) : (bind (query read) f).Commits s Post := rest

theorem commits_queryLocking_bind {lock : Λ} {read : σ → β} {f : β → Prog σ Λ ε α}
    (rest : (f (read s)).Commits s Post) : (bind (queryLocking lock read) f).Commits s Post := rest

theorem commits_orThrow_bind {value : Option β} {error : ε} {f : β → Prog σ Λ ε α}
    (rest : ∀ present, value = some present → (f present).Commits s Post) :
    (bind (orThrow value error) f).Commits s Post := by
  cases value with
  | none =>
      intro _ _ finished
      cases finished
  | some present => exact rest present rfl

theorem commits_throwIf_bind {condition : Prop} [Decidable condition] {error : ε}
    {f : Unit → Prog σ Λ ε α} (rest : ¬ condition → (f ()).Commits s Post) :
    (bind (throwIf condition error) f).Commits s Post := by
  by_cases refused : condition
  · rw [throwIf, if_pos refused]
    intro _ _ finished
    cases finished
  · rw [throwIf, if_neg refused]
    exact rest refused

/-- What holds of the store already, and of all that `Post` allows, holds after the
transaction. -/
theorem Commits.after {p : Prog σ Λ ε α} {motive : σ → Prop} (commits : p.Commits s Post)
    (refused : motive s) (passed : ∀ value final, Post value final → motive final) :
    motive (p.runTx s).2 := by
  cases ran : p.runTx s with
  | mk result after =>
      cases result with
      | error error =>
          rw [runTx_error ran]
          exact refused
      | ok value => exact passed value after (commits value after (runTx_ok_iff.mp ran))

/-! ## What a program leaves, however it ends -/

/-- Whatever `p` ends in, `motive` holds of the store it leaves. -/
def Leaves (p : Prog σ Λ ε α) (s : σ) (motive : σ → Prop) : Prop := motive (p.run s).2

variable {motive : σ → Prop}

theorem leaves_query_bind {read : σ → β} {f : β → Prog σ Λ ε α}
    (rest : (f (read s)).Leaves s motive) : (bind (query read) f).Leaves s motive := rest

theorem leaves_execReturning_bind {effect : σ → σ} {read : σ → β} {f : β → Prog σ Λ ε α}
    (rest : (f (read s)).Leaves (effect s) motive) :
    (bind (execReturning effect read) f).Leaves s motive := rest

theorem leaves_throwIf_bind {condition : Prop} [Decidable condition] {error : ε}
    {f : Unit → Prog σ Λ ε α} (refused : condition → motive s)
    (passed : ¬ condition → (f ()).Leaves s motive) :
    (bind (throwIf condition error) f).Leaves s motive := by
  unfold Leaves
  rw [run_throwIf_bind]
  split
  · exact refused ‹_›
  · exact passed ‹_›

theorem leaves_orThrow_bind {value : Option β} {error : ε} {f : β → Prog σ Λ ε α}
    (missing : value = none → motive s)
    (present : ∀ found, value = some found → (f found).Leaves s motive) :
    (bind (orThrow value error) f).Leaves s motive := by
  cases value with
  | none => exact missing rfl
  | some found => exact present found rfl

theorem leaves_execOr_bind {error : ε} {effect : σ → Option (σ × β)} {f : β → Prog σ Λ ε α}
    (refused : effect s = none → motive s)
    (changed : ∀ result, effect s = some result → (f result.2).Leaves result.1 motive) :
    (bind (execOr error effect) f).Leaves s motive := by
  unfold Leaves
  rw [run_bind, run_execOr]
  cases hit : effect s with
  | none => exact refused hit
  | some result => exact changed result hit

theorem leaves_execOr {error : ε} {effect : σ → Option (σ × α)}
    (refused : effect s = none → motive s)
    (changed : ∀ result, effect s = some result → motive result.1) :
    (execOr error effect : Prog σ Λ ε α).Leaves s motive := by
  rw [← bind_ret (execOr error effect)]
  exact leaves_execOr_bind refused changed

end Prog

end Programs
