import VolunteerApi.Programs.Guarded

/-!
# Programs on a part of a store

A program on a part of a store runs on the whole store: its statements read the part and
replace it, and leave the rest alone.
-/

set_option autoImplicit false

namespace Programs

/-- A part of a store that can be read and replaced. -/
structure Part (σ τ : Type) where
  get : σ → τ
  set : σ → τ → σ
  get_set : ∀ s t, get (set s t) = t
  set_set : ∀ s t u, set (set s t) u = set s u
  set_get : ∀ s, set s (get s) = s

namespace Prog

variable {σ τ Λ ε α β : Type}

def within (part : Part σ τ) : Prog τ Λ ε α → Prog σ Λ ε α
  | .ret value => .ret value
  | .fail error => .fail error
  | .stmt lock effect next =>
      .stmt lock (fun s => part.set s (effect (part.get s))) fun s => within part (next (part.get s))

variable (part : Part σ τ)

@[simp] theorem run_within (p : Prog τ Λ ε α) (s : σ) :
    (p.within part).run s = ((p.run (part.get s)).1, part.set s (p.run (part.get s)).2) := by
  induction p generalizing s with
  | ret value => simp [within, part.set_get]
  | fail error => simp [within, part.set_get]
  | stmt lock effect next ih =>
      rw [within, run_stmt, ih, part.get_set, part.set_set]
      rfl

@[simp] theorem run_within_bind (p : Prog τ Λ ε α) (f : α → Prog σ Λ ε β) (s : σ) :
    ((p.within part).bind f).run s =
      match p.run (part.get s) with
      | (.ok value, final) => (f value).run (part.set s final)
      | (.error error, final) => (.error error, part.set s final) := by
  rw [run_bind, run_within]
  cases p.run (part.get s) with
  | mk result final => cases result <;> rfl

theorem leaves_within_bind {check : Prog τ Λ ε β} {f : β → Prog σ Λ ε α} {s : σ}
    {motive : σ → Prop} {Passed : β → Prop}
    (guarded : check.Guarded (part.get s) fun value final => final = part.get s ∧ Passed value)
    (refused : motive s) (passed : ∀ value, Passed value → (f value).Leaves s motive) :
    ((check.within part).bind f).Leaves s motive := by
  unfold Leaves
  rw [run_within_bind]
  rcases guarded.cases with ⟨error, failed⟩ | ⟨value, final, ran, same, allowed⟩
  · rw [failed]
    simpa [part.set_get] using refused
  · have rest : motive ((f value).run s).2 := passed value allowed
    rw [ran, same]
    simpa [part.set_get] using rest

end Prog

end Programs
