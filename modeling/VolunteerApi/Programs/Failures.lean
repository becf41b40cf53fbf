import VolunteerApi.Programs.Prog

/-!
# A statement that fails

A program that runs outside of a transaction keeps what it has written when one of its
statements fails.  `before` is the store that the statement with a given number finds, and so
the store that is left if this statement fails.
-/

set_option autoImplicit false

namespace Programs

namespace Prog

variable {σ Λ ε α β : Type}

/-- Running alone, where the statement with this number fails, without an effect. -/
def runFailing (error : ε) : Nat → Prog σ Λ ε α → σ → Except ε α × σ
  | _, .ret value, s => (.ok value, s)
  | _, .fail thrown, s => (.error thrown, s)
  | 0, .stmt _ _ _, s => (.error error, s)
  | n + 1, .stmt _ effect next, s => runFailing error n (next s) (effect s)

/-- The store that the statement with this number finds, if the run comes so far. -/
def before : Nat → Prog σ Λ ε α → σ → Option σ
  | _, .ret _, _ => none
  | _, .fail _, _ => none
  | 0, .stmt _ _ _, s => some s
  | n + 1, .stmt _ effect next, s => before n (next s) (effect s)

/-- A run that does not come so far does not notice. -/
theorem runFailing_eq (error : ε) (n : Nat) (p : Prog σ Λ ε α) (s : σ) :
    p.runFailing error n s =
      match p.before n s with
      | some left => (.error error, left)
      | none => p.run s := by
  induction n generalizing p s with
  | zero => cases p <;> rfl
  | succ n ih =>
      cases p with
      | ret value => rfl
      | fail thrown => rfl
      | stmt lock effect next => exact ih (next s) (effect s)

theorem runFailing_of_before {n : Nat} {p : Prog σ Λ ε α} {s left : σ}
    (found : p.before n s = some left) (error : ε) :
    p.runFailing error n s = (.error error, left) := by
  rw [runFailing_eq, found]

/-! ## The statements of a program -/

@[simp] theorem before_ret (n : Nat) (value : α) (s : σ) :
    (Prog.ret value : Prog σ Λ ε α).before n s = none := by
  cases n <;> rfl

@[simp] theorem before_fail (n : Nat) (error : ε) (s : σ) :
    (Prog.fail error : Prog σ Λ ε α).before n s = none := by
  cases n <;> rfl

@[simp] theorem before_query_succ (n : Nat) (read : σ → β) (f : β → Prog σ Λ ε α) (s : σ) :
    ((query read).bind f).before (n + 1) s = (f (read s)).before n s := rfl

@[simp] theorem before_exec_succ (n : Nat) (effect : σ → σ) (f : Unit → Prog σ Λ ε α) (s : σ) :
    ((exec effect).bind f).before (n + 1) s = (f ()).before n (effect s) := rfl

@[simp] theorem before_execLocking_succ (n : Nat) (lock : Λ) (effect : σ → σ)
    (f : Unit → Prog σ Λ ε α) (s : σ) :
    ((execLocking lock effect).bind f).before (n + 1) s = (f ()).before n (effect s) := rfl

@[simp] theorem before_execReturning_succ (n : Nat) (effect : σ → σ) (read : σ → β)
    (f : β → Prog σ Λ ε α) (s : σ) :
    ((execReturning effect read).bind f).before (n + 1) s = (f (read s)).before n (effect s) := rfl

theorem before_execOr_succ (n : Nat) (error : ε) (effect : σ → Option (σ × β))
    (f : β → Prog σ Λ ε α) (s : σ) :
    ((execOr error effect).bind f).before (n + 1) s =
      match effect s with
      | some result => (f result.2).before n result.1
      | none => none := by
  show ((match effect s with
    | some result => Prog.ret result.2
    | none => Prog.fail error).bind f).before n (((effect s).map Prod.fst).getD s) = _
  cases effect s with
  | none => exact before_fail n error s
  | some result => rfl

@[simp] theorem before_throwIf (n : Nat) (condition : Prop) [Decidable condition] (error : ε)
    (f : Unit → Prog σ Λ ε α) (s left : σ) :
    ((throwIf condition error).bind f).before n s = some left ↔
      ¬ condition ∧ (f ()).before n s = some left := by
  by_cases refused : condition
  · rw [throwIf, if_pos refused]
    simp [bind, refused]
  · rw [throwIf, if_neg refused]
    simp [bind, refused]

@[simp] theorem before_orThrow (n : Nat) (value : Option β) (error : ε)
    (f : β → Prog σ Λ ε α) (s left : σ) :
    ((orThrow value error).bind f).before n s = some left ↔
      ∃ present, value = some present ∧ (f present).before n s = some left := by
  cases value with
  | none => simp [orThrow, bind]
  | some present => simp [orThrow, bind]

@[simp] theorem before_onlyIf (n : Nat) (condition : Prop) [Decidable condition]
    (body : Prog σ Λ ε Unit) (f : Unit → Prog σ Λ ε α) (s : σ) :
    ((onlyIf condition body).bind f).before n s =
      if condition then (body.bind f).before n s else (f ()).before n s := by
  unfold onlyIf
  split <;> rfl

end Prog

end Programs
