import Mathlib.Logic.Basic

/-!
# Programs of atomic statements

A program is a tree of statements on a store `σ`.  One statement is atomic: it
changes the store by `effect` and continues with what it read of the store
before the change.  `lock` names the row the statement locks, if any; it plays
no part when a program runs alone.

`run` executes a program alone, `runTx` executes it inside a transaction, which
gives the store back unchanged when the program fails.
-/

set_option autoImplicit false

namespace Programs

inductive Prog (σ Λ ε α : Type) : Type
  | ret (value : α)
  | fail (error : ε)
  | stmt (lock : Option Λ) (effect : σ → σ) (next : σ → Prog σ Λ ε α)

namespace Prog

variable {σ Λ ε α β : Type}

def bind : Prog σ Λ ε α → (α → Prog σ Λ ε β) → Prog σ Λ ε β
  | .ret value, f => f value
  | .fail error, _ => .fail error
  | .stmt lock effect next, f => .stmt lock effect fun s => (next s).bind f

instance : Monad (Prog σ Λ ε) where
  pure := .ret
  bind := bind

/-! ## Statements -/

def query (read : σ → α) : Prog σ Λ ε α := .stmt none id fun s => .ret (read s)

/-- Reads the store and locks a row until the end of the transaction. -/
def queryLocking (lock : Λ) (read : σ → α) : Prog σ Λ ε α :=
  .stmt (some lock) id fun s => .ret (read s)

def exec (effect : σ → σ) : Prog σ Λ ε Unit := .stmt none effect fun _ => .ret ()

/-- Changes a row that others may have locked. -/
def execLocking (lock : Λ) (effect : σ → σ) : Prog σ Λ ε Unit :=
  .stmt (some lock) effect fun _ => .ret ()

/-- Changes the store and returns what the statement computed from it. -/
def execReturning (effect : σ → σ) (read : σ → α) : Prog σ Λ ε α :=
  .stmt none effect fun s => .ret (read s)

/-- A change the store may refuse, as a violated constraint makes it do. -/
def execOr (error : ε) (effect : σ → Option (σ × α)) : Prog σ Λ ε α :=
  .stmt none (fun s => ((effect s).map Prod.fst).getD s) fun s =>
    match effect s with
    | some result => .ret result.2
    | none => .fail error

/-! ## Control -/

def throwIf (condition : Prop) [Decidable condition] (error : ε) : Prog σ Λ ε Unit :=
  if condition then .fail error else .ret ()

def orThrow (value : Option α) (error : ε) : Prog σ Λ ε α :=
  match value with
  | some present => .ret present
  | none => .fail error

/-- `try` and `catch`: what was written before the exception stays written. -/
def recover : Prog σ Λ ε α → (ε → Prog σ Λ ε α) → Prog σ Λ ε α
  | .ret value, _ => .ret value
  | .fail error, handler => handler error
  | .stmt lock effect next, handler => .stmt lock effect fun s => recover (next s) handler

def onlyIf (condition : Prop) [Decidable condition] (body : Prog σ Λ ε Unit) : Prog σ Λ ε Unit :=
  if condition then body else .ret ()

def forEach : List α → (α → Prog σ Λ ε Unit) → Prog σ Λ ε Unit
  | [], _ => .ret ()
  | x :: xs, body => (body x).bind fun _ => forEach xs body

/-! ## Running alone -/

def run : Prog σ Λ ε α → σ → Except ε α × σ
  | .ret value, s => (.ok value, s)
  | .fail error, s => (.error error, s)
  | .stmt _ effect next, s => run (next s) (effect s)

def runTx (p : Prog σ Λ ε α) (s : σ) : Except ε α × σ :=
  match p.run s with
  | (.ok value, final) => (.ok value, final)
  | (.error error, _) => (.error error, s)

@[simp] theorem bind_eq (p : Prog σ Λ ε α) (f : α → Prog σ Λ ε β) : p >>= f = p.bind f := rfl

@[simp] theorem pure_eq (value : α) : (pure value : Prog σ Λ ε α) = .ret value := rfl

@[simp] theorem run_ret (value : α) (s : σ) :
    (Prog.ret value : Prog σ Λ ε α).run s = (.ok value, s) := rfl

@[simp] theorem run_fail (error : ε) (s : σ) :
    (Prog.fail error : Prog σ Λ ε α).run s = (.error error, s) := rfl

@[simp] theorem run_stmt (lock : Option Λ) (effect : σ → σ) (next : σ → Prog σ Λ ε α) (s : σ) :
    (Prog.stmt lock effect next).run s = (next s).run (effect s) := rfl

theorem run_bind (p : Prog σ Λ ε α) (f : α → Prog σ Λ ε β) (s : σ) :
    (p.bind f).run s =
      match p.run s with
      | (.ok value, final) => (f value).run final
      | (.error error, final) => (.error error, final) := by
  induction p generalizing s with
  | ret value => rfl
  | fail error => rfl
  | stmt lock effect next ih => exact ih s (effect s)

theorem bind_assoc {γ : Type} (p : Prog σ Λ ε α) (f : α → Prog σ Λ ε β)
    (g : β → Prog σ Λ ε γ) : (p.bind f).bind g = p.bind fun value => (f value).bind g := by
  induction p with
  | ret value => rfl
  | fail error => rfl
  | stmt lock effect next ih =>
      simp only [bind]
      congr
      funext s
      exact ih s

@[simp] theorem bind_ret (p : Prog σ Λ ε α) : p.bind .ret = p := by
  induction p with
  | ret value => rfl
  | fail error => rfl
  | stmt lock effect next ih =>
      simp only [bind]
      congr
      funext s
      exact ih s

@[simp] theorem run_query (read : σ → α) (s : σ) :
    (query read : Prog σ Λ ε α).run s = (.ok (read s), s) := rfl

@[simp] theorem run_queryLocking (lock : Λ) (read : σ → α) (s : σ) :
    (queryLocking lock read : Prog σ Λ ε α).run s = (.ok (read s), s) := rfl

@[simp] theorem run_exec (effect : σ → σ) (s : σ) :
    (exec effect : Prog σ Λ ε Unit).run s = (.ok (), effect s) := rfl

@[simp] theorem run_execLocking (lock : Λ) (effect : σ → σ) (s : σ) :
    (execLocking lock effect : Prog σ Λ ε Unit).run s = (.ok (), effect s) := rfl

@[simp] theorem run_execReturning (effect : σ → σ) (read : σ → α) (s : σ) :
    (execReturning effect read : Prog σ Λ ε α).run s = (.ok (read s), effect s) := rfl

@[simp] theorem run_execOr (error : ε) (effect : σ → Option (σ × α)) (s : σ) :
    (execOr error effect : Prog σ Λ ε α).run s =
      match effect s with
      | some result => (.ok result.2, result.1)
      | none => (.error error, s) := by
  cases hit : effect s <;> simp [execOr, hit]

theorem execOr_bind_stmt {error : ε} {effect : σ → Option (σ × α)} {f : α → Prog σ Λ ε β}
    {lock : Option Λ} {change : σ → σ} {next : σ → Prog σ Λ ε β}
    (same : .stmt lock change next = (execOr error effect).bind f) (s : σ) :
    (effect s = none ∧ change s = s ∧ next s = .fail error) ∨
      ∃ result, effect s = some result ∧ change s = result.1 ∧ next s = f result.2 := by
  cases same
  cases hit : effect s with
  | none => exact Or.inl ⟨rfl, by simp [hit], by simp only [hit]; rfl⟩
  | some result => exact Or.inr ⟨result, rfl, by simp [hit], by simp only [hit]; rfl⟩

@[simp] theorem run_throwIf (condition : Prop) [Decidable condition] (error : ε) (s : σ) :
    (throwIf condition error : Prog σ Λ ε Unit).run s =
      if condition then (.error error, s) else (.ok (), s) := by
  unfold throwIf
  split <;> rfl

@[simp] theorem run_orThrow (value : Option α) (error : ε) (s : σ) :
    (orThrow value error : Prog σ Λ ε α).run s =
      match value with
      | some present => (.ok present, s)
      | none => (.error error, s) := by
  cases value <;> rfl

@[simp] theorem run_onlyIf (condition : Prop) [Decidable condition]
    (body : Prog σ Λ ε Unit) (s : σ) :
    (onlyIf condition body).run s = if condition then body.run s else (.ok (), s) := by
  unfold onlyIf
  split <;> rfl

/-! Running a statement and the rest of the program after it. -/

@[simp] theorem run_ret_bind (value : α) (f : α → Prog σ Λ ε β) (s : σ) :
    ((Prog.ret value : Prog σ Λ ε α).bind f).run s = (f value).run s := rfl

@[simp] theorem run_query_bind (read : σ → α) (f : α → Prog σ Λ ε β) (s : σ) :
    ((query read : Prog σ Λ ε α).bind f).run s = (f (read s)).run s := rfl

@[simp] theorem run_exec_bind (effect : σ → σ) (f : Unit → Prog σ Λ ε β) (s : σ) :
    ((exec effect : Prog σ Λ ε Unit).bind f).run s = (f ()).run (effect s) := rfl

@[simp] theorem run_execLocking_bind (lock : Λ) (effect : σ → σ) (f : Unit → Prog σ Λ ε β)
    (s : σ) :
    ((execLocking lock effect : Prog σ Λ ε Unit).bind f).run s = (f ()).run (effect s) := rfl

@[simp] theorem run_execReturning_bind (effect : σ → σ) (read : σ → α) (f : α → Prog σ Λ ε β)
    (s : σ) :
    ((execReturning effect read : Prog σ Λ ε α).bind f).run s = (f (read s)).run (effect s) := rfl

@[simp] theorem run_throwIf_bind (condition : Prop) [Decidable condition] (error : ε)
    (f : Unit → Prog σ Λ ε β) (s : σ) :
    ((throwIf condition error : Prog σ Λ ε Unit).bind f).run s =
      if condition then (.error error, s) else (f ()).run s := by
  unfold throwIf
  split <;> rfl

@[simp] theorem run_orThrow_bind (value : Option α) (error : ε) (f : α → Prog σ Λ ε β) (s : σ) :
    ((orThrow value error : Prog σ Λ ε α).bind f).run s =
      match value with
      | some present => (f present).run s
      | none => (.error error, s) := by
  cases value <;> rfl

@[simp] theorem run_onlyIf_bind (condition : Prop) [Decidable condition]
    (body : Prog σ Λ ε Unit) (f : Unit → Prog σ Λ ε β) (s : σ) :
    ((onlyIf condition body).bind f).run s =
      if condition then (body.bind f).run s else (f ()).run s := by
  unfold onlyIf
  split <;> rfl

/-- A transaction that failed leaves nothing behind. -/
theorem runTx_error {p : Prog σ Λ ε α} {s after : σ} {error : ε}
    (failed : p.runTx s = (.error error, after)) : after = s := by
  unfold runTx at failed
  split at failed
  · cases failed
  · cases failed
    rfl

/-- A transaction succeeds exactly when its program does, and commits what that leaves. -/
theorem runTx_ok_iff {p : Prog σ Λ ε α} {s after : σ} {value : α} :
    p.runTx s = (.ok value, after) ↔ p.run s = (.ok value, after) := by
  unfold runTx
  rcases p.run s with ⟨_ | _, _⟩ <;> simp

theorem run_bind_of_ok {p : Prog σ Λ ε α} {f : α → Prog σ Λ ε β} {s final : σ} {value : α}
    (finished : p.run s = (.ok value, final)) : (p.bind f).run s = (f value).run final := by
  rw [run_bind, finished]

theorem run_recover (p : Prog σ Λ ε α) (handler : ε → Prog σ Λ ε α) (s : σ) :
    (p.recover handler).run s =
      match p.run s with
      | (.ok value, final) => (.ok value, final)
      | (.error error, final) => (handler error).run final := by
  induction p generalizing s with
  | ret value => rfl
  | fail error => rfl
  | stmt lock effect next ih => exact ih s (effect s)

theorem run_recover_of_ok {p : Prog σ Λ ε α} {s final : σ} {value : α}
    (finished : p.run s = (.ok value, final)) (handler : ε → Prog σ Λ ε α) :
    (p.recover handler).run s = (.ok value, final) := by
  rw [run_recover, finished]

theorem run_forEach {body : α → Prog σ Λ ε Unit} (round : σ → α → σ)
    (total : ∀ x s, (body x).run s = (.ok (), round s x)) (xs : List α) (s : σ) :
    (forEach xs body).run s = (.ok (), xs.foldl round s) := by
  induction xs generalizing s with
  | nil => rfl
  | cons x xs ih =>
      rw [forEach, run_bind_of_ok (total x s), ih]
      rfl

/-! ## Programs whose result is not looked at -/

def discard (p : Prog σ Λ ε α) : Prog σ Λ ε Unit := p.bind fun _ => .ret ()

@[simp] theorem run_discard (p : Prog σ Λ ε α) (s : σ) :
    p.discard.run s = ((p.run s).1.map fun _ => (), (p.run s).2) := by
  rw [discard, run_bind]
  rcases p.run s with ⟨_ | _, _⟩ <;> rfl

@[simp] theorem runTx_discard (p : Prog σ Λ ε α) (s : σ) :
    p.discard.runTx s = ((p.runTx s).1.map fun _ => (), (p.runTx s).2) := by
  simp only [runTx, run_discard]
  rcases p.run s with ⟨_ | _, _⟩ <;> rfl

end Prog

end Programs
