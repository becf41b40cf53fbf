import Mathlib.Logic.Function.Basic
import VolunteerApi.Programs.Prog
import VolunteerApi.Programs.Runs

/-!
# Sessions: programs interleaved statement by statement

Every session runs one program; a schedule says whose statement comes next.
Outside of a transaction a statement changes the store at once.  Inside of one
it reads the committed store under the session's own changes (READ COMMITTED),
the changes reach the store with the commit, and a program that fails leaves
nothing behind.  A statement on a locked row waits while another session holds
the lock; a transaction keeps its locks to its end.
-/

set_option autoImplicit false

namespace Programs

inductive Session (σ Λ ε α : Type) : Type
  | auto (rest : Prog σ Λ ε α)
  /-- `pending` is what the transaction has written so far. -/
  | tx (rest : Prog σ Λ ε α) (pending : σ → σ)
  | done (result : Except ε α)

def Session.finished {σ Λ ε α : Type} : Session σ Λ ε α → Bool
  | .done _ => true
  | _ => false

structure Sessions (ι σ Λ ε α : Type) where
  store : σ
  session : ι → Session σ Λ ε α
  holder : Λ → Option ι

namespace Sessions

variable {ι σ Λ ε α : Type} [DecidableEq ι] [DecidableEq Λ]

/-- Another session holds the lock. -/
def Blocked (c : Sessions ι σ Λ ε α) (i : ι) : Option Λ → Prop
  | none => False
  | some lock => c.holder lock ≠ none ∧ c.holder lock ≠ some i

instance (c : Sessions ι σ Λ ε α) (i : ι) : DecidablePred (c.Blocked i)
  | none => inferInstanceAs (Decidable False)
  | some _ => inferInstanceAs (Decidable (_ ∧ _))

def acquired (c : Sessions ι σ Λ ε α) (i : ι) : Option Λ → Λ → Option ι
  | none => c.holder
  | some lock => Function.update c.holder lock (some i)

def released (c : Sessions ι σ Λ ε α) (i : ι) : Λ → Option ι := fun lock =>
  if c.holder lock = some i then none else c.holder lock

/-- The next statement of session `i`; nothing happens when it waits or has finished. -/
def step (c : Sessions ι σ Λ ε α) (i : ι) : Sessions ι σ Λ ε α :=
  match c.session i with
  | .done _ => c
  | .auto (.ret value) => { c with session := Function.update c.session i (.done (.ok value)) }
  | .auto (.fail error) => { c with session := Function.update c.session i (.done (.error error)) }
  | .auto (.stmt lock effect next) =>
      if c.Blocked i lock then c
      else
        { c with
          store := effect c.store
          session := Function.update c.session i (.auto (next c.store)) }
  | .tx (.ret value) pending =>
      { store := pending c.store
        session := Function.update c.session i (.done (.ok value))
        holder := c.released i }
  | .tx (.fail error) _ =>
      { c with
        session := Function.update c.session i (.done (.error error))
        holder := c.released i }
  | .tx (.stmt lock effect next) pending =>
      if c.Blocked i lock then c
      else
        { c with
          session := Function.update c.session i (.tx (next (pending c.store)) (effect ∘ pending))
          holder := c.acquired i lock }

/-- All that a step can do. -/
inductive Moves (c : Sessions ι σ Λ ε α) (i : ι) : Sessions ι σ Λ ε α → Prop
  | stays : Moves c i c
  | returns (value : α) (here : c.session i = .auto (.ret value)) :
      Moves c i { c with session := Function.update c.session i (.done (.ok value)) }
  | throws (error : ε) (here : c.session i = .auto (.fail error)) :
      Moves c i { c with session := Function.update c.session i (.done (.error error)) }
  | executes (lock : Option Λ) (effect : σ → σ) (next : σ → Prog σ Λ ε α)
      (here : c.session i = .auto (.stmt lock effect next)) (free : ¬ c.Blocked i lock) :
      Moves c i
        { c with
          store := effect c.store
          session := Function.update c.session i (.auto (next c.store)) }
  | commits (value : α) (pending : σ → σ) (here : c.session i = .tx (.ret value) pending) :
      Moves c i
        { store := pending c.store
          session := Function.update c.session i (.done (.ok value))
          holder := c.released i }
  | aborts (error : ε) (pending : σ → σ) (here : c.session i = .tx (.fail error) pending) :
      Moves c i
        { c with
          session := Function.update c.session i (.done (.error error))
          holder := c.released i }
  | stages (lock : Option Λ) (effect : σ → σ) (next : σ → Prog σ Λ ε α) (pending : σ → σ)
      (here : c.session i = .tx (.stmt lock effect next) pending) (free : ¬ c.Blocked i lock) :
      Moves c i
        { c with
          session := Function.update c.session i (.tx (next (pending c.store)) (effect ∘ pending))
          holder := c.acquired i lock }

theorem step_moves (c : Sessions ι σ Λ ε α) (i : ι) : c.Moves i (c.step i) := by
  unfold step
  cases here : c.session i with
  | done result => exact .stays
  | auto rest =>
      cases rest with
      | ret value => exact .returns value here
      | fail error => exact .throws error here
      | stmt lock effect next =>
          by_cases blocked : c.Blocked i lock
          · simp only [if_pos blocked]
            exact .stays
          · simp only [if_neg blocked]
            exact .executes lock effect next here blocked
  | tx rest pending =>
      cases rest with
      | ret value => exact .commits value pending here
      | fail error => exact .aborts error pending here
      | stmt lock effect next =>
          by_cases blocked : c.Blocked i lock
          · simp only [if_pos blocked]
            exact .stays
          · simp only [if_neg blocked]
            exact .stages lock effect next pending here blocked

/-! ## Locks -/

section Locks

omit [DecidableEq Λ]

theorem released_ne (c : Sessions ι σ Λ ε α) (i : ι) (lock : Λ) :
    c.released i lock ≠ some i := by
  unfold released
  by_cases held : c.holder lock = some i
  · simp [held]
  · rw [if_neg held]
    exact held

theorem holder_of_released {c : Sessions ι σ Λ ε α} {i j : ι} {lock : Λ}
    (held : c.released i lock = some j) : c.holder lock = some j := by
  unfold released at held
  split at held
  · cases held
  · exact held

end Locks

omit [DecidableEq ι] in
theorem acquired_of_held {c : Sessions ι σ Λ ε α} {i : ι} {lock : Λ} (taken : Option Λ)
    (held : c.holder lock = some i) : c.acquired i taken lock = some i := by
  cases taken with
  | none => exact held
  | some other =>
      by_cases same : lock = other
      · subst same
        simp [acquired]
      · simpa [acquired, same] using held

omit [DecidableEq Λ] in
theorem free_lock {c : Sessions ι σ Λ ε α} {i j : ι} {lock : Λ} (free : ¬ c.Blocked i (some lock))
    (held : c.holder lock = some j) : j = i := by
  by_contra other
  refine free ⟨by simp [held], ?_⟩
  simpa [held] using other

omit [DecidableEq ι] in
theorem acquired_self (c : Sessions ι σ Λ ε α) (i : ι) (lock : Λ) :
    c.acquired i (some lock) lock = some i := by
  simp [acquired]

/-! ## Transactions that begin with the same lock

They run one after the other: whoever holds the lock sees a store that nobody
else changes, and leaves what it would leave when run alone. -/

section Serial

variable (program : ι → Prog σ Λ ε α) (s : σ)

/-- Every session is about to begin its transaction. -/
def opened : Sessions ι σ Λ ε α where
  store := s
  session i := .tx (program i) id
  holder _ := none

/-- Programs run one after the other, the last one first in the log. -/
inductive Serial : List (ι × Except ε α) → σ → Prop
  | start : Serial [] s
  | next {log : List (ι × Except ε α)} {before : σ} (earlier : Serial log before) (i : ι)
      (result : Except ε α) (after : σ) (unused : ∀ other, (i, other) ∉ log)
      (ran : (program i).runTx before = (result, after)) : Serial ((i, result) :: log) after

variable (lock : Λ)

def LocksFirst (p : Prog σ Λ ε α) : Prop := ∃ effect next, p = .stmt (some lock) effect next

/-- How far a session has come.  What the holder of the lock has yet to do
leads where its whole program leads from the committed store. -/
inductive Stage (c : Sessions ι σ Λ ε α) (i : ι) : Prop
  | waiting (here : c.session i = .tx (program i) id) (outside : c.holder lock ≠ some i)
  | running (rest : Prog σ Λ ε α) (pending : σ → σ) (here : c.session i = .tx rest pending)
      (inside : c.holder lock = some i)
      (agrees : rest.run (pending c.store) = (program i).run c.store)
  | finished (result : Except ε α) (here : c.session i = .done result)
      (outside : c.holder lock ≠ some i)

structure Serialized (c : Sessions ι σ Λ ε α) : Prop where
  log : ∃ log, Serial program s log c.store ∧
    ∀ i result, c.session i = .done result ↔ (i, result) ∈ log
  stage : ∀ i, Stage program lock c i

variable {program s lock}

omit [DecidableEq ι] [DecidableEq Λ] in
theorem opened_serialized : Serialized program s lock (opened program s) := by
  refine ⟨⟨[], .start, ?_⟩, ?_⟩
  · intro i result
    simp [opened]
  · intro i
    exact .waiting rfl (by simp [opened])

omit [DecidableEq ι] [DecidableEq Λ] in
theorem Stage.away {c later : Sessions ι σ Λ ε α} {j : ι} (stage : Stage program lock c j)
    (elsewhere : c.holder lock ≠ some j) (same : later.session j = c.session j)
    (outside : later.holder lock ≠ some j) : Stage program lock later j := by
  cases stage with
  | waiting here _ => exact .waiting (same.trans here) outside
  | running rest pending here inside agrees => exact absurd inside elsewhere
  | finished result here _ => exact .finished result (same.trans here) outside

omit [DecidableEq ι] [DecidableEq Λ] in
theorem Stage.not_auto {c : Sessions ι σ Λ ε α} {i : ι} (stage : Stage program lock c i)
    (rest : Prog σ Λ ε α) : c.session i ≠ .auto rest := by
  intro auto
  cases stage with
  | waiting here _ => rw [here] at auto; cases auto
  | running _ _ here _ _ => rw [here] at auto; cases auto
  | finished _ here _ => rw [here] at auto; cases auto

omit [DecidableEq ι] [DecidableEq Λ] in
theorem Stage.ending {c : Sessions ι σ Λ ε α} {i : ι} (stage : Stage program lock c i)
    (first : LocksFirst lock (program i)) {rest : Prog σ Λ ε α} {pending : σ → σ}
    (here : c.session i = .tx rest pending) (ends : ¬ LocksFirst lock rest) :
    c.holder lock = some i ∧ rest.run (pending c.store) = (program i).run c.store := by
  cases stage with
  | waiting begun _ =>
      rw [here] at begun
      cases begun
      exact absurd first ends
  | running _ _ begun inside agrees =>
      rw [here] at begun
      cases begun
      exact ⟨inside, agrees⟩
  | finished _ ended _ =>
      rw [here] at ended
      cases ended

omit [DecidableEq Λ] in
theorem Serialized.finish {c : Sessions ι σ Λ ε α} (serialized : Serialized program s lock c)
    {i : ι} (inside : c.holder lock = some i) (result : Except ε α) (after : σ)
    (ran : (program i).runTx c.store = (result, after)) (running : ∀ r, c.session i ≠ .done r) :
    Serialized program s lock
      { store := after
        session := Function.update c.session i (.done result)
        holder := c.released i } := by
  obtain ⟨⟨log, serial, entries⟩, stage⟩ := serialized
  refine ⟨⟨(i, result) :: log, .next serial i result after ?_ ran, ?_⟩, ?_⟩
  · intro other member
    exact running other ((entries i other).mpr member)
  · intro j other
    by_cases same : j = i
    · subst same
      have unused : (j, other) ∉ log := fun member => running other ((entries j other).mpr member)
      simp [unused, eq_comm]
    · simp [same, entries]
  · intro j
    by_cases same : j = i
    · subst same
      exact .finished result (by simp) (released_ne c j lock)
    · refine (stage j).away ?_ (by simp [same]) ?_
      · rw [inside]
        simpa using Ne.symm same
      · intro held
        rw [holder_of_released held] at inside
        cases inside
        exact same rfl

theorem Serialized.advance {c : Sessions ι σ Λ ε α} (serialized : Serialized program s lock c)
    {i : ι} (running : ∀ r, c.session i ≠ .done r) (taken : Option Λ)
    (inside : c.acquired i taken lock = some i)
    (alone : ∀ j, j ≠ i → c.holder lock ≠ some j) (rest : Prog σ Λ ε α) (pending : σ → σ)
    (agrees : rest.run (pending c.store) = (program i).run c.store) :
    Serialized program s lock
      { c with
        session := Function.update c.session i (.tx rest pending)
        holder := c.acquired i taken } := by
  obtain ⟨⟨log, serial, entries⟩, stage⟩ := serialized
  refine ⟨⟨log, serial, ?_⟩, ?_⟩
  · intro j result
    by_cases same : j = i
    · subst same
      have unused : (j, result) ∉ log :=
        fun member => running result ((entries j result).mpr member)
      simp [unused]
    · simp [same, entries]
  · intro j
    by_cases same : j = i
    · subst same
      exact .running rest pending (by simp) inside agrees
    · refine (stage j).away (alone j same) (by simp [same]) ?_
      change c.acquired i taken lock ≠ some j
      rw [inside]
      simpa using Ne.symm same

theorem step_serialized (first : ∀ i, LocksFirst lock (program i)) (c : Sessions ι σ Λ ε α)
    (i : ι) (serialized : Serialized program s lock c) :
    Serialized program s lock (c.step i) := by
  have stage := serialized.stage i
  have moves := c.step_moves i
  generalize c.step i = later at moves
  cases moves with
  | stays => exact serialized
  | returns value here => exact absurd here (stage.not_auto _)
  | throws error here => exact absurd here (stage.not_auto _)
  | executes taken effect next here free => exact absurd here (stage.not_auto _)
  | commits value pending here =>
      obtain ⟨inside, agrees⟩ := stage.ending (first i) here (by rintro ⟨_, _, same⟩; cases same)
      refine serialized.finish inside (.ok value) (pending c.store) ?_ (by simp [here])
      rw [Prog.runTx, ← agrees, Prog.run_ret]
  | aborts error pending here =>
      obtain ⟨inside, agrees⟩ := stage.ending (first i) here (by rintro ⟨_, _, same⟩; cases same)
      refine serialized.finish inside (.error error) c.store ?_ (by simp [here])
      rw [Prog.runTx, ← agrees, Prog.run_fail]
  | stages taken effect next pending here free =>
      have running : ∀ r, c.session i ≠ .done r := by simp [here]
      cases stage with
      | waiting begun outside =>
          obtain ⟨_, _, begins⟩ := first i
          rw [here, begins] at begun
          cases begun
          refine serialized.advance running _ (acquired_self c i lock) ?_ _ _ ?_
          · intro j other held
            exact other (free_lock free held)
          · rw [begins]
            rfl
      | running _ _ begun inside agrees =>
          rw [here] at begun
          cases begun
          refine serialized.advance running _ (acquired_of_held taken inside) ?_ _ _ agrees
          intro j other held
          rw [inside] at held
          cases held
          exact other rfl
      | finished result ended outside => exact absurd ended (running result)

/-- However the statements interleave, the finished transactions have run one
after the other, in some order, each with the result it would have had alone. -/
theorem serializable (first : ∀ i, LocksFirst lock (program i)) (schedule : List ι) :
    ∃ log, Serial program s log (execute step (opened program s) schedule).store ∧
      ∀ i result, (execute step (opened program s) schedule).session i = .done result ↔
        (i, result) ∈ log :=
  (execute_of_preserved (step_serialized first) opened_serialized schedule).log

omit [DecidableEq ι] [DecidableEq Λ] in
/-- The transactions that failed might as well not have run. -/
theorem Serial.successful {log : List (ι × Except ε α)} {after : σ}
    (serial : Serial program s log after) :
    Serial program s (log.filter fun entry => entry.2.toBool) after := by
  induction serial with
  | start => exact .start
  | next earlier i result after unused ran ih =>
      cases result with
      | ok value =>
          refine .next ih i (.ok value) after ?_ ran
          intro other member
          exact unused other (List.mem_of_mem_filter member)
      | error error =>
          have same : after = _ := Prog.runTx_error ran
          rw [same]
          exact ih

end Serial

end Sessions

end Programs
