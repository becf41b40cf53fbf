import VolunteerApi.Programs.Rely
import VolunteerApi.Programs.Sessions

/-!
# What a program guarantees while others write

`p.Guarantees rely guar Post s` says that every statement of `p` moves the store along `guar`,
whichever way the others move it along `rely` between two statements, and that `Post` holds of
the result and the store at the end.  `Stays` is the case in which no statement depends on what
was read.

Sessions that rely on a preorder, and each guarantee a part of it, move the store in every schedule
along what those guarantee that are in it.
-/

set_option autoImplicit false

namespace Programs

namespace Prog

variable {σ Λ ε α β : Type}

def Guarantees (rely guar : σ → σ → Prop) (Post : α → σ → Prop) : Prog σ Λ ε α → σ → Prop
  | .ret value, s => Post value s
  | .fail _, _ => True
  | .stmt _ effect next, s =>
      ∀ later, rely s later →
        guar later (effect later) ∧ Guarantees rely guar Post (next later) (effect later)

/-- Every statement moves every store along `guar`. -/
def Stays (guar : σ → σ → Prop) (p : Prog σ Λ ε α) : Prop :=
  p.Writes fun effect => ∀ s, guar s (effect s)

variable {rely guar : σ → σ → Prop} {Post : α → σ → Prop} {s : σ}

theorem Guarantees.bind {M : α → σ → Prop} {Post : β → σ → Prop} {p : Prog σ Λ ε α}
    {f : α → Prog σ Λ ε β} (first : p.Guarantees rely guar M s)
    (rest : ∀ value now, M value now → (f value).Guarantees rely guar Post now) :
    (p.bind f).Guarantees rely guar Post s := by
  induction p generalizing s with
  | ret value => exact rest value s first
  | fail error => trivial
  | stmt lock effect next ih =>
      intro later along
      obtain ⟨moved, remaining⟩ := first later along
      exact ⟨moved, ih later remaining⟩

theorem Guarantees.mono {Weaker : α → σ → Prop} {wider : σ → σ → Prop} {p : Prog σ Λ ε α}
    (guarantees : p.Guarantees rely guar Post s) (widens : ∀ a b, guar a b → wider a b)
    (weaker : ∀ value now, Post value now → Weaker value now) :
    p.Guarantees rely wider Weaker s := by
  induction p generalizing s with
  | ret value => exact weaker value s guarantees
  | fail error => trivial
  | stmt lock effect next ih =>
      intro later along
      obtain ⟨moved, remaining⟩ := guarantees later along
      exact ⟨widens _ _ moved, ih later remaining⟩

theorem Stays.mono {wider : σ → σ → Prop} {p : Prog σ Λ ε α} (stays : p.Stays guar)
    (widens : ∀ a b, guar a b → wider a b) : p.Stays wider := by
  induction p with
  | ret value => trivial
  | fail error => trivial
  | stmt lock effect next ih => exact ⟨fun a => widens _ _ (stays.1 a), fun a => ih a (stays.2 a)⟩

theorem Stays.guarantees {p : Prog σ Λ ε α} (stays : p.Stays guar) (s : σ) :
    p.Guarantees rely guar (fun _ _ => True) s := by
  induction p generalizing s with
  | ret value => trivial
  | fail error => trivial
  | stmt lock effect next ih =>
      intro later _
      exact ⟨stays.1 later, ih later (stays.2 later) (effect later)⟩

theorem Guarantees.run (reflRely : ∀ a, rely a a) (refl : ∀ a, guar a a)
    (trans : ∀ a b c, guar a b → guar b c → guar a c) {p : Prog σ Λ ε α}
    (guarantees : p.Guarantees rely guar Post s) : guar s (p.run s).2 := by
  induction p generalizing s with
  | ret value => exact refl s
  | fail error => exact refl s
  | stmt lock effect next ih =>
      obtain ⟨moved, remaining⟩ := guarantees s (reflRely s)
      exact trans _ _ _ moved (ih s remaining)

/-! ## What a session holds in memory

A program that has read rows relies on what it knows of them from then on. -/

/-- Along `guar`, as long as `known` holds. -/
def While (known : σ → Prop) (guar : σ → σ → Prop) (a b : σ) : Prop := known a → guar a b

section While

variable {known : σ → Prop}

theorem Stays.while {p : Prog σ Λ ε α} (stays : p.Stays guar) : p.Stays (While known guar) :=
  stays.mono fun _ _ moved _ => moved

theorem Stays.weaken {weaker : σ → Prop} {p : Prog σ Λ ε α} (stays : p.Stays (While weaker guar))
    (implied : ∀ a, known a → weaker a) : p.Stays (While known guar) :=
  stays.mono fun _ _ moved knows => moved (implied _ knows)

/-- What others and the program itself do leaves intact what is known. -/
theorem Stays.guarantees_while (others : ∀ a b, known a → rely a b → known b)
    (own : ∀ a b, known a → guar a b → known b) {p : Prog σ Λ ε α}
    (stays : p.Stays (While known guar)) (knows : known s) :
    p.Guarantees rely guar (fun _ _ => True) s := by
  induction p generalizing s with
  | ret value => trivial
  | fail error => trivial
  | stmt lock effect next ih =>
      intro later along
      have still : known later := others _ _ knows along
      have moved : guar later (effect later) := stays.1 later still
      exact ⟨moved, ih later (stays.2 later) (own _ _ still moved)⟩

/-- The same in a transaction that has written `pending`: what it commits moves the store along
`guar`, wherever the others have moved it by then. -/
theorem Stays.ensures_while (trans : ∀ a b c, guar a b → guar b c → guar a c)
    (others : ∀ a b, known a → rely a b → known b) (own : ∀ a b, known a → guar a b → known b)
    {p : Prog σ Λ ε α} (stays : p.Stays (While known guar)) {pending : σ → σ}
    (written : ∀ a, known a → guar a (pending a)) (knows : known s) :
    p.Ensures rely (fun _ after now => ∀ later, rely now later → guar later (after later))
      pending s := by
  induction p generalizing pending s with
  | ret value => exact fun later along => written later (others _ _ knows along)
  | fail error => trivial
  | stmt lock effect next ih =>
      intro later along
      refine ih (pending later) (stays.2 (pending later)) ?_ (others _ _ knows along)
      intro a knownHere
      have before := written a knownHere
      exact trans _ _ _ before (stays.1 (pending a) (own _ _ knownHere before))

end While

theorem Stays.run (refl : ∀ a, guar a a) (trans : ∀ a b c, guar a b → guar b c → guar a c)
    {p : Prog σ Λ ε α} (stays : p.Stays guar) (s : σ) : guar s (p.run s).2 := by
  have guarantees : p.Guarantees (fun _ _ => True) guar (fun _ _ => True) s := stays.guarantees s
  exact guarantees.run (fun _ => trivial) refl trans

theorem Guarantees.discard {p : Prog σ Λ ε α} (guarantees : p.Guarantees rely guar Post s) :
    p.discard.Guarantees rely guar (fun _ _ => True) s :=
  guarantees.bind fun _ _ _ => trivial

theorem Stays.discard {p : Prog σ Λ ε α} (stays : p.Stays guar) : p.discard.Stays guar :=
  Writes.bind stays fun _ => trivial

theorem Ensures.mono {Post Weaker : α → (σ → σ) → σ → Prop} {p : Prog σ Λ ε α} {pending : σ → σ}
    (ensures : p.Ensures rely Post pending s)
    (weaker : ∀ value written now, Post value written now → Weaker value written now) :
    p.Ensures rely Weaker pending s := by
  induction p generalizing pending s with
  | ret value => exact weaker value pending s ensures
  | fail error => trivial
  | stmt lock effect next ih => exact fun later along => ih (pending later) (ensures later along)

theorem Ensures.runTx (reflRely : ∀ a, rely a a) (refl : ∀ a, guar a a) {p : Prog σ Λ ε α}
    (ensures : p.Ensures rely
      (fun _ written now => ∀ later, rely now later → guar later (written later)) id s) :
    guar s (p.runTx s).2 := by
  have commits : ∀ (p : Prog σ Λ ε α) (pending : σ → σ), p.Ensures rely
      (fun _ written now => ∀ later, rely now later → guar later (written later)) pending s →
      ∀ value final, p.run (pending s) = (.ok value, final) → guar s final := by
    intro p
    induction p with
    | ret value =>
        intro pending ended _ final finished
        cases finished
        exact ended s (reflRely s)
    | fail error =>
        intro pending _ _ final finished
        cases finished
    | stmt lock effect next ih =>
        intro pending ended value final finished
        exact ih (pending s) (effect ∘ pending) (ended s (reflRely s)) value final finished
  rw [Prog.runTx]
  split
  · exact commits p id ensures _ _ ‹_›
  · exact refl s

/-! ## The statements -/

section Statements

variable {f : β → Prog σ Λ ε α}

theorem guarantees_query_bind (refl : ∀ a, guar a a) {read : σ → β}
    (rest : ∀ later, rely s later → (f (read later)).Guarantees rely guar Post later) :
    ((query read).bind f).Guarantees rely guar Post s :=
  fun later along => ⟨refl later, rest later along⟩

theorem guarantees_orThrow_bind {value : Option β} {error : ε}
    (rest : ∀ present, value = some present → (f present).Guarantees rely guar Post s) :
    ((orThrow value error).bind f).Guarantees rely guar Post s := by
  cases value with
  | none => trivial
  | some present => exact rest present rfl

theorem guarantees_throwIf_bind {condition : Prop} [Decidable condition] {error : ε}
    {f : Unit → Prog σ Λ ε α} (rest : ¬ condition → (f ()).Guarantees rely guar Post s) :
    ((throwIf condition error).bind f).Guarantees rely guar Post s := by
  by_cases refused : condition
  · rw [throwIf, if_pos refused]
    trivial
  · rw [throwIf, if_neg refused]
    exact rest refused

theorem guarantees_found_bind (refl : ∀ a, guar a a) {read : σ → Option β} {error : ε}
    (rest : ∀ later, rely s later → ∀ present, read later = some present →
      (f present).Guarantees rely guar Post later) :
    ((query read).bind fun found => (orThrow found error).bind f).Guarantees rely guar Post s :=
  guarantees_query_bind refl fun later along =>
    guarantees_orThrow_bind fun present found => rest later along present found

theorem guarantees_execOr (refl : ∀ a, guar a a) {error : ε} {effect : σ → Option (σ × α)}
    (moves : ∀ later, rely s later → ∀ result, effect later = some result →
      guar later result.1 ∧ Post result.2 result.1) :
    (execOr error effect : Prog σ Λ ε α).Guarantees rely guar Post s := by
  intro later along
  dsimp only
  cases hit : effect later with
  | none => exact ⟨refl later, trivial⟩
  | some result => exact moves later along result hit

end Statements

/-! ## Statements that depend on nothing -/

section Stays

variable {f : β → Prog σ Λ ε α}

@[simp] theorem stays_ret (value : α) : (Prog.ret value : Prog σ Λ ε α).Stays guar := trivial

@[simp] theorem stays_fail (error : ε) : (Prog.fail error : Prog σ Λ ε α).Stays guar := trivial

theorem Stays.bind {p : Prog σ Λ ε β} (first : p.Stays guar) (rest : ∀ value, (f value).Stays guar) :
    (p.bind f).Stays guar := Writes.bind first rest

theorem Stays.recover {p : Prog σ Λ ε α} {handler : ε → Prog σ Λ ε α} (body : p.Stays guar)
    (rest : ∀ error, (handler error).Stays guar) : (p.recover handler).Stays guar :=
  Writes.recover body rest

theorem stays_query (refl : ∀ a, guar a a) (read : σ → α) :
    (query read : Prog σ Λ ε α).Stays guar := writes_query refl

theorem stays_exec {effect : σ → σ} (moves : ∀ a, guar a (effect a)) :
    (exec effect : Prog σ Λ ε Unit).Stays guar := writes_exec moves

theorem stays_execReturning {effect : σ → σ} {read : σ → α} (moves : ∀ a, guar a (effect a)) :
    (execReturning effect read : Prog σ Λ ε α).Stays guar := ⟨moves, fun _ => trivial⟩

theorem stays_execOr (refl : ∀ a, guar a a) {error : ε} {effect : σ → Option (σ × α)}
    (moves : ∀ a result, effect a = some result → guar a result.1) :
    (execOr error effect : Prog σ Λ ε α).Stays guar := by
  apply writes_execOr
  intro a
  simp only
  cases hit : effect a with
  | none => exact refl a
  | some result => exact moves a result hit

theorem stays_throwIf {condition : Prop} [Decidable condition] {error : ε} :
    (throwIf condition error : Prog σ Λ ε Unit).Stays guar := writes_throwIf

theorem stays_throwIf_bind {condition : Prop} [Decidable condition] {error : ε}
    {f : Unit → Prog σ Λ ε α} (rest : ¬ condition → (f ()).Stays guar) :
    ((throwIf condition error).bind f).Stays guar := by
  by_cases refused : condition
  · rw [throwIf, if_pos refused]
    trivial
  · rw [throwIf, if_neg refused]
    exact rest refused

theorem stays_found_bind (refl : ∀ a, guar a a) {read : σ → Option β} {error : ε}
    (rest : ∀ a present, read a = some present → (f present).Stays guar) :
    ((query read).bind fun found => (orThrow found error).bind f).Stays guar := by
  have rests (a : σ) (found : Option β) (here : read a = found) :
      ((orThrow found error).bind f).Stays guar := by
    cases found with
    | none => trivial
    | some present => exact rest a present here
  exact ⟨refl, fun a => rests a (read a) rfl⟩

theorem stays_orThrow {value : Option α} {error : ε} :
    (orThrow value error : Prog σ Λ ε α).Stays guar := by
  cases value <;> trivial

theorem stays_onlyIf {condition : Prop} [Decidable condition] {body : Prog σ Λ ε Unit}
    (stays : body.Stays guar) : (onlyIf condition body).Stays guar := writes_onlyIf stays

theorem stays_forEach {xs : List β} {body : β → Prog σ Λ ε Unit}
    (stays : ∀ x, (body x).Stays guar) : (forEach xs body).Stays guar := by
  induction xs with
  | nil => trivial
  | cons x rest ih => exact (stays x).bind fun _ => ih

end Stays

end Prog

/-! ## Sessions that guarantee more than they rely on -/

/-- What a session has yet to do moves the store along `guar`; a transaction does so as a whole. -/
def Session.Keeps {σ Λ ε α : Type} (rely guar : σ → σ → Prop) (s : σ) :
    Session σ Λ ε α → Prop
  | .auto rest => rest.Guarantees rely guar (fun _ _ => True) s
  | .tx rest pending =>
      rest.Ensures rely (fun _ written now => ∀ later, rely now later → guar later (written later))
        pending s
  | .done _ => True

theorem Session.Keeps.stable {σ Λ ε α : Type} {rely guar : σ → σ → Prop} {s later : σ}
    (trans : ∀ a b c, rely a b → rely b c → rely a c) {session : Session σ Λ ε α}
    (keeps : session.Keeps rely guar s) (along : rely s later) :
    session.Keeps rely guar later := by
  cases session with
  | done result => trivial
  | tx rest pending =>
      refine Prog.Ensures.stable (fun {a b c} => trans a b c) ?_ keeps along
      intro _ _ _ _ commits moved further movedFurther
      exact commits further (trans _ _ _ moved movedFurther)
  | auto rest =>
      cases rest with
      | ret value => trivial
      | fail error => trivial
      | stmt lock effect next =>
          intro further movedFurther
          exact keeps further (trans _ _ _ along movedFurther)

namespace Sessions

variable {ι σ Λ ε α : Type} [DecidableEq ι] [DecidableEq Λ] {rely : σ → σ → Prop}
  {guar : ι → σ → σ → Prop}

/-- Every session keeps to its own `guar`, as long as the others keep to `rely`. -/
def Cooperative (rely : σ → σ → Prop) (guar : ι → σ → σ → Prop) (c : Sessions ι σ Λ ε α) : Prop :=
  ∀ i, (c.session i).Keeps rely (guar i) c.store

omit [DecidableEq Λ] in
theorem Cooperative.moved (trans : ∀ a b c, rely a b → rely b c → rely a c)
    {c : Sessions ι σ Λ ε α} (cooperative : Cooperative rely guar c) {i : ι} {store : σ}
    {session : Session σ Λ ε α} (holder : Λ → Option ι) (along : rely c.store store)
    (keeps : session.Keeps rely (guar i) store) :
    Cooperative rely guar
      { store := store, session := Function.update c.session i session, holder := holder } := by
  intro j
  by_cases same : j = i
  · subst same
    simpa using keeps
  · simpa [same] using (cooperative j).stable trans along

section Schedules

variable (refl : ∀ a, rely a a) (trans : ∀ a b c, rely a b → rely b c → rely a c)
  (reflexive : ∀ i a, guar i a a) (allowed : ∀ i a b, guar i a b → rely a b)

include refl trans reflexive allowed

theorem step_cooperative {c : Sessions ι σ Λ ε α} (cooperative : Cooperative rely guar c)
    (i : ι) : guar i c.store (c.step i).store ∧ Cooperative rely guar (c.step i) := by
  have moves := c.step_moves i
  have keeps := cooperative i
  generalize c.step i = later at moves
  cases moves with
  | stays => exact ⟨reflexive i _, cooperative⟩
  | returns value here => exact ⟨reflexive i _, cooperative.moved trans _ (refl _) trivial⟩
  | throws error here => exact ⟨reflexive i _, cooperative.moved trans _ (refl _) trivial⟩
  | aborts error pending here => exact ⟨reflexive i _, cooperative.moved trans _ (refl _) trivial⟩
  | executes lock effect next here free =>
      rw [here] at keeps
      obtain ⟨along, remaining⟩ := keeps c.store (refl _)
      exact ⟨along, cooperative.moved trans _ (allowed i _ _ along) remaining⟩
  | commits value pending here =>
      rw [here] at keeps
      have along : guar i c.store (pending c.store) := keeps c.store (refl _)
      exact ⟨along, cooperative.moved trans _ (allowed i _ _ along) trivial⟩
  | stages lock effect next pending here free =>
      rw [here] at keeps
      exact ⟨reflexive i _, cooperative.moved trans _ (refl _) (keeps c.store (refl _))⟩

/-- Whatever the schedule, the store moves along what the sessions in it keep to. -/
theorem execute_cooperative {along : σ → σ → Prop} (start : ∀ a, along a a)
    (further : ∀ a b c, along a b → along b c → along a c) {c : Sessions ι σ Λ ε α}
    (cooperative : Cooperative rely guar c) (schedule : List ι)
    (within : ∀ i ∈ schedule, ∀ a b, guar i a b → along a b) :
    along c.store (execute step c schedule).store ∧
      Cooperative rely guar (execute step c schedule) := by
  induction schedule generalizing c with
  | nil => exact ⟨start _, cooperative⟩
  | cons i rest ih =>
      obtain ⟨moved, still⟩ := step_cooperative refl trans reflexive allowed cooperative i
      obtain ⟨later, ends⟩ := ih still fun j inside => within j (List.mem_cons_of_mem i inside)
      exact ⟨further _ _ _ (within i List.mem_cons_self _ _ moved) later, ends⟩

end Schedules

end Sessions

end Programs
