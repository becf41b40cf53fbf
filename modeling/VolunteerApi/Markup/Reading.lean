import VolunteerApi.Markup.Escaping

/-!
# Reading marked-up text

A text is read from left to right.  `lt` begins a tag, which `gt` ends, and `amp` begins the
name of a character, which `semi` ends.  What is shown is a list of characters, each with the
elements that are open around it, the innermost one first.  A reading fails at an unknown tag
or name, at a `gt` outside of a tag, at a closing tag of another element than the innermost
one, and at the end of the text inside of a tag, a name or an element.

`Reads` describes a part of a text wherever it stands.
-/

set_option autoImplicit false

namespace Markup

variable {α ν : Type} [DecidableEq α] [DecidableEq ν]

inductive Tag (ν : Type) where
  | opening (element : ν)
  | closing (element : ν)
  deriving DecidableEq, Repr

/-- The four signs, and what stands between two of them. -/
structure Grammar (α ν : Type) where
  lt : α
  gt : α
  amp : α
  semi : α
  tag : List α → Option (Tag ν)
  character : List α → Option α

inductive Mode (α : Type) where
  | text
  | tag (read : List α)
  | character (read : List α)

structure State (α ν : Type) where
  mode : Mode α
  opened : List ν

abbrev Shown (α ν : Type) := List (α × List ν)

/-- The characters with the same elements around each of them. -/
def shownIn (opened : List ν) (text : List α) : Shown α ν := text.map fun c => (c, opened)

def Tag.enter (opened : List ν) : Tag ν → Option (List ν)
  | .opening element => some (element :: opened)
  | .closing element =>
      match opened with
      | innermost :: outer => if innermost = element then some outer else none
      | [] => none

namespace Grammar

variable (g : Grammar α ν)

def step (s : State α ν) (c : α) : Option (State α ν × Shown α ν) :=
  match s.mode with
  | .text =>
      if c = g.lt then some (⟨.tag [], s.opened⟩, [])
      else if c = g.amp then some (⟨.character [], s.opened⟩, [])
      else if c = g.gt then none
      else some (s, [(c, s.opened)])
  | .tag read =>
      if c = g.gt then
        (g.tag read).bind fun tag => (tag.enter s.opened).map fun opened => (⟨.text, opened⟩, [])
      else some (⟨.tag (read ++ [c]), s.opened⟩, [])
  | .character read =>
      if c = g.semi then (g.character read).map fun c => (⟨.text, s.opened⟩, [(c, s.opened)])
      else some (⟨.character (read ++ [c]), s.opened⟩, [])

def scan (s : State α ν) : List α → Option (Shown α ν)
  | [] =>
      match s.mode, s.opened with
      | .text, [] => some []
      | _, _ => none
  | c :: rest => (g.step s c).bind fun next => (scan next.1 rest).map fun shown => next.2 ++ shown

/-- What a reader makes of the text. -/
def read (text : List α) : Option (Shown α ν) := g.scan ⟨.text, []⟩ text

/-- The part of a text leads from these open elements to those, and shows this. -/
def Reads (before : List ν) (text : List α) (shown : Shown α ν) (after : List ν) : Prop :=
  ∀ rest, g.scan ⟨.text, before⟩ (text ++ rest) =
    (g.scan ⟨.text, after⟩ rest).map fun later => shown ++ later

/-- The character is none of the signs that a reader looks for between two tags. -/
def Plain (c : α) : Prop := c ≠ g.lt ∧ c ≠ g.amp ∧ c ≠ g.gt

instance (c : α) : Decidable (g.Plain c) := inferInstanceAs (Decidable (_ ∧ _))

variable {g}

theorem read_of_reads {text : List α} {shown : Shown α ν} (reads : g.Reads [] text shown []) :
    g.read text = some shown := by
  have ended := reads []
  rw [List.append_nil] at ended
  rw [read, ended]
  simp [scan]

/-! ## Parts of a text -/

theorem Reads.nil (opened : List ν) : g.Reads opened [] [] opened := by
  intro rest
  simp

theorem Reads.append {before middle after : List ν} {first second : List α}
    {left right : Shown α ν} (reads : g.Reads before first left middle)
    (later : g.Reads middle second right after) :
    g.Reads before (first ++ second) (left ++ right) after := by
  intro rest
  rw [List.append_assoc, reads, later, Option.map_map]
  exact congrArg (Option.map · _) (funext fun shown => (List.append_assoc left right shown).symm)

theorem reads_plain {opened : List ν} {c : α} (plain : g.Plain c) :
    g.Reads opened [c] [(c, opened)] opened := by
  intro rest
  obtain ⟨notLt, notAmp, notGt⟩ := plain
  simp [scan, step, notLt, notAmp, notGt]

theorem reads_text {opened : List ν} {text : List α} (plain : ∀ c ∈ text, g.Plain c) :
    g.Reads opened text (shownIn opened text) opened := by
  induction text with
  | nil => exact Reads.nil opened
  | cons c rest ih =>
      exact (reads_plain (plain c (by simp))).append (ih fun d inside => plain d (by simp [inside]))

theorem scan_tag {opened : List ν} (name rest read : List α) (inside : g.gt ∉ name) :
    g.scan ⟨.tag read, opened⟩ (name ++ rest) = g.scan ⟨.tag (read ++ name), opened⟩ rest := by
  induction name generalizing read with
  | nil => rw [List.nil_append, List.append_nil]
  | cons c later ih =>
      obtain ⟨notGt, inside⟩ := not_or.mp (mt List.mem_cons.mpr inside)
      have next : g.step ⟨.tag read, opened⟩ c = some (⟨.tag (read ++ [c]), opened⟩, []) :=
        if_neg (Ne.symm notGt)
      simp [scan, next, ih _ inside]

theorem scan_character {opened : List ν} (name rest read : List α) (inside : g.semi ∉ name) :
    g.scan ⟨.character read, opened⟩ (name ++ rest) =
      g.scan ⟨.character (read ++ name), opened⟩ rest := by
  induction name generalizing read with
  | nil => rw [List.nil_append, List.append_nil]
  | cons c later ih =>
      obtain ⟨notSemi, inside⟩ := not_or.mp (mt List.mem_cons.mpr inside)
      have next : g.step ⟨.character read, opened⟩ c = some (⟨.character (read ++ [c]), opened⟩, []) :=
        if_neg (Ne.symm notSemi)
      simp [scan, next, ih _ inside]

theorem reads_tag {before after : List ν} {name : List α} {tag : Tag ν} (inside : g.gt ∉ name)
    (known : g.tag name = some tag) (entered : tag.enter before = some after) :
    g.Reads before (g.lt :: (name ++ [g.gt])) [] after := by
  intro rest
  have start : g.step ⟨.text, before⟩ g.lt = some (⟨.tag [], before⟩, []) := if_pos rfl
  have stop : g.step ⟨.tag name, before⟩ g.gt = some (⟨.text, after⟩, []) := by
    simp [step, known, entered]
  simp [scan, start, scan_tag _ _ _ inside, stop]

theorem reads_character {opened : List ν} {name : List α} {c : α} (signs : g.amp ≠ g.lt)
    (inside : g.semi ∉ name) (known : g.character name = some c) :
    g.Reads opened (g.amp :: (name ++ [g.semi])) [(c, opened)] opened := by
  intro rest
  have start : g.step ⟨.text, opened⟩ g.amp = some (⟨.character [], opened⟩, []) := by
    simp [step, signs]
  have stop : g.step ⟨.character name, opened⟩ g.semi = some (⟨.text, opened⟩, [(c, opened)]) := by
    simp [step, known]
  simp [scan, start, scan_character _ _ _ inside, stop, Function.comp_def]

theorem Reads.within {opened : List ν} {element : ν} {opening closing inner : List α}
    {shown : Shown α ν} (reads : g.Reads (element :: opened) inner shown (element :: opened))
    (opens : g.gt ∉ opening ∧ g.tag opening = some (.opening element))
    (closes : g.gt ∉ closing ∧ g.tag closing = some (.closing element)) :
    g.Reads opened
      (g.lt :: (opening ++ [g.gt]) ++ inner ++ g.lt :: (closing ++ [g.gt])) shown opened := by
  have start : g.Reads opened (g.lt :: (opening ++ [g.gt])) [] (element :: opened) :=
    reads_tag opens.1 opens.2 rfl
  have stop : g.Reads (element :: opened) (g.lt :: (closing ++ [g.gt])) [] opened :=
    reads_tag closes.1 closes.2 (by simp [Tag.enter])
  simpa using (start.append reads).append stop

/-! ## Escaped texts -/

/-- The passes write the name of each character that they replace, and replace every sign. -/
structure EscapedBy (g : Grammar α ν) (passes : List (α × List α)) : Prop where
  ordered : Ordered passes
  signs : g.amp ≠ g.lt
  written : ∀ pass ∈ passes, ∃ name, pass.2 = g.amp :: (name ++ [g.semi]) ∧ g.semi ∉ name ∧
    g.character name = some pass.1
  replaced : ∀ c, (∀ pass ∈ passes, pass.1 ≠ c) → g.Plain c

theorem reads_substitute {passes : List (α × List α)} {opened : List ν}
    (signs : g.amp ≠ g.lt)
    (written : ∀ pass ∈ passes, ∃ name, pass.2 = g.amp :: (name ++ [g.semi]) ∧ g.semi ∉ name ∧
      g.character name = some pass.1) {c : α}
    (replaced : (∀ pass ∈ passes, pass.1 ≠ c) → g.Plain c) :
    g.Reads opened (substitute passes c) [(c, opened)] opened := by
  induction passes with
  | nil => exact reads_plain (replaced (by simp))
  | cons pass later ih =>
      rw [substitute]
      by_cases same : c = pass.1
      · rw [if_pos same]
        obtain ⟨name, written, inside, known⟩ := written pass (by simp)
        rw [written, same]
        exact reads_character signs inside known
      · rw [if_neg same]
        refine ih (fun other stands => written other (by simp [stands])) fun others => ?_
        refine replaced fun other stands => ?_
        rcases List.mem_cons.mp stands with rfl | stands
        · exact Ne.symm same
        · exact others other stands

/-- An escaped text is shown as it was typed, in whatever elements it stands. -/
theorem reads_escaped {passes : List (α × List α)} (escapes : g.EscapedBy passes)
    (opened : List ν) (text : List α) :
    g.Reads opened (replacePasses passes text) (shownIn opened text) opened := by
  rw [replacePasses_eq escapes.ordered]
  induction text with
  | nil => exact Reads.nil opened
  | cons c rest ih =>
      have here : g.Reads opened (substitute passes c) [(c, opened)] opened :=
        reads_substitute escapes.signs escapes.written (escapes.replaced c)
      exact here.append ih

end Grammar

end Markup
