import Mathlib.Logic.Function.Basic

/-!
# A registry with one entry for each owner

An owner may have any number of live sessions; the registry holds at most one session for
him.  It tracks the sessions when its entry is a live session of the owner, and an owner without
an entry has none.
-/

set_option autoImplicit false

namespace Relational

universe u v

variable {Owner : Type u} {Session : Type v}

/-- The entry of one owner, against his live sessions. -/
def EntryTracks (live : Session → Prop) : Option Session → Prop
  | some session => live session
  | none => ∀ session, ¬ live session

def Tracks (live : Owner → Session → Prop) (entry : Owner → Option Session) : Prop :=
  ∀ owner, EntryTracks (live owner) (entry owner)

variable {live after : Owner → Session → Prop} {entry : Owner → Option Session} {owner : Owner}

/-- Whoever has a live session is found at one, and nobody else is found. -/
theorem tracks_iff :
    Tracks live entry ↔
      (∀ owner, (∃ session, live owner session) →
          ∃ session, entry owner = some session ∧ live owner session) ∧
        ∀ owner, (∀ session, ¬ live owner session) → entry owner = none := by
  constructor
  · intro tracks
    refine ⟨?_, ?_⟩
    · rintro owner ⟨session, alive⟩
      have tracked := tracks owner
      cases found : entry owner with
      | none =>
          rw [found] at tracked
          exact absurd alive (tracked session)
      | some kept =>
          rw [found] at tracked
          exact ⟨kept, rfl, tracked⟩
    · intro owner none_
      have tracked := tracks owner
      cases found : entry owner with
      | none => rfl
      | some kept =>
          rw [found] at tracked
          exact absurd tracked (none_ kept)
  · rintro ⟨found, absent⟩ owner
    by_cases online : ∃ session, live owner session
    · obtain ⟨session, here, alive⟩ := found owner online
      rw [here]
      exact alive
    · have none_ : ∀ session, ¬ live owner session := not_exists.mp online
      rw [absent owner none_]
      exact none_

theorem tracks_congr (same : ∀ owner session, after owner session ↔ live owner session) :
    Tracks after entry ↔ Tracks live entry := by
  have alike : after = live := by
    funext owner session
    exact propext (same owner session)
  rw [alike]

/-- When the sessions of one owner change, and his entry with them, only his entry matters. -/
theorem tracks_update_iff [DecidableEq Owner] (tracks : Tracks live entry)
    (others : ∀ other, other ≠ owner → ∀ session, after other session ↔ live other session)
    (value : Option Session) :
    Tracks after (Function.update entry owner value) ↔ EntryTracks (after owner) value := by
  constructor
  · intro later
    have here := later owner
    rwa [Function.update_self] at here
  · intro here other
    by_cases same : other = owner
    · rw [same, Function.update_self]
      exact here
    · rw [Function.update_of_ne same]
      have alike : after other = live other := by
        funext session
        exact propext (others other same session)
      rw [alike]
      exact tracks other

end Relational
