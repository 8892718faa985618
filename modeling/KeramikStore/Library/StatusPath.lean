import Mathlib.Data.List.Basic

/-!
# Paths through a transition table

A component that announces each change of its status as a pair of statuses leaves
a list of pairs. The list is a path if every pair is allowed and starts where the
one before it ended.
-/

set_option autoImplicit false

namespace Library.StatusPath

variable {S : Type*} (allowed : S → S → Prop)

def Path : S → List (S × S) → S → Prop
  | s, [], t => s = t
  | s, (a, b) :: changes, t => a = s ∧ allowed a b ∧ Path b changes t

theorem path_append (s t : S) (first second : List (S × S)) :
    Path allowed s (first ++ second) t ↔
      ∃ u, Path allowed s first u ∧ Path allowed u second t := by
  induction first generalizing s with
  | nil => simp [Path]
  | cons change first ih =>
    obtain ⟨a, b⟩ := change
    simp [Path, ih, and_assoc]

theorem path_snoc (s t u : S) (changes : List (S × S)) (h : Path allowed s changes t)
    (change : allowed t u) : Path allowed s (changes ++ [(t, u)]) u :=
  (path_append allowed s u changes _).mpr ⟨t, h, rfl, change, rfl⟩

end Library.StatusPath
