import Mathlib.Algebra.BigOperators.Group.List.Basic
import Mathlib.Data.List.Nodup

/-!
# Lists of objects that a search finds

An object of a list is found by a predicate, and then changed in place or removed.
Where a key tells the objects apart, this is the same as changing, or filtering out,
what has the key of the object found, in any view of the list.
-/

set_option autoImplicit false

namespace Library.ObjectList

variable {α β κ : Type*} (p : α → Bool) (old new : α)

def replaceFirst (p : α → Bool) (new : α) : List α → List α
  | [] => []
  | x :: xs => if p x then new :: xs else x :: replaceFirst p new xs

theorem map_replaceFirst (f : α → β) (xs : List α) (found : xs.find? p = some old)
    (same : f new = f old) : (replaceFirst p new xs).map f = xs.map f := by
  induction xs with
  | nil => rfl
  | cons x xs ih =>
    by_cases here : p x = true
    · obtain rfl : x = old := by simpa [here] using found
      rw [replaceFirst, if_pos here, List.map_cons, List.map_cons, same]
    · rw [replaceFirst, if_neg here, List.map_cons, List.map_cons,
        ih (by simpa [here] using found)]

theorem sum_replaceFirst {M : Type*} [AddCommMonoid M] (f : α → M) (xs : List α)
    (found : xs.find? p = some old) :
    ((replaceFirst p new xs).map f).sum + f old = (xs.map f).sum + f new := by
  induction xs with
  | nil => cases found
  | cons x xs ih =>
    by_cases here : p x = true
    · obtain rfl : x = old := by simpa [here] using found
      rw [replaceFirst, if_pos here, List.map_cons, List.map_cons, List.sum_cons, List.sum_cons]
      ac_rfl
    · rw [replaceFirst, if_neg here, List.map_cons, List.map_cons, List.sum_cons, List.sum_cons,
        add_assoc, ih (by simpa [here] using found), add_assoc]

/-- Where the new object is one that the search finds, it is found, and the others stay. -/
theorem find_replaceFirst (finds : p new = true) (xs : List α) (found : xs.find? p = some old) :
    (replaceFirst p new xs).find? p = some new := by
  induction xs with
  | nil => cases found
  | cons x xs ih =>
    by_cases here : p x = true
    · rw [replaceFirst, if_pos here, List.find?_cons_of_pos finds]
    · rw [replaceFirst, if_neg here, List.find?_cons_of_neg here]
      exact ih (by simpa [here] using found)

theorem eraseP_replaceFirst (finds : p new = true) (xs : List α) :
    (replaceFirst p new xs).eraseP p = xs.eraseP p := by
  induction xs with
  | nil => rfl
  | cons x xs ih =>
    by_cases here : p x = true
    · rw [replaceFirst, if_pos here, List.eraseP_cons_of_pos finds, List.eraseP_cons_of_pos here]
    · rw [replaceFirst, if_neg here, List.eraseP_cons_of_neg here, List.eraseP_cons_of_neg here,
        ih]

section Keys

variable (key : α → κ)

theorem head_apart (x y : α) (xs : List α) (distinct : ((x :: xs).map key).Nodup)
    (mem : y ∈ xs) : key x ≠ key y := by
  intro same
  rw [List.map_cons, List.nodup_cons] at distinct
  exact distinct.1 (same ▸ List.mem_map_of_mem mem)

theorem replaceFirst_view (f : α → β) (g : β → β) (at_old : g (f old) = f new)
    (elsewhere : ∀ x, key x ≠ key old → g (f x) = f x) (xs : List α)
    (distinct : (xs.map key).Nodup) (found : xs.find? p = some old) :
    (replaceFirst p new xs).map f = (xs.map f).map g := by
  induction xs with
  | nil => rfl
  | cons x xs ih =>
    by_cases here : p x = true
    · obtain rfl : x = old := by simpa [here] using found
      have kept : ∀ y ∈ xs, (g ∘ f) y = f y := fun y mem =>
        elsewhere y (head_apart key x y xs distinct mem).symm
      rw [replaceFirst, if_pos here, List.map_cons, List.map_cons, List.map_cons, at_old,
        List.map_map, List.map_congr_left kept]
    · have rest : xs.find? p = some old := by simpa [here] using found
      have apart := head_apart key x old xs distinct (List.mem_of_find?_eq_some rest)
      rw [List.map_cons, List.nodup_cons] at distinct
      rw [replaceFirst, if_neg here, List.map_cons, List.map_cons, List.map_cons,
        elsewhere x apart, ih distinct.2 rest]

theorem eraseP_view (f : α → β) (q : β → Bool) (at_old : q (f old) = false)
    (elsewhere : ∀ x, key x ≠ key old → q (f x) = true) (xs : List α)
    (distinct : (xs.map key).Nodup) (found : xs.find? p = some old) :
    (xs.eraseP p).map f = (xs.map f).filter q := by
  induction xs with
  | nil => rfl
  | cons x xs ih =>
    by_cases here : p x = true
    · obtain rfl : x = old := by simpa [here] using found
      have kept : ∀ b ∈ xs.map f, q b = true := by
        intro b mem
        obtain ⟨y, hy, rfl⟩ := List.mem_map.mp mem
        exact elsewhere y (head_apart key x y xs distinct hy).symm
      rw [List.eraseP_cons_of_pos here, List.map_cons, List.filter_cons, at_old,
        if_neg Bool.false_ne_true, List.filter_eq_self.mpr kept]
    · have rest : xs.find? p = some old := by simpa [here] using found
      have apart := head_apart key x old xs distinct (List.mem_of_find?_eq_some rest)
      rw [List.map_cons, List.nodup_cons] at distinct
      rw [List.eraseP_cons_of_neg here, List.map_cons, List.map_cons, List.filter_cons,
        elsewhere x apart, if_pos rfl, ih distinct.2 rest]

end Keys

end Library.ObjectList
