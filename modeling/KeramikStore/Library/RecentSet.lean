import Mathlib.Data.List.Nodup

/-!
# The newest distinct elements, up to a capacity

A recent set keeps its elements in the order in which they were added. An element that is
there already keeps its place; a new one goes to the end, and the oldest one leaves where
there are too many. An element that is not there comes back only when it is added.
-/

set_option autoImplicit false

namespace Library

structure RecentSet (α : Type*) (capacity : ℕ) where
  items : List α
  nodup : items.Nodup
  bounded : items.length ≤ capacity

namespace RecentSet

variable {α : Type*} {capacity : ℕ}

def newest (capacity : ℕ) (xs : List α) : List α := xs.drop (xs.length - capacity)

theorem newest_length (xs : List α) : (newest capacity xs).length ≤ capacity := by
  rw [newest, List.length_drop]
  omega

theorem newest_of_le (xs : List α) (room : xs.length ≤ capacity) : newest capacity xs = xs := by
  rw [newest, Nat.sub_eq_zero_of_le room, List.drop_zero]

theorem newest_full (x : α) (xs : List α) (full : xs.length = capacity) :
    newest capacity (x :: xs) = xs := by
  have one : (x :: xs).length - capacity = 1 := by simp [full]
  rw [newest, one, List.drop_one, List.tail_cons]

theorem last_mem_newest (room : 0 < capacity) (xs : List α) (x : α) :
    x ∈ newest capacity (xs ++ [x]) := by
  rw [newest, List.drop_append_of_le_length (by simp; omega)]
  exact List.mem_append_right _ List.mem_cons_self

variable [DecidableEq α]

def added (capacity : ℕ) (x : α) (xs : List α) : List α :=
  if x ∈ xs then xs else newest capacity (xs ++ [x])

def add (x : α) (s : RecentSet α capacity) : RecentSet α capacity where
  items := added capacity x s.items
  nodup := by
    unfold added
    split_ifs with present
    · exact s.nodup
    · exact (s.nodup.append (List.nodup_singleton x)
        (List.disjoint_singleton.mpr present)).sublist (List.drop_sublist _ _)
  bounded := by
    unfold added
    split_ifs
    · exact s.bounded
    · exact newest_length _

def remove (x : α) (s : RecentSet α capacity) : RecentSet α capacity where
  items := s.items.filter (· != x)
  nodup := s.nodup.filter _
  bounded := Nat.le_trans (List.length_filter_le _ _) s.bounded

def leaving (capacity : ℕ) (x : α) (xs : List α) : List α :=
  if x ∈ xs ∨ xs.length < capacity then [] else xs.take 1

def empty : RecentSet α capacity := ⟨[], List.nodup_nil, Nat.zero_le _⟩

inductive Op (α : Type*) where
  | add (x : α)
  | remove (x : α)
  | clear

def apply (s : RecentSet α capacity) : Op α → RecentSet α capacity
  | .add x => s.add x
  | .remove x => s.remove x
  | .clear => empty

def applyAll (s : RecentSet α capacity) (ops : List (Op α)) : RecentSet α capacity :=
  ops.foldl apply s

variable (s : RecentSet α capacity) (x y : α)

theorem mem_add (room : 0 < capacity) : x ∈ (s.add x).items := by
  unfold add added
  dsimp only
  split_ifs with present
  · exact present
  · exact last_mem_newest room _ x

/-- An element that is not there after another was added was the oldest one. -/
theorem mem_add_or_leaving (h : y ∈ s.items) :
    y ∈ (s.add x).items ∨ y ∈ leaving capacity x s.items := by
  unfold add added leaving
  dsimp only
  by_cases present : x ∈ s.items
  · rw [if_pos present]
    exact Or.inl h
  · rw [if_neg present]
    by_cases room : s.items.length < capacity
    · rw [newest_of_le _ (by simp; omega)]
      exact Or.inl (List.mem_append_left _ h)
    · have full : s.items.length = capacity :=
        Nat.le_antisymm s.bounded (Nat.not_lt.mp room)
      rw [if_neg (not_or.mpr ⟨present, room⟩)]
      cases items : s.items with
      | nil => exact absurd (items ▸ h) List.not_mem_nil
      | cons first rest =>
        rw [items] at h full
        rw [List.cons_append, newest_full _ _ (by simpa using full)]
        rcases List.mem_cons.mp h with rfl | later
        · exact Or.inr List.mem_cons_self
        · exact Or.inl (List.mem_append_left _ later)

theorem mem_of_mem_add (h : y ∈ (s.add x).items) : y ∈ s.items ∨ y = x := by
  unfold add added at h
  dsimp only at h
  split_ifs at h
  · exact Or.inl h
  · have : y ∈ s.items ++ [x] := List.mem_of_mem_drop h
    simpa using this

theorem mem_of_mem_apply (op : Op α) (h : y ∈ (s.apply op).items) : y ∈ s.items ∨ op = .add y := by
  cases op with
  | add x => exact (mem_of_mem_add s x y h).imp_right fun same => by rw [same]
  | remove x => exact Or.inl (List.mem_of_mem_filter h)
  | clear => exact absurd h List.not_mem_nil

theorem absent_until_added (ops : List (Op α)) (absent : y ∉ s.items) (never : .add y ∉ ops) :
    y ∉ (s.applyAll ops).items := by
  induction ops generalizing s with
  | nil => exact absent
  | cons op ops ih =>
    refine ih (s.apply op) (fun h => ?_) fun h => never (List.mem_cons_of_mem op h)
    rcases mem_of_mem_apply s y op h with before | rfl
    · exact absent before
    · exact never List.mem_cons_self

end RecentSet

end Library
