import Mathlib.Data.List.Flatten
import Mathlib.Data.List.Nodup

/-!
# Tables of keyed rows

A table is a list of rows with a key. `put` is what an insert or an update under
the key of a row does; it takes the place of every row with that key. A field
with several values in each row can be unique over the whole table, and a value
of such a field tells its row.
-/

set_option autoImplicit false

namespace Library.KeyedTable

variable {ρ κ φ : Type*} [DecidableEq κ] (key : ρ → κ)

def find (k : κ) (rows : List ρ) : Option ρ := rows.find? fun r => key r = k

def erase (k : κ) (rows : List ρ) : List ρ := rows.filter fun r => key r ≠ k

def put (r : ρ) (rows : List ρ) : List ρ := r :: erase key (key r) rows

theorem find_some (k : κ) (r : ρ) (rows : List ρ) (h : find key k rows = some r) :
    r ∈ rows ∧ key r = k :=
  ⟨List.mem_of_find?_eq_some h, by simpa using List.find?_some h⟩

@[simp] theorem mem_erase (k : κ) (r : ρ) (rows : List ρ) :
    r ∈ erase key k rows ↔ r ∈ rows ∧ key r ≠ k := by
  simp [erase]

@[simp] theorem mem_put (r s : ρ) (rows : List ρ) :
    s ∈ put key r rows ↔ s = r ∨ s ∈ rows ∧ key s ≠ key r := by
  simp [put]

@[simp] theorem find_put_same (r : ρ) (rows : List ρ) :
    find key (key r) (put key r rows) = some r := by
  simp [find, put]

theorem find_cons (k : κ) (r : ρ) (rows : List ρ) :
    find key k (r :: rows) = if key r = k then some r else find key k rows := by
  by_cases h : key r = k <;> simp [find, h]

theorem erase_cons (k : κ) (r : ρ) (rows : List ρ) :
    erase key k (r :: rows) = if key r = k then erase key k rows else r :: erase key k rows := by
  by_cases h : key r = k <;> simp [erase, h]

theorem find_erase_same (k : κ) (rows : List ρ) : find key k (erase key k rows) = none := by
  apply List.find?_eq_none.mpr
  intro r mem
  simpa using (List.mem_filter.mp mem).2

theorem find_erase_other (j k : κ) (rows : List ρ) (h : j ≠ k) :
    find key k (erase key j rows) = find key k rows := by
  induction rows with
  | nil => rfl
  | cons r rows ih =>
    rw [erase_cons, find_cons]
    by_cases hj : key r = j
    · have hk : key r ≠ k := fun e => h (hj.symm.trans e)
      rw [if_pos hj, if_neg hk, ih]
    · rw [if_neg hj, find_cons, ih]

theorem find_put_other (k : κ) (r : ρ) (rows : List ρ) (h : key r ≠ k) :
    find key k (put key r rows) = find key k rows := by
  rw [put, find_cons, if_neg h, find_erase_other key (key r) k rows h]

section Unique

variable (field : ρ → List φ)

def UniqueBy (rows : List ρ) : Prop := (rows.flatMap field).Nodup

instance [DecidableEq φ] (rows : List ρ) : Decidable (UniqueBy field rows) :=
  inferInstanceAs (Decidable (List.Nodup _))

theorem eq_of_uniqueBy (rows : List ρ) (h : UniqueBy field rows) (r s : ρ) (hr : r ∈ rows)
    (hs : s ∈ rows) (x : φ) (hxr : x ∈ field r) (hxs : x ∈ field s) : r = s := by
  induction rows with
  | nil => cases hr
  | cons t rows ih =>
    unfold UniqueBy at h
    rw [List.flatMap_cons, List.nodup_append] at h
    obtain ⟨-, rest, apart⟩ := h
    rcases List.mem_cons.mp hr with er | er
    · rcases List.mem_cons.mp hs with es | es
      · exact er.trans es.symm
      · rw [er] at hxr
        exact absurd rfl (apart x hxr x (List.mem_flatMap.mpr ⟨s, es, hxs⟩))
    · rcases List.mem_cons.mp hs with es | es
      · rw [es] at hxs
        exact absurd rfl (apart x hxs x (List.mem_flatMap.mpr ⟨r, er, hxr⟩))
      · exact ih rest er es

theorem uniqueBy_erase (k : κ) (rows : List ρ) (h : UniqueBy field rows) :
    UniqueBy field (erase key k rows) :=
  h.sublist (List.filter_sublist.flatMap field)

/-- With unique keys, a look-up finds exactly the row of that key. -/
theorem find_eq_some_iff (rows : List ρ) (h : UniqueBy (fun r => [key r]) rows) (k : κ) (r : ρ) :
    find key k rows = some r ↔ r ∈ rows ∧ key r = k := by
  constructor
  · exact find_some key k r rows
  · rintro ⟨hr, rfl⟩
    cases hf : find key (key r) rows with
    | none =>
      have none_found := List.find?_eq_none.mp hf r hr
      simp at none_found
    | some s =>
      obtain ⟨hs, hk⟩ := find_some key _ s rows hf
      rw [eq_of_uniqueBy _ rows h s r hs hr (key r) (by simp [hk]) (by simp)]

/-- With unique keys, a row can be brought to the front of its table. -/
theorem perm_cons_erase (rows : List ρ) (h : UniqueBy (fun r => [key r]) rows) (r : ρ)
    (hr : r ∈ rows) : rows.Perm (r :: erase key (key r) rows) := by
  induction rows with
  | nil => cases hr
  | cons s rows ih =>
    unfold UniqueBy at h
    rw [List.flatMap_cons, List.nodup_append] at h
    obtain ⟨-, rest, apart⟩ := h
    have other : ∀ t ∈ rows, key t ≠ key s := fun t ht e =>
      apart (key s) (by simp) (key t) (List.mem_flatMap.mpr ⟨t, ht, by simp⟩) e.symm
    rcases List.mem_cons.mp hr with rfl | tail
    · have kept : erase key (key r) rows = rows :=
        List.filter_eq_self.mpr fun t ht => by simpa using other t ht
      rw [erase_cons, if_pos rfl, kept]
    · rw [erase_cons, if_neg (fun e => other r tail e.symm)]
      exact ((ih rest tail).cons s).trans (List.Perm.swap r s _)

theorem uniqueBy_insert (rows : List ρ) (h : UniqueBy field rows) (new : ρ)
    (own : (field new).Nodup) (apart : ∀ r ∈ rows, ∀ x ∈ field new, x ∉ field r) :
    UniqueBy field (put key new rows) := by
  unfold UniqueBy put
  rw [List.flatMap_cons, List.nodup_append]
  refine ⟨own, uniqueBy_erase key field (key new) rows h, ?_⟩
  rintro x hx y hy rfl
  obtain ⟨r, hr, held⟩ := List.mem_flatMap.mp hy
  exact apart r ((mem_erase _ _ _ _).mp hr).1 x hx held

/-- A row that takes the place of another keeps a field unique that it keeps. -/
theorem uniqueBy_put (rows : List ρ) (keys : UniqueBy (fun r => [key r]) rows)
    (h : UniqueBy field rows) (old new : ρ) (hold : old ∈ rows) (hkey : key new = key old)
    (hfield : field new = field old) : UniqueBy field (put key new rows) := by
  have front := (perm_cons_erase key rows keys old hold).flatMap_right field
  unfold UniqueBy put at *
  rw [hkey, List.flatMap_cons, hfield, ← List.flatMap_cons]
  exact front.nodup_iff.mp h

end Unique

end Library.KeyedTable
