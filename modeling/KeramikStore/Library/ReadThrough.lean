import Mathlib.Logic.Function.Basic

/-!
# A table read through a cache

A read looks under its key in the cache and queries the table after a miss; a row
that it finds it leaves under the key. A write changes the table and drops some of
the keys. Two reads may look under one key; all reads answer as the table does just
when every entry agrees with the queries of all reads that look under its key.
-/

set_option autoImplicit false

namespace Library.ReadThrough

variable {τ κ ν : Type*} [DecidableEq κ]

structure Store (τ κ ν : Type*) where
  table : τ
  cached : κ → Option ν

inductive Answer (ν : Type*) where
  | hit (v : ν)
  | fetched (row : Option ν)
deriving DecidableEq

def Answer.row {ν : Type*} : Answer ν → Option ν
  | hit v => some v
  | fetched row => row

def wrap (key : κ) (row : Option ν) (s : Store τ κ ν) : Answer ν × Store τ κ ν :=
  match s.cached key with
  | some v => (.hit v, s)
  | none => (.fetched row, { s with cached := Function.update s.cached key row })

def drop (keys : List κ) (cached : κ → Option ν) : κ → Option ν :=
  fun k => if k ∈ keys then none else cached k

theorem wrap_hit (key : κ) (row : Option ν) (s : Store τ κ ν) (v : ν)
    (h : s.cached key = some v) : wrap key row s = (.hit v, s) := by
  simp only [wrap, h]

theorem wrap_miss (key : κ) (row : Option ν) (s : Store τ κ ν) (h : s.cached key = none) :
    wrap key row s =
      (.fetched row, { s with cached := Function.update s.cached key row }) := by
  simp only [wrap, h]

@[simp] theorem wrap_table (key : κ) (row : Option ν) (s : Store τ κ ν) :
    (wrap key row s).2.table = s.table := by
  unfold wrap
  cases s.cached key <;> rfl

theorem wrap_filled (key : κ) (row : Option ν) (s : Store τ κ ν) :
    (wrap key row s).2.cached key = (wrap key row s).1.row := by
  cases hc : s.cached key with
  | some v =>
    rw [wrap_hit key row s v hc]
    exact hc
  | none =>
    rw [wrap_miss key row s hc]
    exact Function.update_self key row s.cached

@[simp] theorem drop_nil (cached : κ → Option ν) : drop [] cached = cached := by
  funext k
  simp [drop]

theorem drop_append (first rest : List κ) (cached : κ → Option ν) :
    drop (first ++ rest) cached = drop rest (drop first cached) := by
  funext k
  by_cases hf : k ∈ first <;> by_cases hr : k ∈ rest <;> simp [drop, hf, hr]

theorem drop_some_iff (keys : List κ) (cached : κ → Option ν) (k : κ) (v : ν) :
    drop keys cached k = some v ↔ k ∉ keys ∧ cached k = some v := by
  by_cases h : k ∈ keys <;> simp [drop, h]

section Entries

variable (P : κ → ν → Prop)

def Entries (s : Store τ κ ν) : Prop := ∀ k v, s.cached k = some v → P k v

theorem wrap_entries (key : κ) (row : Option ν) (s : Store τ κ ν) (h : Entries P s)
    (hrow : ∀ v, row = some v → P key v) : Entries P (wrap key row s).2 := by
  cases hc : s.cached key with
  | some v =>
    rw [wrap_hit key row s v hc]
    exact h
  | none =>
    rw [wrap_miss key row s hc]
    intro k v hv
    change Function.update s.cached key row k = some v at hv
    by_cases same : k = key
    · subst same
      rw [Function.update_self] at hv
      exact hrow v hv
    · rw [Function.update_of_ne same] at hv
      exact h k v hv

theorem drop_entries (keys : List κ) (s : Store τ κ ν) (h : Entries P s) :
    Entries P { s with cached := drop keys s.cached } := by
  intro k v hv
  exact h k v ((drop_some_iff keys s.cached k v).mp hv).2

end Entries

section Exact

variable {ι : Type*} (key : ι → κ) (query : ι → τ → Option ν)

def read (i : ι) (s : Store τ κ ν) : Answer ν × Store τ κ ν := wrap (key i) (query i s.table) s

def Coherent (s : Store τ κ ν) : Prop :=
  Entries (fun k v => ∀ i, key i = k → query i s.table = some v) s

/-- One read answers as the table does just when the entry that it takes agrees. -/
theorem read_row_iff (i : ι) (s : Store τ κ ν) :
    (read key query i s).1.row = query i s.table ↔
      ∀ v, s.cached (key i) = some v → query i s.table = some v := by
  unfold read
  cases hc : s.cached (key i) with
  | some v =>
    rw [wrap_hit _ _ s v hc]
    constructor
    · intro same w hw
      exact same.symm.trans hw
    · intro h
      exact (h v rfl).symm
  | none =>
    rw [wrap_miss _ _ s hc]
    constructor
    · intro _ v hv
      cases hv
    · intro _
      rfl

theorem read_exact_iff (s : Store τ κ ν) :
    (∀ i, (read key query i s).1.row = query i s.table) ↔ Coherent key query s := by
  constructor
  · rintro exact_reads k v hv i rfl
    exact (read_row_iff key query i s).mp (exact_reads i) v hv
  · intro h i
    exact (read_row_iff key query i s).mpr fun v hv => h (key i) v hv i rfl

theorem wrap_coherent (k : κ) (row : Option ν) (s : Store τ κ ν) (h : Coherent key query s)
    (hrow : ∀ i, key i = k → query i s.table = row) : Coherent key query (wrap k row s).2 := by
  unfold Coherent
  rw [wrap_table]
  exact wrap_entries _ k row s h fun v hv i hi => (hrow i hi).trans hv

theorem drop_coherent (keys : List κ) (s : Store τ κ ν) (h : Coherent key query s) :
    Coherent key query { s with cached := drop keys s.cached } :=
  drop_entries _ keys s h

/-- A write keeps the entries in agreement just when it drops those it changes. -/
theorem write_coherent_iff (keys : List κ) (s : Store τ κ ν) (t : τ) :
    Coherent key query ⟨t, drop keys s.cached⟩ ↔
      ∀ i v, key i ∉ keys → s.cached (key i) = some v → query i t = some v := by
  constructor
  · intro h i v kept hv
    exact h (key i) v ((drop_some_iff keys s.cached _ v).mpr ⟨kept, hv⟩) i rfl
  · rintro h k v hv i rfl
    obtain ⟨kept, hc⟩ := (drop_some_iff keys s.cached _ v).mp hv
    exact h i v kept hc

end Exact

end Library.ReadThrough
