import KeramikStore.Library.KeyedTable

/-!
# A store whose entries expire

An entry is written under a key, with or without a lifetime, and is found until
its time has come. What is held until a time is found at every earlier time, and
stays held whatever is done under other keys.
-/

set_option autoImplicit false

namespace Library.ExpiringStore
open Library.KeyedTable

variable {κ V : Type*} [DecidableEq κ]

structure Entry (κ V : Type*) where
  key : κ
  value : V
  expiresAt : Option ℕ
deriving DecidableEq

def Entry.live (now : ℕ) (e : Entry κ V) : Bool := e.expiresAt.all (now < ·)

def get (now : ℕ) (k : κ) (s : List (Entry κ V)) : Option V :=
  ((find Entry.key k s).filter (Entry.live now)).map Entry.value

def setFor (now lifetime : ℕ) (k : κ) (v : V) (s : List (Entry κ V)) :
    Option (List (Entry κ V)) :=
  if 0 < lifetime then some (put Entry.key ⟨k, v, some (now + lifetime)⟩ s) else none

inductive Change (κ V : Type*) where
  | write (e : Entry κ V)
  | remove (k : κ)

namespace Change

def key : Change κ V → κ
  | write e => e.key
  | remove k => k

def exec : Change κ V → List (Entry κ V) → List (Entry κ V)
  | write e, s => put Entry.key e s
  | remove k, s => erase Entry.key k s

theorem find_exec_other (c : Change κ V) (k : κ) (s : List (Entry κ V)) (h : c.key ≠ k) :
    find Entry.key k (c.exec s) = find Entry.key k s := by
  cases c with
  | write e => exact find_put_other Entry.key k e s h
  | remove j => exact find_erase_other Entry.key j k s h

end Change

def HeldUntil (t : ℕ) (k : κ) (v : V) (s : List (Entry κ V)) : Prop :=
  ∃ e, find Entry.key k s = some e ∧ e.value = v ∧ ∀ x ∈ e.expiresAt, t ≤ x

theorem get_of_heldUntil (t now : ℕ) (k : κ) (v : V) (s : List (Entry κ V))
    (h : HeldUntil t k v s) (before : now < t) : get now k s = some v := by
  obtain ⟨e, found, rfl, late⟩ := h
  have live : e.live now = true := by
    unfold Entry.live
    cases hx : e.expiresAt with
    | none => rfl
    | some x =>
      have hle := late x hx
      simpa using Nat.lt_of_lt_of_le before hle
  rw [get, found, Option.filter_some, if_pos live, Option.map_some]

theorem heldUntil_exec_other (t : ℕ) (c : Change κ V) (k : κ) (v : V) (s : List (Entry κ V))
    (h : HeldUntil t k v s) (other : c.key ≠ k) : HeldUntil t k v (c.exec s) := by
  obtain ⟨e, found, rest⟩ := h
  exact ⟨e, (c.find_exec_other k s other).trans found, rest⟩

theorem heldUntil_write (t : ℕ) (e : Entry κ V) (s : List (Entry κ V))
    (late : ∀ x ∈ e.expiresAt, t ≤ x) : HeldUntil t e.key e.value ((Change.write e).exec s) :=
  ⟨e, find_put_same Entry.key e s, rfl, late⟩

theorem heldUntil_setFor (t now lifetime : ℕ) (k : κ) (v : V) (s : List (Entry κ V))
    (positive : 0 < lifetime) (late : t ≤ now + lifetime) :
    HeldUntil t k v ((setFor now lifetime k v s).getD s) := by
  unfold setFor
  rw [if_pos positive]
  apply heldUntil_write t ⟨k, v, some (now + lifetime)⟩ s
  intro x hx
  rw [← Option.some.inj hx]
  exact late

/-- A write under any key keeps what is held, if it does not shorten or change it. -/
theorem heldUntil_setFor_over (t now lifetime : ℕ) (j k : κ) (v w : V) (s : List (Entry κ V))
    (h : HeldUntil t k v s) (longer : j = k → w = v ∧ t ≤ now + lifetime) :
    HeldUntil t k v ((setFor now lifetime j w s).getD s) := by
  by_cases positive : 0 < lifetime
  · by_cases same : j = k
    · obtain ⟨value, late⟩ := longer same
      rw [same, value]
      exact heldUntil_setFor t now lifetime k v s positive late
    · unfold setFor
      rw [if_pos positive]
      exact heldUntil_exec_other t (.write ⟨j, w, some (now + lifetime)⟩) k v s h same
  · unfold setFor
    rw [if_neg positive]
    exact h

end Library.ExpiringStore
