import Mathlib.Data.List.Basic

/-!
# Outcomes of methods that change an object and may throw

A method that throws leaves the object as it was at the throw, and its caller
may go on with it. `Outcome` keeps both the exception and that state. `raise`
runs a list of checks in order and throws at the first one that is violated.
-/

set_option autoImplicit false

namespace Library

structure Outcome (ε σ : Type*) where
  thrown : Option ε
  state : σ
deriving DecidableEq, Repr

namespace Outcome

variable {ε σ : Type*}

def done (s : σ) : Outcome ε σ := ⟨none, s⟩

def threw (e : ε) (s : σ) : Outcome ε σ := ⟨some e, s⟩

def andThen (o : Outcome ε σ) (f : σ → Outcome ε σ) : Outcome ε σ :=
  match o.thrown with
  | none => f o.state
  | some e => threw e o.state

def toExcept (o : Outcome ε σ) : Except ε σ :=
  match o.thrown with
  | none => .ok o.state
  | some e => .error e

def Returns (o : Outcome ε σ) : Prop := o.thrown = none

instance (o : Outcome ε σ) : Decidable o.Returns :=
  inferInstanceAs (Decidable (o.thrown = none))

@[simp] theorem state_done (s : σ) : (done s : Outcome ε σ).state = s := rfl
@[simp] theorem state_threw (e : ε) (s : σ) : (threw e s).state = s := rfl
@[simp] theorem returns_done (s : σ) : (done s : Outcome ε σ).Returns := rfl
@[simp] theorem not_returns_threw (e : ε) (s : σ) : ¬ (threw e s).Returns := nofun

@[simp] theorem done_andThen (s : σ) (f : σ → Outcome ε σ) : (done s).andThen f = f s := rfl

@[simp] theorem threw_andThen (e : ε) (s : σ) (f : σ → Outcome ε σ) :
    (threw e s).andThen f = threw e s := rfl

theorem toExcept_ok_iff (o : Outcome ε σ) (s : σ) :
    o.toExcept = .ok s ↔ o.Returns ∧ o.state = s := by
  rcases o with ⟨_ | e, t⟩ <;> simp [toExcept, Returns]

theorem returns_andThen (o : Outcome ε σ) (f : σ → Outcome ε σ) :
    (o.andThen f).Returns ↔ o.Returns ∧ (f o.state).Returns := by
  rcases o with ⟨_ | e, s⟩
  · simp [andThen, Returns]
  · simp [andThen, Returns, threw]

def Clean (s : σ) (o : Outcome ε σ) : Prop := ¬ o.Returns → o.state = s

theorem clean_done (s t : σ) : Clean s (done t : Outcome ε σ) :=
  fun threw => absurd (returns_done t) threw

theorem clean_threw (e : ε) (s : σ) : Clean s (threw e s) := fun _ => rfl

theorem clean_ite (s t : σ) (e : ε) (c : Prop) [Decidable c] :
    Clean s (if c then threw e s else done t) := by
  split
  · exact clean_threw e s
  · exact clean_done s t

def Ensures (P : σ → Prop) (o : Outcome ε σ) : Prop := o.Returns → P o.state

theorem ensures_done (P : σ → Prop) (s : σ) (h : P s) : Ensures P (done s : Outcome ε σ) :=
  fun _ => h

theorem ensures_threw (P : σ → Prop) (e : ε) (s : σ) : Ensures P (threw e s) :=
  fun h => absurd h (not_returns_threw e s)

theorem ensures_ite (P : σ → Prop) (c : Prop) [Decidable c] (o o' : Outcome ε σ)
    (h : Ensures P o) (h' : Ensures P o') : Ensures P (if c then o else o') := by
  split
  · exact h
  · exact h'

theorem ensures_andThen (P Q : σ → Prop) (o : Outcome ε σ) (f : σ → Outcome ε σ)
    (first : Ensures Q o) (second : ∀ v, Q v → Ensures P (f v)) : Ensures P (o.andThen f) := by
  intro h
  obtain ⟨returned, rest⟩ := (returns_andThen o f).mp h
  have state : (o.andThen f).state = (f o.state).state := by
    unfold andThen
    rw [show o.thrown = none from returned]
  rw [state]
  exact second o.state (first returned) rest

end Outcome

section Checks

variable {ε : Type*}

def raise : List (Bool × ε) → Except ε Unit
  | [] => .ok ()
  | (violated, e) :: checks => if violated then .error e else raise checks

theorem raise_ok_iff (checks : List (Bool × ε)) :
    raise checks = .ok () ↔ ∀ check ∈ checks, check.1 = false := by
  induction checks with
  | nil => simp [raise]
  | cons check checks ih =>
    rcases check with ⟨_ | _, e⟩ <;> simp [raise, ih]

/-- A computation that goes on after another returns just when both do. -/
theorem bind_ok_iff.{u} {α β : Type u} (x : Except ε α) (f : α → Except ε β) (b : β) :
    (x >>= f) = .ok b ↔ ∃ a, x = .ok a ∧ f a = .ok b := by
  cases x with
  | error e => exact ⟨nofun, nofun⟩
  | ok a => exact ⟨fun h => ⟨a, rfl, h⟩, fun ⟨_, h, hf⟩ => Except.ok.inj h ▸ hf⟩

theorem map_ok_iff {α β : Type*} (f : α → β) (x : Except ε α) (b : β) :
    x.map f = .ok b ↔ ∃ a, x = .ok a ∧ f a = b := by
  cases x with
  | error e => exact ⟨nofun, nofun⟩
  | ok a => exact ⟨fun h => ⟨a, rfl, Except.ok.inj h⟩, fun ⟨_, h, hf⟩ => by
      rw [← hf, ← Except.ok.inj h]
      rfl⟩

theorem mapError_ok_iff.{u} {ε' : Type*} {α : Type u} (f : ε → ε') (x : Except ε α) (a : α) :
    x.mapError f = .ok a ↔ x = .ok a := by
  cases x with
  | error e => exact ⟨nofun, nofun⟩
  | ok b => exact ⟨fun h => congrArg _ (Except.ok.inj h), fun h => congrArg _ (Except.ok.inj h)⟩

theorem toOption_eq_some_iff {α : Type*} (x : Except ε α) (a : α) :
    x.toOption = some a ↔ x = .ok a := by
  cases x with
  | error e => exact ⟨nofun, nofun⟩
  | ok b => exact ⟨fun h => congrArg _ (Option.some.inj h), fun h => congrArg _ (Except.ok.inj h)⟩

theorem option_mapM_some.{u} {α β : Type u} (f : α → Except ε β) (a : α) :
    (some a).mapM f = f a >>= fun b => pure (some b) := rfl

/-- An optional value is converted just when the value that is there is. -/
theorem option_mapM_ok_iff.{u} {α β : Type u} (f : α → Except ε β) (given : Option α) :
    (∃ b, given.mapM f = .ok b) ↔ ∀ a ∈ given, ∃ b, f a = .ok b := by
  cases given with
  | none => exact ⟨nofun, fun _ => ⟨none, rfl⟩⟩
  | some a =>
    simp only [option_mapM_some, bind_ok_iff, Option.mem_def, Option.some.injEq, forall_eq']
    exact ⟨fun ⟨_, b, h, _⟩ => ⟨b, h⟩, fun ⟨b, h⟩ => ⟨some b, b, h, rfl⟩⟩

end Checks

end Library
