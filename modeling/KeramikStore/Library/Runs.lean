import Mathlib.Algebra.Group.Basic
import Mathlib.Data.List.Basic

/-!
# Runs of a transition function

A run is the list of actions that a system takes from a supplied state. The
state reached is the left fold of the step function. `Throughout` speaks of
every state of a run, the first and the last included; `Along` speaks of every
action together with the state it meets. The two induction rules at the end
carry an invariant, or an exact condition on the actions, over a whole run.
-/

set_option autoImplicit false

namespace Library.Runs

variable {σ α β : Type*} (step : σ → α → σ)

def after (s : σ) (as : List α) : σ := as.foldl step s

def Throughout (Q : σ → Prop) : σ → List α → Prop
  | s, [] => Q s
  | s, a :: as => Q s ∧ Throughout Q (step s a) as

def Along (C : σ → α → Prop) : σ → List α → Prop
  | _, [] => True
  | s, a :: as => C s a ∧ Along C (step s a) as

@[simp] theorem after_nil (s : σ) : after step s [] = s := rfl

@[simp] theorem after_cons (s : σ) (a : α) (as : List α) :
    after step s (a :: as) = after step (step s a) as := rfl

theorem after_append (s : σ) (as bs : List α) :
    after step s (as ++ bs) = after step (after step s as) bs := by
  simp [after]

instance decidableThroughout (Q : σ → Prop) [DecidablePred Q] :
    ∀ (s : σ) (as : List α), Decidable (Throughout step Q s as)
  | s, [] => inferInstanceAs (Decidable (Q s))
  | s, a :: as =>
    have := decidableThroughout Q (step s a) as
    inferInstanceAs (Decidable (_ ∧ _))

instance decidableAlong (C : σ → α → Prop) [∀ s a, Decidable (C s a)] :
    ∀ (s : σ) (as : List α), Decidable (Along step C s as)
  | _, [] => isTrue trivial
  | s, a :: as =>
    match (inferInstance : Decidable (C s a)), decidableAlong C (step s a) as with
    | isTrue h, isTrue t => isTrue ⟨h, t⟩
    | isFalse h, _ => isFalse fun p => h p.1
    | _, isFalse t => isFalse fun p => t p.2

theorem along_append (C : σ → α → Prop) (s : σ) (as bs : List α) :
    Along step C s (as ++ bs) ↔ Along step C s as ∧ Along step C (after step s as) bs := by
  induction as generalizing s with
  | nil => simp [Along]
  | cons a as ih => simp [Along, ih, and_assoc]

theorem throughout_mono (Q R : σ → Prop) (h : ∀ s, Q s → R s) (s : σ) (as : List α) :
    Throughout step Q s as → Throughout step R s as := by
  induction as generalizing s with
  | nil => exact h s
  | cons a as ih => exact And.imp (h s) (ih (step s a))

theorem throughout_congr (Q R : σ → Prop) (h : ∀ s, Q s ↔ R s) (s : σ) (as : List α) :
    Throughout step Q s as ↔ Throughout step R s as :=
  ⟨throughout_mono step Q R (fun t => (h t).mp) s as,
    throughout_mono step R Q (fun t => (h t).mpr) s as⟩

theorem throughout_end (Q : σ → Prop) (s : σ) (as : List α)
    (h : Throughout step Q s as) : Q (after step s as) := by
  induction as generalizing s with
  | nil => exact h
  | cons a as ih => exact ih (step s a) h.2

theorem along_iff (C : σ → α → Prop) (s : σ) (as : List α) :
    Along step C s as ↔ ∀ bs a cs, as = bs ++ a :: cs → C (after step s bs) a := by
  induction as generalizing s with
  | nil => simp [Along]
  | cons b as ih =>
    constructor
    · rintro ⟨h, t⟩ bs a cs e
      cases bs with
      | nil =>
        obtain ⟨rfl, -⟩ := List.cons.inj e
        exact h
      | cons c bs =>
        obtain ⟨rfl, rest⟩ := List.cons.inj e
        exact (ih (step s b)).mp t bs a cs rest
    · intro h
      refine ⟨h [] b as rfl, (ih (step s b)).mpr fun bs a cs e => ?_⟩
      exact h (b :: bs) a cs (by rw [e, List.cons_append])

theorem along_and (C D : σ → α → Prop) (s : σ) (as : List α) :
    Along step (fun t a => C t a ∧ D t a) s as ↔ Along step C s as ∧ Along step D s as := by
  induction as generalizing s with
  | nil => simp [Along]
  | cons a as ih =>
    simp only [Along, ih]
    tauto

/-- The invariant rule: what one admitted action preserves holds in every state
of an admitted run. -/
theorem throughout_of_step (I : σ → Prop) (C : σ → α → Prop)
    (keep : ∀ s a, I s → C s a → I (step s a)) (s : σ) (as : List α) (h : I s)
    (hc : Along step C s as) : Throughout step I s as := by
  induction as generalizing s with
  | nil => exact h
  | cons a as ih => exact ⟨h, ih (step s a) (keep s a h hc.1) hc.2⟩

theorem along_of_forall (C : σ → α → Prop) (h : ∀ s a, C s a) (s : σ) (as : List α) :
    Along step C s as := by
  induction as generalizing s with
  | nil => trivial
  | cons a as ih => exact ⟨h s a, ih (step s a)⟩

theorem along_of_mem (C : α → Prop) (s : σ) (as : List α) (h : ∀ a ∈ as, C a) :
    Along step (fun _ a => C a) s as := by
  induction as generalizing s with
  | nil => trivial
  | cons a as ih =>
    exact ⟨h a List.mem_cons_self, ih (step s a) fun b hb => h b (List.mem_cons_of_mem a hb)⟩

theorem along_mono (C D : σ → α → Prop) (h : ∀ s a, C s a → D s a) (s : σ) (as : List α) :
    Along step C s as → Along step D s as := by
  induction as generalizing s with
  | nil => exact id
  | cons a as ih => exact And.imp (h s a) (ih (step s a))

theorem along_congr (C D : σ → α → Prop) (h : ∀ s a, C s a ↔ D s a) (s : σ) (as : List α) :
    Along step C s as ↔ Along step D s as :=
  ⟨along_mono step C D (fun t a => (h t a).mp) s as,
    along_mono step D C (fun t a => (h t a).mpr) s as⟩

theorem along_of_throughout (Q : σ → Prop) (s : σ) (as : List α) (h : Throughout step Q s as) :
    Along step (fun t a => Q t ∧ Q (step t a)) s as := by
  induction as generalizing s with
  | nil => trivial
  | cons a as ih =>
    have next : Q (step s a) := by
      cases as with
      | nil => exact h.2
      | cons b as => exact h.2.1
    exact ⟨⟨h.1, next⟩, ih (step s a) h.2⟩

theorem throughout_of_keep (I : σ → Prop) (keep : ∀ s a, I s → I (step s a)) (s : σ)
    (as : List α) (h : I s) : Throughout step I s as :=
  throughout_of_step step I (fun _ _ => True) (fun t a ht _ => keep t a ht) s as h
    (along_of_forall step _ (fun _ _ => trivial) s as)

/-- The exact rule: if, where the side condition `R` holds, one action keeps `Q`
just when it meets `P`, then `Q` holds throughout a run just when it holds at the
start and every action of the run meets `P`. -/
theorem throughout_exact (R Q : σ → Prop) (C P : σ → α → Prop)
    (keep : ∀ s a, R s → C s a → R (step s a))
    (exact_step : ∀ s a, R s → C s a → Q s → (Q (step s a) ↔ P s a))
    (s : σ) (as : List α) (hr : R s) (hc : Along step C s as) :
    Throughout step Q s as ↔ Q s ∧ Along step P s as := by
  induction as generalizing s with
  | nil => simp [Throughout, Along]
  | cons a as ih =>
    simp only [Throughout, Along, ih (step s a) (keep s a hr hc.1) hc.2]
    constructor
    · rintro ⟨q, q', p⟩
      exact ⟨q, (exact_step s a hr hc.1 q).mp q', p⟩
    · rintro ⟨q, p, t⟩
      exact ⟨q, (exact_step s a hr hc.1 q).mpr p, t⟩

/-- The exact rule where no side condition is needed. -/
theorem throughout_iff_along (Q : σ → Prop) (P : σ → α → Prop)
    (exact_step : ∀ s a, Q s → (Q (step s a) ↔ P s a)) (s : σ) (as : List α) (h : Q s) :
    Throughout step Q s as ↔ Along step P s as := by
  have exact := throughout_exact step (fun _ => True) Q (fun _ _ => True) P
    (fun _ _ _ _ => trivial) (fun t a _ _ ht => exact_step t a ht) s as trivial
    (along_of_forall step _ (fun _ _ => trivial) s as)
  exact exact.trans (and_iff_right h)

/-- The exact rule for what single actions do: if, where `I` holds, an action keeps `I`
and has the property `C` just when it meets `P`, then `I` holds throughout and every
action has `C` just when every action meets `P`. -/
theorem along_exact_keep (R I : σ → Prop) (C P : σ → α → Prop)
    (exact_step : ∀ s a, R s → I s → (I (step s a) ∧ C s a ↔ P s a)) (s : σ) (as : List α)
    (hr : Throughout step R s as) (h : I s) :
    Throughout step I s as ∧ Along step C s as ↔ Along step P s as := by
  induction as generalizing s with
  | nil => simp [Throughout, Along, h]
  | cons a as ih =>
    have exact_here := exact_step s a hr.1 h
    constructor
    · rintro ⟨⟨-, i⟩, c, cs⟩
      have next : I (step s a) := by
        cases as with
        | nil => exact i
        | cons b as => exact i.1
      exact ⟨exact_here.mp ⟨next, c⟩, (ih (step s a) hr.2 next).mp ⟨i, cs⟩⟩
    · rintro ⟨p, ps⟩
      obtain ⟨next, c⟩ := exact_here.mpr p
      obtain ⟨i, cs⟩ := (ih (step s a) hr.2 next).mpr ps
      exact ⟨⟨h, i⟩, c, cs⟩

theorem along_exact (R I : σ → Prop) (C P : σ → α → Prop)
    (exact_step : ∀ s a, R s → I s → (C s a ↔ P s a))
    (keep : ∀ s a, R s → I s → P s a → I (step s a)) (s : σ) (as : List α)
    (hr : Throughout step R s as) (h : I s) :
    Throughout step I s as ∧ Along step C s as ↔ Along step P s as := by
  refine along_exact_keep step R I C P (fun t a r i => ?_) s as hr h
  have exact_here := exact_step t a r i
  exact ⟨fun both => exact_here.mp both.2, fun p => ⟨keep t a r i p, exact_here.mpr p⟩⟩

/-- The exact rule for actions that meet a side condition, where those with the property
keep the invariant. -/
theorem along_iff_along (I : σ → Prop) (D C P : σ → α → Prop)
    (exact_step : ∀ s a, I s → D s a → (C s a ↔ P s a))
    (keep : ∀ s a, I s → D s a → P s a → I (step s a)) (s : σ) (as : List α) (h : I s)
    (hd : Along step D s as) : Along step C s as ↔ Along step P s as := by
  induction as generalizing s with
  | nil => exact Iff.rfl
  | cons a as ih =>
    have here := exact_step s a h hd.1
    constructor
    · rintro ⟨c, cs⟩
      have p := here.mp c
      exact ⟨p, (ih (step s a) (keep s a h hd.1 p) hd.2).mp cs⟩
    · rintro ⟨p, ps⟩
      exact ⟨here.mpr p, (ih (step s a) (keep s a h hd.1 p) hd.2).mpr ps⟩

section Totals

variable {M : Type*} [AddMonoid M]

def total (weight : σ → α → M) : σ → List α → M
  | _, [] => 0
  | s, a :: as => weight s a + total weight (step s a) as

/-- A measure that every action changes by its weight is the sum of the weights. -/
theorem after_eq_total (weight : σ → α → M) (measure : σ → M) (C : σ → α → Prop)
    (change : ∀ s a, C s a → measure (step s a) = measure s + weight s a) (s : σ) (as : List α)
    (hc : Along step C s as) :
    measure (after step s as) = measure s + total step weight s as := by
  induction as generalizing s with
  | nil => exact (add_zero _).symm
  | cons a as ih =>
    calc measure (after step (step s a) as)
        = measure (step s a) + total step weight (step s a) as := ih (step s a) hc.2
      _ = measure s + (weight s a + total step weight (step s a) as) := by
          rw [change s a hc.1, add_assoc]

theorem total_sub {G : Type*} [AddCommGroup G] (v w : σ → α → G) (s : σ) (as : List α) :
    total step (fun t a => v t a - w t a) s as = total step v s as - total step w s as := by
  induction as generalizing s with
  | nil => exact (sub_self _).symm
  | cons a as ih =>
    simp only [total, ih]
    exact sub_add_sub_comm _ _ _ _

end Totals

end Library.Runs
