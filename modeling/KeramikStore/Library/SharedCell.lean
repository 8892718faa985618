import Mathlib.Logic.Function.Basic
import KeramikStore.Library.Runs

/-!
# Requests that read, compute and write one shared cell

Any number of requests work on one cell without a lock. A request reads the cell
or a cached copy of it, computes a new value from what it read, and writes that
value, each in one step; the steps of different requests interleave freely and
cached copies may vanish at any time. The last writer wins. The invariant `Clean`
says which values carry a property when some requests cannot spoil it.
-/

set_option autoImplicit false

namespace Library.SharedCell
open Library.Runs

variable {ι κ V : Type*}

inductive Phase (V : Type*) where
  | idle
  | holding (copy : V) (fromCache : Bool)
  | ready (result : V)
  | done
deriving DecidableEq

def Phase.isReady {V : Type*} : Phase V → Bool
  | .ready _ => true
  | _ => false

structure Cell (ι κ V : Type*) where
  value : V
  cached : κ → Option V
  phase : ι → Phase V

inductive Action (ι κ : Type*) where
  | read (i : ι)
  | compute (i : ι)
  | write (i : ι)
  | expire (k : κ)
deriving DecidableEq

def start (v : V) (warm : κ → Bool) : Cell ι κ V :=
  ⟨v, fun k => if warm k then some v else none, fun _ => .idle⟩

variable [DecidableEq ι] [DecidableEq κ]

/-- Request `i` looks under the cache key `key i`, and computes with `f i`, which
is told whether the copy came from the cache. A computation that fails ends the
request. A write empties every cache. -/
def step (key : ι → κ) (f : ι → Bool → V → Option V) (s : Cell ι κ V) :
    Action ι κ → Cell ι κ V
  | .read i =>
    match s.phase i, s.cached (key i) with
    | .idle, some c => { s with phase := Function.update s.phase i (.holding c true) }
    | .idle, none =>
      { s with cached := Function.update s.cached (key i) (some s.value)
               phase := Function.update s.phase i (.holding s.value false) }
    | _, _ => s
  | .compute i =>
    match s.phase i with
    | .holding c b =>
      match f i b c with
      | some r => { s with phase := Function.update s.phase i (.ready r) }
      | none => { s with phase := Function.update s.phase i .done }
    | _ => s
  | .write i =>
    match s.phase i with
    | .ready r => ⟨r, fun _ => none, Function.update s.phase i .done⟩
    | _ => s
  | .expire k => { s with cached := Function.update s.cached k none }

variable (key : ι → κ) (f : ι → Bool → V → Option V)

inductive Moves (s : Cell ι κ V) : Action ι κ → Cell ι κ V → Prop where
  | stay (a : Action ι κ) : Moves s a s
  | hit (i : ι) (c : V) (idle : s.phase i = .idle) (found : s.cached (key i) = some c) :
      Moves s (.read i) { s with phase := Function.update s.phase i (.holding c true) }
  | miss (i : ι) (idle : s.phase i = .idle) (absent : s.cached (key i) = none) :
      Moves s (.read i)
        { s with cached := Function.update s.cached (key i) (some s.value)
                 phase := Function.update s.phase i (.holding s.value false) }
  | computed (i : ι) (c r : V) (b : Bool) (held : s.phase i = .holding c b)
      (result : f i b c = some r) :
      Moves s (.compute i) { s with phase := Function.update s.phase i (.ready r) }
  | failed (i : ι) (c : V) (b : Bool) (held : s.phase i = .holding c b) (result : f i b c = none) :
      Moves s (.compute i) { s with phase := Function.update s.phase i .done }
  | wrote (i : ι) (r : V) (made : s.phase i = .ready r) :
      Moves s (.write i) ⟨r, fun _ => none, Function.update s.phase i .done⟩
  | expired (k : κ) : Moves s (.expire k) { s with cached := Function.update s.cached k none }

theorem step_moves (s : Cell ι κ V) (a : Action ι κ) : Moves key f s a (step key f s a) := by
  cases a with
  | read i =>
    cases hp : s.phase i with
    | idle =>
      cases hc : s.cached (key i) with
      | some c => simpa [step, hp, hc] using Moves.hit i c hp hc
      | none => simpa [step, hp, hc] using Moves.miss i hp hc
    | _ => simpa [step, hp] using Moves.stay (.read i)
  | compute i =>
    cases hp : s.phase i with
    | holding c b =>
      cases hr : f i b c with
      | some r => simpa [step, hp, hr] using Moves.computed i c r b hp hr
      | none => simpa [step, hp, hr] using Moves.failed i c b hp hr
    | _ => simpa [step, hp] using Moves.stay (.compute i)
  | write i =>
    cases hp : s.phase i with
    | ready r => simpa [step, hp] using Moves.wrote i r hp
    | _ => simpa [step, hp] using Moves.stay (.write i)
  | expire k => exact Moves.expired k

omit [DecidableEq κ] in
theorem update_phase_eq (s : Cell ι κ V) (i j : ι) (p q : Phase V)
    (h : Function.update s.phase i p j = q) : (j = i ∧ p = q) ∨ (j ≠ i ∧ s.phase j = q) := by
  by_cases hj : j = i
  · subst hj
    rw [Function.update_self] at h
    exact Or.inl ⟨rfl, h⟩
  · rw [Function.update_of_ne hj] at h
    exact Or.inr ⟨hj, h⟩

theorem done_stays (s : Cell ι κ V) (a : Action ι κ) (j : ι) (h : s.phase j = .done) :
    (step key f s a).phase j = .done := by
  have other : ∀ i p, s.phase i ≠ .done → Function.update s.phase i p j = .done := by
    intro i p hi
    have hj : j ≠ i := fun e => hi (by rw [← e, h])
    rw [Function.update_of_ne hj, h]
  have m := step_moves key f s a
  generalize step key f s a = t at m ⊢
  cases m with
  | stay => exact h
  | hit i c idle => exact other i _ (by simp [idle])
  | miss i idle => exact other i _ (by simp [idle])
  | computed i c r b held => exact other i _ (by simp [held])
  | failed i c b held => exact other i _ (by simp [held])
  | wrote i r made => exact other i _ (by simp [made])
  | expired k => exact h

def Computed (s : Cell ι κ V) : Prop := ∀ i r, s.phase i = .ready r → ∃ b c, f i b c = some r

theorem step_computed (s : Cell ι κ V) (a : Action ι κ) (h : Computed f s) :
    Computed f (step key f s a) := by
  have old : ∀ i p, (∀ r, p ≠ .ready r) → ∀ j r, Function.update s.phase i p j = .ready r →
      ∃ b c, f j b c = some r := by
    intro i p hp j r hj
    rcases update_phase_eq s i j _ _ hj with ⟨-, e⟩ | ⟨-, e⟩
    · exact absurd e (hp r)
    · exact h j r e
  have m := step_moves key f s a
  generalize step key f s a = t at m ⊢
  cases m with
  | stay => exact h
  | hit i c idle => exact old i _ (by simp)
  | miss i idle => exact old i _ (by simp)
  | computed i c r b held result =>
    intro j v hj
    rcases update_phase_eq s i j _ _ hj with ⟨rfl, e⟩ | ⟨-, e⟩
    · obtain rfl := Phase.ready.inj e
      exact ⟨b, c, result⟩
    · exact h j v e
  | failed i c b held => exact old i _ (by simp)
  | wrote i r made => exact old i _ (by simp)
  | expired k => exact h

/-- The values with the property `Good`: the cell, every cached copy, what the
requests in `Faithful` hold and what those in `Writer` wait to write. The others
may hold anything. Requests outside `Live` have ended. -/
structure Clean (Live Faithful Writer : ι → Prop) (Good : V → Prop) (s : Cell ι κ V) : Prop where
  value : Good s.value
  cached : ∀ k v, s.cached k = some v → Good v
  holding : ∀ j v b, Faithful j → s.phase j = .holding v b → Good v
  ready : ∀ j v, Writer j → s.phase j = .ready v → Good v
  dead : ∀ j, ¬ Live j → s.phase j = .done

def WrittenBy (Writer : ι → Prop) (s : Cell ι κ V) : Action ι κ → Prop
  | .write i => (s.phase i).isReady = true → Writer i
  | _ => True

instance (Writer : ι → Prop) [DecidablePred Writer] (s : Cell ι κ V) (a : Action ι κ) :
    Decidable (WrittenBy Writer s a) := by
  cases a <;> unfold WrittenBy <;> infer_instance

omit [DecidableEq κ] in
/-- A clean cell stays so when one request moves and nothing that is not good enters. -/
theorem clean_update (Live Faithful Writer : ι → Prop) (Good : V → Prop) (s : Cell ι κ V)
    (h : Clean Live Faithful Writer Good s) (i : ι) (p : Phase V) (value : V)
    (cached : κ → Option V) (hvalue : Good value)
    (hcached : ∀ k v, cached k = some v → Good v)
    (hholding : ∀ v b, p = .holding v b → Good v) (hready : ∀ v, Writer i → p = .ready v → Good v)
    (hdead : ∀ j, ¬ Live j → Function.update s.phase i p j = .done) :
    Clean Live Faithful Writer Good ⟨value, cached, Function.update s.phase i p⟩ where
  value := hvalue
  cached := hcached
  holding := by
    intro j v b hf hj
    rcases update_phase_eq s i j _ _ hj with ⟨-, e⟩ | ⟨-, e⟩
    · exact hholding v b e
    · exact h.holding j v b hf e
  ready := by
    intro j v hw hj
    rcases update_phase_eq s i j _ _ hj with ⟨rfl, e⟩ | ⟨-, e⟩
    · exact hready v hw e
    · exact h.ready j v hw e
  dead := hdead

theorem cached_update (Good : V → Prop) (cached : κ → Option V) (k : κ) (o : Option V)
    (h : ∀ l v, cached l = some v → Good v) (ho : ∀ v, o = some v → Good v) (l : κ) (v : V)
    (hl : Function.update cached k o l = some v) : Good v := by
  by_cases e : l = k
  · subst e
    rw [Function.update_self] at hl
    exact ho v hl
  · rw [Function.update_of_ne e] at hl
    exact h l v hl

/-- One step keeps the cell clean if the requests in `Writer` compute good values
from good copies, and from any copy where they are not faithful. -/
theorem step_clean (Live Faithful Writer : ι → Prop) (Good : V → Prop)
    (sound : ∀ i b c r, Live i → Writer i → f i b c = some r → (Faithful i → Good c) → Good r)
    (s : Cell ι κ V) (a : Action ι κ) (h : Clean Live Faithful Writer Good s)
    (hw : WrittenBy Writer s a) : Clean Live Faithful Writer Good (step key f s a) := by
  have dead : ∀ j, ¬ Live j → (step key f s a).phase j = .done :=
    fun j hj => done_stays key f s a j (h.dead j hj)
  have m := step_moves key f s a
  generalize step key f s a = t at m dead ⊢
  cases m with
  | stay => exact h
  | hit i c idle found =>
    apply clean_update _ _ _ _ s h i _ _ _ h.value h.cached _ _ dead
    · intro v b e
      rw [← (Phase.holding.inj e).1]
      exact h.cached (key i) c found
    · intro v _ e
      cases e
  | miss i idle absent =>
    have cached := cached_update Good s.cached (key i) (some s.value) h.cached fun v e =>
      Option.some.inj e ▸ h.value
    apply clean_update _ _ _ _ s h i _ _ _ h.value cached _ _ dead
    · intro v b e
      rw [← (Phase.holding.inj e).1]
      exact h.value
    · intro v _ e
      cases e
  | computed i c r b held result =>
    apply clean_update _ _ _ _ s h i _ _ _ h.value h.cached _ _ dead
    · intro v b e
      cases e
    · intro v writer e
      have live : Live i := by
        by_contra hl
        rw [h.dead i hl] at held
        cases held
      rw [← Phase.ready.inj e]
      exact sound i b c r live writer result fun hf => h.holding i c b hf held
  | failed i c b held =>
    apply clean_update _ _ _ _ s h i _ _ _ h.value h.cached _ _ dead
    · intro v b e
      cases e
    · intro v _ e
      cases e
  | wrote i r made =>
    have good : Good r := h.ready i r (hw (by rw [made]; rfl)) made
    apply clean_update _ _ _ _ s h i _ _ _ good _ _ _ dead
    · intro k v e
      cases e
    · intro v b e
      cases e
    · intro v _ e
      cases e
  | expired k =>
    have cached := cached_update Good s.cached k none h.cached fun v e => by cases e
    exact ⟨h.value, cached, h.holding, h.ready, dead⟩

theorem clean_throughout (Live Faithful Writer : ι → Prop) (Good : V → Prop)
    (sound : ∀ i b c r, Live i → Writer i → f i b c = some r → (Faithful i → Good c) → Good r)
    (s : Cell ι κ V) (as : List (Action ι κ)) (h : Clean Live Faithful Writer Good s)
    (hw : Along (step key f) (WrittenBy Writer) s as) :
    Throughout (step key f) (Clean Live Faithful Writer Good) s as :=
  throughout_of_step _ _ _ (step_clean key f Live Faithful Writer Good sound) s as h hw

/-- Until request `i` has ended, nothing outside it carries what only `i` makes. -/
theorem confined_throughout (i : ι) (Free : V → Prop)
    (sound : ∀ j b c r, j ≠ i → f j b c = some r → Free c → Free r) (v : V) (warm : κ → Bool)
    (hv : Free v) (as : List (Action ι κ)) :
    Throughout (step key f)
      (fun t => t.phase i ≠ .done → Clean (fun _ => True) (fun _ => True) (· ≠ i) Free t)
      (start v warm) as := by
  refine throughout_of_keep _ _ (fun s a h hd => ?_) _ as fun _ => ?_
  · have hd' : s.phase i ≠ .done := fun e => hd (done_stays key f s a i e)
    refine step_clean key f _ _ _ Free (fun j b c r _ hj hr hc => sound j b c r hj hr (hc trivial))
      s a (h hd') ?_
    cases a with
    | write j =>
      rintro hj rfl
      apply hd
      cases hp : s.phase j with
      | ready r => simp [step, hp]
      | _ => simp [hp, Phase.isReady] at hj
    | _ => trivial
  · refine ⟨hv, fun k w hk => ?_, fun j w b _ hj => ?_, fun j w _ hj => ?_,
      fun j hj => absurd trivial hj⟩
    · simp only [start] at hk
      split_ifs at hk
      exact Option.some.inj hk ▸ hv
    · cases hj
    · cases hj

end Library.SharedCell
