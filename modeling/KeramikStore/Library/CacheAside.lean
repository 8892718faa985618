import Mathlib.Data.Nat.Basic
import Mathlib.Logic.Function.Basic
import KeramikStore.Library.Runs

/-!
# One row behind a cache entry, read and written step by step

A read looks in the cache, queries the database after a miss, and writes what it
found back into the cache. A write changes the row and then drops the entry. These
are separate steps, and those of any number of requests interleave. The row is
stamped with the number of writes before it, and so is every copy of it, so that a
copy tells how old it is. The two laws say when copies are recent and when a
property of the row can no longer be undone.
-/

set_option autoImplicit false

namespace Library.CacheAside
open Library.Runs

variable {ι V : Type*}

structure Copy (V : Type*) where
  value : V
  stamp : ℕ
deriving DecidableEq

/-- What a request does: it reads the row where the query sees it, saves a given
row, saves what it computes from the row it has read, or does so after it has read
the row once more from the database. -/
inductive Program (V : Type*) where
  | read (sees : V → Bool)
  | save (row : V)
  | update (f : V → Option V)
  | replace (found : V → Bool) (f : V → Option V)

namespace Program

def sees {V : Type*} : Program V → V → Bool
  | read sees => sees
  | _ => fun _ => true

def result {V : Type*} : Program V → V → Option V
  | update f | replace _ f => f
  | _ => fun _ => none

end Program

inductive Phase (V : Type*) where
  | idle
  | missed
  | fetched (row : Option (Copy V))
  | holding (row : Option (Copy V))
  | reloaded (row : Option (Copy V))
  | ready (row : V) (basis : ℕ)
  | written (stamp : ℕ)
  | returned (stamp : ℕ)
  | failed
deriving DecidableEq

def Phase.copy {V : Type*} : Phase V → Option (Copy V)
  | fetched row | holding row | reloaded row => row
  | _ => none

structure Store (ι V : Type*) where
  database : Option V
  writes : ℕ
  cached : Option (Copy V)
  phase : ι → Phase V

inductive Action (ι : Type*) where
  | look (i : ι)
  | query (i : ι)
  | fill (i : ι)
  | reload (i : ι)
  | compute (i : ι)
  | write (i : ι)
  | drop (i : ι)
  | expire
deriving DecidableEq

def start (row : Option V) (warm : Bool) : Store ι V :=
  ⟨row, 0, if warm then row.map (⟨·, 0⟩) else none, fun _ => .idle⟩

variable [DecidableEq ι]

def Store.move (s : Store ι V) (i : ι) (p : Phase V) : Store ι V :=
  { s with phase := Function.update s.phase i p }

def Store.row (s : Store ι V) : Option (Copy V) := s.database.map (⟨·, s.writes⟩)

def step (program : ι → Program V) (s : Store ι V) : Action ι → Store ι V
  | .look i =>
    match program i, s.phase i with
    | .save _, _ => s
    | _, .idle => s.move i (match s.cached with
      | some c => .holding (some c)
      | none => .missed)
    | _, _ => s
  | .query i =>
    match s.phase i with
    | .missed => s.move i (.fetched (s.row.filter fun c => (program i).sees c.value))
    | _ => s
  | .fill i =>
    match s.phase i with
    | .fetched row => { s.move i (.holding row) with cached := row.or s.cached }
    | _ => s
  | .reload i =>
    match program i, s.phase i with
    | .replace found _, .holding (some c) =>
      s.move i (if found c.value then .reloaded s.row else .failed)
    | _, _ => s
  | .compute i =>
    match program i, s.phase i with
    | .save row, .idle => s.move i (.ready row s.writes)
    | .update f, .holding (some c) => s.move i ((f c.value).elim .failed (.ready · c.stamp))
    | .replace _ f, .reloaded (some c) => s.move i ((f c.value).elim .failed (.ready · c.stamp))
    | _, _ => s
  | .write i =>
    match s.phase i with
    | .ready row _ =>
      { s.move i (.written (s.writes + 1)) with database := some row, writes := s.writes + 1 }
    | _ => s
  | .drop i =>
    match s.phase i with
    | .written n => { s.move i (.returned n) with cached := none }
    | _ => s
  | .expire => { s with cached := none }

variable (program : ι → Program V)

inductive Moves (s : Store ι V) : Action ι → Store ι V → Prop where
  | stay (a : Action ι) : Moves s a s
  | hit (i : ι) (c : Copy V) (idle : s.phase i = .idle) (found : s.cached = some c) :
      Moves s (.look i) (s.move i (.holding (some c)))
  | miss (i : ι) (idle : s.phase i = .idle) : Moves s (.look i) (s.move i .missed)
  | fetch (i : ι) (row : Option (Copy V)) (seen : ∀ c, row = some c → s.row = some c) :
      Moves s (.query i) (s.move i (.fetched row))
  | fill (i : ι) (row : Option (Copy V)) (fetched : s.phase i = .fetched row) :
      Moves s (.fill i) { s.move i (.holding row) with cached := row.or s.cached }
  | reload (i : ι) : Moves s (.reload i) (s.move i (.reloaded s.row))
  | fail (a : Action ι) (i : ι) : Moves s a (s.move i .failed)
  | save (i : ι) (row : V) (saves : program i = .save row) :
      Moves s (.compute i) (s.move i (.ready row s.writes))
  | compute (i : ι) (c : Copy V) (row : V) (copy : (s.phase i).copy = some c)
      (result : (program i).result c.value = some row) :
      Moves s (.compute i) (s.move i (.ready row c.stamp))
  | write (i : ι) (row : V) (basis : ℕ) (ready : s.phase i = .ready row basis) :
      Moves s (.write i)
        { s.move i (.written (s.writes + 1)) with database := some row, writes := s.writes + 1 }
  | drop (i : ι) (n : ℕ) (written : s.phase i = .written n) :
      Moves s (.drop i) { s.move i (.returned n) with cached := none }
  | expire : Moves s .expire { s with cached := none }

theorem computed_moves (s : Store ι V) (i : ι) (c : Copy V) (copy : (s.phase i).copy = some c)
    (f : V → Option V) (hf : (program i).result = f) :
    Moves program s (.compute i) (s.move i ((f c.value).elim .failed (.ready · c.stamp))) := by
  cases h : f c.value with
  | none => exact .fail _ i
  | some row => exact .compute i c row copy (by rw [hf, h])

theorem look_moves (s : Store ι V) (i : ι) :
    Moves program s (.look i) (step program s (.look i)) := by
  cases hp : s.phase i with
  | idle =>
    cases hc : s.cached with
    | some c =>
      cases hi : program i with
      | save row => simpa [step, hi] using Moves.stay (.look i)
      | _ => simpa [step, hi, hp, hc] using Moves.hit i c hp hc
    | none =>
      cases hi : program i with
      | save row => simpa [step, hi] using Moves.stay (.look i)
      | _ => simpa [step, hi, hp, hc] using Moves.miss i hp
  | _ => cases hi : program i <;> simpa [step, hi, hp] using Moves.stay (.look i)

theorem reload_moves (s : Store ι V) (i : ι) :
    Moves program s (.reload i) (step program s (.reload i)) := by
  cases hi : program i with
  | replace found f =>
    cases hp : s.phase i with
    | holding row =>
      cases row with
      | none => simpa [step, hi, hp] using Moves.stay (.reload i)
      | some c =>
        simp only [step, hi, hp]
        split
        · exact .reload i
        · exact .fail _ i
    | _ => simpa [step, hi, hp] using Moves.stay (.reload i)
  | _ => simpa [step, hi] using Moves.stay (.reload i)

theorem compute_moves (s : Store ι V) (i : ι) :
    Moves program s (.compute i) (step program s (.compute i)) := by
  cases hi : program i with
  | read sees => simpa [step, hi] using Moves.stay (.compute i)
  | save row =>
    cases hp : s.phase i with
    | idle => simpa [step, hi, hp] using Moves.save i row hi
    | _ => simpa [step, hi, hp] using Moves.stay (.compute i)
  | update f =>
    cases hp : s.phase i with
    | holding row =>
      cases row with
      | none => simpa [step, hi, hp] using Moves.stay (.compute i)
      | some c =>
        simp only [step, hi, hp]
        exact computed_moves program s i c (by rw [hp]; rfl) f (by rw [hi]; rfl)
    | _ => simpa [step, hi, hp] using Moves.stay (.compute i)
  | replace found f =>
    cases hp : s.phase i with
    | reloaded row =>
      cases row with
      | none => simpa [step, hi, hp] using Moves.stay (.compute i)
      | some c =>
        simp only [step, hi, hp]
        exact computed_moves program s i c (by rw [hp]; rfl) f (by rw [hi]; rfl)
    | _ => simpa [step, hi, hp] using Moves.stay (.compute i)

theorem step_moves (s : Store ι V) (a : Action ι) : Moves program s a (step program s a) := by
  cases a with
  | look i => exact look_moves program s i
  | query i =>
    cases hp : s.phase i with
    | missed =>
      simp only [step, hp]
      exact .fetch i _ fun c h => (Option.filter_eq_some_iff.mp h).1
    | _ => simpa [step, hp] using Moves.stay (.query i)
  | fill i =>
    cases hp : s.phase i with
    | fetched row => simpa [step, hp] using Moves.fill i row hp
    | _ => simpa [step, hp] using Moves.stay (.fill i)
  | reload i => exact reload_moves program s i
  | compute i => exact compute_moves program s i
  | write i =>
    cases hp : s.phase i with
    | ready row basis => simpa [step, hp] using Moves.write i row basis hp
    | _ => simpa [step, hp] using Moves.stay (.write i)
  | drop i =>
    cases hp : s.phase i with
    | written n => simpa [step, hp] using Moves.drop i n hp
    | _ => simpa [step, hp] using Moves.stay (.drop i)
  | expire => exact .expire

theorem forall_move (P : ι → Phase V → Prop) (s : Store ι V) (i : ι) (p : Phase V)
    (h : ∀ j, P j (s.phase j)) (hp : P i p) (j : ι) : P j ((s.move i p).phase j) := by
  change P j (Function.update s.phase i p j)
  by_cases e : j = i
  · subst e
    rwa [Function.update_self]
  · rw [Function.update_of_ne e]
    exact h j

def Phase.Holds {V : Type*} (onCopy : Copy V → Prop) (onReady : V → ℕ → Prop)
    (onStamp : ℕ → Prop) : Phase V → Prop
  | fetched row | holding row | reloaded row => ∀ c, row = some c → onCopy c
  | ready row basis => onReady row basis
  | written n | returned n => onStamp n
  | _ => True

theorem Phase.holds_mono {V : Type*} (p : Phase V) (copy copy' : Copy V → Prop)
    (ready ready' : V → ℕ → Prop) (stamp stamp' : ℕ → Prop) (hc : ∀ c, copy c → copy' c)
    (hr : ∀ r b, ready r b → ready' r b) (hs : ∀ n, stamp n → stamp' n)
    (h : p.Holds copy ready stamp) : p.Holds copy' ready' stamp' := by
  cases p with
  | fetched row | holding row | reloaded row => exact fun c e => hc c (h c e)
  | ready row basis => exact hr row basis h
  | written n | returned n => exact hs n h
  | _ => trivial

theorem Phase.copy_holds {V : Type*} (p : Phase V) (copy : Copy V → Prop)
    (ready : V → ℕ → Prop) (stamp : ℕ → Prop) (h : p.Holds copy ready stamp) (c : Copy V)
    (hc : p.copy = some c) : copy c := by
  cases p with
  | fetched row | holding row | reloaded row => exact h c hc
  | _ => cases hc

omit [DecidableEq ι] in
theorem row_stamp (s : Store ι V) (c : Copy V) (h : s.row = some c) :
    s.database = some c.value ∧ c.stamp = s.writes := by
  unfold Store.row at h
  obtain ⟨v, hv, rfl⟩ := Option.map_eq_some_iff.mp h
  exact ⟨hv, rfl⟩

def Made (i : ι) (row : V) : Prop :=
  program i = .save row ∨ ∃ v, (program i).result v = some row

structure Stamped (s : Store ι V) : Prop where
  cached : ∀ c, s.cached = some c → c.stamp ≤ s.writes
  phase : ∀ i, (s.phase i).Holds (fun c => c.stamp ≤ s.writes)
    (fun row basis => basis ≤ s.writes ∧ Made program i row) (· ≤ s.writes)

omit [DecidableEq ι] in
theorem start_stamped (row : Option V) (warm : Bool) : Stamped program (start row warm) := by
  constructor
  · intro c h
    simp only [start] at h
    split_ifs at h
    obtain ⟨v, -, rfl⟩ := Option.map_eq_some_iff.mp h
    exact le_rfl
  · exact fun _ => trivial

theorem move_stamped (s : Store ι V) (i : ι) (p : Phase V) (h : Stamped program s)
    (hp : p.Holds (fun c => c.stamp ≤ s.writes)
      (fun row basis => basis ≤ s.writes ∧ Made program i row) (· ≤ s.writes)) :
    Stamped program (s.move i p) :=
  ⟨h.cached, forall_move (fun j p => p.Holds (fun c => c.stamp ≤ s.writes)
    (fun row basis => basis ≤ s.writes ∧ Made program j row) (· ≤ s.writes)) s i p h.phase hp⟩

theorem step_stamped (s : Store ι V) (a : Action ι) (h : Stamped program s) :
    Stamped program (step program s a) := by
  have moves := step_moves program s a
  generalize step program s a = t at moves ⊢
  have own : ∀ c, s.row = some c → c.stamp ≤ s.writes := fun c hc => by
    rw [(row_stamp s c hc).2]
  cases moves with
  | stay => exact h
  | hit i c idle found =>
    apply move_stamped program s i _ h
    intro d e
    exact h.cached d (found.trans e)
  | miss i => exact move_stamped program s i _ h trivial
  | fetch i row seen =>
    exact move_stamped program s i _ h fun c hc => own c (seen c hc)
  | fill i row fetched =>
    have copies := h.phase i
    rw [fetched] at copies
    have moved := move_stamped program s i (.holding row) h copies
    refine ⟨fun c hc => ?_, moved.phase⟩
    rcases Option.or_eq_some_iff.mp hc with new | ⟨-, old⟩
    · exact copies c new
    · exact h.cached c old
  | reload i => exact move_stamped program s i _ h own
  | fail a i => exact move_stamped program s i _ h trivial
  | save i row saves => exact move_stamped program s i _ h ⟨le_rfl, Or.inl saves⟩
  | compute i c row copy result =>
    exact move_stamped program s i _ h
      ⟨(s.phase i).copy_holds _ _ _ (h.phase i) c copy, Or.inr ⟨c.value, result⟩⟩
  | write i row basis ready =>
    have later := Nat.le_succ s.writes
    refine ⟨fun c hc => Nat.le_trans (h.cached c hc) later, ?_⟩
    refine forall_move (fun j p => p.Holds (fun c => c.stamp ≤ s.writes + 1)
      (fun row basis => basis ≤ s.writes + 1 ∧ Made program j row) (· ≤ s.writes + 1))
      s i _ (fun j => ?_) le_rfl
    exact (s.phase j).holds_mono _ _ _ _ _ _ (fun c hc => Nat.le_trans hc later)
      (fun r b hb => ⟨Nat.le_trans hb.1 later, hb.2⟩) (fun n hn => Nat.le_trans hn later)
      (h.phase j)
  | drop i n written =>
    have stamp := h.phase i
    rw [written] at stamp
    exact ⟨nofun, (move_stamped program s i (.returned n) h stamp).phase⟩
  | expire => exact ⟨nofun, h.phase⟩

theorem reached_stamped (row : Option V) (warm : Bool) (run : List (Action ι)) :
    Stamped program (after (step program) (start row warm) run) :=
  throughout_end (step program) (Stamped program) _ run
    (throughout_of_keep _ _ (step_stamped program) _ run (start_stamped program row warm))

section Recent

variable (Late : ι → Prop) (n : ℕ)

structure Recent (s : Store ι V) : Prop where
  writes : n ≤ s.writes
  cached : ∀ c, s.cached = some c → n ≤ c.stamp
  phase : ∀ i, Late i → (s.phase i).Holds (fun c => n ≤ c.stamp) (fun _ _ => True) fun _ => True

def FillsRecent (s : Store ι V) : Action ι → Prop
  | .fill i => ∀ c, s.phase i = .fetched (some c) → n ≤ c.stamp
  | _ => True

theorem move_recent (s : Store ι V) (i : ι) (p : Phase V) (h : Recent Late n s)
    (hp : Late i → p.Holds (fun c => n ≤ c.stamp) (fun _ _ => True) fun _ => True) :
    Recent Late n (s.move i p) :=
  ⟨h.writes, h.cached, forall_move (fun j p => Late j →
    p.Holds (fun c => n ≤ c.stamp) (fun _ _ => True) fun _ => True) s i p h.phase hp⟩

theorem step_recent (s : Store ι V) (a : Action ι) (h : Recent Late n s)
    (fills : FillsRecent n s a) : Recent Late n (step program s a) := by
  have moves := step_moves program s a
  generalize step program s a = t at moves ⊢
  have own : ∀ c, s.row = some c → n ≤ c.stamp := fun c hc => by
    rw [(row_stamp s c hc).2]
    exact h.writes
  cases moves with
  | stay => exact h
  | hit i c idle found =>
    exact move_recent Late n s i _ h fun _ d e => h.cached d (found.trans e)
  | miss i => exact move_recent Late n s i _ h fun _ => trivial
  | fetch i row seen => exact move_recent Late n s i _ h fun _ c hc => own c (seen c hc)
  | fill i row fetched =>
    have filled : ∀ c, row = some c → n ≤ c.stamp := fun c hc => fills c (hc ▸ fetched)
    refine ⟨h.writes, fun c hc => ?_, (move_recent Late n s i (.holding row) h fun _ => filled).phase⟩
    rcases Option.or_eq_some_iff.mp hc with new | ⟨-, old⟩
    · exact filled c new
    · exact h.cached c old
  | reload i => exact move_recent Late n s i _ h fun _ => own
  | fail a i => exact move_recent Late n s i _ h fun _ => trivial
  | save i row saves => exact move_recent Late n s i _ h fun _ => trivial
  | compute i c row => exact move_recent Late n s i _ h fun _ => trivial
  | write i row basis ready =>
    have moved := move_recent Late n s i (.written (s.writes + 1)) h fun _ => trivial
    exact ⟨Nat.le_succ_of_le h.writes, h.cached, moved.phase⟩
  | drop i m written =>
    have moved := move_recent Late n s i (.returned m) h fun _ => trivial
    exact ⟨h.writes, nofun, moved.phase⟩
  | expire => exact ⟨h.writes, nofun, h.phase⟩

/-- After the entry was dropped for the write with stamp `n`, the requests that had
not started hold no older copy, as long as no older copy is written into the cache. -/
theorem recent_after_drop (s : Store ι V) (i : ι) (written : s.phase i = .written n)
    (stamped : Stamped program s) (run : List (Action ι))
    (fills : Along (step program) (FillsRecent n) (step program s (.drop i)) run) :
    Throughout (step program)
      (fun t => ∀ j, (step program s (.drop i)).phase j = .idle →
        ∀ c, (t.phase j).copy = some c → n ≤ c.stamp)
      (step program s (.drop i)) run := by
  have stamp := stamped.phase i
  rw [written] at stamp
  have dropped : step program s (.drop i) = { s.move i (.returned n) with cached := none } := by
    simp [step, written]
  have first : Recent (fun j => (step program s (.drop i)).phase j = .idle) n
      (step program s (.drop i)) := by
    refine ⟨?_, ?_, fun j idle => ?_⟩
    · rw [dropped]
      exact stamp
    · rw [dropped]
      exact nofun
    · rw [idle]
      trivial
  apply throughout_mono _ _ _ _ _ run
    (throughout_of_step _ _ _ (step_recent program _ n) _ run first fills)
  intro t recent j idle c hc
  exact (t.phase j).copy_holds _ _ _ (recent.phase j idle) c hc

end Recent

section Settled

variable (Always : ι → Prop) (Good : V → Prop) (n : ℕ)

/-- The row is good, and so are the copies with stamp `n` or more and the rows
that wait to be written by a request that always computes a good row or has
computed it from such a copy. -/
structure Settled (s : Store ι V) : Prop where
  database : ∀ v, s.database = some v → Good v
  cached : ∀ c, s.cached = some c → n ≤ c.stamp → Good c.value
  phase : ∀ i, (s.phase i).Holds (fun c => n ≤ c.stamp → Good c.value)
    (fun row basis => Always i ∨ n ≤ basis → Good row) fun _ => True

def WritesRecent (s : Store ι V) : Action ι → Prop
  | .write i => ∀ row basis, s.phase i = .ready row basis → Always i ∨ n ≤ basis
  | _ => True

theorem move_settled (s : Store ι V) (i : ι) (p : Phase V) (h : Settled Always Good n s)
    (hp : p.Holds (fun c => n ≤ c.stamp → Good c.value)
      (fun row basis => Always i ∨ n ≤ basis → Good row) fun _ => True) :
    Settled Always Good n (s.move i p) :=
  ⟨h.database, h.cached, forall_move (fun j p => p.Holds (fun c => n ≤ c.stamp → Good c.value)
    (fun row basis => Always j ∨ n ≤ basis → Good row) fun _ => True) s i p h.phase hp⟩

variable (noSave : ∀ i row, program i ≠ .save row)
  (always : ∀ i v row, Always i → (program i).result v = some row → Good row)
  (keeps : ∀ i v row, Good v → (program i).result v = some row → Good row)

include noSave always keeps

theorem step_settled (s : Store ι V) (a : Action ι) (h : Settled Always Good n s)
    (writes : WritesRecent Always n s a) : Settled Always Good n (step program s a) := by
  have moves := step_moves program s a
  generalize step program s a = t at moves ⊢
  have own : ∀ c, s.row = some c → n ≤ c.stamp → Good c.value := fun c hc _ =>
    h.database c.value (row_stamp s c hc).1
  cases moves with
  | stay => exact h
  | hit i c idle found =>
    exact move_settled Always Good n s i _ h fun d e => h.cached d (found.trans e)
  | miss i => exact move_settled Always Good n s i _ h trivial
  | fetch i row seen => exact move_settled Always Good n s i _ h fun c hc => own c (seen c hc)
  | fill i row fetched =>
    have copies := h.phase i
    rw [fetched] at copies
    have moved := move_settled Always Good n s i (.holding row) h copies
    refine ⟨h.database, fun c hc => ?_, moved.phase⟩
    rcases Option.or_eq_some_iff.mp hc with new | ⟨-, old⟩
    · exact copies c new
    · exact h.cached c old
  | reload i => exact move_settled Always Good n s i _ h own
  | fail a i => exact move_settled Always Good n s i _ h trivial
  | save i row saves => exact absurd saves (noSave i row)
  | compute i c row copy result =>
    apply move_settled Always Good n s i _ h
    rintro (good | recent)
    · exact always i c.value row good result
    · have value := (s.phase i).copy_holds _ _ _ (h.phase i) c copy recent
      exact keeps i c.value row value result
  | write i row basis ready =>
    have waiting := h.phase i
    rw [ready] at waiting
    have good : Good row := waiting (writes row basis ready)
    have moved := move_settled Always Good n s i (.written (s.writes + 1)) h trivial
    exact ⟨fun v e => Option.some.inj e ▸ good, h.cached, moved.phase⟩
  | drop i m written =>
    have moved := move_settled Always Good n s i (.returned m) h trivial
    exact ⟨h.database, nofun, moved.phase⟩
  | expire => exact ⟨h.database, nofun, h.phase⟩

/-- Once a request that always computes a good row has written one, the row stays
good as long as no row is written that was computed from an older copy by a request
that need not. -/
theorem settled_after_write (s : Store ι V) (i : ι) (row : V) (basis : ℕ) (good : Always i)
    (ready : s.phase i = .ready row basis) (stamped : Stamped program s) (run : List (Action ι))
    (writes : Along (step program) (WritesRecent Always (s.writes + 1))
      (step program s (.write i)) run) :
    Throughout (step program) (fun t => ∀ v, t.database = some v → Good v)
      (step program s (.write i)) run := by
  have made : ∀ j r, Always j → Made program j r → Good r := by
    rintro j r hj (saves | ⟨v, result⟩)
    · exact absurd saves (noSave j r)
    · exact always j v r hj result
  have waiting := stamped.phase i
  rw [ready] at waiting
  have written : step program s (.write i) =
      { s.move i (.written (s.writes + 1)) with database := some row, writes := s.writes + 1 } := by
    simp [step, ready]
  have first : Settled Always Good (s.writes + 1) (step program s (.write i)) := by
    rw [written]
    constructor
    · intro v e
      rw [← Option.some.inj e]
      exact made i row good waiting.2
    · intro c hc recent
      have := stamped.cached c hc
      omega
    · refine forall_move (fun j p => p.Holds (fun c => s.writes + 1 ≤ c.stamp → Good c.value)
        (fun row basis => Always j ∨ s.writes + 1 ≤ basis → Good row) fun _ => True) s i _
        (fun j => ?_) trivial
      refine (s.phase j).holds_mono _ _ _ _ _ _ (fun c hc recent => ?_) (fun r b hb => ?_)
        (fun _ _ => trivial) (stamped.phase j)
      · omega
      · rintro (hj | recent)
        · exact made j r hj hb.2
        · omega
  exact throughout_mono _ _ _ (fun t settled => settled.database) _ run
    (throughout_of_step _ _ _ (step_settled program Always Good _ noSave always keeps) _ run
      first writes)

end Settled

end Library.CacheAside
