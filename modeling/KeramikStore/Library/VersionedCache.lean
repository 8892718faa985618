import Mathlib.Data.Nat.Basic
import Mathlib.Logic.Function.Basic
import KeramikStore.Library.Runs

/-!
# Listings cached under a version

A listing looks up the version, then the entry of its options under that version,
and after a miss it counts and finds in the database, in any order, and fills the
entry. A write changes the database and at its end increments the version. All of
these are separate steps of any number of requests. The keys of different versions
are different, so an entry under a version was read by a request that began when
the version had been reached: a listing that starts after a write has returned is
not older than that write, however slow the other requests are.
-/

set_option autoImplicit false

namespace Library.VersionedCache
open Library.Runs

structure Read (α : Type*) where
  value : α
  stamp : ℕ
deriving DecidableEq

variable {ι δ Q κ N R : Type*}

structure Listing (N R : Type*) where
  total : Read N
  rows : Read R
deriving DecidableEq

/-- A listing with its options, or a write. A write reads the database first, and may
end there; what it writes may still be refused. -/
inductive Request (δ Q : Type*) where
  | list (options : Q)
  | write (prepare : δ → Option (δ → Option δ))

inductive Phase (δ N R : Type*) where
  | idle
  | versioned (version : ℕ)
  | missed (version : ℕ) (total : Option (Read N)) (rows : Option (Read R))
  | gives (listing : Listing N R)
  | prepared (write : δ → Option δ)
  | upserted (stamp : ℕ)
  | dropped (stamp : ℕ)
  | returned (stamp : ℕ)
  | failed

structure Store (ι δ κ N R : Type*) where
  database : δ
  writes : ℕ
  version : Option ℕ
  cached : κ → Option (Listing N R)
  phase : ι → Phase δ N R

inductive Action (ι κ : Type*) where
  | readVersion (i : ι)
  | readEntry (i : ι)
  | count (i : ι)
  | find (i : ι)
  | fill (i : ι)
  | prepare (i : ι)
  | upsert (i : ι)
  | drop (i : ι)
  | incr (i : ι)
  | expire (key : κ)

structure Queries (δ Q κ N R : Type*) where
  count : Q → δ → N
  find : Q → δ → R
  key : ℕ → Q → κ
  key_version : ∀ v w q p, key v q = key w p → v = w

def start (database : δ) (version : Option ℕ) : Store ι δ κ N R :=
  ⟨database, 0, version, fun _ => none, fun _ => .idle⟩

def Store.current (s : Store ι δ κ N R) : ℕ := s.version.getD 0

variable [DecidableEq ι] [DecidableEq κ]

def Store.move (s : Store ι δ κ N R) (i : ι) (p : Phase δ N R) : Store ι δ κ N R :=
  { s with phase := Function.update s.phase i p }

variable (queries : Queries δ Q κ N R) (requests : ι → Request δ Q)

def step (s : Store ι δ κ N R) : Action ι κ → Store ι δ κ N R
  | .readVersion i =>
    match requests i, s.phase i with
    | .list _, .idle => s.move i (.versioned s.current)
    | _, _ => s
  | .readEntry i =>
    match requests i, s.phase i with
    | .list q, .versioned v => s.move i (match s.cached (queries.key v q) with
      | some listing => .gives listing
      | none => .missed v none none)
    | _, _ => s
  | .count i =>
    match requests i, s.phase i with
    | .list q, .missed v _ rows =>
      s.move i (.missed v (some ⟨queries.count q s.database, s.writes⟩) rows)
    | _, _ => s
  | .find i =>
    match requests i, s.phase i with
    | .list q, .missed v total _ =>
      s.move i (.missed v total (some ⟨queries.find q s.database, s.writes⟩))
    | _, _ => s
  | .fill i =>
    match requests i, s.phase i with
    | .list q, .missed v (some total) (some rows) =>
      { s.move i (.gives ⟨total, rows⟩) with
        cached := Function.update s.cached (queries.key v q) (some ⟨total, rows⟩) }
    | _, _ => s
  | .prepare i =>
    match requests i, s.phase i with
    | .write prepare, .idle => s.move i ((prepare s.database).elim .failed .prepared)
    | _, _ => s
  | .upsert i =>
    match s.phase i with
    | .prepared write =>
      match write s.database with
      | some d =>
        { s.move i (.upserted (s.writes + 1)) with database := d, writes := s.writes + 1 }
      | none => s.move i .failed
    | _ => s
  | .drop i =>
    match s.phase i with
    | .upserted n => s.move i (.dropped n)
    | _ => s
  | .incr i =>
    match s.phase i with
    | .dropped n => { s.move i (.returned n) with version := some (s.current + 1) }
    | _ => s
  | .expire key => { s with cached := Function.update s.cached key none }

inductive Moves (s : Store ι δ κ N R) : Action ι κ → Store ι δ κ N R → Prop where
  | stay (a : Action ι κ) : Moves s a s
  | version (i : ι) (idle : s.phase i = .idle) :
      Moves s (.readVersion i) (s.move i (.versioned s.current))
  | hit (i : ι) (q : Q) (v : ℕ) (listing : Listing N R) (versioned : s.phase i = .versioned v)
      (found : s.cached (queries.key v q) = some listing) :
      Moves s (.readEntry i) (s.move i (.gives listing))
  | miss (i : ι) (v : ℕ) (versioned : s.phase i = .versioned v) :
      Moves s (.readEntry i) (s.move i (.missed v none none))
  | count (i : ι) (v : ℕ) (n : N) (total : Option (Read N)) (rows : Option (Read R))
      (missed : s.phase i = .missed v total rows) :
      Moves s (.count i) (s.move i (.missed v (some ⟨n, s.writes⟩) rows))
  | find (i : ι) (v : ℕ) (r : R) (total : Option (Read N)) (rows : Option (Read R))
      (missed : s.phase i = .missed v total rows) :
      Moves s (.find i) (s.move i (.missed v total (some ⟨r, s.writes⟩)))
  | fill (i : ι) (q : Q) (v : ℕ) (total : Read N) (rows : Read R)
      (missed : s.phase i = .missed v (some total) (some rows)) :
      Moves s (.fill i) { s.move i (.gives ⟨total, rows⟩) with
        cached := Function.update s.cached (queries.key v q) (some ⟨total, rows⟩) }
  | prepare (i : ι) (write : δ → Option δ) :
      Moves s (.prepare i) (s.move i (.prepared write))
  | fail (a : Action ι κ) (i : ι) : Moves s a (s.move i .failed)
  | upsert (i : ι) (d : δ) : Moves s (.upsert i)
      { s.move i (.upserted (s.writes + 1)) with database := d, writes := s.writes + 1 }
  | drop (i : ι) (n : ℕ) (upserted : s.phase i = .upserted n) :
      Moves s (.drop i) (s.move i (.dropped n))
  | incr (i : ι) (n : ℕ) (dropped : s.phase i = .dropped n) :
      Moves s (.incr i) { s.move i (.returned n) with version := some (s.current + 1) }
  | expire (key : κ) :
      Moves s (.expire key) { s with cached := Function.update s.cached key none }

theorem readEntry_moves (s : Store ι δ κ N R) (i : ι) :
    Moves queries s (.readEntry i) (step queries requests s (.readEntry i)) := by
  cases hr : requests i with
  | write prepare => simpa [step, hr] using Moves.stay _
  | list q =>
    cases hp : s.phase i with
    | versioned v =>
      cases hc : s.cached (queries.key v q) with
      | some listing => simpa [step, hr, hp, hc] using Moves.hit i q v listing hp hc
      | none => simpa [step, hr, hp, hc] using Moves.miss i v hp
    | _ => simpa [step, hr, hp] using Moves.stay _

theorem fill_moves (s : Store ι δ κ N R) (i : ι) :
    Moves queries s (.fill i) (step queries requests s (.fill i)) := by
  cases hr : requests i with
  | write prepare => simpa [step, hr] using Moves.stay _
  | list q =>
    cases hp : s.phase i with
    | missed v total rows =>
      cases total with
      | none => simpa [step, hr, hp] using Moves.stay _
      | some total =>
        cases rows with
        | none => simpa [step, hr, hp] using Moves.stay _
        | some rows => simpa [step, hr, hp] using Moves.fill i q v total rows hp
    | _ => simpa [step, hr, hp] using Moves.stay _

theorem prepare_moves (s : Store ι δ κ N R) (i : ι) :
    Moves queries s (.prepare i) (step queries requests s (.prepare i)) := by
  cases hr : requests i with
  | list q => simpa [step, hr] using Moves.stay _
  | write prepare =>
    cases hp : s.phase i with
    | idle =>
      cases hw : prepare s.database with
      | none => simpa [step, hr, hp, hw] using Moves.fail _ i
      | some write => simpa [step, hr, hp, hw] using Moves.prepare i write
    | _ => simpa [step, hr, hp] using Moves.stay _

theorem step_moves (s : Store ι δ κ N R) (a : Action ι κ) :
    Moves queries s a (step queries requests s a) := by
  cases a with
  | readVersion i =>
    cases hr : requests i with
    | write prepare => simpa [step, hr] using Moves.stay _
    | list q =>
      cases hp : s.phase i with
      | idle => simpa [step, hr, hp] using Moves.version i hp
      | _ => simpa [step, hr, hp] using Moves.stay _
  | readEntry i => exact readEntry_moves queries requests s i
  | count i =>
    cases hr : requests i with
    | write prepare => simpa [step, hr] using Moves.stay _
    | list q =>
      cases hp : s.phase i with
      | missed v total rows => simpa [step, hr, hp] using Moves.count i v _ total rows hp
      | _ => simpa [step, hr, hp] using Moves.stay _
  | find i =>
    cases hr : requests i with
    | write prepare => simpa [step, hr] using Moves.stay _
    | list q =>
      cases hp : s.phase i with
      | missed v total rows => simpa [step, hr, hp] using Moves.find i v _ total rows hp
      | _ => simpa [step, hr, hp] using Moves.stay _
  | fill i => exact fill_moves queries requests s i
  | prepare i => exact prepare_moves queries requests s i
  | upsert i =>
    cases hp : s.phase i with
    | prepared write =>
      cases hw : write s.database with
      | none => simpa [step, hp, hw] using Moves.fail _ i
      | some d => simpa [step, hp, hw] using Moves.upsert i d
    | _ => simpa [step, hp] using Moves.stay _
  | drop i =>
    cases hp : s.phase i with
    | upserted n => simpa [step, hp] using Moves.drop i n hp
    | _ => simpa [step, hp] using Moves.stay _
  | incr i =>
    cases hp : s.phase i with
    | dropped n => simpa [step, hp] using Moves.incr i n hp
    | _ => simpa [step, hp] using Moves.stay _
  | expire key => exact .expire key

theorem cached_update {α : Type*} (cached : κ → Option α) (k k' : κ) (x : Option α) (v : α)
    (h : Function.update cached k x k' = some v) : (k' = k ∧ x = some v) ∨ cached k' = some v := by
  by_cases same : k' = k
  · rw [same, Function.update_self] at h
    exact Or.inl ⟨same, h⟩
  · rw [Function.update_of_ne same] at h
    exact Or.inr h

omit [DecidableEq κ] in
theorem forall_move (P : ι → Phase δ N R → Prop) (s : Store ι δ κ N R) (i : ι)
    (p : Phase δ N R) (h : ∀ j, P j (s.phase j)) (hp : P i p) (j : ι) :
    P j ((s.move i p).phase j) := by
  change P j (Function.update s.phase i p j)
  by_cases e : j = i
  · subst e
    rwa [Function.update_self]
  · rw [Function.update_of_ne e]
    exact h j

def Phase.Holds (onVersion : ℕ → Option (Read N) → Option (Read R) → Prop)
    (onListing : Listing N R → Prop) (onStamp : ℕ → Prop) : Phase δ N R → Prop
  | versioned v => onVersion v none none
  | missed v total rows => onVersion v total rows
  | gives listing => onListing listing
  | upserted n | dropped n | returned n => onStamp n
  | idle | prepared _ | failed => True

theorem Phase.holds_mono (p : Phase δ N R)
    (version version' : ℕ → Option (Read N) → Option (Read R) → Prop)
    (listing listing' : Listing N R → Prop) (stamp stamp' : ℕ → Prop)
    (hv : ∀ v t r, version v t r → version' v t r) (hl : ∀ e, listing e → listing' e)
    (hs : ∀ n, stamp n → stamp' n) (h : p.Holds version listing stamp) :
    p.Holds version' listing' stamp' := by
  cases p with
  | versioned v => exact hv v _ _ h
  | missed v t r => exact hv v t r h
  | gives e => exact hl e h
  | upserted n | dropped n | returned n => exact hs n h
  | idle | prepared _ | failed => trivial

structure Bounded (s : Store ι δ κ N R) : Prop where
  cached : ∀ v q listing, s.cached (queries.key v q) = some listing → v ≤ s.current
  phase : ∀ i, (s.phase i).Holds (fun v _ _ => v ≤ s.current) (fun _ => True) (· ≤ s.writes)

omit [DecidableEq κ] in
theorem move_bounded (s : Store ι δ κ N R) (i : ι) (p : Phase δ N R) (h : Bounded queries s)
    (hp : p.Holds (fun v _ _ => v ≤ s.current) (fun _ => True) (· ≤ s.writes)) :
    Bounded queries (s.move i p) :=
  ⟨h.cached, forall_move (fun _ p => p.Holds (fun v _ _ => v ≤ s.current) (fun _ => True)
    (· ≤ s.writes)) s i p h.phase hp⟩

theorem step_bounded (s : Store ι δ κ N R) (a : Action ι κ) (h : Bounded queries s) :
    Bounded queries (step queries requests s a) := by
  have moves := step_moves queries requests s a
  generalize step queries requests s a = t at moves ⊢
  cases moves with
  | stay => exact h
  | version i idle => exact move_bounded queries s i _ h (Nat.le_refl _)
  | hit i q v listing versioned found => exact move_bounded queries s i _ h trivial
  | miss i v versioned =>
    have bound := h.phase i
    rw [versioned] at bound
    exact move_bounded queries s i (.missed v none none) h bound
  | count i v n total rows missed =>
    have bound := h.phase i
    rw [missed] at bound
    exact move_bounded queries s i (.missed v _ rows) h bound
  | find i v r total rows missed =>
    have bound := h.phase i
    rw [missed] at bound
    exact move_bounded queries s i (.missed v total _) h bound
  | fill i q v total rows missed =>
    have bound := h.phase i
    rw [missed] at bound
    have moved := move_bounded queries s i (.gives ⟨total, rows⟩) h trivial
    refine ⟨fun w p listing found => ?_, moved.phase⟩
    rcases cached_update _ _ _ _ _ found with ⟨same, -⟩ | old
    · rw [queries.key_version w v p q same]
      exact bound
    · exact h.cached w p listing old
  | prepare i write => exact move_bounded queries s i _ h trivial
  | fail a i => exact move_bounded queries s i _ h trivial
  | upsert i d =>
    refine ⟨h.cached, forall_move (fun _ p => p.Holds (fun v _ _ => v ≤ s.current)
      (fun _ => True) (· ≤ s.writes + 1)) s i _ (fun j => ?_) (Nat.le_refl _)⟩
    exact (s.phase j).holds_mono _ _ _ _ _ _ (fun _ _ _ hv => hv) (fun _ hl => hl)
      (fun n hn => Nat.le_succ_of_le hn) (h.phase j)
  | drop i n upserted =>
    have bound := h.phase i
    rw [upserted] at bound
    exact move_bounded queries s i (.dropped n) h bound
  | incr i n dropped =>
    have bound := h.phase i
    rw [dropped] at bound
    refine ⟨fun v q listing found => Nat.le_succ_of_le (h.cached v q listing found), ?_⟩
    refine forall_move (fun _ p => p.Holds (fun v _ _ => v ≤ s.current + 1) (fun _ => True)
      (· ≤ s.writes)) s i (.returned n) (fun j => ?_) bound
    exact (s.phase j).holds_mono _ _ _ _ _ _ (fun _ _ _ hv => Nat.le_succ_of_le hv)
      (fun _ hl => hl) (fun _ hn => hn) (h.phase j)
  | expire key =>
    refine ⟨fun v q listing found => ?_, h.phase⟩
    rcases cached_update _ _ _ _ _ found with ⟨-, gone⟩ | old
    · cases gone
    · exact h.cached v q listing old

theorem reached_bounded (database : δ) (version : Option ℕ) (run : List (Action ι κ)) :
    Bounded queries (after (step queries requests) (start database version) run) :=
  throughout_end (step queries requests) (Bounded queries) _ run <|
    throughout_of_keep _ _ (step_bounded queries requests) _ run
      ⟨fun _ _ _ found => absurd found nofun, fun _ => trivial⟩

section Recent

variable (Late : ι → Prop) (V n : ℕ)

def Listing.Recent (listing : Listing N R) : Prop :=
  n ≤ listing.total.stamp ∧ n ≤ listing.rows.stamp

def PartsRecent (total : Option (Read N)) (rows : Option (Read R)) : Prop :=
  (∀ t, total = some t → n ≤ t.stamp) ∧ ∀ r, rows = some r → n ≤ r.stamp

abbrev RecentPhase (late : Prop) (p : Phase δ N R) : Prop :=
  p.Holds (fun v total rows => (late → V ≤ v) ∧ (V ≤ v → PartsRecent n total rows))
    (fun listing => late → listing.Recent n) fun _ => True

structure Recent (s : Store ι δ κ N R) : Prop where
  version : V ≤ s.current
  writes : n ≤ s.writes
  cached : ∀ v q listing, V ≤ v → s.cached (queries.key v q) = some listing → listing.Recent n
  phase : ∀ i, RecentPhase V n (Late i) (s.phase i)

omit [DecidableEq κ] in
theorem move_recent (s : Store ι δ κ N R) (i : ι) (p : Phase δ N R)
    (h : Recent queries Late V n s) (hp : RecentPhase V n (Late i) p) :
    Recent queries Late V n (s.move i p) :=
  ⟨h.version, h.writes, h.cached,
    forall_move (fun j p => RecentPhase V n (Late j) p) s i p h.phase hp⟩

theorem step_recent (s : Store ι δ κ N R) (a : Action ι κ) (h : Recent queries Late V n s) :
    Recent queries Late V n (step queries requests s a) := by
  have moves := step_moves queries requests s a
  generalize step queries requests s a = t at moves ⊢
  cases moves with
  | stay => exact h
  | version i idle =>
    exact move_recent queries Late V n s i _ h ⟨fun _ => h.version, fun _ => ⟨nofun, nofun⟩⟩
  | hit i q v listing versioned found =>
    have under := h.phase i
    rw [versioned] at under
    exact move_recent queries Late V n s i (.gives listing) h
      fun late => h.cached v q listing (under.1 late) found
  | miss i v versioned =>
    have under := h.phase i
    rw [versioned] at under
    exact move_recent queries Late V n s i (.missed v none none) h under
  | count i v m total rows missed =>
    have under := h.phase i
    rw [missed] at under
    refine move_recent queries Late V n s i (.missed v _ rows) h ⟨under.1, fun hv => ⟨?_, ?_⟩⟩
    · intro t e
      rw [← Option.some.inj e]
      exact h.writes
    · exact (under.2 hv).2
  | find i v r total rows missed =>
    have under := h.phase i
    rw [missed] at under
    refine move_recent queries Late V n s i (.missed v total _) h ⟨under.1, fun hv => ⟨?_, ?_⟩⟩
    · exact (under.2 hv).1
    · intro t e
      rw [← Option.some.inj e]
      exact h.writes
  | fill i q v total rows missed =>
    have under := h.phase i
    rw [missed] at under
    have recent : V ≤ v → Listing.Recent n ⟨total, rows⟩ := fun hv =>
      ⟨(under.2 hv).1 total rfl, (under.2 hv).2 rows rfl⟩
    have moved := move_recent queries Late V n s i (.gives ⟨total, rows⟩) h
      fun late => recent (under.1 late)
    refine ⟨h.version, h.writes, fun w p listing hw found => ?_, moved.phase⟩
    rcases cached_update _ _ _ _ _ found with ⟨same, filled⟩ | old
    · rw [← Option.some.inj filled]
      exact recent (queries.key_version w v p q same ▸ hw)
    · exact h.cached w p listing hw old
  | prepare i write => exact move_recent queries Late V n s i _ h trivial
  | fail a i => exact move_recent queries Late V n s i _ h trivial
  | upsert i d =>
    have moved := move_recent queries Late V n s i (.upserted (s.writes + 1)) h trivial
    exact ⟨h.version, Nat.le_succ_of_le h.writes, h.cached, moved.phase⟩
  | drop i m upserted => exact move_recent queries Late V n s i _ h trivial
  | incr i m dropped =>
    have moved := move_recent queries Late V n s i (.returned m) h trivial
    exact ⟨Nat.le_succ_of_le h.version, h.writes, h.cached, moved.phase⟩
  | expire key =>
    refine ⟨h.version, h.writes, fun v q listing hv found => ?_, h.phase⟩
    rcases cached_update _ _ _ _ _ found with ⟨-, gone⟩ | old
    · cases gone
    · exact h.cached v q listing hv old

/-- When a write returns, no entry and no running listing has the version that it
brings about. -/
theorem recent_after_incr (s : Store ι δ κ N R) (i : ι) (bounded : Bounded queries s)
    (dropped : s.phase i = .dropped n) :
    Recent queries (fun j => (step queries requests s (.incr i)).phase j = .idle)
      (s.current + 1) n (step queries requests s (.incr i)) := by
  have stamp := bounded.phase i
  rw [dropped] at stamp
  have returned : step queries requests s (.incr i) =
      { s.move i (.returned n) with version := some (s.current + 1) } := by
    simp [step, dropped]
  refine ⟨?_, ?_, ?_, ?_⟩
  · rw [returned]
    exact Nat.le_refl _
  · rw [returned]
    exact stamp
  · rw [returned]
    intro v q listing hv found
    have := bounded.cached v q listing found
    omega
  · have old : ∀ j, ((step queries requests s (.incr i)).phase j).Holds
        (fun v _ _ => v ≤ s.current) (fun _ => True) fun _ => True := by
      rw [returned]
      refine forall_move (fun _ p => p.Holds (fun v _ _ => v ≤ s.current) (fun _ => True)
        fun _ => True) s i (.returned n) (fun j => ?_) trivial
      exact (s.phase j).holds_mono _ _ _ _ _ _ (fun _ _ _ hv => hv) (fun _ hl => hl)
        (fun _ _ => trivial) (bounded.phase j)
    intro j
    have here := old j
    revert here
    generalize (step queries requests s (.incr i)).phase j = p
    intro here
    cases p with
    | versioned v | missed v total rows =>
      change v ≤ s.current at here
      exact ⟨nofun, fun hv => by omega⟩
    | gives listing => exact nofun
    | _ => trivial

end Recent

/-- A listing that had not started when a write returned gives what was read after
that write. -/
theorem listings_after_return (database : δ) (version : Option ℕ) (before rest : List (Action ι κ))
    (i : ι) (n : ℕ)
    (dropped : (after (step queries requests) (start database version) before).phase i =
      .dropped n) :
    Throughout (step queries requests)
      (fun t => ∀ j, (step queries requests
          (after (step queries requests) (start database version) before) (.incr i)).phase j =
            .idle →
        ∀ listing, t.phase j = .gives listing → listing.Recent n)
      (step queries requests (after (step queries requests) (start database version) before)
        (.incr i)) rest := by
  have bounded := reached_bounded queries requests database version before
  generalize after (step queries requests) (start database version) before = s at *
  apply throughout_mono _ _ _ _ _ rest <|
    throughout_of_keep _ _ (step_recent queries requests _ (s.current + 1) n) _ rest
      (recent_after_incr queries requests n s i bounded dropped)
  intro t recent j idle listing gives
  have here := recent.phase j
  rw [gives] at here
  exact here idle

end Library.VersionedCache
