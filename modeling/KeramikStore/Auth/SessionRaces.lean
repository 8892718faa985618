import KeramikStore.Library.SharedCell
import KeramikStore.Auth.AuthUserMapper
import KeramikStore.Auth.UseCases

/-!
# Concurrent requests on one user row

Six use cases read the whole row or a cached copy of it, run commands on what
they read and write the whole row back. There is no version, lock or condition
on the write, so a request that read before a password change and writes after it
brings the old password and the old sessions back. Without such a late write the
change sticks; a late change of the password itself does no harm.
-/

set_option autoImplicit false

namespace KeramikStore.SessionRaces
open Library Library.Runs Library.SharedCell

inductive Request where
  | loginWithEmail (password refreshToken : String)
  | refreshToken (presented newRefreshToken : String)
  | logout (refreshToken : String)
  | googleAuthCallback (providerId refreshToken : String) (avatarUrl : Option String)
  | changePassword (currentPassword newPassword newHash : String)
  | resetPassword (newPassword newHash : String)
deriving DecidableEq

inductive CacheKey where
  | byId
  | byEmail
deriving DecidableEq

namespace Request

def key : Request → CacheKey
  | loginWithEmail .. | googleAuthCallback .. => .byEmail
  | _ => .byId

def run (hasher : PasswordHasher) (clk : Clock) : Request → AuthUser → Except Error AuthUser
  | loginWithEmail password token => UseCases.loginWithEmail hasher password token clk
  | refreshToken presented token => UseCases.refreshToken presented token clk
  | logout token => UseCases.logout token clk
  | googleAuthCallback id token avatarUrl => UseCases.googleAuthCallback id token avatarUrl clk
  | changePassword current new hash => UseCases.changePassword hasher current new hash clk
  | resetPassword new hash => UseCases.resetPassword hasher new hash clk

def newHash : Request → Option String
  | changePassword _ _ hash | resetPassword _ hash => some hash
  | _ => none

def newToken : Request → Option String
  | loginWithEmail _ token | refreshToken _ token | googleAuthCallback _ token _ => some token
  | _ => none

def isPasswordChange : Request → Bool
  | changePassword .. | resetPassword .. => true
  | _ => false

theorem run_draws (hasher : PasswordHasher) (clk : Clock) (q : Request) (u v : AuthUser)
    (h : q.run hasher clk u = .ok v) :
    UseCases.Draws u.toAuthUserProps v.toAuthUserProps q.newHash q.newToken := by
  cases q with
  | loginWithEmail p t => exact UseCases.loginWithEmail_draws hasher clk u v p t h
  | refreshToken p t => exact UseCases.refreshToken_draws clk u v p t h
  | logout t => exact UseCases.logout_draws clk u v t h
  | googleAuthCallback p t a => exact UseCases.googleAuthCallback_draws clk u v p t a h
  | changePassword c n hash =>
    obtain ⟨hp, ht⟩ := UseCases.changePassword_replaces hasher clk u v c n hash h
    exact ⟨fun p e => Or.inr (by rw [← Option.some.inj (hp.symm.trans e)]; rfl), by simp [ht]⟩
  | resetPassword n hash =>
    obtain ⟨hp, ht⟩ := UseCases.resetPassword_replaces hasher clk u v n hash h
    exact ⟨fun p e => Or.inr (by rw [← Option.some.inj (hp.symm.trans e)]; rfl), by simp [ht]⟩

theorem run_replaces (hasher : PasswordHasher) (clk : Clock) (q : Request) (u v : AuthUser)
    (hq : q.isPasswordChange = true) (h : q.run hasher clk u = .ok v) :
    v.password.map Password.getValue = q.newHash ∧ v.refreshTokens = [] := by
  cases q with
  | changePassword c n hash =>
    obtain ⟨hp, ht⟩ := UseCases.changePassword_replaces hasher clk u v c n hash h
    exact ⟨by rw [hp]; rfl, ht⟩
  | resetPassword n hash =>
    obtain ⟨hp, ht⟩ := UseCases.resetPassword_replaces hasher clk u v n hash h
    exact ⟨by rw [hp]; rfl, ht⟩
  | _ => cases hq

end Request

structure Job where
  request : Request
  loading : Clock
  clock : Clock

def compute (hasher : PasswordHasher) (job : Job) (fromCache : Bool) (raw : RawAuthUser) :
    Option RawAuthUser :=
  (UseCases.onRow (if fromCache then .cache else .database) job.loading
    (job.request.run hasher job.clock) raw).toOption

theorem compute_draws (hasher : PasswordHasher) (job : Job) (b : Bool) (raw r : RawAuthUser)
    (h : compute hasher job b raw = some r) :
    UseCases.RowDraws raw r job.request.newHash job.request.newToken :=
  UseCases.onRow_draws _ _ _ raw r _ _ (Request.run_draws hasher job.clock job.request)
    ((toOption_eq_some_iff _ _).mp h)

theorem compute_replaces (hasher : PasswordHasher) (job : Job) (b : Bool) (raw r : RawAuthUser)
    (hq : job.request.isPasswordChange = true) (h : compute hasher job b raw = some r) :
    r.password = job.request.newHash ∧ r.refreshTokens = [] := by
  obtain ⟨u, v, -, hr, rfl⟩ :=
    (UseCases.onRow_ok_iff _ _ _ _ _).mp ((toOption_eq_some_iff _ _).mp h)
  exact Request.run_replaces hasher job.clock job.request u v hq hr

def FreshFor (job : Job) (row : RawAuthUser) : Prop :=
  (∀ h, job.request.newHash = some h → row.password ≠ some h) ∧
    ∀ t, job.request.newToken = some t → t ∉ row.refreshTokens

structure Fresh (jobs : ℕ → Job) (row : RawAuthUser) : Prop where
  row : ∀ i, FreshFor (jobs i) row
  hashes : ∀ i j h, i ≠ j → (jobs i).request.newHash = some h → (jobs j).request.newHash ≠ some h
  tokens : ∀ i j t, i ≠ j → (jobs i).request.newToken = some t →
    (jobs j).request.newToken ≠ some t

def Harmless (old v : RawAuthUser) : Prop :=
  (∀ h, old.password = some h → v.password ≠ some h) ∧
    ∀ t ∈ old.refreshTokens, t ∉ v.refreshTokens

instance (old v : RawAuthUser) : Decidable (Harmless old v) :=
  have : Decidable (∀ h, old.password = some h → v.password ≠ some h) := by
    cases old.password with
    | none => exact isTrue nofun
    | some h => exact decidable_of_iff (v.password ≠ some h) (by simp)
  inferInstanceAs (Decidable (_ ∧ _))

theorem compute_free (hasher : PasswordHasher) (jobs : ℕ → Job) (row : RawAuthUser)
    (fresh : Fresh jobs row) (i j : ℕ) (b : Bool) (c r : RawAuthUser) (hij : j ≠ i)
    (h : compute hasher (jobs j) b c = some r) (hc : FreshFor (jobs i) c) :
    FreshFor (jobs i) r := by
  obtain ⟨hp, ht⟩ := compute_draws hasher (jobs j) b c r h
  constructor
  · intro p hi he
    exact (hp p he).elim (hc.1 p hi) (fresh.hashes i j p (Ne.symm hij) hi)
  · intro t hi he
    exact (ht t he).elim (hc.2 t hi) (fresh.tokens i j t (Ne.symm hij) hi)

theorem compute_harmless (hasher : PasswordHasher) (old : RawAuthUser) (job : Job) (b : Bool)
    (c r : RawAuthUser) (hold : FreshFor job old) (h : compute hasher job b c = some r)
    (hc : Harmless old c) : Harmless old r := by
  obtain ⟨hp, ht⟩ := compute_draws hasher job b c r h
  constructor
  · intro p ho he
    exact (hp p he).elim (hc.1 p ho) fun hn => hold.1 p hn ho
  · intro t ho he
    exact (ht t he).elim (hc.2 t ho) fun hn => hold.2 t hn ho

theorem passwordChange_harmless (hasher : PasswordHasher) (old : RawAuthUser) (job : Job)
    (b : Bool) (c r : RawAuthUser) (hq : job.request.isPasswordChange = true)
    (hold : FreshFor job old) (h : compute hasher job b c = some r) : Harmless old r := by
  obtain ⟨hp, ht⟩ := compute_replaces hasher job b c r hq h
  constructor
  · intro p ho he
    exact hold.1 p (hp.symm.trans he) ho
  · intro t _ he
    rw [ht] at he
    cases he

abbrev Store := Cell ℕ CacheKey RawAuthUser

section Runs

variable (hasher : PasswordHasher) (jobs : ℕ → Job) (row : RawAuthUser) (warm : CacheKey → Bool)

def keyOf (i : ℕ) : CacheKey := (jobs i).request.key

def computeOf (i : ℕ) : Bool → RawAuthUser → Option RawAuthUser := compute hasher (jobs i)

abbrev stepOf : Store → Action ℕ CacheKey → Store := step (keyOf jobs) (computeOf hasher jobs)

def reached (as : List (Action ℕ CacheKey)) : Store :=
  after (stepOf hasher jobs) (start row warm) as

/-- Until request `i` has ended, nothing in the store is what it is yet to make. -/
theorem fresh_until_done (fresh : Fresh jobs row) (as : List (Action ℕ CacheKey)) (i : ℕ)
    (hi : (reached hasher jobs row warm as).phase i ≠ .done) :
    FreshFor (jobs i) (reached hasher jobs row warm as).value := by
  have h := confined_throughout (keyOf jobs) (computeOf hasher jobs) i (FreshFor (jobs i))
    (fun j b c r hj => compute_free hasher jobs row fresh i j b c r hj) row warm (fresh.row i) as
  exact (throughout_end _ _ _ _ h hi).value

theorem ready_was_computed (as : List (Action ℕ CacheKey)) :
    Computed (computeOf hasher jobs) (reached hasher jobs row warm as) :=
  throughout_end _ _ _ _ (throughout_of_keep _ _ (step_computed _ _) _ as
    (fun _ _ h => nomatch h))

def Trusted (s : Store) (j : ℕ) : Prop :=
  s.phase j = .idle ∨ (jobs j).request.isPasswordChange = true

instance (s : Store) (j : ℕ) : Decidable (Trusted jobs s j) :=
  inferInstanceAs (Decidable (_ ∨ _))

/-- The write of a password change leaves a clean store: those that read after it
see the new row, and those that read before it can only bring another password. -/
theorem written_clean (s : Store) (i : ℕ) (r : RawAuthUser)
    (hfresh : ∀ j, s.phase j ≠ .done → FreshFor (jobs j) s.value)
    (hcomputed : Computed (computeOf hasher jobs) s)
    (hi : (jobs i).request.isPasswordChange = true) (hready : s.phase i = .ready r) :
    Clean (fun j => (stepOf hasher jobs s (.write i)).phase j ≠ .done)
      (fun j => s.phase j = .idle) (Trusted jobs s) (Harmless s.value)
      (stepOf hasher jobs s (.write i)) := by
  have hs : stepOf hasher jobs s (.write i) =
      ⟨r, fun _ => none, Function.update s.phase i .done⟩ := by
    simp [step, hready]
  have harmless : ∀ j v, s.phase j = .ready v → (jobs j).request.isPasswordChange = true →
      Harmless s.value v := by
    intro j v hj hq
    obtain ⟨b, c, hc⟩ := hcomputed j v hj
    exact passwordChange_harmless hasher s.value (jobs j) b c v hq (hfresh j (by simp [hj])) hc
  rw [hs]
  refine ⟨harmless i r hready hi, fun _ _ h => absurd h (Option.some_ne_none _).symm,
    fun j v b hf hj => ?_, fun j v hw hj => ?_, fun j hj => not_not.mp hj⟩
  · rcases update_phase_eq s i j _ _ hj with ⟨-, e⟩ | ⟨-, e⟩
    · cases e
    · rw [hf] at e
      cases e
  · rcases update_phase_eq s i j _ _ hj with ⟨-, e⟩ | ⟨-, e⟩
    · cases e
    · rcases hw with hidle | hq
      · rw [hidle] at e
        cases e
      · exact harmless j v e hq

/-- After a password change has written its row, no row that is written has the
password hash or a token from before, as long as every write is by a request that
read after the change or changes the password itself. -/
theorem password_change_sticks (fresh : Fresh jobs row) (before later : List (Action ℕ CacheKey))
    (i : ℕ) (r : RawAuthUser) (hi : (jobs i).request.isPasswordChange = true)
    (hready : (reached hasher jobs row warm before).phase i = .ready r)
    (hlater : Along (stepOf hasher jobs)
      (WrittenBy (Trusted jobs (reached hasher jobs row warm before)))
      (stepOf hasher jobs (reached hasher jobs row warm before) (.write i)) later) :
    Throughout (stepOf hasher jobs)
      (fun t => Harmless (reached hasher jobs row warm before).value t.value)
      (stepOf hasher jobs (reached hasher jobs row warm before) (.write i)) later := by
  have hfresh := fresh_until_done hasher jobs row warm fresh before
  have hcomputed := ready_was_computed hasher jobs row warm before
  generalize reached hasher jobs row warm before = s at *
  have clean := written_clean hasher jobs s i r hfresh hcomputed hi hready
  have sound : ∀ j b c v, (stepOf hasher jobs s (.write i)).phase j ≠ .done → Trusted jobs s j →
      computeOf hasher jobs j b c = some v → (s.phase j = .idle → Harmless s.value c) →
      Harmless s.value v := by
    intro j b c v hlive hw hc hg
    have hj : s.phase j ≠ .done := fun e => hlive (done_stays _ _ s _ j e)
    rcases hw with hidle | hq
    · exact compute_harmless hasher _ (jobs j) b c v (hfresh j hj) hc (hg hidle)
    · exact passwordChange_harmless hasher _ (jobs j) b c v hq (hfresh j hj) hc
  exact throughout_mono _ _ _ (fun t h => h.value) _ _
    (clean_throughout _ _ _ _ _ _ sound _ later clean hlater)

end Runs

section Samples

def sampleHasher : PasswordHasher := ⟨fun raw hash => raw == "Rahasia1!" && hash == "h0"⟩

def sampleJobs (first : Request) (i : ℕ) : Job where
  request := if i = 0 then first else
    if i = 1 then .changePassword "Rahasia1!" "Rahasia2!" "h1" else .logout "t0"
  loading := .still 10
  clock := .still 11

theorem sampleJobs_fresh (first : Request) (hh : first.newHash = none) (t : String)
    (ht : first.newToken = some t) (hne : t ≠ "t0") :
    Fresh (sampleJobs first) RawAuthUser.sample := by
  have hash : ∀ i h, (sampleJobs first i).request.newHash = some h → i = 1 ∧ h = "h1" := by
    intro i h hi
    simp only [sampleJobs] at hi
    split_ifs at hi with h0 h1
    · rw [hh] at hi
      cases hi
    · exact ⟨h1, (Option.some.inj hi).symm⟩
    · cases hi
  have token : ∀ i s, (sampleJobs first i).request.newToken = some s → i = 0 ∧ s = t := by
    intro i s hi
    simp only [sampleJobs] at hi
    split_ifs at hi with h0 h1
    · exact ⟨h0, (Option.some.inj (ht.symm.trans hi)).symm⟩
    · cases hi
    · cases hi
  refine ⟨fun i => ⟨fun h hi => ?_, fun s hi => ?_⟩, fun i j h hij hi hj => ?_,
    fun i j s hij hi hj => ?_⟩
  · rw [(hash i h hi).2]
    decide
  · rw [(token i s hi).2]
    simpa [RawAuthUser.sample] using hne
  · exact hij ((hash i h hi).1.trans (hash j h hj).1.symm)
  · exact hij ((token i s hi).1.trans (token j s hj).1.symm)

/-- A refresh that starts after the change takes nothing back. -/
theorem late_refresh_keeps_password :
    Throughout (stepOf sampleHasher (sampleJobs (.refreshToken "t0" "t1")))
      (fun t => Harmless RawAuthUser.sample t.value)
      (stepOf sampleHasher (sampleJobs (.refreshToken "t0" "t1"))
        (reached sampleHasher (sampleJobs (.refreshToken "t0" "t1")) RawAuthUser.sample
          (fun _ => true) [.read 1, .compute 1]) (.write 1))
      [.read 0, .compute 0, .write 0] :=
  password_change_sticks sampleHasher (sampleJobs (.refreshToken "t0" "t1")) RawAuthUser.sample
    (fun _ => true) (sampleJobs_fresh (.refreshToken "t0" "t1") rfl "t1" rfl (by decide))
    [.read 1, .compute 1] [.read 0, .compute 0, .write 0] 1 _ rfl rfl (by decide)

/-- A login that read the row before the change and writes after it stores the
old password hash and the old session again. -/
theorem stale_login_restores_password :
    Fresh (sampleJobs (.loginWithEmail "Rahasia1!" "t1")) RawAuthUser.sample ∧
      (∃ r, (reached sampleHasher (sampleJobs (.loginWithEmail "Rahasia1!" "t1")) RawAuthUser.sample
        (fun _ => false) [.read 0, .read 1, .compute 0, .compute 1]).phase 1 = .ready r) ∧
      (reached sampleHasher (sampleJobs (.loginWithEmail "Rahasia1!" "t1")) RawAuthUser.sample
        (fun _ => false) [.read 0, .read 1, .compute 0, .compute 1]).value = RawAuthUser.sample ∧
      ¬ Harmless RawAuthUser.sample (reached sampleHasher
        (sampleJobs (.loginWithEmail "Rahasia1!" "t1")) RawAuthUser.sample (fun _ => false)
        [.read 0, .read 1, .compute 0, .compute 1, .write 1, .write 0]).value :=
  ⟨sampleJobs_fresh _ rfl "t1" rfl (by decide), ⟨_, rfl⟩, rfl, by decide⟩

end Samples

end KeramikStore.SessionRaces
