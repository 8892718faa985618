import KeramikStore.Auth.StatusBlocks

/-!
# Commands of an authentication user that throw

A command throws before it changes anything, except where it adds a token to a user who
is not active: the record of a login has set its date by then, and a refresh has removed
the old token. The record of a login through a provider adds the token first.
-/

set_option autoImplicit false

namespace KeramikStore.AuthAtomicity
open Library Library.Runs Library.Outcome AuthCommand

def Atomic (u : AuthUser) (a : AuthCommand × Clock) : Prop :=
  ¬ (a.1.exec a.2 u).Returns → run u a = u

def Exchanges (u : AuthUser) (a : AuthCommand × Clock) : Prop :=
  ∀ old new, a.1 = .recordTokenRefresh old new → old ∈ u.refreshTokens →
    old ∉ (run u a).refreshTokens → new ∈ (run u a).refreshTokens

def Harmless (u : AuthUser) (a : AuthCommand × Clock) : Prop :=
  match a.1 with
  | .recordLogin t =>
    t ≠ "" → t ∉ u.refreshTokens → u.status ≠ .active → u.lastLoginAt = some (a.2.read 0)
  | .recordTokenRefresh old new =>
    new ∉ u.refreshTokens.filter (· != old) → u.status ≠ .active →
      old ∉ u.refreshTokens ∧ u.updatedAt = a.2.read 0
  | _ => True

section Calls

variable (u : AuthUser) (clk : Clock)

theorem recordOAuthLogin_clean (p : AuthProviderName) (t : String) (a : Option String) :
    Clean u (u.recordOAuthLogin p t a clk) := by
  unfold AuthUser.recordOAuthLogin
  split
  · exact clean_threw _ u
  · rcases AuthUser.addRefreshToken_cases u (clk.read 0) t with
      ⟨-, added⟩ | ⟨-, -, added⟩ | ⟨-, -, added⟩
    · rw [added]
      exact clean_done u _
    · rw [added]
      exact clean_threw _ u
    · rw [added]
      exact clean_done u _

/-- All commands but two check before they assign. -/
theorem exec_clean (c : AuthCommand) (login : ∀ t, c ≠ .recordLogin t)
    (refresh : ∀ old new, c ≠ .recordTokenRefresh old new) : Clean u (c.exec clk u) := by
  cases c with
  | verifyEmail => exact clean_ite u _ _ _
  | unverifyEmail => exact clean_ite u _ _ _
  | changePassword p =>
    change Clean u (u.changePassword p clk)
    unfold AuthUser.changePassword
    split
    · exact clean_threw _ u
    · exact clean_done u _
  | resetPassword p =>
    change Clean u (u.resetPassword p clk)
    unfold AuthUser.resetPassword
    split
    · exact clean_threw _ u
    · exact clean_done u _
  | recordLogin t => exact absurd rfl (login t)
  | recordOAuthLogin p t a => exact recordOAuthLogin_clean u clk p t a
  | recordTokenRefresh old new => exact absurd rfl (refresh old new)
  | linkOAuth p => exact clean_ite u _ _ _
  | unlinkOAuth p => exact clean_ite u _ _ _
  | recordLogout | revokeAllRefreshTokens | activate | deactivate | suspend | softDelete =>
    exact clean_done u _

/-- The date of the login is set before the token is refused. -/
theorem recordLogin_clean_iff (t : String) :
    Clean u (u.recordLogin t clk) ↔ (t ≠ "" → t ∉ u.refreshTokens → u.status ≠ .active →
      u.lastLoginAt = some (clk.read 0)) := by
  unfold AuthUser.recordLogin
  dsimp only
  by_cases empty : t = ""
  · rw [if_pos (beq_iff_eq.mpr empty)]
    exact iff_of_true (clean_done u _) fun given => absurd empty given
  · rw [if_neg (beq_iff_eq.not.mpr empty)]
    rcases AuthUser.addRefreshToken_cases { u with lastLoginAt := some (clk.read 0) }
        (clk.read 1) t with ⟨held, added⟩ | ⟨new, blocked, added⟩ | ⟨-, active, added⟩
    · rw [added]
      exact iff_of_true (clean_done u _) fun _ new => absurd held new
    · rw [added]
      have same : { u with lastLoginAt := some (clk.read 0) } = u ↔
          u.lastLoginAt = some (clk.read 0) := by
        obtain ⟨⟨⟩⟩ := u
        simp [eq_comm]
      constructor
      · exact fun clean _ _ _ => same.mp (clean (Outcome.not_returns_threw _ _))
      · exact fun dated _ => same.mpr (dated empty new blocked)
    · rw [added]
      exact iff_of_true (clean_done u _) fun _ _ blocked => absurd active blocked

theorem removeRefreshToken_eq_iff (token : String) (now : Date) :
    u.removeRefreshToken token now = u ↔ token ∉ u.refreshTokens ∧ u.updatedAt = now := by
  have filtered : u.refreshTokens.filter (· != token) = u.refreshTokens ↔
      token ∉ u.refreshTokens := by
    rw [List.filter_eq_self]
    constructor
    · intro all held
      simpa using all token held
    · rintro absent t held
      exact bne_iff_ne.mpr fun same => absent (same ▸ held)
  rw [← filtered]
  obtain ⟨⟨⟩⟩ := u
  simp [AuthUser.removeRefreshToken, eq_comm]

/-- The old token is removed before the new one is refused. -/
theorem recordTokenRefresh_clean_iff (old new : String) :
    Clean u (u.recordTokenRefresh old new clk) ↔
      (new ∉ u.refreshTokens.filter (· != old) → u.status ≠ .active →
        old ∉ u.refreshTokens ∧ u.updatedAt = clk.read 0) := by
  unfold AuthUser.recordTokenRefresh
  rcases AuthUser.addRefreshToken_cases (u.removeRefreshToken old (clk.read 0)) (clk.read 1) new
      with ⟨held, added⟩ | ⟨absent, blocked, added⟩ | ⟨-, active, added⟩
  · rw [added]
    exact iff_of_true (clean_done u _) fun absent => absurd held absent
  · rw [added, ← removeRefreshToken_eq_iff]
    constructor
    · exact fun clean _ _ => clean (Outcome.not_returns_threw _ _)
    · exact fun same _ => same absent blocked
  · rw [added]
    exact iff_of_true (clean_done u _) fun _ blocked => absurd active blocked

theorem recordTokenRefresh_adds (old new : String)
    (returned : (u.recordTokenRefresh old new clk).Returns) :
    new ∈ (u.recordTokenRefresh old new clk).state.refreshTokens := by
  unfold AuthUser.recordTokenRefresh at returned ⊢
  rcases AuthUser.addRefreshToken_cases (u.removeRefreshToken old (clk.read 0)) (clk.read 1) new
      with ⟨held, added⟩ | ⟨-, -, added⟩ | ⟨-, -, added⟩
  · rw [added]
    exact held
  · rw [added] at returned
    exact absurd returned (Outcome.not_returns_threw _ _)
  · rw [added]
    exact AuthUser.token_mem_pushToken _ _

end Calls

theorem atomic_exchanges (u : AuthUser) (a : AuthCommand × Clock) (atomic : Atomic u a) :
    Exchanges u a := by
  obtain ⟨c, clk⟩ := a
  rintro old new same held lost
  obtain rfl : c = .recordTokenRefresh old new := same
  by_cases returned : (u.recordTokenRefresh old new clk).Returns
  · exact recordTokenRefresh_adds u clk old new returned
  · rw [atomic returned] at lost
    exact absurd held lost

theorem atomic_iff (u : AuthUser) (a : AuthCommand × Clock) :
    Atomic u a ∧ Exchanges u a ↔ Harmless u a := by
  rw [and_iff_left_of_imp (atomic_exchanges u a)]
  obtain ⟨c, clk⟩ := a
  cases c with
  | recordLogin t => exact recordLogin_clean_iff u clk t
  | recordTokenRefresh old new => exact recordTokenRefresh_clean_iff u clk old new
  | _ => exact iff_of_true (exec_clean u clk _ nofun nofun) trivial

/-- In a run of the commands from any user, every command that throws leaves the user and
the events as they were, and every refresh that loses a token adds one, just when every
login and every refresh whose token is refused finds nothing to change. -/
theorem commands_atomic_iff (u : AuthUser) (commands : List (AuthCommand × Clock)) :
    Along run (fun v a => Atomic v a ∧ Exchanges v a) u commands ↔
      Along run Harmless u commands :=
  along_congr run _ _ atomic_iff u commands

section Samples

def lostSession : List (AuthCommand × Clock) :=
  [(.verifyEmail, .still 1), (.recordLogin "t1", .still 2), (.unverifyEmail, .still 3)]

/-- A registered user who is not active takes the date of a login that throws, and a
refresh of a session from before the withdrawal of the verification drops it. -/
theorem refused_refresh_drops :
    ∃ u, AuthUser.register .sample .sample .sample ⟨"h"⟩ none (.still 0) = .ok u ∧
      ¬ ((AuthCommand.recordLogin "t0").exec (.still 1) u).Returns ∧
      u.lastLoginAt = none ∧
      ((AuthCommand.recordLogin "t0").exec (.still 1) u).state.lastLoginAt = some 1 ∧
      ¬ Atomic u (.recordLogin "t0", .still 1) ∧
      (after run u lostSession).refreshTokens = ["t1"] ∧
      ¬ ((AuthCommand.recordTokenRefresh "t1" "t2").exec (.still 4)
        (after run u lostSession)).Returns ∧
      (run (after run u lostSession) (.recordTokenRefresh "t1" "t2", .still 4)).refreshTokens =
        [] ∧
      ¬ Exchanges (after run u lostSession) (.recordTokenRefresh "t1" "t2", .still 4) := by
  refine ⟨_, rfl, by decide, rfl, by decide, ?_, by decide, by decide, by decide, ?_⟩
  · intro atomic
    exact absurd (congrArg (fun v => v.lastLoginAt) (atomic (by decide))) (by decide)
  · intro exchanges
    exact absurd (exchanges "t1" "t2" rfl (by decide) (by decide)) (by decide)

end Samples

end KeramikStore.AuthAtomicity
