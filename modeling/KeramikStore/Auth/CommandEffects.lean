import KeramikStore.Auth.AuthUser

/-!
# What the commands do to the properties

One equation for each command gives the properties that it leaves, the throwing
branches included. The equations are read off the commands once; every invariant
of the later modules is derived from them and unfolds no command.
-/

set_option autoImplicit false

namespace KeramikStore
open Library Library.Text

namespace AuthUser

variable (u : AuthUser) (clk : Clock) (now : Date)

@[simp] theorem addDomainEvent_props (e : DomainEvent) :
    (u.addDomainEvent e).toAuthUserProps = u.toAuthUserProps := rfl

@[simp] theorem applyChange_props :
    (u.applyChange now).toAuthUserProps = { u.toAuthUserProps with updatedAt := now } := rfl

@[simp] theorem removeRefreshToken_props (token : String) :
    (u.removeRefreshToken token now).toAuthUserProps =
      { u.toAuthUserProps with
        refreshTokens := u.refreshTokens.filter (· != token), updatedAt := now } := rfl

/-- The three outcomes of adding a token: it is there already, the user is not
active, or it is pushed. -/
theorem addRefreshToken_cases (token : String) :
    (token ∈ u.refreshTokens ∧ u.addRefreshToken token now = .done u) ∨
    (token ∉ u.refreshTokens ∧ u.status ≠ .active ∧ u.addRefreshToken token now =
      .threw (invalidAuthStateError "Cannot add refresh token to inactive user") u) ∨
    (token ∉ u.refreshTokens ∧ u.status = .active ∧ u.addRefreshToken token now =
      .done { u with refreshTokens := pushToken token u.refreshTokens, updatedAt := now }) := by
  unfold addRefreshToken
  by_cases hin : token ∈ u.refreshTokens
  · simp [hin]
  · by_cases hact : u.status = .active
    · simp [hin, hact, Status.isActive]
    · simp [hin, hact, Status.isActive]

theorem mem_pushToken (token t : String) (tokens : List String)
    (h : t ∈ pushToken token tokens) : t ∈ tokens ∨ t = token := by
  unfold pushToken at h
  simp only at h
  split at h
  · have := List.mem_of_mem_tail h
    simpa using this
  · simpa using h

theorem token_mem_pushToken (token : String) (tokens : List String) :
    token ∈ pushToken token tokens := by
  unfold pushToken
  simp only
  split
  · next h =>
    cases tokens with
    | nil => simp at h
    | cons t ts => simp
  · simp

end AuthUser

namespace AuthCommand

open AuthUser

def tokensWith (token : String) (p : AuthUserProps) : List String :=
  if token ∈ p.refreshTokens ∨ p.status ≠ .active then p.refreshTokens
  else pushToken token p.refreshTokens

def effect (clk : Clock) (u : AuthUser) : AuthCommand → AuthUserProps
  | verifyEmail =>
    if u.canVerifyEmail then
      { u.toAuthUserProps with
        emailVerified := true, emailVerifiedAt := some (clk.read 0), status := .active }
    else u.toAuthUserProps
  | unverifyEmail =>
    if u.emailVerified then
      { u.toAuthUserProps with
        emailVerified := false, emailVerifiedAt := none, status := .inactive }
    else u.toAuthUserProps
  | changePassword p | resetPassword p =>
    if u.canResetPassword then { u.toAuthUserProps with password := some p, refreshTokens := [] }
    else u.toAuthUserProps
  | recordLogin t =>
    { u.toAuthUserProps with
      lastLoginAt := some (clk.read 0)
      refreshTokens := if t = "" then u.refreshTokens else tokensWith t u.toAuthUserProps }
  | recordOAuthLogin p t _ =>
    if u.hasProvider p then
      { u.toAuthUserProps with
        lastLoginAt :=
          if t ∉ u.refreshTokens ∧ u.status ≠ .active then u.lastLoginAt else some (clk.read 1)
        refreshTokens := tokensWith t u.toAuthUserProps }
    else u.toAuthUserProps
  | recordLogout none => { u.toAuthUserProps with refreshTokens := [] }
  | recordLogout (some t) =>
    { u.toAuthUserProps with
      refreshTokens := if t.length = 0 then [] else u.refreshTokens.filter (· != t) }
  | recordTokenRefresh old new =>
    { u.toAuthUserProps with
      refreshTokens := tokensWith new
        { u.toAuthUserProps with refreshTokens := u.refreshTokens.filter (· != old) } }
  | revokeAllRefreshTokens => { u.toAuthUserProps with refreshTokens := [] }
  | activate => { u.toAuthUserProps with status := .active, refreshTokens := [] }
  | deactivate => { u.toAuthUserProps with status := .inactive, refreshTokens := [] }
  | suspend => { u.toAuthUserProps with status := .suspended, refreshTokens := [] }
  | softDelete =>
    { u.toAuthUserProps with
      status := .deleted, refreshTokens := [], deletedAt := some (clk.read 1) }
  | linkOAuth p =>
    if u.hasProvider p.providerName then u.toAuthUserProps
    else { u.toAuthUserProps with providers := u.providers ++ [p] }
  | unlinkOAuth p =>
    if u.hasProvider p then
      { u.toAuthUserProps with providers := u.providers.filter (·.providerName != p) }
    else u.toAuthUserProps

def Leaves (clk : Clock) (u v : AuthUser) (p : AuthUserProps) : Prop :=
  v.id = u.id ∧ ∃ d, v.toAuthUserProps = { p with updatedAt := d } ∧
    (d = u.updatedAt ∨ ∃ i, d = clk.read i)

theorem leaves_unchanged (clk : Clock) (u : AuthUser) : Leaves clk u u u.toAuthUserProps :=
  ⟨rfl, u.updatedAt, rfl, Or.inl rfl⟩

theorem verifyEmail_leaves (clk : Clock) (u : AuthUser) :
    Leaves clk u (u.verifyEmail clk).state (effect clk u verifyEmail) := by
  unfold AuthUser.verifyEmail effect
  by_cases h : u.canVerifyEmail = true
  · simp only [h, Bool.not_true, Bool.false_eq_true, if_false, if_true]
    exact ⟨rfl, clk.read 2, rfl, Or.inr ⟨2, rfl⟩⟩
  · simp only [h, Bool.not_false, if_true]
    exact leaves_unchanged clk u

theorem unverifyEmail_leaves (clk : Clock) (u : AuthUser) :
    Leaves clk u (u.unverifyEmail clk).state (effect clk u unverifyEmail) := by
  unfold AuthUser.unverifyEmail AuthUser.canUnverifyEmail effect
  by_cases h : u.emailVerified = true
  · simp only [h, Bool.not_true, Bool.false_eq_true, if_false, if_true]
    exact ⟨rfl, clk.read 1, rfl, Or.inr ⟨1, rfl⟩⟩
  · simp only [h, Bool.not_false, if_true]
    exact leaves_unchanged clk u

theorem changePassword_leaves (p : Password) (clk : Clock) (u : AuthUser) :
    Leaves clk u (u.changePassword p clk).state (effect clk u (changePassword p)) := by
  unfold AuthUser.changePassword AuthUser.ensureCanChangePassword AuthUser.canChangePassword effect
  by_cases h : u.canResetPassword = true
  · simp only [h, raise, Bool.not_true, Bool.false_eq_true, if_false, if_true]
    exact ⟨rfl, clk.read 2, rfl, Or.inr ⟨2, rfl⟩⟩
  · simp only [h, raise, Bool.not_false, if_true]
    exact leaves_unchanged clk u

theorem resetPassword_leaves (p : Password) (clk : Clock) (u : AuthUser) :
    Leaves clk u (u.resetPassword p clk).state (effect clk u (resetPassword p)) := by
  unfold AuthUser.resetPassword AuthUser.ensureCanResetPassword effect
  by_cases h : u.canResetPassword = true
  · simp only [h, raise, Bool.not_true, Bool.false_eq_true, if_false, if_true]
    exact ⟨rfl, clk.read 1, rfl, Or.inr ⟨1, rfl⟩⟩
  · simp only [h, raise, Bool.not_false, if_true]
    exact leaves_unchanged clk u

theorem recordLogin_leaves (t : String) (clk : Clock) (u : AuthUser) :
    Leaves clk u (u.recordLogin t clk).state (effect clk u (recordLogin t)) := by
  unfold AuthUser.recordLogin effect
  by_cases ht : t = ""
  · simp only [ht, beq_self_eq_true, if_true]
    exact ⟨rfl, clk.read 2, rfl, Or.inr ⟨2, rfl⟩⟩
  · have hne : (t == "") = false := by simpa using ht
    simp only [hne, Bool.false_eq_true, if_false, ht]
    rcases addRefreshToken_cases { u with lastLoginAt := some (clk.read 0) } (clk.read 1) t with
      ⟨hin, h⟩ | ⟨hout, hina, h⟩ | ⟨hout, hact, h⟩
    · rw [h]
      exact ⟨rfl, clk.read 2, by simp [tokensWith, show t ∈ u.refreshTokens from hin],
        Or.inr ⟨2, rfl⟩⟩
    · rw [h]
      exact ⟨rfl, u.updatedAt, by simp [tokensWith, show u.status ≠ .active from hina], Or.inl rfl⟩
    · rw [h]
      exact ⟨rfl, clk.read 2, by simp [tokensWith, show t ∉ u.refreshTokens from hout,
        show u.status = .active from hact], Or.inr ⟨2, rfl⟩⟩

theorem recordOAuthLogin_leaves (p : AuthProviderName) (t : String) (a : Option String)
    (clk : Clock) (u : AuthUser) : Leaves clk u (u.recordOAuthLogin p t a clk).state
      (effect clk u (recordOAuthLogin p t a)) := by
  unfold AuthUser.recordOAuthLogin effect
  by_cases hp : u.hasProvider p = true
  · simp only [hp, Bool.not_true, Bool.false_eq_true, if_false, if_true]
    rcases addRefreshToken_cases u (clk.read 0) t with
      ⟨hin, h⟩ | ⟨hout, hina, h⟩ | ⟨hout, hact, h⟩
    · rw [h]
      exact ⟨rfl, clk.read 2, by simp [tokensWith, hin], Or.inr ⟨2, rfl⟩⟩
    · rw [h]
      exact ⟨rfl, u.updatedAt, by simp [tokensWith, hout, hina], Or.inl rfl⟩
    · rw [h]
      exact ⟨rfl, clk.read 2, by simp [tokensWith, hout, hact], Or.inr ⟨2, rfl⟩⟩
  · simp only [hp, Bool.not_false, if_true]
    exact leaves_unchanged clk u

theorem recordLogout_leaves (t : Option String) (clk : Clock) (u : AuthUser) :
    Leaves clk u (u.recordLogout t clk).state (effect clk u (recordLogout t)) := by
  cases t with
  | none => exact ⟨rfl, clk.read 1, rfl, Or.inr ⟨1, rfl⟩⟩
  | some t =>
    unfold AuthUser.recordLogout effect
    by_cases ht : t.length = 0
    · simp only [ht, beq_self_eq_true, if_true]
      exact ⟨rfl, clk.read 1, rfl, Or.inr ⟨1, rfl⟩⟩
    · have hne : (t.length == 0) = false := by simpa using ht
      simp only [hne, Bool.false_eq_true, if_false, ht]
      exact ⟨rfl, clk.read 1, rfl, Or.inr ⟨1, rfl⟩⟩

theorem recordTokenRefresh_leaves (old new : String) (clk : Clock) (u : AuthUser) :
    Leaves clk u (u.recordTokenRefresh old new clk).state
      (effect clk u (recordTokenRefresh old new)) := by
  unfold AuthUser.recordTokenRefresh effect
  rcases addRefreshToken_cases (u.removeRefreshToken old (clk.read 0)) (clk.read 1) new with
    ⟨hin, h⟩ | ⟨hout, hina, h⟩ | ⟨hout, hact, h⟩
  · rw [h]
    change new ∈ u.refreshTokens.filter (· != old) at hin
    exact ⟨rfl, clk.read 2, by simp [tokensWith, -List.mem_filter, hin], Or.inr ⟨2, rfl⟩⟩
  · rw [h]
    change u.status ≠ .active at hina
    exact ⟨rfl, clk.read 0, by simp [tokensWith, -List.mem_filter, hina], Or.inr ⟨0, rfl⟩⟩
  · rw [h]
    change new ∉ u.refreshTokens.filter (· != old) at hout
    change u.status = .active at hact
    exact ⟨rfl, clk.read 2, by simp [tokensWith, -List.mem_filter, hout, hact], Or.inr ⟨2, rfl⟩⟩

theorem linkOAuth_leaves (p : AuthProvider) (clk : Clock) (u : AuthUser) :
    Leaves clk u (u.linkOAuth p clk).state (effect clk u (linkOAuth p)) := by
  unfold AuthUser.linkOAuth effect
  by_cases h : u.hasProvider p.providerName = true
  · simp only [h, if_true]
    exact leaves_unchanged clk u
  · simp only [h]
    exact ⟨rfl, clk.read 0, rfl, Or.inr ⟨0, rfl⟩⟩

theorem unlinkOAuth_leaves (p : AuthProviderName) (clk : Clock) (u : AuthUser) :
    Leaves clk u (u.unlinkOAuth p clk).state (effect clk u (unlinkOAuth p)) := by
  unfold AuthUser.unlinkOAuth effect
  by_cases h : u.hasProvider p = true
  · simp only [h, Bool.not_true, Bool.false_eq_true, if_false, if_true]
    exact ⟨rfl, clk.read 0, rfl, Or.inr ⟨0, rfl⟩⟩
  · simp only [h, Bool.not_false, if_true]
    exact leaves_unchanged clk u

/-- Every command, returning or throwing, leaves its effect. -/
theorem exec_leaves (c : AuthCommand) (clk : Clock) (u : AuthUser) :
    Leaves clk u (c.exec clk u).state (c.effect clk u) := by
  cases c with
  | verifyEmail => exact verifyEmail_leaves clk u
  | unverifyEmail => exact unverifyEmail_leaves clk u
  | changePassword p => exact changePassword_leaves p clk u
  | resetPassword p => exact resetPassword_leaves p clk u
  | recordLogin t => exact recordLogin_leaves t clk u
  | recordOAuthLogin p t a => exact recordOAuthLogin_leaves p t a clk u
  | recordLogout t => exact recordLogout_leaves t clk u
  | recordTokenRefresh old new => exact recordTokenRefresh_leaves old new clk u
  | revokeAllRefreshTokens => exact ⟨rfl, clk.read 1, rfl, Or.inr ⟨1, rfl⟩⟩
  | activate => exact ⟨rfl, clk.read 1, rfl, Or.inr ⟨1, rfl⟩⟩
  | deactivate => exact ⟨rfl, clk.read 1, rfl, Or.inr ⟨1, rfl⟩⟩
  | suspend => exact ⟨rfl, clk.read 1, rfl, Or.inr ⟨1, rfl⟩⟩
  | softDelete => exact ⟨rfl, clk.read 2, rfl, Or.inr ⟨2, rfl⟩⟩
  | linkOAuth p => exact linkOAuth_leaves p clk u
  | unlinkOAuth p => exact unlinkOAuth_leaves p clk u

theorem exec_refreshTokens (c : AuthCommand) (clk : Clock) (u : AuthUser) :
    (c.exec clk u).state.refreshTokens = (c.effect clk u).refreshTokens := by
  obtain ⟨-, d, left, -⟩ := exec_leaves c clk u
  rw [left]

end AuthCommand

end KeramikStore
