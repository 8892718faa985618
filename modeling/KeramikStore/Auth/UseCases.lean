import KeramikStore.Auth.AuthUserMapper
import KeramikStore.Auth.CommandEffects

/-!
# What the use cases do to a loaded user

Each use case is a function from the user that the repository handed out to the
user that it hands to `save`, or to the exception that ends it before. The
hasher, the generated tokens and hashes and the clock are supplied. One lemma for
all of them says where the password and the tokens of the result come from.
-/

set_option autoImplicit false

namespace KeramikStore
open Library Library.Text

structure PasswordHasher where
  compare : String → String → Bool

structure Reading where
  origin : Origin
  loading : Clock
  clock : Clock

def authUserNotFoundError : Error := .auth .authUserNotFound "Authentication user not found."

def cannotChangePasswordError (message : String) : Error := .auth .cannotChangePassword message
def cannotResetPasswordError (message : String) : Error := .auth .cannotResetPassword message
def cannotRefreshTokenError (message : String) : Error := .auth .cannotRefreshToken message

namespace UseCases

def storedHash (u : AuthUser) : Except Error String :=
  match u.password with
  | some p => .ok p.getValue
  | none => .error (.failure "Cannot read properties of null (reading 'getValue')")

def loginWithEmail (hasher : PasswordHasher) (password refreshToken : String) (clk : Clock)
    (u : AuthUser) : Except Error AuthUser := do
  u.ensureCanLogin
  let hash ← storedHash u
  raise [(!hasher.compare password hash, invalidCredentialsError)]
  (u.recordLogin refreshToken clk).toExcept

def refreshToken (presented newRefreshToken : String) (clk : Clock) (u : AuthUser) :
    Except Error AuthUser :=
  (u.recordTokenRefresh presented newRefreshToken clk).toExcept

def logout (refreshToken : String) (clk : Clock) (u : AuthUser) : Except Error AuthUser :=
  (u.recordLogout (some refreshToken) clk).toExcept

def linkGoogle (providerId : String) (clk : Clock) (u : AuthUser) : Except Error AuthUser :=
  if u.hasProvider .google then .ok u
  else (u.linkOAuth (.createGoogleProvider providerId clk) (clk.skip 1)).toExcept

def googleAuthCallback (providerId refreshToken : String) (avatarUrl : Option String)
    (clk : Clock) (u : AuthUser) : Except Error AuthUser := do
  let linked ← linkGoogle providerId clk u
  (linked.recordOAuthLogin .google refreshToken avatarUrl (clk.skip 2)).toExcept

def changePassword (hasher : PasswordHasher) (currentPassword newPassword newHash : String)
    (clk : Clock) (u : AuthUser) : Except Error AuthUser := do
  Password.validateRaw newPassword
  u.ensureCanChangePassword
  let hash ← storedHash u
  raise [
    (!hasher.compare currentPassword hash,
      cannotChangePasswordError "Current password is incorrect."),
    (hasher.compare newPassword hash,
      cannotChangePasswordError "New password must be different from the current password.")]
  (u.changePassword (.fromHash newHash) clk).toExcept

def resetPassword (hasher : PasswordHasher) (newPassword newHash : String) (clk : Clock)
    (u : AuthUser) : Except Error AuthUser := do
  Password.validateRaw newPassword
  u.ensureCanResetPassword
  let hash ← storedHash u
  raise [(hasher.compare newPassword hash,
    cannotResetPasswordError "New password must be different from the old password")]
  (u.resetPassword (.fromHash newHash) clk).toExcept

def onRow (o : Origin) (loading : Clock) (useCase : AuthUser → Except Error AuthUser)
    (raw : RawAuthUser) : Except Error RawAuthUser := do
  let u ← PrismaAuthUserMapper.toDomain o loading raw
  let v ← useCase u
  return PrismaAuthUserMapper.toPersistence v

structure RefreshTokenOwner where
  id : String
  email : String
  role : Role
  fullName : String
  refreshToken : String
deriving DecidableEq, Repr

/-- A token that is not among the user's revokes all of them, saves that and is
refused. The second component is the user handed to `save`, if any. -/
def validateRefreshToken (tokenType token : String) (clk : Clock) (found : Option AuthUser) :
    Except Error RefreshTokenOwner × Option AuthUser :=
  if tokenType != "REFRESH_TOKEN" then
    (.error (cannotRefreshTokenError "Invalid token type. Refresh token required."), none)
  else match found with
  | none =>
    (.error (cannotRefreshTokenError "Unauthorized access with invalid refresh token."), none)
  | some u =>
    match u.ensureCanRefreshToken with
    | .error e => (.error e, none)
    | .ok () =>
      if u.hasRefreshToken token then
        (.ok ⟨u.id.getValue, u.email.getValue, u.role, u.name.getFullName, token⟩, none)
      else
        (.error (cannotRefreshTokenError "Refresh token is invalid or has been revoked"),
          some (u.revokeAllRefreshTokens clk).state)

structure Draws (u v : AuthUserProps) (hash token : Option String) : Prop where
  password : ∀ p, v.password = some p → u.password = some p ∨ hash = some p.getValue
  tokens : ∀ t ∈ v.refreshTokens, t ∈ u.refreshTokens ∨ token = some t

theorem draws_refl (u : AuthUserProps) (hash token : Option String) : Draws u u hash token :=
  ⟨fun _ h => Or.inl h, fun _ h => Or.inl h⟩

theorem draws_trans (u v w : AuthUserProps) (hash token : Option String)
    (h : Draws u v hash token) (k : Draws v w hash token) : Draws u w hash token where
  password p hp := (k.password p hp).elim (h.password p) Or.inr
  tokens t ht := (k.tokens t ht).elim (h.tokens t) Or.inr

end UseCases

namespace AuthCommand

open UseCases

def newHash : AuthCommand → Option String
  | changePassword p | resetPassword p => some p.getValue
  | _ => none

def newToken : AuthCommand → Option String
  | recordLogin t | recordOAuthLogin _ t _ | recordTokenRefresh _ t => some t
  | _ => none

theorem mem_tokensWith (token t : String) (p : AuthUserProps) (h : t ∈ tokensWith token p) :
    t ∈ p.refreshTokens ∨ some token = some t := by
  unfold tokensWith at h
  split_ifs at h
  · exact Or.inl h
  · rcases AuthUser.mem_pushToken token t _ h with hold | rfl
    · exact Or.inl hold
    · exact Or.inr rfl

theorem effect_draws (clk : Clock) (u : AuthUser) (c : AuthCommand) :
    Draws u.toAuthUserProps (c.effect clk u) c.newHash c.newToken := by
  cases c with
  | changePassword p | resetPassword p =>
    by_cases h : u.canResetPassword = true
    · simp only [effect, h, if_true]
      exact ⟨fun q hq =>
          Or.inr (by simpa [newHash] using congrArg Password.getValue (Option.some.inj hq)),
        by simp⟩
    · simp only [effect, h]
      exact draws_refl _ _ _
  | recordLogin t =>
    refine ⟨fun q hq => Or.inl hq, fun s hs => ?_⟩
    simp only [effect] at hs
    split_ifs at hs
    · exact Or.inl hs
    · exact mem_tokensWith t s _ hs
  | recordOAuthLogin p t a =>
    by_cases hp : u.hasProvider p = true
    · simp only [effect, hp, if_true]
      exact ⟨fun q hq => Or.inl hq, fun s hs => mem_tokensWith t s _ hs⟩
    · simp only [effect, hp]
      exact draws_refl _ _ _
  | recordLogout t =>
    cases t with
    | none => exact ⟨fun q hq => Or.inl hq, by simp [effect]⟩
    | some t =>
      refine ⟨fun q hq => Or.inl hq, fun s hs => Or.inl ?_⟩
      simp only [effect] at hs
      split_ifs at hs
      · cases hs
      · exact List.mem_of_mem_filter hs
  | recordTokenRefresh old new =>
    refine ⟨fun q hq => Or.inl hq, fun s hs => ?_⟩
    rcases mem_tokensWith new s _ hs with hold | hnew
    · exact Or.inl (List.mem_of_mem_filter hold)
    · exact Or.inr hnew
  | verifyEmail | unverifyEmail | linkOAuth p | unlinkOAuth p =>
    simp only [effect]
    split_ifs <;> exact ⟨fun q hq => Or.inl hq, fun s hs => Or.inl hs⟩
  | revokeAllRefreshTokens | activate | deactivate | suspend | softDelete =>
    exact ⟨fun q hq => Or.inl hq, by simp [effect]⟩

theorem exec_draws (clk : Clock) (u : AuthUser) (c : AuthCommand) :
    Draws u.toAuthUserProps (c.exec clk u).state.toAuthUserProps c.newHash c.newToken := by
  obtain ⟨-, d, hp, -⟩ := exec_leaves c clk u
  have h := effect_draws clk u c
  rw [hp]
  exact ⟨h.password, h.tokens⟩

end AuthCommand

namespace UseCases

variable (hasher : PasswordHasher) (clk : Clock) (u v : AuthUser)

theorem loginWithEmail_draws (password token : String)
    (h : loginWithEmail hasher password token clk u = .ok v) :
    Draws u.toAuthUserProps v.toAuthUserProps none (some token) := by
  simp only [loginWithEmail, bind_ok_iff, Outcome.toExcept_ok_iff] at h
  obtain ⟨_, -, _, -, _, -, -, rfl⟩ := h
  exact AuthCommand.exec_draws clk u (.recordLogin token)

theorem refreshToken_draws (presented token : String)
    (h : refreshToken presented token clk u = .ok v) :
    Draws u.toAuthUserProps v.toAuthUserProps none (some token) := by
  simp only [refreshToken, Outcome.toExcept_ok_iff] at h
  obtain ⟨-, rfl⟩ := h
  exact AuthCommand.exec_draws clk u (.recordTokenRefresh presented token)

theorem logout_draws (token : String) (h : logout token clk u = .ok v) :
    Draws u.toAuthUserProps v.toAuthUserProps none none := by
  simp only [logout, Outcome.toExcept_ok_iff] at h
  obtain ⟨-, rfl⟩ := h
  exact AuthCommand.exec_draws clk u (.recordLogout (some token))

theorem googleAuthCallback_draws (providerId token : String) (avatarUrl : Option String)
    (h : googleAuthCallback providerId token avatarUrl clk u = .ok v) :
    Draws u.toAuthUserProps v.toAuthUserProps none (some token) := by
  simp only [googleAuthCallback, bind_ok_iff, Outcome.toExcept_ok_iff] at h
  obtain ⟨w, hw, -, rfl⟩ := h
  have login := AuthCommand.exec_draws (clk.skip 2) w (.recordOAuthLogin .google token avatarUrl)
  unfold linkGoogle at hw
  split_ifs at hw with hp
  · obtain rfl := Except.ok.inj hw
    exact login
  · obtain ⟨-, rfl⟩ := (Outcome.toExcept_ok_iff _ _).mp hw
    have link := AuthCommand.exec_draws (clk.skip 1) u
      (.linkOAuth (.createGoogleProvider providerId clk))
    refine draws_trans _ _ _ _ _ ⟨link.password, fun t ht => ?_⟩ login
    exact (link.tokens t ht).elim Or.inl nofun

theorem changePassword_returns (p : Password) (h : (u.changePassword p clk).Returns) :
    (u.changePassword p clk).state.password = some p ∧
      (u.changePassword p clk).state.refreshTokens = [] := by
  unfold AuthUser.changePassword at *
  cases hc : u.ensureCanChangePassword with
  | ok _ => exact ⟨rfl, rfl⟩
  | error e =>
    rw [hc] at h
    exact absurd h (Outcome.not_returns_threw e u)

theorem resetPassword_returns (p : Password) (h : (u.resetPassword p clk).Returns) :
    (u.resetPassword p clk).state.password = some p ∧
      (u.resetPassword p clk).state.refreshTokens = [] := by
  unfold AuthUser.resetPassword at *
  cases hc : u.ensureCanResetPassword with
  | ok _ => exact ⟨rfl, rfl⟩
  | error e =>
    rw [hc] at h
    exact absurd h (Outcome.not_returns_threw e u)

/-- A change of the password takes nothing of the old one and leaves no session. -/
theorem changePassword_replaces (current new hash : String)
    (h : changePassword hasher current new hash clk u = .ok v) :
    v.password = some (.fromHash hash) ∧ v.refreshTokens = [] := by
  simp only [changePassword, bind_ok_iff, Outcome.toExcept_ok_iff] at h
  obtain ⟨_, -, _, -, _, -, _, -, hr, rfl⟩ := h
  exact changePassword_returns clk u _ hr

theorem resetPassword_replaces (new hash : String)
    (h : resetPassword hasher new hash clk u = .ok v) :
    v.password = some (.fromHash hash) ∧ v.refreshTokens = [] := by
  simp only [resetPassword, bind_ok_iff, Outcome.toExcept_ok_iff] at h
  obtain ⟨_, -, _, -, _, -, _, -, hr, rfl⟩ := h
  exact resetPassword_returns clk u _ hr

structure RowDraws (raw r : RawAuthUser) (hash token : Option String) : Prop where
  password : ∀ p, r.password = some p → raw.password = some p ∨ hash = some p
  tokens : ∀ t ∈ r.refreshTokens, t ∈ raw.refreshTokens ∨ token = some t

theorem onRow_ok_iff (o : Origin) (loading : Clock) (useCase : AuthUser → Except Error AuthUser)
    (raw r : RawAuthUser) : onRow o loading useCase raw = .ok r ↔
      ∃ u v, PrismaAuthUserMapper.toDomain o loading raw = .ok u ∧ useCase u = .ok v ∧
        PrismaAuthUserMapper.toPersistence v = r := by
  simp only [onRow, bind_ok_iff]
  constructor
  · rintro ⟨u, hu, v, hv, hr⟩
    exact ⟨u, v, hu, hv, Except.ok.inj hr⟩
  · rintro ⟨u, v, hu, hv, rfl⟩
    exact ⟨u, hu, v, hv, rfl⟩

theorem loaded_tokens (o : Origin) (loading : Clock) (raw : RawAuthUser)
    (h : PrismaAuthUserMapper.toDomain o loading raw = .ok u) :
    u.refreshTokens = raw.refreshTokens := by
  obtain ⟨name, email, id, -, -, -, -, rfl⟩ := (PrismaAuthUserMapper.toDomain_ok_iff _ _ _ _).mp h
  rfl

theorem loaded_password (o : Origin) (loading : Clock) (raw : RawAuthUser) (p : Password)
    (h : PrismaAuthUserMapper.toDomain o loading raw = .ok u) (hp : u.password = some p) :
    raw.password = some p.getValue := by
  obtain ⟨name, email, id, -, -, -, -, rfl⟩ := (PrismaAuthUserMapper.toDomain_ok_iff _ _ _ _).mp h
  change (raw.password.filter (· != "")).map Password.fromHash = some p at hp
  obtain ⟨q, hq, rfl⟩ := Option.map_eq_some_iff.mp hp
  exact (Option.filter_eq_some_iff.mp hq).1

theorem onRow_draws (o : Origin) (loading : Clock) (useCase : AuthUser → Except Error AuthUser)
    (raw r : RawAuthUser) (hash token : Option String)
    (draws : ∀ u v, useCase u = .ok v → Draws u.toAuthUserProps v.toAuthUserProps hash token)
    (h : onRow o loading useCase raw = .ok r) : RowDraws raw r hash token := by
  obtain ⟨u, v, hu, hv, rfl⟩ := (onRow_ok_iff _ _ _ _ _).mp h
  have d := draws u v hv
  constructor
  · intro p hp
    obtain ⟨q, hq, rfl⟩ := Option.map_eq_some_iff.mp hp
    exact (d.password q hq).imp_left (loaded_password u o loading raw q hu)
  · rw [← loaded_tokens u o loading raw hu]
    exact d.tokens

/-- A rotation leaves the presented token out, unless it issues it again. -/
theorem refreshToken_rotates (presented token t : String)
    (h : refreshToken presented token clk u = .ok v) (ht : t ∈ v.refreshTokens) :
    (t ∈ u.refreshTokens ∧ t ≠ presented) ∨ t = token := by
  simp only [refreshToken, Outcome.toExcept_ok_iff] at h
  obtain ⟨-, rfl⟩ := h
  obtain ⟨-, d, hp, -⟩ := AuthCommand.recordTokenRefresh_leaves presented token clk u
  rw [hp] at ht
  rcases AuthCommand.mem_tokensWith token t _ ht with hold | hnew
  · left
    simpa using hold
  · exact Or.inr (Option.some.inj hnew).symm

/-- What the check of a refresh token saves has no token left. -/
theorem validateRefreshToken_saves (tokenType token : String) (found : Option AuthUser)
    (h : (validateRefreshToken tokenType token clk found).2 = some v) : v.refreshTokens = [] := by
  unfold validateRefreshToken at h
  cases found with
  | none => split_ifs at h
  | some u =>
    dsimp only at h
    cases hc : u.ensureCanRefreshToken with
    | error e =>
      simp only [hc] at h
      split_ifs at h
    | ok _ =>
      simp only [hc] at h
      split_ifs at h
      obtain rfl := Option.some.inj h
      rfl

end UseCases

end KeramikStore
