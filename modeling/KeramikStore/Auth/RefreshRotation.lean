import KeramikStore.Library.Runs
import KeramikStore.Auth.UseCases

/-!
# Rotation of refresh tokens over interleaved requests

A refresh request is two use cases: one checks that the presented token is still
among the user's, the other removes it and issues a new one without looking
again. Each is one atomic step on the row; logins and logouts come in between.
The run keeps the list of tokens that were exchanged and of those ever issued.
-/

set_option autoImplicit false

namespace KeramikStore.RefreshRotation
open Library Library.Runs

structure Rotation where
  row : RawAuthUser
  /-- The token that a request presented and that was accepted. -/
  pending : ℕ → Option String
  exchanged : List String
  issued : List String

inductive Action where
  | validateRefreshToken (request : ℕ) (tokenType token : String) (how : Reading)
  | refreshToken (request : ℕ) (newToken : String) (how : Reading)
  | loginWithEmail (password newToken : String) (how : Reading)
  | googleAuthCallback (providerId newToken : String) (avatarUrl : Option String) (how : Reading)
  | logout (token : String) (how : Reading)

def saving (useCase : Clock → AuthUser → Except Error AuthUser) (how : Reading) (s : Rotation)
    (after : Rotation → Rotation) : Rotation :=
  match UseCases.onRow how.origin how.loading (useCase how.clock) s.row with
  | .ok row => after { s with row := row }
  | .error _ => s

def validating (request : ℕ) (tokenType token : String) (how : Reading) (s : Rotation) :
    Rotation :=
  match PrismaAuthUserMapper.toDomain how.origin how.loading s.row with
  | .error _ => s
  | .ok u =>
    let result := UseCases.validateRefreshToken tokenType token how.clock (some u)
    { s with
      row := (result.2.map PrismaAuthUserMapper.toPersistence).getD s.row
      pending := if result.1.toOption.isSome then Function.update s.pending request (some token)
        else s.pending }

def Rotation.issue (token : String) (s : Rotation) : Rotation :=
  { s with issued := s.issued ++ [token] }

def refreshing (request : ℕ) (newToken : String) (how : Reading) (s : Rotation) : Rotation :=
  match s.pending request with
  | none => s
  | some token =>
    saving (UseCases.refreshToken token newToken) how
      { s with pending := Function.update s.pending request none } fun t =>
        { t with exchanged := t.exchanged ++ [token] }.issue newToken

def start (row : RawAuthUser) : Rotation := ⟨row, fun _ => none, [], row.refreshTokens⟩

def step (hasher : PasswordHasher) (s : Rotation) : Action → Rotation
  | .validateRefreshToken i tokenType token how => validating i tokenType token how s
  | .refreshToken i newToken how => refreshing i newToken how s
  | .loginWithEmail password newToken how =>
    saving (UseCases.loginWithEmail hasher password newToken) how s (Rotation.issue newToken)
  | .googleAuthCallback providerId newToken avatarUrl how =>
    saving (UseCases.googleAuthCallback providerId newToken avatarUrl) how s
      (Rotation.issue newToken)
  | .logout token how => saving (UseCases.logout token) how s id

def IssuesFresh (s : Rotation) : Action → Prop
  | .refreshToken _ newToken _ | .loginWithEmail _ newToken _
  | .googleAuthCallback _ newToken _ _ => newToken ∉ s.issued
  | _ => True

instance (s : Rotation) (a : Action) : Decidable (IssuesFresh s a) := by
  cases a <;> unfold IssuesFresh <;> infer_instance

def StillHeld (s : Rotation) : Action → Prop
  | .refreshToken i _ _ => ∀ token ∈ s.pending i, token ∈ s.row.refreshTokens
  | _ => True

instance (s : Rotation) (a : Action) : Decidable (StillHeld s a) := by
  cases a <;> unfold StillHeld <;> infer_instance

structure Rotated (s : Rotation) : Prop where
  once : s.exchanged.Nodup
  gone : ∀ t ∈ s.exchanged, t ∉ s.row.refreshTokens
  exchanged_issued : ∀ t ∈ s.exchanged, t ∈ s.issued
  held_issued : ∀ t ∈ s.row.refreshTokens, t ∈ s.issued

theorem start_rotated (row : RawAuthUser) : Rotated (start row) :=
  ⟨List.nodup_nil, by simp [start], by simp [start], fun _ h => h⟩

theorem saved_rotated (s : Rotation) (row : RawAuthUser) (h : Rotated s)
    (sub : ∀ t ∈ row.refreshTokens, t ∈ s.row.refreshTokens) : Rotated { s with row := row } where
  once := h.once
  gone t ht hr := h.gone t ht (sub t hr)
  exchanged_issued := h.exchanged_issued
  held_issued t ht := h.held_issued t (sub t ht)

theorem issued_rotated (s : Rotation) (row : RawAuthUser) (token : String) (h : Rotated s)
    (fresh : token ∉ s.issued)
    (sub : ∀ t ∈ row.refreshTokens, t ∈ s.row.refreshTokens ∨ some token = some t) :
    Rotated (Rotation.issue token { s with row := row }) where
  once := h.once
  gone t ht hr := by
    rcases sub t hr with hold | hnew
    · exact h.gone t ht hold
    · exact fresh (Option.some.inj hnew ▸ h.exchanged_issued t ht)
  exchanged_issued t ht := List.mem_append_left _ (h.exchanged_issued t ht)
  held_issued t ht := by
    rcases sub t ht with hold | hnew
    · exact List.mem_append_left _ (h.held_issued t hold)
    · simp [Rotation.issue, ← Option.some.inj hnew]

theorem pending_rotated (s : Rotation) (pending : ℕ → Option String) (h : Rotated s) :
    Rotated { s with pending := pending } :=
  ⟨h.once, h.gone, h.exchanged_issued, h.held_issued⟩

theorem saving_rotated (useCase : Clock → AuthUser → Except Error AuthUser) (how : Reading)
    (s : Rotation) (next : Rotation → Rotation) (h : Rotated s)
    (hn : ∀ row, UseCases.onRow how.origin how.loading (useCase how.clock) s.row = .ok row →
      Rotated (next { s with row := row })) : Rotated (saving useCase how s next) := by
  unfold saving
  cases hr : UseCases.onRow how.origin how.loading (useCase how.clock) s.row with
  | ok row => exact hn row hr
  | error e => exact h

theorem validating_rotated (i : ℕ) (tokenType token : String) (how : Reading) (s : Rotation)
    (h : Rotated s) : Rotated (validating i tokenType token how s) := by
  unfold validating
  cases PrismaAuthUserMapper.toDomain how.origin how.loading s.row with
  | error e => exact h
  | ok u =>
    refine pending_rotated { s with row := _ } _ (saved_rotated s _ h fun t ht => ?_)
    cases hv : (UseCases.validateRefreshToken tokenType token how.clock (some u)).2 with
    | none =>
      rw [hv] at ht
      exact ht
    | some v =>
      rw [hv] at ht
      change t ∈ v.refreshTokens at ht
      rw [UseCases.validateRefreshToken_saves how.clock v tokenType token _ hv] at ht
      cases ht

theorem exchanged_rotated (s : Rotation) (row : RawAuthUser) (token newToken : String)
    (h : Rotated s) (held : token ∈ s.row.refreshTokens) (fresh : newToken ∉ s.issued)
    (rotates : ∀ t ∈ row.refreshTokens, (t ∈ s.row.refreshTokens ∧ t ≠ token) ∨ t = newToken) :
    Rotated (Rotation.issue newToken
      { s with row := row, exchanged := s.exchanged ++ [token] }) := by
  have known := h.held_issued token held
  refine ⟨?_, fun t ht hr => ?_, fun t ht => ?_, fun t ht => ?_⟩
  · refine List.nodup_append.mpr ⟨h.once, by simp, fun a ha b hb e => ?_⟩
    rw [List.mem_singleton] at hb
    exact h.gone a ha (by rw [e, hb]; exact held)
  · rcases List.mem_append.mp ht with hold | hnew
    · rcases rotates t hr with ⟨hin, -⟩ | rfl
      · exact h.gone t hold hin
      · exact fresh (h.exchanged_issued t hold)
    · rw [List.mem_singleton] at hnew
      rcases rotates t hr with ⟨-, hne⟩ | rfl
      · exact hne hnew
      · exact fresh (hnew ▸ known)
  · rcases List.mem_append.mp ht with hold | hnew
    · exact List.mem_append_left _ (h.exchanged_issued t hold)
    · rw [List.mem_singleton] at hnew
      exact List.mem_append_left _ (hnew ▸ known)
  · rcases rotates t ht with ⟨hin, -⟩ | rfl
    · exact List.mem_append_left _ (h.held_issued t hin)
    · simp [Rotation.issue]

theorem refreshing_rotated (i : ℕ) (newToken : String) (how : Reading) (s : Rotation)
    (h : Rotated s) (held : ∀ token ∈ s.pending i, token ∈ s.row.refreshTokens)
    (fresh : newToken ∉ s.issued) : Rotated (refreshing i newToken how s) := by
  unfold refreshing
  cases hp : s.pending i with
  | none => exact h
  | some token =>
    have waiting := pending_rotated s (Function.update s.pending i none) h
    apply saving_rotated _ how _ _ waiting
    intro row hr
    refine exchanged_rotated { s with pending := _ } row token newToken waiting
      (held token hp) fresh fun t ht => ?_
    obtain ⟨u, v, hu, hv, rfl⟩ := (UseCases.onRow_ok_iff _ _ _ _ _).mp hr
    have tokens := UseCases.loaded_tokens u how.origin how.loading s.row hu
    rw [← tokens]
    exact UseCases.refreshToken_rotates how.clock u v token newToken t hv ht

theorem issuing_rotated (useCase : Clock → AuthUser → Except Error AuthUser) (token : String)
    (how : Reading) (s : Rotation) (h : Rotated s) (fresh : token ∉ s.issued)
    (draws : ∀ clk u v, useCase clk u = .ok v →
      UseCases.Draws u.toAuthUserProps v.toAuthUserProps none (some token)) :
    Rotated (saving useCase how s (Rotation.issue token)) := by
  refine saving_rotated useCase how s _ h fun row hr => issued_rotated s row token h fresh ?_
  exact (UseCases.onRow_draws _ _ _ _ _ none (some token) (draws how.clock) hr).tokens

theorem logout_rotated (token : String) (how : Reading) (s : Rotation) (h : Rotated s) :
    Rotated (saving (UseCases.logout token) how s id) := by
  apply saving_rotated (UseCases.logout token) how s _ h
  intro row hr
  have d := UseCases.onRow_draws _ _ _ _ _ none none (fun u v =>
    UseCases.logout_draws how.clock u v token) hr
  exact saved_rotated s row h fun t ht => (d.tokens t ht).elim id nofun

/-- One step with a fresh token, on a token that is still held, keeps the rotation. -/
theorem step_rotated (hasher : PasswordHasher) (s : Rotation) (a : Action) (h : Rotated s)
    (ha : IssuesFresh s a ∧ StillHeld s a) : Rotated (step hasher s a) := by
  obtain ⟨fresh, held⟩ := ha
  cases a with
  | validateRefreshToken i tokenType token how => exact validating_rotated i tokenType token how s h
  | refreshToken i newToken how => exact refreshing_rotated i newToken how s h held fresh
  | loginWithEmail password newToken how =>
    exact issuing_rotated (UseCases.loginWithEmail hasher password newToken) newToken how s h fresh
      fun clk u v => UseCases.loginWithEmail_draws hasher clk u v password newToken
  | googleAuthCallback providerId newToken avatarUrl how =>
    exact issuing_rotated (UseCases.googleAuthCallback providerId newToken avatarUrl) newToken how
      s h fresh fun clk u v =>
        UseCases.googleAuthCallback_draws clk u v providerId newToken avatarUrl
  | logout token how => exact logout_rotated token how s h

/-- In a run whose steps issue fresh tokens and exchange only tokens that are
still held, no token is exchanged twice. -/
theorem exchanged_at_most_once (hasher : PasswordHasher) (row : RawAuthUser) (as : List Action)
    (fresh : Along (step hasher) IssuesFresh (start row) as)
    (held : Along (step hasher) StillHeld (start row) as) :
    Throughout (step hasher) (fun s => s.exchanged.Nodup) (start row) as :=
  throughout_mono _ _ _ (fun _ h => h.once) _ _ <|
    throughout_of_step _ _ _ (step_rotated hasher) _ as (start_rotated row)
      ((along_and _ _ _ _ _).mpr ⟨fresh, held⟩)

def noHasher : PasswordHasher := ⟨fun _ _ => false⟩

def fromDatabase (now : Date) : Reading := ⟨.database, .still now, .still now⟩

theorem sequential_refresh_rotates_once :
    Throughout (step noHasher) (fun s => s.exchanged.Nodup) (start RawAuthUser.sample)
      [.validateRefreshToken 0 "REFRESH_TOKEN" "t0" (fromDatabase 10),
        .refreshToken 0 "t1" (fromDatabase 11)] :=
  exchanged_at_most_once noHasher RawAuthUser.sample _ (by decide) (by decide)

def concurrentRefreshes : List Action := [
  .validateRefreshToken 0 "REFRESH_TOKEN" "t0" (fromDatabase 10),
  .validateRefreshToken 1 "REFRESH_TOKEN" "t0" (fromDatabase 11),
  .refreshToken 0 "t1" (fromDatabase 12),
  .refreshToken 1 "t2" (fromDatabase 13)]

/-- Both requests exchange the same token, each for a new one. -/
theorem concurrent_refreshes_exchange_twice :
    Along (step noHasher) IssuesFresh (start RawAuthUser.sample) concurrentRefreshes ∧
      (after (step noHasher) (start RawAuthUser.sample) concurrentRefreshes).exchanged =
        ["t0", "t0"] ∧
      ¬ Throughout (step noHasher) (fun s => s.exchanged.Nodup) (start RawAuthUser.sample)
        concurrentRefreshes := by
  have twice : (after (step noHasher) (start RawAuthUser.sample) concurrentRefreshes).exchanged =
      ["t0", "t0"] := by decide
  refine ⟨by decide, twice, fun h => ?_⟩
  have once := throughout_end _ _ _ _ h
  rw [twice] at once
  exact absurd once (by decide)

end KeramikStore.RefreshRotation
