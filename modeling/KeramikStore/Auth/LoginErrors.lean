import KeramikStore.Auth.UseCases

/-!
# What a failed login tells

A login looks for the account, asks whether it may log in, and only then compares the
password. So a wrong password gets the answer of the account check where that refuses,
and the error of wrong credentials where the account is absent or lets the login through.
-/

set_option autoImplicit false

namespace KeramikStore.LoginErrors
open Library

def attempt (hasher : PasswordHasher) (password refreshToken : String) (clk : Clock) :
    Option AuthUser → Except Error AuthUser
  | none => .error invalidCredentialsError
  | some u => UseCases.loginWithEmail hasher password refreshToken clk u

inductive Listed : Option AuthUser → Prop where
  | absent : Listed none
  | inactive (u : AuthUser) (status : u.status = .inactive) : Listed (some u)
  | suspended (u : AuthUser) (status : u.status = .suspended) : Listed (some u)
  | unverified (u : AuthUser) (email : u.emailVerified = false) : Listed (some u)
  | oauthOnly (u : AuthUser) (password : u.password = none) (linked : u.providers ≠ []) :
      Listed (some u)
  | active (u : AuthUser) (hash : Password) (status : u.status = .active)
      (password : u.password = some hash) : Listed (some u)

def Mismatch (hasher : PasswordHasher) (password : String) (found : Option AuthUser) : Prop :=
  ∀ u ∈ found, ∀ hash ∈ u.password, hasher.compare password hash.getValue = false

theorem mismatch_absent (hasher : PasswordHasher) (password : String) :
    Mismatch hasher password none := fun _ found => absurd found (Option.not_mem_none _)

def refusal (found : Option AuthUser) : Option Error :=
  found.bind fun u => match u.ensureCanLogin with
    | .error e => some e
    | .ok () => none

section Attempts

variable (hasher : PasswordHasher) (password refreshToken : String) (clk : Clock)

theorem refused (found : Option AuthUser) (e : Error) (h : refusal found = some e) :
    attempt hasher password refreshToken clk found = .error e := by
  obtain ⟨u, rfl, check⟩ := Option.bind_eq_some_iff.mp h
  unfold attempt UseCases.loginWithEmail
  dsimp only
  cases checked : u.ensureCanLogin with
  | error f =>
    rw [checked] at check
    obtain rfl := Option.some.inj check
    rfl
  | ok _ =>
    rw [checked] at check
    cases check

theorem ensureCanLogin_error (u : AuthUser) (e : Error) (h : u.ensureCanLogin = .error e) :
    ∃ message, e = .auth .cannotLogin message := by
  unfold AuthUser.ensureCanLogin at h
  simp only [raise] at h
  split_ifs at h <;> exact ⟨_, (Except.error.inj h).symm⟩

theorem refusal_ne (found : Option AuthUser) : refusal found ≠ some invalidCredentialsError := by
  intro h
  obtain ⟨u, -, check⟩ := Option.bind_eq_some_iff.mp h
  cases checked : u.ensureCanLogin with
  | error e =>
    rw [checked] at check
    obtain ⟨message, rfl⟩ := ensureCanLogin_error u e checked
    cases Option.some.inj check
  | ok _ =>
    rw [checked] at check
    cases check

theorem listed_password (u : AuthUser) (listed : Listed (some u))
    (check : u.ensureCanLogin = .ok ()) : ∃ hash, u.password = some hash := by
  have passes := (raise_ok_iff _).mp check
  simp only [List.forall_mem_cons, Bool.not_eq_false', Status.isActive_iff] at passes
  obtain ⟨active, verified, local_or, -⟩ := passes
  cases listed with
  | inactive _ status => rw [status] at active; cases active
  | suspended _ status => rw [status] at active; cases active
  | unverified _ email => rw [email] at verified; cases verified
  | oauthOnly _ password linked =>
    have provided : 0 < u.providers.length := List.length_pos_iff.mpr linked
    simp [AuthUserProps.isUsingOAuthProvider, AuthUserProps.isUsingLocalProvider, password,
      provided] at local_or
  | active _ hash status password => exact ⟨hash, password⟩

theorem attempt_mismatch (found : Option AuthUser) (listed : Listed found)
    (mismatch : Mismatch hasher password found) :
    attempt hasher password refreshToken clk found =
      .error ((refusal found).getD invalidCredentialsError) := by
  cases refuses : refusal found with
  | some e => exact refused hasher password refreshToken clk found e refuses
  | none =>
    cases found with
    | none => rfl
    | some u =>
      have check : u.ensureCanLogin = .ok () := by
        unfold refusal at refuses
        cases checked : u.ensureCanLogin with
        | error e => simp [checked] at refuses
        | ok _ => rfl
      obtain ⟨hash, stored⟩ := listed_password u listed check
      have wrong := mismatch u rfl hash stored
      unfold attempt UseCases.loginWithEmail UseCases.storedHash
      dsimp only
      rw [check, stored]
      change (raise [(!hasher.compare password hash.getValue, invalidCredentialsError)] >>= _) = _
      rw [wrong]
      rfl

theorem getD_eq_iff (a b : Option Error) (e : Error) (ha : a ≠ some e) (hb : b ≠ some e) :
    a.getD e = b.getD e ↔ a = b := by
  cases a with
  | none =>
    cases b with
    | none => exact ⟨fun _ => rfl, fun _ => rfl⟩
    | some f => exact ⟨fun h => absurd (congrArg some h.symm) hb, nofun⟩
  | some f =>
    cases b with
    | none => exact ⟨fun h => absurd (congrArg some h) ha, nofun⟩
    | some g => exact Option.some_inj.symm

/-- With a password that does not match, a login fails for every listed account, with the
same error for two of them just when the account check answers alike, and with an error
other than that of wrong credentials just where the check refuses. That error does not
depend on the password. -/
theorem failures_alike_iff (found other : Option AuthUser) (token' : String) (clk' : Clock)
    (listed : Listed found) (listed' : Listed other)
    (mismatch : Mismatch hasher password found) (mismatch' : Mismatch hasher password other) :
    ∃ e e', attempt hasher password refreshToken clk found = .error e ∧
      attempt hasher password token' clk' other = .error e' ∧
      (e = e' ↔ refusal found = refusal other) ∧
      (e ≠ invalidCredentialsError ↔ (refusal found).isSome = true) ∧
      ((refusal found).isSome = true → ∀ guess token now,
        attempt hasher guess token now found = .error e) := by
  refine ⟨_, _, attempt_mismatch hasher password refreshToken clk found listed mismatch,
    attempt_mismatch hasher password token' clk' other listed' mismatch',
    getD_eq_iff _ _ _ (refusal_ne found) (refusal_ne other), ?_, ?_⟩
  · have own := refusal_ne found
    cases refuses : refusal found with
    | none => simp
    | some e =>
      rw [refuses] at own
      exact ⟨fun _ => rfl, fun _ same => own (congrArg some same)⟩
  · intro refuses guess token now
    obtain ⟨e, refuses⟩ := Option.isSome_iff_exists.mp refuses
    rw [refuses]
    exact refused hasher guess token now found e refuses

end Attempts

def noPassword : PasswordHasher := ⟨fun _ _ => false⟩

/-- Whoever tries a wrong password learns that the e-mail is registered. -/
theorem registration_shows :
    ∃ u, AuthUser.register .sample .sample .sample ⟨"h"⟩ none (.still 0) = .ok u ∧
      Listed none ∧ Listed (some u) ∧ Mismatch noPassword "guess" none ∧
      Mismatch noPassword "guess" (some u) ∧
      attempt noPassword "guess" "t0" (.still 1) none = .error invalidCredentialsError ∧
      attempt noPassword "guess" "t0" (.still 1) (some u) =
        .error (.auth .cannotLogin "User account is not active. Please contact support.") :=
  ⟨_, rfl, .absent, .inactive _ rfl, mismatch_absent _ _, fun _ _ _ _ => rfl, rfl, rfl⟩

theorem sample_failures_alike :
    ∃ u, AuthUser.register .sample .sample .sample ⟨"h"⟩ none (.still 0) = .ok u ∧
      ∃ e e', attempt noPassword "guess" "t0" (.still 1) (some u) = .error e ∧
        attempt noPassword "guess" "t1" (.still 2) none = .error e' ∧ e ≠ e' := by
  obtain ⟨u, registered, inactive, refuses⟩ : ∃ u, AuthUser.register .sample .sample .sample ⟨"h"⟩
      none (.still 0) = .ok u ∧ u.status = .inactive ∧ refusal (some u) ≠ refusal none :=
    ⟨_, rfl, rfl, nofun⟩
  obtain ⟨e, e', failed, failed', alike, -⟩ := failures_alike_iff noPassword "guess" "t0" (.still 1)
    (some u) none "t1" (.still 2) (.inactive u inactive) .absent (fun _ _ _ _ => rfl)
      (mismatch_absent _ _)
  exact ⟨u, registered, e, e', failed, failed', mt alike.mp refuses⟩

end KeramikStore.LoginErrors
