import KeramikStore.Auth.StatusBlocks
import KeramikStore.Auth.UseCases

/-!
# The ways into an account

Whether a user can log in depends on the status, the verification, the password and the
providers. A user without a password counts on a provider, and nothing keeps the last one
from being unlinked. The activation looks at none of them.
-/

set_option autoImplicit false

namespace KeramikStore.WaysIn
open Library Library.Runs

structure Ways where
  status : Status
  emailVerified : Bool
  password : Option Password
  providers : List AuthProvider

def ways (p : AuthUserProps) : Ways := ⟨p.status, p.emailVerified, p.password, p.providers⟩

abbrev Step := AuthCommand × Clock

inductive Moves (w : Ways) : AuthCommand → Ways → Prop where
  | kept (c : AuthCommand) (plain : c ≠ .activate) (linked : ∀ p, c = .unlinkOAuth p →
      ∀ q ∈ w.providers, q.providerName ≠ p) : Moves w c w
  | verified (local_user : w.password.isSome = true) :
      Moves w .verifyEmail { w with status := .active, emailVerified := true }
  | unverified : Moves w .unverifyEmail { w with status := .inactive, emailVerified := false }
  | rehashed (c : AuthCommand) (p : Password) (verified : w.emailVerified = true)
      (plain : c ≠ .activate) (linked : ∀ p, c ≠ .unlinkOAuth p) :
      Moves w c { w with password := some p }
  | closed (c : AuthCommand) (t : Status) (inactive : t ≠ .active) (plain : c ≠ .activate)
      (linked : ∀ p, c ≠ .unlinkOAuth p) : Moves w c { w with status := t }
  | activated : Moves w .activate { w with status := .active }
  | linked (p : AuthProvider) :
      Moves w (.linkOAuth p) { w with providers := w.providers ++ [p] }
  | unlinked (p : AuthProviderName) : Moves w (.unlinkOAuth p)
      { w with providers := w.providers.filter (·.providerName != p) }

theorem effect_moves (c : AuthCommand) (clk : Clock) (u : AuthUser) :
    Moves (ways u.toAuthUserProps) c (ways (c.effect clk u)) := by
  cases c with
  | verifyEmail =>
    dsimp only [AuthCommand.effect]
    split_ifs with can
    · refine .verified ?_
      simp [AuthUser.canVerifyEmail, AuthUserProps.isUsingLocalProvider] at can
      exact can.2
    · exact .kept _ nofun nofun
  | unverifyEmail =>
    dsimp only [AuthCommand.effect]
    split_ifs
    · exact .unverified
    · exact .kept _ nofun nofun
  | changePassword p | resetPassword p =>
    dsimp only [AuthCommand.effect]
    split_ifs with can
    · refine .rehashed _ p ?_ nofun nofun
      simp [AuthUser.canResetPassword] at can
      exact can.1.2
    · exact .kept _ nofun nofun
  | recordOAuthLogin p t a =>
    dsimp only [AuthCommand.effect]
    split_ifs <;> exact .kept _ nofun nofun
  | recordLogout t => cases t <;> exact .kept _ nofun nofun
  | activate => exact .activated
  | deactivate | suspend | softDelete => exact .closed _ _ nofun nofun nofun
  | linkOAuth p =>
    dsimp only [AuthCommand.effect]
    split_ifs
    · exact .kept _ nofun nofun
    · exact .linked p
  | unlinkOAuth p =>
    dsimp only [AuthCommand.effect]
    split_ifs with has
    · exact .unlinked p
    · refine .kept _ nofun fun q same => ?_
      obtain rfl := AuthCommand.unlinkOAuth.inj same
      have others : ∀ q ∈ u.providers, q.providerName ≠ p := by
        simpa [AuthUser.hasProvider] using has
      exact others
  | _ => exact .kept _ nofun nofun

theorem run_moves (u : AuthUser) (a : Step) :
    Moves (ways u.toAuthUserProps) a.1 (ways (AuthCommand.run u a).toAuthUserProps) := by
  obtain ⟨-, d, left, -⟩ := AuthCommand.exec_leaves a.1 a.2 u
  change Moves _ a.1 (ways (a.1.exec a.2 u).state.toAuthUserProps)
  rw [left]
  exact effect_moves a.1 a.2 u

inductive Created (u : AuthUser) : Prop where
  | register (id : UserId) (name : Name) (email : Email) (password : Password)
      (role : Option Role) (clk : Clock)
      (h : AuthUser.register id name email password role clk = .ok u)
  | fromOAuth (id : UserId) (name : Name) (email : Email) (provider : AuthProvider)
      (role : Option Role) (clk : Clock)
      (h : AuthUser.fromOAuth id name email provider role clk = .ok u)

/-- A new user is inactive with a password, or active with a provider and verified. -/
theorem created_ways (u : AuthUser) (created : Created u) :
    (u.status = .inactive ∧ u.password.isSome = true) ∨
      (u.emailVerified = true ∧ u.password = none ∧ u.providers ≠ []) := by
  cases created with
  | register id name email password role clk h =>
    obtain ⟨-, inactive, hashed⟩ := AuthUser.register_ok id name email password role clk u h
    exact Or.inl ⟨inactive, by rw [hashed]; rfl⟩
  | fromOAuth id name email provider role clk h =>
    obtain ⟨-, -, verified, none, linked⟩ :=
      AuthUser.fromOAuth_ok id name email provider role clk u h
    exact Or.inr ⟨verified, none, by rw [linked]; exact List.cons_ne_nil _ _⟩

def Another (p : AuthProviderName) (providers : List AuthProvider) : Prop :=
  ∃ q ∈ providers, q.providerName ≠ p

theorem filter_nonempty_iff (p : AuthProviderName) (providers : List AuthProvider) :
    providers.filter (·.providerName != p) ≠ [] ↔ Another p providers := by
  simp [Another, List.filter_eq_nil_iff]

theorem another_of_unlinked (p : AuthProviderName) (providers : List AuthProvider)
    (linked : providers ≠ []) (others : ∀ q ∈ providers, q.providerName ≠ p) :
    Another p providers := by
  obtain ⟨q, rest, items⟩ := List.exists_cons_of_ne_nil linked
  have first : q ∈ providers := items ▸ List.mem_cons_self
  exact ⟨q, first, others q first⟩

section LoginCheck

structure LoginAgrees (u : AuthUser) : Prop where
  exact : u.ensureCanLogin = .ok () ↔ u.canLogin = true
  hashed : u.ensureCanLogin = .ok () → ∃ hash, UseCases.storedHash u = .ok hash

def Stranded (w : Ways) : Prop :=
  w.status = .active ∧ w.emailVerified = true ∧ w.password = none ∧ w.providers = []

theorem ensureCanLogin_ok_iff (u : AuthUser) : u.ensureCanLogin = .ok () ↔
    u.status = .active ∧ u.emailVerified = true ∧ (u.password = none → u.providers = []) := by
  unfold AuthUser.ensureCanLogin AuthUserProps.isUsingOAuthProvider
    AuthUserProps.isUsingLocalProvider
  rw [raise_ok_iff]
  cases u.password <;> cases u.providers <;> simp

theorem loginAgrees_iff (u : AuthUser) : LoginAgrees u ↔ ¬ Stranded (ways u.toAuthUserProps) := by
  have can : u.canLogin = true ↔
      u.status = .active ∧ u.password.isSome = true ∧ u.emailVerified = true := by
    simp [AuthUser.canLogin, AuthUserProps.isUsingLocalProvider, and_assoc]
  constructor
  · rintro h ⟨active, verified, none, empty⟩
    obtain ⟨-, has, -⟩ := can.mp (h.exact.mp ((ensureCanLogin_ok_iff u).mpr
      ⟨active, verified, fun _ => empty⟩))
    rw [show u.password = _ from none] at has
    exact Bool.false_ne_true has
  · intro safe
    have password (login : u.ensureCanLogin = .ok ()) : u.password.isSome = true := by
      obtain ⟨active, verified, counted⟩ := (ensureCanLogin_ok_iff u).mp login
      by_contra absent
      have none := Option.not_isSome_iff_eq_none.mp absent
      exact safe ⟨active, verified, none, counted none⟩
    refine ⟨⟨fun login => ?_, fun login => ?_⟩, fun login => ?_⟩
    · obtain ⟨active, verified, -⟩ := (ensureCanLogin_ok_iff u).mp login
      exact can.mpr ⟨active, password login, verified⟩
    · obtain ⟨active, has, verified⟩ := can.mp login
      exact (ensureCanLogin_ok_iff u).mpr ⟨active, verified, fun none => by simp [none] at has⟩
    · obtain ⟨hash, stored⟩ := Option.isSome_iff_exists.mp (password login)
      exact ⟨hash.getValue, by rw [UseCases.storedHash, stored]⟩

def KeepsLogin (u : AuthUser) (a : Step) : Prop :=
  u.emailVerified = true → u.password = none →
    (a.1 = .activate → u.providers ≠ []) ∧
    ∀ p, a.1 = .unlinkOAuth p → u.status = .active → Another p u.providers

theorem Moves.stranded_iff {w w' : Ways} {c : AuthCommand} (h : Moves w c w')
    (safe : ¬ Stranded w) : ¬ Stranded w' ↔
      (w.emailVerified = true → w.password = none → (c = .activate → w.providers ≠ []) ∧
        ∀ p, c = .unlinkOAuth p → w.status = .active → Another p w.providers) := by
  cases h with
  | kept _ plain linked =>
    refine ⟨fun _ verified none => ⟨fun e => absurd e plain, fun p e active => ?_⟩, fun _ => safe⟩
    have provided : w.providers ≠ [] := fun empty => safe ⟨active, verified, none, empty⟩
    exact another_of_unlinked p w.providers provided (linked p e)
  | verified local_user =>
    have has : w.password ≠ none := Option.isSome_iff_ne_none.mp local_user
    exact ⟨fun _ _ none => absurd none has, fun _ bad => has bad.2.2.1⟩
  | unverified => exact ⟨fun _ _ _ => ⟨nofun, nofun⟩, fun _ bad => Bool.false_ne_true bad.2.1⟩
  | rehashed _ p verified plain linked =>
    exact ⟨fun _ _ _ => ⟨fun e => absurd e plain, fun p e => absurd e (linked p)⟩,
      fun _ bad => nomatch bad.2.2.1⟩
  | closed _ t inactive plain linked =>
    exact ⟨fun _ _ _ => ⟨fun e => absurd e plain, fun p e => absurd e (linked p)⟩,
      fun _ bad => inactive bad.1⟩
  | activated =>
    constructor
    · exact fun good verified none => ⟨fun _ empty => good ⟨rfl, verified, none, empty⟩, nofun⟩
    · exact fun keeps bad => (keeps bad.2.1 bad.2.2.1).1 rfl bad.2.2.2
  | linked p =>
    exact ⟨fun _ _ _ => ⟨nofun, nofun⟩, fun _ bad => List.append_ne_nil_of_right_ne_nil _
      (List.cons_ne_nil _ _) bad.2.2.2⟩
  | unlinked p =>
    constructor
    · intro good verified none
      refine ⟨nofun, fun q e active => ?_⟩
      obtain rfl := AuthCommand.unlinkOAuth.inj e
      exact (filter_nonempty_iff p w.providers).mp
        fun empty => good ⟨active, verified, none, empty⟩
    · exact fun keeps bad => (filter_nonempty_iff p w.providers).mpr
        ((keeps bad.2.1 bad.2.2.1).2 p rfl bad.1) bad.2.2.2

/-- In every run from a factory, the login check agrees with `canLogin`, and the password is
there where it passes, just when no step takes the last provider of a verified user without
a password while active, nor activates one that has none. -/
theorem login_agrees_iff (u : AuthUser) (created : Created u) (run : List Step) :
    Throughout AuthCommand.run LoginAgrees u run ↔ Along AuthCommand.run KeepsLogin u run := by
  have start : ¬ Stranded (ways u.toAuthUserProps) := by
    rintro ⟨active, -, none, empty⟩
    rcases created_ways u created with ⟨inactive, -⟩ | ⟨-, -, linked⟩
    · cases inactive.symm.trans active
    · exact linked empty
  rw [throughout_congr AuthCommand.run _ _ loginAgrees_iff]
  exact throughout_iff_along AuthCommand.run _ KeepsLogin
    (fun v a safe => (run_moves v a).stranded_iff safe) u run start

end LoginCheck

section LockOut

def HasWayIn (u : AuthUser) : Prop :=
  u.status = .active →
    (u.password.isSome = true → u.canLogin = true ∨ u.canVerifyEmail = true) ∧
    (u.password = none → u.providers ≠ [])

def LockedOut (w : Ways) : Prop :=
  w.status = .active ∧ (w.password.isSome = true ∧ w.emailVerified = false ∨
    w.password = none ∧ w.providers = [])

theorem hasWayIn_iff (u : AuthUser) : HasWayIn u ↔ ¬ LockedOut (ways u.toAuthUserProps) := by
  -- the e-mail of an active user cannot be verified
  have ways_in (active : u.status = .active) (has : u.password.isSome = true) :
      u.canLogin = true ∨ u.canVerifyEmail = true ↔ u.emailVerified = true := by
    simp [AuthUser.canLogin, AuthUser.canVerifyEmail, AuthUserProps.isUsingLocalProvider, active,
      has]
  constructor
  · rintro h ⟨active, ⟨has, unverified⟩ | ⟨none, empty⟩⟩
    · have verified := (ways_in active has).mp ((h active).1 has)
      exact Bool.false_ne_true (unverified.symm.trans verified)
    · exact (h active).2 none empty
  · refine fun safe active => ⟨fun has => (ways_in active has).mpr ?_, fun none empty => ?_⟩
    · by_contra unverified
      exact safe ⟨active, Or.inl ⟨has, Bool.eq_false_iff.mpr unverified⟩⟩
    · exact safe ⟨active, Or.inr ⟨none, empty⟩⟩

def KeepsWayIn (u : AuthUser) (a : Step) : Prop :=
  (a.1 = .activate → (u.password.isSome = true → u.emailVerified = true) ∧
    (u.password = none → u.providers ≠ [])) ∧
  ∀ p, a.1 = .unlinkOAuth p → u.status = .active → u.password = none → Another p u.providers

theorem Moves.lockedOut_iff {w w' : Ways} {c : AuthCommand} (h : Moves w c w')
    (safe : ¬ LockedOut w) : ¬ LockedOut w' ↔
      (c = .activate → (w.password.isSome = true → w.emailVerified = true) ∧
        (w.password = none → w.providers ≠ [])) ∧
      ∀ p, c = .unlinkOAuth p → w.status = .active → w.password = none →
        Another p w.providers := by
  cases h with
  | kept _ plain linked =>
    refine ⟨fun _ => ⟨fun e => absurd e plain, fun p e active none => ?_⟩, fun _ => safe⟩
    have provided : w.providers ≠ [] := fun empty => safe ⟨active, Or.inr ⟨none, empty⟩⟩
    exact another_of_unlinked p w.providers provided (linked p e)
  | verified local_user =>
    refine ⟨fun _ => ⟨nofun, nofun⟩, ?_⟩
    rintro - ⟨-, ⟨-, unverified⟩ | ⟨none, -⟩⟩
    · cases unverified
    · exact absurd none (Option.isSome_iff_ne_none.mp local_user)
  | unverified => exact ⟨fun _ => ⟨nofun, nofun⟩, fun _ bad => nomatch bad.1⟩
  | rehashed _ p verified plain linked =>
    refine ⟨fun _ => ⟨fun e => absurd e plain, fun p e => absurd e (linked p)⟩, ?_⟩
    rintro - ⟨-, ⟨-, unverified⟩ | ⟨none, -⟩⟩
    · exact Bool.false_ne_true (unverified.symm.trans verified)
    · cases none
  | closed _ t inactive plain linked =>
    exact ⟨fun _ => ⟨fun e => absurd e plain, fun p e => absurd e (linked p)⟩,
      fun _ bad => inactive bad.1⟩
  | activated =>
    constructor
    · refine fun good => ⟨fun _ => ⟨fun has => ?_, fun none empty => ?_⟩, nofun⟩
      · by_contra unverified
        exact good ⟨rfl, Or.inl ⟨has, Bool.eq_false_iff.mpr unverified⟩⟩
      · exact good ⟨rfl, Or.inr ⟨none, empty⟩⟩
    · rintro ⟨keeps, -⟩ ⟨-, ⟨has, unverified⟩ | ⟨none, empty⟩⟩
      · exact Bool.false_ne_true (unverified.symm.trans ((keeps rfl).1 has))
      · exact (keeps rfl).2 none empty
  | linked p =>
    refine ⟨fun _ => ⟨nofun, nofun⟩, ?_⟩
    rintro - ⟨active, unverified | ⟨-, empty⟩⟩
    · exact safe ⟨active, Or.inl unverified⟩
    · exact List.append_ne_nil_of_right_ne_nil _ (List.cons_ne_nil _ _) empty
  | unlinked p =>
    constructor
    · refine fun good => ⟨nofun, fun q e active none => ?_⟩
      obtain rfl := AuthCommand.unlinkOAuth.inj e
      exact (filter_nonempty_iff p w.providers).mp
        fun empty => good ⟨active, Or.inr ⟨none, empty⟩⟩
    · rintro ⟨-, keeps⟩ ⟨active, unverified | ⟨none, empty⟩⟩
      · exact safe ⟨active, Or.inl unverified⟩
      · exact (filter_nonempty_iff p w.providers).mpr (keeps p rfl active none) empty

/-- In every run from a factory, an active user has a way in just when no step activates one
without it, nor takes the last provider of an active user without a password. -/
theorem no_lock_out_iff (u : AuthUser) (created : Created u) (run : List Step) :
    Throughout AuthCommand.run HasWayIn u run ↔ Along AuthCommand.run KeepsWayIn u run := by
  have start : ¬ LockedOut (ways u.toAuthUserProps) := by
    rintro ⟨active, locked⟩
    rcases created_ways u created with ⟨inactive, -⟩ | ⟨verified, -, linked⟩
    · cases inactive.symm.trans active
    · rcases locked with ⟨-, unverified⟩ | ⟨-, empty⟩
      · exact Bool.false_ne_true (unverified.symm.trans verified)
      · exact linked empty
  rw [throughout_congr AuthCommand.run _ _ hasWayIn_iff]
  exact throughout_iff_along AuthCommand.run _ KeepsWayIn
    (fun v a safe => (run_moves v a).lockedOut_iff safe) u run start

end LockOut

section Samples

/-- A user of one provider unlinks it, and passes the login check with no hash to compare. -/
theorem unlinked_user_passes :
    ∃ u, AuthUser.fromOAuth .sample .sample .sample ⟨.google, "g-1", 0⟩ none (.still 0) = .ok u ∧
      (AuthCommand.run u (.unlinkOAuth .google, .still 1)).ensureCanLogin = .ok () ∧
      (AuthCommand.run u (.unlinkOAuth .google, .still 1)).canLogin = false ∧
      UseCases.storedHash (AuthCommand.run u (.unlinkOAuth .google, .still 1)) =
        .error (.failure "Cannot read properties of null (reading 'getValue')") ∧
      ¬ Throughout AuthCommand.run LoginAgrees u [(.unlinkOAuth .google, .still 1)] := by
  refine ⟨_, rfl, rfl, rfl, rfl, fun agrees => ?_⟩
  exact Bool.false_ne_true (agrees.2.exact.mp rfl)

/-- A user who has not verified the e-mail is activated, and can neither log in nor verify. -/
theorem activated_user_is_locked_out :
    ∃ u, AuthUser.register .sample .sample .sample ⟨"h"⟩ none (.still 0) = .ok u ∧
      (AuthCommand.run u (.activate, .still 1)).status = .active ∧
      (AuthCommand.run u (.activate, .still 1)).password.isSome = true ∧
      (AuthCommand.run u (.activate, .still 1)).canLogin = false ∧
      (AuthCommand.run u (.activate, .still 1)).canVerifyEmail = false ∧
      ¬ Throughout AuthCommand.run HasWayIn u [(.activate, .still 1)] := by
  refine ⟨_, rfl, rfl, rfl, rfl, rfl, fun safe => ?_⟩
  rcases (safe.2 rfl).1 rfl with can | can
  · cases can
  · cases can

def exchanged : List Step := [
  (.linkOAuth ⟨.facebook, "f-1", 1⟩, .still 1), (.unlinkOAuth .google, .still 2),
  (.deactivate, .still 3), (.activate, .still 4)]

theorem sample_login_agrees :
    ∃ u, AuthUser.fromOAuth .sample .sample .sample ⟨.google, "g-1", 0⟩ none (.still 0) = .ok u ∧
      (after AuthCommand.run u exchanged).status = .active ∧
      Throughout AuthCommand.run LoginAgrees u exchanged := by
  refine ⟨_, rfl, rfl, (login_agrees_iff _ (.fromOAuth .sample .sample .sample ⟨.google, "g-1", 0⟩
    none (.still 0) rfl) exchanged).mpr ⟨?_, ?_, ?_, ?_, trivial⟩⟩
  · exact fun _ _ => ⟨nofun, nofun⟩
  · refine fun _ _ => ⟨nofun, fun p unlinked _ => ?_⟩
    obtain rfl := AuthCommand.unlinkOAuth.inj unlinked
    exact ⟨⟨.facebook, "f-1", 1⟩, by decide, by decide⟩
  · exact fun _ _ => ⟨nofun, nofun⟩
  · exact fun _ _ => ⟨fun _ => by decide, nofun⟩

theorem sample_no_lock_out :
    ∃ u, AuthUser.fromOAuth .sample .sample .sample ⟨.google, "g-1", 0⟩ none (.still 0) = .ok u ∧
      (after AuthCommand.run u exchanged).providers = [⟨.facebook, "f-1", 1⟩] ∧
      Throughout AuthCommand.run HasWayIn u exchanged := by
  refine ⟨_, rfl, rfl, (no_lock_out_iff _ (.fromOAuth .sample .sample .sample ⟨.google, "g-1", 0⟩
    none (.still 0) rfl) exchanged).mpr ⟨?_, ?_, ?_, ?_, trivial⟩⟩
  · exact ⟨nofun, nofun⟩
  · refine ⟨nofun, fun p unlinked _ _ => ?_⟩
    obtain rfl := AuthCommand.unlinkOAuth.inj unlinked
    exact ⟨⟨.facebook, "f-1", 1⟩, by decide, by decide⟩
  · exact ⟨nofun, nofun⟩
  · exact ⟨fun _ => ⟨nofun, fun _ => by decide⟩, nofun⟩

end Samples

end KeramikStore.WaysIn
