import Mathlib.Tactic.MkIffOfInductiveProp
import Mathlib.Tactic.Tauto
import KeramikStore.Library.Runs
import KeramikStore.Auth.AuthUserMapper
import KeramikStore.Auth.CommandEffects

/-!
# Which runs of commands keep a user loadable

Validation couples the status, the verification, the providers, the sessions
and the deletion date; the dates only have to lie in the past. The first part
separates the two. The second states for each command the exact condition on the
user that it meets under which the coupling survives, and carries it over runs.
-/

set_option autoImplicit false

namespace KeramikStore
open Library Library.Text Library.Runs

@[mk_iff]
structure Coupled (p : AuthUserProps) : Prop where
  providers_verified : p.providers ≠ [] → p.emailVerified = true
  verified_active : p.emailVerified = true → p.status = .active
  verified_dated : p.emailVerifiedAt.isSome = p.emailVerified
  tokens_active : p.refreshTokens ≠ [] → p.status = .active
  tokens_text : ∀ t ∈ p.refreshTokens, trim t ≠ ""
  deleted_dated : p.deletedAt.isSome = p.status.isDeleted

structure Dated (now : Date) (p : AuthUserProps) : Prop where
  verified : ∀ d ∈ p.emailVerifiedAt, d ≤ now
  login : ∀ d ∈ p.lastLoginAt, d ≤ now
  created : p.createdAt ≤ p.updatedAt
  updated : p.updatedAt ≤ now
  deleted : ∀ d ∈ p.deletedAt, d ≤ now

structure DatesPass (o : Origin) (clk : Clock) (p : AuthUserProps) : Prop where
  verified : p.emailVerifiedAt.any (o.after · (clk.read 0)) = false
  login : p.lastLoginAt.any (o.after · (clk.read 1)) = false
  created : o.after p.createdAt (clk.read 2) = false
  ordered : p.createdAt ≤ p.updatedAt
  updated : o.after p.updatedAt (clk.read 3) = false
  deleted : p.deletedAt.any (o.after · (clk.read 4)) = false

theorem trim_empty : trim "" = "" := rfl

theorem tokens_text_iff (tokens : List String) :
    (tokens.any fun token => token == "" || trim token == "") = false ↔
      ∀ t ∈ tokens, trim t ≠ "" := by
  simp only [List.any_eq_false, Bool.or_eq_true, beq_iff_eq, not_or]
  constructor
  · exact fun h t ht => (h t ht).2
  · intro h t ht
    refine ⟨fun e => h t ht ?_, h t ht⟩
    rw [e, trim_empty]

theorem validate_ok_iff (o : Origin) (clk : Clock) (p : AuthUserProps) :
    p.validate o clk = .ok () ↔ Coupled p ∧ DatesPass o clk p := by
  simp only [AuthUserProps.validate, raise_ok_iff, List.forall_mem_cons, tokens_text_iff,
    AuthUserProps.isUsingOAuthProvider, List.length_pos_iff, decide_eq_false_iff_not, not_lt,
    ← Option.not_isSome]
  constructor
  · rintro ⟨h1, h2, hv, hl, h3, h4, hc, ho, hu, h5, h6, h7, h8, hx, -⟩
    refine ⟨?_, ⟨hv, hl, hc, ho, hu, hx⟩⟩
    rw [coupled_iff]
    revert h1 h2 h3 h4 h5 h7 h8
    cases p.emailVerified <;> cases p.emailVerifiedAt.isSome <;> cases p.status <;>
      cases p.deletedAt.isSome <;> simp +contextual [Status.isActive, Status.isDeleted, h6]
  · rintro ⟨h, ⟨hv, hl, hc, ho, hu, hx⟩⟩
    rw [coupled_iff] at h
    obtain ⟨h1, h2, h3, h4, h5, h6⟩ := h
    simp only [hv, hl, hc, ho, hu, hx, h3, h6]
    revert h1 h2 h4
    cases p.emailVerified <;> cases p.status <;>
      simp +contextual [Status.isActive, Status.isDeleted, h5]

theorem not_after (o : Origin) (d now : Date) (h : d ≤ now) : o.after d now = false := by
  cases o with
  | database => simpa [Origin.after] using h
  | cache => rfl

theorem none_after (o : Origin) (d : Option Date) (now : Date) (h : ∀ t ∈ d, t ≤ now) :
    d.any (o.after · now) = false := by
  cases d with
  | none => rfl
  | some t => exact not_after o t now (h t rfl)

theorem before_of_not_after (d now : Date) (h : Origin.database.after d now = false) : d ≤ now := by
  simpa [Origin.after] using h

theorem all_before (d : Option Date) (now : Date)
    (h : d.any (Origin.database.after · now) = false) : ∀ t ∈ d, t ≤ now := by
  rintro t rfl
  exact before_of_not_after t now h

/-- On a user whose dates lie before the call the validation is the coupling. -/
theorem validate_iff_coupled (o : Origin) (clk : Clock) (now : Date) (p : AuthUserProps)
    (hd : Dated now p) (hn : now ≤ clk.start) : p.validate o clk = .ok () ↔ Coupled p := by
  have past : ∀ i, now ≤ clk.read i := fun i => hn.trans (clk.starts i)
  have dates : DatesPass o clk p := {
    verified := none_after o _ _ fun d h => (hd.verified d h).trans (past 0)
    login := none_after o _ _ fun d h => (hd.login d h).trans (past 1)
    created := not_after o _ _ (hd.created.trans (hd.updated.trans (past 2)))
    ordered := hd.created
    updated := not_after o _ _ (hd.updated.trans (past 3))
    deleted := none_after o _ _ fun d h => (hd.deleted d h).trans (past 4) }
  rw [validate_ok_iff]
  exact and_iff_left dates

theorem dated_of_validate (clk : Clock) (p : AuthUserProps)
    (h : p.validate .database clk = .ok ()) : Dated clk.stop p := by
  obtain ⟨-, hv, hl, -, ho, hu, hx⟩ := (validate_ok_iff _ _ _).mp h
  exact {
    verified := fun d hd => (all_before _ _ hv d hd).trans (clk.stops 0)
    login := fun d hd => (all_before _ _ hl d hd).trans (clk.stops 1)
    created := ho
    updated := (before_of_not_after _ _ hu).trans (clk.stops 3)
    deleted := fun d hd => (all_before _ _ hx d hd).trans (clk.stops 4) }

namespace AuthCommand

variable (clk : Clock) (u : AuthUser)

theorem effect_createdAt (c : AuthCommand) : (c.effect clk u).createdAt = u.createdAt := by
  cases c with
  | recordLogout t => cases t <;> rfl
  | _ => simp only [effect] <;> split_ifs <;> rfl

def Kept (old new : Option Date) : Prop := new = none ∨ new = old ∨ ∃ i, new = some (clk.read i)

theorem effect_emailVerifiedAt (c : AuthCommand) :
    Kept clk u.emailVerifiedAt (c.effect clk u).emailVerifiedAt := by
  cases c with
  | verifyEmail =>
    by_cases h : u.canVerifyEmail = true
    · exact Or.inr (Or.inr ⟨0, by simp [effect, h]⟩)
    · exact Or.inr (Or.inl (by simp [effect, h]))
  | unverifyEmail =>
    by_cases h : u.emailVerified = true
    · exact Or.inl (by simp [effect, h])
    · exact Or.inr (Or.inl (by simp [effect, h]))
  | recordLogout t => cases t <;> exact Or.inr (Or.inl rfl)
  | _ => exact Or.inr (Or.inl (by simp only [effect]; try split_ifs <;> rfl))

theorem effect_lastLoginAt (c : AuthCommand) :
    Kept clk u.lastLoginAt (c.effect clk u).lastLoginAt := by
  cases c with
  | recordLogin t => exact Or.inr (Or.inr ⟨0, rfl⟩)
  | recordOAuthLogin p t a =>
    by_cases hp : u.hasProvider p = true
    · by_cases h : t ∉ u.refreshTokens ∧ u.status ≠ .active
      · exact Or.inr (Or.inl (by simp [effect, hp, h]))
      · exact Or.inr (Or.inr ⟨1, by simp only [effect, hp, h, if_true, if_false]⟩)
    · exact Or.inr (Or.inl (by simp [effect, hp]))
  | recordLogout t => cases t <;> exact Or.inr (Or.inl rfl)
  | _ => exact Or.inr (Or.inl (by simp only [effect]; try split_ifs <;> rfl))

theorem effect_deletedAt (c : AuthCommand) :
    Kept clk u.deletedAt (c.effect clk u).deletedAt := by
  cases c with
  | softDelete => exact Or.inr (Or.inr ⟨1, rfl⟩)
  | recordLogout t => cases t <;> exact Or.inr (Or.inl rfl)
  | _ => exact Or.inr (Or.inl (by simp only [effect]; try split_ifs <;> rfl))

theorem kept_before (now : Date) (old new : Option Date) (hk : Kept clk old new)
    (hn : now ≤ clk.start) (h : ∀ d ∈ old, d ≤ now) : ∀ d ∈ new, d ≤ clk.stop := by
  intro d hd
  rcases hk with rfl | rfl | ⟨i, rfl⟩
  · cases hd
  · exact (h d hd).trans (hn.trans clk.start_le_stop)
  · obtain rfl := Option.mem_some_iff.mp hd
    exact clk.stops i

/-- The date of the last change, kept or read from the clock, stays between the
creation and the end of the call. -/
theorem updated_between (now created old new : Date) (h : new = old ∨ ∃ i, new = clk.read i)
    (hcreated : created ≤ old) (hold : old ≤ now) (hn : now ≤ clk.start) :
    created ≤ new ∧ new ≤ clk.stop := by
  rcases h with rfl | ⟨i, rfl⟩
  · exact ⟨hcreated, hold.trans (hn.trans clk.start_le_stop)⟩
  · exact ⟨hcreated.trans (hold.trans (hn.trans (clk.starts i))), clk.stops i⟩

/-- A command keeps every date of the user in the past. -/
theorem exec_dated (c : AuthCommand) (now : Date) (h : Dated now u.toAuthUserProps)
    (hn : now ≤ clk.start) : Dated clk.stop (c.exec clk u).state.toAuthUserProps := by
  obtain ⟨-, d, hp, hd⟩ := exec_leaves c clk u
  obtain ⟨created, updated⟩ := updated_between clk now u.createdAt u.updatedAt d hd h.created
    h.updated hn
  rw [hp]
  exact {
    verified := kept_before clk now _ _ (effect_emailVerifiedAt clk u c) hn h.verified
    login := kept_before clk now _ _ (effect_lastLoginAt clk u c) hn h.login
    deleted := kept_before clk now _ _ (effect_deletedAt clk u c) hn h.deleted
    created := (effect_createdAt clk u c).trans_le created
    updated := updated }

end AuthCommand

@[mk_iff]
structure Reloadable (p : AuthUserProps) : Prop where
  name_stable : p.name.Stable
  password_kept : p.password ≠ some ⟨""⟩
  coupled : Coupled p

theorem reloadable_updatedAt (p : AuthUserProps) (d : Date) :
    Reloadable { p with updatedAt := d } ↔ Reloadable p := by
  simp only [reloadable_iff, coupled_iff]

namespace AuthCommand

def Sound (u : AuthUser) : AuthCommand → Prop
  | verifyEmail => u.canVerifyEmail = true → u.status ≠ .deleted
  | unverifyEmail => u.emailVerified = true → u.providers = [] ∧ u.refreshTokens = []
  | changePassword p | resetPassword p => u.canResetPassword = true → p.value ≠ ""
  | recordLogin t => u.status = .active → t ≠ "" → trim t ≠ ""
  | recordOAuthLogin p t _ => u.status = .active → u.hasProvider p = true → trim t ≠ ""
  | recordTokenRefresh _ new => u.status = .active → trim new ≠ ""
  | activate => u.status ≠ .deleted
  | deactivate | suspend => u.emailVerified = false ∧ u.status ≠ .deleted
  | softDelete => u.emailVerified = false
  | linkOAuth p => u.hasProvider p.providerName = false → u.emailVerified = true
  | recordLogout _ | revokeAllRefreshTokens | unlinkOAuth _ => True

instance (u : AuthUser) (c : AuthCommand) : Decidable (Sound u c) := by
  cases c <;> unfold Sound <;> infer_instance

section Coupling

variable (p : AuthUserProps)

theorem reloadable_tokens (h : Reloadable p) (login : Option Date) (tokens : List String) :
    Reloadable { p with lastLoginAt := login, refreshTokens := tokens } ↔
      (tokens ≠ [] → p.status = .active) ∧ ∀ t ∈ tokens, trim t ≠ "" := by
  obtain ⟨hn, hp, hc⟩ := h
  simp only [reloadable_iff, coupled_iff, hn, hp, true_and, ne_eq, not_false_eq_true]
  constructor
  · rintro ⟨-, -, -, ha, ht, -⟩
    exact ⟨ha, ht⟩
  · rintro ⟨ha, ht⟩
    exact ⟨hc.providers_verified, hc.verified_active, hc.verified_dated, ha, ht, hc.deleted_dated⟩

theorem reloadable_fewer (h : Reloadable p) (tokens : List String)
    (sub : ∀ t ∈ tokens, t ∈ p.refreshTokens) :
    Reloadable { p with refreshTokens := tokens } := by
  refine (reloadable_tokens p h p.lastLoginAt tokens).mpr ⟨fun hne => ?_, fun t ht => ?_⟩
  · obtain ⟨t, ht⟩ := List.exists_mem_of_ne_nil tokens hne
    exact h.coupled.tokens_active (List.ne_nil_of_mem (sub t ht))
  · exact h.coupled.tokens_text t (sub t ht)

theorem tokensWith_active (h : Coupled p) (token : String) (hne : tokensWith token p ≠ []) :
    p.status = .active := by
  by_contra hs
  have same : tokensWith token p = p.refreshTokens := if_pos (Or.inr hs)
  exact hs (h.tokens_active (same ▸ hne))

theorem tokensWith_text_iff (h : Coupled p) (token : String) :
    (∀ t ∈ tokensWith token p, trim t ≠ "") ↔ (p.status = .active → trim token ≠ "") := by
  by_cases hkeep : token ∈ p.refreshTokens ∨ p.status ≠ .active
  · rw [tokensWith, if_pos hkeep]
    refine ⟨fun _ hs => ?_, fun _ => h.tokens_text⟩
    exact h.tokens_text token (hkeep.resolve_right (not_not.mpr hs))
  · rw [tokensWith, if_neg hkeep]
    have hs : p.status = .active := not_not.mp (not_or.mp hkeep).2
    constructor
    · intro ht _
      exact ht token (AuthUser.token_mem_pushToken token p.refreshTokens)
    · intro ht t hmem
      rcases AuthUser.mem_pushToken token t p.refreshTokens hmem with hold | rfl
      · exact h.tokens_text t hold
      · exact ht hs

theorem reloadable_tokensWith (h : Reloadable p) (login : Option Date) (token : String) :
    Reloadable { p with lastLoginAt := login, refreshTokens := tokensWith token p } ↔
      (p.status = .active → trim token ≠ "") := by
  rw [reloadable_tokens p h, tokensWith_text_iff p h.coupled]
  exact and_iff_right (tokensWith_active p h.coupled token)

theorem reloadable_status (h : Reloadable p) (status : Status) (hs : status ≠ .deleted) :
    Reloadable { p with status := status, refreshTokens := [] } ↔
      (p.emailVerified = true → status = .active) ∧ p.status ≠ .deleted := by
  obtain ⟨hn, hp, hc⟩ := h
  have hdel : status.isDeleted = false := by simpa using hs
  simp only [reloadable_iff, coupled_iff, hn, hc.verified_dated, hc.deleted_dated, hdel]
  constructor
  · rintro ⟨-, -, -, hv, -, -, -, hd⟩
    exact ⟨hv, by simpa using hd⟩
  · rintro ⟨hv, hd⟩
    exact ⟨trivial, hp, hc.providers_verified, hv, trivial, by simp, by simp, by simpa using hd⟩

theorem reloadable_password (h : Reloadable p) (q : Password) :
    Reloadable { p with password := some q, refreshTokens := [] } ↔ q.value ≠ "" := by
  obtain ⟨hn, hp, hc⟩ := h
  have hcoupled : Coupled { p with password := some q, refreshTokens := [] } :=
    ⟨hc.providers_verified, hc.verified_active, hc.verified_dated, by simp, by simp,
      hc.deleted_dated⟩
  simp only [reloadable_iff, hn, hcoupled, true_and, and_true]
  rw [ne_eq, Option.some.injEq, ne_eq, Password.mk.injEq]

end Coupling

variable (clk : Clock) (u : AuthUser)

theorem verifyEmail_reloadable (h : Reloadable u.toAuthUserProps) :
    Reloadable (effect clk u verifyEmail) ↔ Sound u verifyEmail := by
  by_cases hc : u.canVerifyEmail = true
  · obtain ⟨hn, hp, hcp⟩ := h
    have hina : u.status ≠ .active := by
      simp only [AuthUser.canVerifyEmail, Bool.and_eq_true, Bool.not_eq_true'] at hc
      simpa using hc.1.1
    have htok : u.refreshTokens = [] := by
      by_contra hne
      exact hina (hcp.tokens_active hne)
    simp only [effect, Sound, hc, if_true, true_implies, reloadable_iff, coupled_iff, hn, htok,
      hcp.deleted_dated]
    constructor
    · rintro ⟨-, -, -, -, -, -, -, hd⟩
      simpa [Status.isDeleted] using hd
    · intro hd
      exact ⟨trivial, hp, by simp, by simp, by simp, by simp, by simp,
        by simpa [Status.isDeleted] using hd⟩
  · simp only [effect, Sound, hc]
    exact iff_of_true h (by simp)

theorem unverifyEmail_reloadable (h : Reloadable u.toAuthUserProps) :
    Reloadable (effect clk u unverifyEmail) ↔ Sound u unverifyEmail := by
  by_cases hv : u.emailVerified = true
  · obtain ⟨hn, hp, hcp⟩ := h
    have hdel : u.deletedAt.isSome = false := by
      rw [hcp.deleted_dated, hcp.verified_active hv]
      rfl
    simp only [effect, Sound, hv, if_true, true_implies, reloadable_iff, coupled_iff, hn, hdel]
    constructor
    · rintro ⟨-, -, hps, -, -, hts, -, -⟩
      exact ⟨by simpa using hps, by simpa using hts⟩
    · rintro ⟨hps, hts⟩
      simpa [hps, hts, Status.isDeleted] using hp
  · simp only [effect, Sound, hv]
    exact iff_of_true h (by simp)

theorem newPassword_reloadable (q : Password) (h : Reloadable u.toAuthUserProps) :
    Reloadable (effect clk u (changePassword q)) ↔ Sound u (changePassword q) := by
  by_cases hc : u.canResetPassword = true
  · simp only [effect, Sound, hc, if_true, true_implies]
    exact reloadable_password u.toAuthUserProps h q
  · simp only [effect, Sound, hc]
    exact iff_of_true h (by simp)

theorem recordLogin_reloadable (t : String) (h : Reloadable u.toAuthUserProps) :
    Reloadable (effect clk u (recordLogin t)) ↔ Sound u (recordLogin t) := by
  by_cases ht : t = ""
  · simp only [effect, Sound, ht, if_true]
    rw [reloadable_tokens u.toAuthUserProps h]
    exact iff_of_true ⟨h.coupled.tokens_active, h.coupled.tokens_text⟩ (by simp)
  · simp only [effect, Sound, ht, if_false, ne_eq, not_false_eq_true, true_implies]
    exact reloadable_tokensWith u.toAuthUserProps h _ t

theorem recordOAuthLogin_reloadable (p : AuthProviderName) (t : String) (a : Option String)
    (h : Reloadable u.toAuthUserProps) :
    Reloadable (effect clk u (recordOAuthLogin p t a)) ↔ Sound u (recordOAuthLogin p t a) := by
  by_cases hp : u.hasProvider p = true
  · simp only [effect, Sound, hp, if_true, true_implies]
    exact reloadable_tokensWith u.toAuthUserProps h _ t
  · simp only [effect, Sound, hp]
    exact iff_of_true h (by simp)

theorem recordLogout_reloadable (t : Option String) (h : Reloadable u.toAuthUserProps) :
    Reloadable (effect clk u (recordLogout t)) := by
  cases t with
  | none => exact reloadable_fewer _ h [] (by simp)
  | some t =>
    apply reloadable_fewer _ h _
    intro s hs
    split_ifs at hs with ht
    · cases hs
    · exact List.mem_of_mem_filter hs

theorem recordTokenRefresh_reloadable (old new : String) (h : Reloadable u.toAuthUserProps) :
    Reloadable (effect clk u (recordTokenRefresh old new)) ↔
      Sound u (recordTokenRefresh old new) := by
  have removed := reloadable_fewer _ h (u.refreshTokens.filter (· != old))
    fun t ht => List.mem_of_mem_filter ht
  exact reloadable_tokensWith _ removed u.lastLoginAt new

theorem softDelete_reloadable (h : Reloadable u.toAuthUserProps) :
    Reloadable (effect clk u softDelete) ↔ Sound u softDelete := by
  obtain ⟨hn, hp, hc⟩ := h
  simp only [effect, Sound, reloadable_iff, coupled_iff, hn, hc.verified_dated]
  constructor
  · rintro ⟨-, -, -, hv, -⟩
    simpa using hv
  · intro hv
    exact ⟨trivial, hp, hc.providers_verified, by simp [hv], trivial, by simp, by simp, rfl⟩

theorem linkOAuth_reloadable (p : AuthProvider) (h : Reloadable u.toAuthUserProps) :
    Reloadable (effect clk u (linkOAuth p)) ↔ Sound u (linkOAuth p) := by
  by_cases hp : u.hasProvider p.providerName = true
  · simp only [effect, Sound, hp, if_true]
    exact iff_of_true h (by simp)
  · have hp' : u.hasProvider p.providerName = false := by simpa using hp
    obtain ⟨hn, hpw, hc⟩ := h
    simp only [effect, Sound, hp', Bool.false_eq_true, if_false, true_implies, reloadable_iff,
      coupled_iff, hn]
    constructor
    · rintro ⟨-, -, hv, -⟩
      exact hv (by simp)
    · intro hv
      exact ⟨trivial, hpw, fun _ => hv, hc.verified_active, hc.verified_dated, hc.tokens_active,
        hc.tokens_text, hc.deleted_dated⟩

theorem unlinkOAuth_reloadable (p : AuthProviderName) (h : Reloadable u.toAuthUserProps) :
    Reloadable (effect clk u (unlinkOAuth p)) := by
  by_cases hp : u.hasProvider p = true
  · obtain ⟨hn, hpw, hc⟩ := h
    simp only [effect, hp, if_true]
    refine ⟨hn, hpw, ⟨fun hne => hc.providers_verified fun he => hne ?_, hc.verified_active,
      hc.verified_dated, hc.tokens_active, hc.tokens_text, hc.deleted_dated⟩⟩
    simp [he]
  · simpa [effect, hp] using h

/-- One command keeps a user loadable exactly when it is sound for that user. -/
theorem effect_reloadable_iff (c : AuthCommand) (h : Reloadable u.toAuthUserProps) :
    Reloadable (c.effect clk u) ↔ Sound u c := by
  cases c with
  | verifyEmail => exact verifyEmail_reloadable clk u h
  | unverifyEmail => exact unverifyEmail_reloadable clk u h
  | changePassword q => exact newPassword_reloadable clk u q h
  | resetPassword q => exact newPassword_reloadable clk u q h
  | recordLogin t => exact recordLogin_reloadable clk u t h
  | recordOAuthLogin p t a => exact recordOAuthLogin_reloadable clk u p t a h
  | recordLogout t => exact iff_of_true (recordLogout_reloadable clk u t h) trivial
  | recordTokenRefresh old new => exact recordTokenRefresh_reloadable clk u old new h
  | revokeAllRefreshTokens => exact iff_of_true (reloadable_fewer _ h [] (by simp)) trivial
  | activate =>
    apply (reloadable_status _ h .active (by simp)).trans
    simp [Sound]
  | deactivate =>
    apply (reloadable_status _ h .inactive (by simp)).trans
    simp [Sound]
  | suspend =>
    apply (reloadable_status _ h .suspended (by simp)).trans
    simp [Sound]
  | softDelete => exact softDelete_reloadable clk u h
  | linkOAuth p => exact linkOAuth_reloadable clk u p h
  | unlinkOAuth p => exact iff_of_true (unlinkOAuth_reloadable clk u p h) trivial

end AuthCommand

structure Session where
  user : AuthUser
  now : Date

namespace Session

open AuthCommand

def step (s : Session) (a : AuthCommand × Clock) : Session :=
  ⟨(a.1.exec a.2 s.user).state, a.2.stop⟩

def InOrder (s : Session) (a : AuthCommand × Clock) : Prop := s.now ≤ a.2.start

instance (s : Session) (a : AuthCommand × Clock) : Decidable (InOrder s a) :=
  inferInstanceAs (Decidable (s.now ≤ a.2.start))

def Born (s : Session) : Prop :=
  (∃ id name email password role clk,
    AuthUser.register id name email password role clk = .ok s.user ∧ clk.stop ≤ s.now) ∨
  ∃ id name email provider role clk,
    AuthUser.fromOAuth id name email provider role clk = .ok s.user ∧ clk.stop ≤ s.now

def Survives (s : Session) : Prop :=
  ∀ clk : Clock, s.now ≤ clk.start → s.user.validate .database clk = .ok () ∧
    PrismaAuthUserMapper.toDomain .database clk (PrismaAuthUserMapper.toPersistence s.user) =
      .ok { s.user with domainEvents := [] }

theorem survives_iff (s : Session) (h : Dated s.now s.user.toAuthUserProps) :
    Survives s ↔ Reloadable s.user.toAuthUserProps := by
  unfold Survives
  simp only [PrismaAuthUserMapper.toDomain_toPersistence_iff]
  constructor
  · intro hs
    obtain ⟨hv, hn, hp, -⟩ := hs (Clock.still s.now) le_rfl
    exact ⟨hn, hp, (validate_iff_coupled _ _ _ _ h le_rfl).mp hv⟩
  · intro hr clk hn
    have hv := (validate_iff_coupled .database clk _ _ h hn).mpr hr.coupled
    exact ⟨hv, hr.name_stable, hr.password_kept, hv⟩

theorem dated_mono (now later : Date) (p : AuthUserProps) (h : Dated now p) (hl : now ≤ later) :
    Dated later p :=
  ⟨fun d hd => (h.verified d hd).trans hl, fun d hd => (h.login d hd).trans hl, h.created,
    h.updated.trans hl, fun d hd => (h.deleted d hd).trans hl⟩

theorem construct_born (clk later : Clock) (id : UserId) (props : AuthUserProps) (u : AuthUser)
    (hstop : later.stop = clk.stop) (h : AuthUser.construct .database later id props = .ok u) :
    Dated clk.stop u.toAuthUserProps ∧ Coupled u.toAuthUserProps := by
  obtain ⟨hv, rfl⟩ := (AuthUser.construct_ok_iff _ _ _ _ _).mp h
  exact ⟨hstop ▸ dated_of_validate later props hv, ((validate_ok_iff _ _ _).mp hv).1⟩

theorem born_valid (s : Session) (h : Born s) :
    Dated s.now s.user.toAuthUserProps ∧ Coupled s.user.toAuthUserProps := by
  rcases h with ⟨id, name, email, password, role, clk, hu, hn⟩ |
    ⟨id, name, email, provider, role, clk, hu, hn⟩
  · obtain ⟨u, hc, he⟩ := (bind_ok_iff _ _ _).mp hu
    obtain ⟨hd, hcp⟩ := construct_born clk (clk.skip 2) _ _ _ rfl hc
    rw [← Except.ok.inj he]
    exact ⟨dated_mono _ _ _ hd hn, hcp⟩
  · obtain ⟨u, hc, he⟩ := (bind_ok_iff _ _ _).mp hu
    obtain ⟨hd, hcp⟩ := construct_born clk (clk.skip 3) _ _ _ rfl hc
    rw [← Except.ok.inj he]
    exact ⟨dated_mono _ _ _ hd hn, hcp⟩

theorem step_dated (s : Session) (a : AuthCommand × Clock) (h : Dated s.now s.user.toAuthUserProps)
    (ho : InOrder s a) : Dated (step s a).now (step s a).user.toAuthUserProps :=
  exec_dated a.2 s.user a.1 s.now h ho

theorem step_survives_iff (s : Session) (a : AuthCommand × Clock)
    (h : Dated s.now s.user.toAuthUserProps) (ho : InOrder s a) (hs : Survives s) :
    Survives (step s a) ↔ Sound s.user a.1 := by
  rw [survives_iff _ (step_dated s a h ho), ← effect_reloadable_iff a.2 s.user a.1
    ((survives_iff s h).mp hs)]
  obtain ⟨-, d, hp, -⟩ := exec_leaves a.1 a.2 s.user
  change Reloadable (a.1.exec a.2 s.user).state.toAuthUserProps ↔ _
  rw [hp, reloadable_updatedAt]

/-- Along a run of commands from a new user, every state validates and reloads
exactly when the stored name and password hash of the new user come back
unchanged and every command is sound for the user that it meets. -/
theorem survives_throughout_iff (s : Session) (as : List (AuthCommand × Clock)) (hb : Born s)
    (ho : Along step InOrder s as) :
    Throughout step Survives s as ↔
      (s.user.name.Stable ∧ s.user.password ≠ some ⟨""⟩) ∧
        Along step (fun t a => Sound t.user a.1) s as := by
  obtain ⟨hd, hc⟩ := born_valid s hb
  rw [throughout_exact step (fun t => Dated t.now t.user.toAuthUserProps) Survives InOrder
    (fun t a => Sound t.user a.1) step_dated step_survives_iff s as hd ho, survives_iff s hd]
  apply and_congr_left
  intro _
  exact ⟨fun h => ⟨h.name_stable, h.password_kept⟩, fun h => ⟨h.1, h.2, hc⟩⟩

/-- A customer who registered, verified the e-mail and logged in twice. -/
theorem registered_session_survives :
    ∃ u, AuthUser.register .sample .sample .sample ⟨"h"⟩ none (.still 0) = .ok u ∧
      Throughout step Survives ⟨u, 0⟩
        [(.verifyEmail, .still 1), (.recordLogin "t1", .still 2),
          (.recordLogout (some "t1"), .still 3),
          (.recordLogin "t2", .still 4)] := by
  refine ⟨_, rfl, ?_⟩
  refine (survives_throughout_iff _ _ (Or.inl ⟨_, _, _, _, _, .still 0, rfl, le_rfl⟩) ?_).mpr
    ⟨⟨?_, ?_⟩, ?_⟩
  · decide
  · decide
  · decide
  · decide

/-- A user who came through a provider is verified for good, so a suspension
leaves a row that no request can load. -/
theorem suspended_provider_user_is_lost :
    ∃ u, AuthUser.fromOAuth .sample .sample .sample ⟨.google, "g-1", 0⟩ none (.still 0) = .ok u ∧
      Born ⟨u, 0⟩ ∧ Along step InOrder ⟨u, 0⟩ [(.suspend, .still 1)] ∧
      ¬ Throughout step Survives ⟨u, 0⟩ [(.suspend, .still 1)] := by
  refine ⟨_, rfl, Or.inr ⟨_, _, _, _, _, .still 0, rfl, le_rfl⟩, by decide, ?_⟩
  intro h
  have hv := (h.2 (.still 1) le_rfl).1
  exact absurd hv (by decide)

end Session

end KeramikStore
