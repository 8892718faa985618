import KeramikStore.Library.RecentSet
import KeramikStore.Auth.StatusBlocks

/-!
# The refresh tokens as a set of the newest five

Each call asks for some operations on the set of tokens: a call that returns adds its
token, a refresh removes the old one even where it then throws, and what ends the sessions
clears the set. The list of a user is the set that these operations give.
-/

set_option autoImplicit false

namespace KeramikStore.TokenList
open Library Library.Runs

abbrev Tokens := RecentSet String 5

abbrev Step := AuthCommand × Clock

def arguments : AuthCommand → List String
  | .recordLogin t | .recordOAuthLogin _ t _ | .recordLogout (some t) => [t]
  | .recordTokenRefresh old new => [old, new]
  | _ => []

def asks (returned : Prop) [Decidable returned] : AuthCommand → List (RecentSet.Op String)
  | .recordLogin t | .recordOAuthLogin _ t _ => if returned then [.add t] else []
  | .recordTokenRefresh old new => .remove old :: if returned then [.add new] else []
  | .recordLogout (some t) => [.remove t]
  | .recordLogout none | .revokeAllRefreshTokens => [.clear]
  | .activate | .deactivate | .suspend | .softDelete => [.clear]
  | .changePassword _ | .resetPassword _ => if returned then [.clear] else []
  | .verifyEmail | .unverifyEmail | .linkOAuth _ | .unlinkOAuth _ => []

def asked : AuthUser → List Step → List (RecentSet.Op String)
  | _, [] => []
  | u, a :: as =>
    asks (a.1.exec a.2 u).Returns a.1 ++ asked (AuthCommand.run u a) as

theorem pushToken_eq (t : String) (xs : List String) (few : xs.length ≤ 5) :
    AuthUser.pushToken t xs = RecentSet.newest 5 (xs ++ [t]) := by
  unfold AuthUser.pushToken
  dsimp only
  split_ifs with crowded
  · cases xs with
    | nil => simp at crowded
    | cons x rest =>
      rw [List.cons_append, RecentSet.newest_full]
      · rfl
      · simp at crowded few ⊢
        omega
  · exact (RecentSet.newest_of_le _ (not_lt.mp crowded)).symm

section Steps

variable (clk : Clock) (u : AuthUser) (s : Tokens) (same : u.refreshTokens = s.items)
include same

/-- A token is added to the set, or the call throws and leaves the user alone. -/
theorem addRefreshToken_adds (t : String) (now : Date) :
    (∃ v, u.addRefreshToken t now = .done v ∧ v.refreshTokens = (s.add t).items) ∨
      ∃ e, u.addRefreshToken t now = .threw e u := by
  have add_items : (s.add t).items = RecentSet.added 5 t s.items := rfl
  rcases AuthUser.addRefreshToken_cases u now t with
    ⟨present, call⟩ | ⟨-, -, call⟩ | ⟨absent, -, call⟩
  · refine Or.inl ⟨u, call, ?_⟩
    rw [add_items, RecentSet.added, if_pos (same ▸ present), same]
  · exact Or.inr ⟨_, call⟩
  · refine Or.inl ⟨_, call, ?_⟩
    rw [add_items, RecentSet.added, if_neg (same ▸ absent), ← same]
    exact pushToken_eq t u.refreshTokens (same ▸ s.bounded)

theorem added_then (t : String) (now : Date) (next : AuthUser → AuthUser)
    (call : Outcome Error AuthUser)
    (h : call = (u.addRefreshToken t now).andThen fun v => .done (next v))
    (keeps : ∀ v, (next v).refreshTokens = v.refreshTokens) :
    call.state.refreshTokens = (s.applyAll (if call.Returns then [.add t] else [])).items := by
  rcases addRefreshToken_adds u s same t now with ⟨v, added, tokens⟩ | ⟨e, threw⟩
  · rw [added, Outcome.done_andThen] at h
    subst h
    rw [if_pos (Outcome.returns_done _), Outcome.state_done, keeps]
    exact tokens
  · rw [threw, Outcome.threw_andThen] at h
    subst h
    rw [if_neg (Outcome.not_returns_threw _ _), Outcome.state_threw, same]
    rfl

theorem recordLogin_tokens (t : String) (given : t ≠ "") :
    (u.recordLogin t clk).state.refreshTokens =
      (s.applyAll (if (u.recordLogin t clk).Returns then [.add t] else [])).items := by
  have nonempty : (t == "") = false := by simpa using given
  have call : u.recordLogin t clk =
      ({ u with lastLoginAt := some (clk.read 0) }.addRefreshToken t (clk.read 1)).andThen
        fun v => .done ((v.applyChange (clk.read 2)).addDomainEvent
          (.userLoggedIn v.id.getValue v.email.getValue (clk.read 0))) := by
    unfold AuthUser.recordLogin
    rw [nonempty]
    rfl
  exact added_then { u with lastLoginAt := some (clk.read 0) } s same t (clk.read 1) _ _ call
    fun _ => rfl

theorem recordOAuthLogin_tokens (p : AuthProviderName) (t : String) (a : Option String) :
    (u.recordOAuthLogin p t a clk).state.refreshTokens =
      (s.applyAll (if (u.recordOAuthLogin p t a clk).Returns then [.add t] else [])).items := by
  by_cases linked : u.hasProvider p = true
  · have call : u.recordOAuthLogin p t a clk = (u.addRefreshToken t (clk.read 0)).andThen
        fun v => .done (({ v with lastLoginAt := some (clk.read 1) }.applyChange
          (clk.read 2)).addDomainEvent (.userLoggedInWithOAuth v.id.getValue p v.email.getValue
            (a.filter (· != "")) v.name.getFullName)) := by
      unfold AuthUser.recordOAuthLogin
      rw [linked]
      rfl
    exact added_then _ s same t (clk.read 0) _ _ call fun _ => rfl
  · have call : u.recordOAuthLogin p t a clk = .threw (invalidProviderError
        (some ("User is not linked with " ++ p.text ++ " provider"))) u := by
      unfold AuthUser.recordOAuthLogin
      rw [Bool.eq_false_iff.mpr linked]
      rfl
    rw [call, if_neg (Outcome.not_returns_threw _ _)]
    exact same

theorem recordTokenRefresh_tokens (old new : String) :
    (u.recordTokenRefresh old new clk).state.refreshTokens =
      (s.applyAll (.remove old ::
        if (u.recordTokenRefresh old new clk).Returns then [.add new] else [])).items := by
  have removed : (u.removeRefreshToken old (clk.read 0)).refreshTokens = (s.remove old).items :=
    congrArg (List.filter (· != old)) same
  exact added_then _ (s.remove old) removed new (clk.read 1) _ _ rfl fun _ => rfl

theorem step_tokens (c : AuthCommand) (filled : ∀ t ∈ arguments c, t ≠ "") :
    (c.exec clk u).state.refreshTokens =
      (s.applyAll (asks (c.exec clk u).Returns c)).items := by
  cases c with
  | recordLogin t => exact recordLogin_tokens clk u s same t (filled t List.mem_cons_self)
  | recordOAuthLogin p t a => exact recordOAuthLogin_tokens clk u s same p t a
  | recordTokenRefresh old new => exact recordTokenRefresh_tokens clk u s same old new
  | recordLogout t =>
    cases t with
    | none => rfl
    | some t =>
      have given : t.length ≠ 0 := by simpa using filled t List.mem_cons_self
      refine (AuthCommand.exec_refreshTokens _ clk u).trans ?_
      dsimp only [AuthCommand.effect]
      rw [if_neg given]
      exact congrArg (List.filter (· != t)) same
  | changePassword p =>
    change (u.changePassword p clk).state.refreshTokens =
      (s.applyAll (if (u.changePassword p clk).Returns then [.clear] else [])).items
    unfold AuthUser.changePassword
    cases u.ensureCanChangePassword with
    | error e => exact same
    | ok _ => rfl
  | resetPassword p =>
    change (u.resetPassword p clk).state.refreshTokens =
      (s.applyAll (if (u.resetPassword p clk).Returns then [.clear] else [])).items
    unfold AuthUser.resetPassword
    cases u.ensureCanResetPassword with
    | error e => exact same
    | ok _ => rfl
  | verifyEmail | unverifyEmail | linkOAuth p | unlinkOAuth p =>
    refine (AuthCommand.exec_refreshTokens _ clk u).trans ?_
    dsimp only [AuthCommand.effect]
    split_ifs <;> exact same
  | _ => rfl

end Steps

section Runs

def Filled (as : List Step) : Prop := ∀ a ∈ as, ∀ t ∈ arguments a.1, t ≠ ""

instance (as : List Step) : Decidable (Filled as) :=
  inferInstanceAs (Decidable (∀ a ∈ as, ∀ t ∈ arguments a.1, t ≠ ""))

theorem run_tokens (u : AuthUser) (s : Tokens) (same : u.refreshTokens = s.items)
    (as : List Step) (filled : Filled as) :
    (after AuthCommand.run u as).refreshTokens = (s.applyAll (asked u as)).items := by
  induction as generalizing u s with
  | nil => exact same
  | cons a as ih =>
    have head := step_tokens a.2 u s same a.1 (filled a List.mem_cons_self)
    have tail := ih (AuthCommand.run u a) _ head fun b member =>
      filled b (List.mem_cons_of_mem a member)
    rw [after_cons, tail, asked, RecentSet.applyAll, RecentSet.applyAll, RecentSet.applyAll,
      List.foldl_append]

theorem asks_ends (returned : Prop) [Decidable returned] (h : returned) (c : AuthCommand)
    (t : String) (adds : .add t ∈ asks returned c) :
    ∃ ops, asks returned c = ops ++ [.add t] := by
  cases c with
  | recordLogin x | recordOAuthLogin p x a =>
    simp only [asks, if_pos h, List.mem_singleton] at adds ⊢
    exact ⟨[], by rw [adds]; rfl⟩
  | recordTokenRefresh old new =>
    simp only [asks, if_pos h, List.mem_cons, reduceCtorEq, List.not_mem_nil, or_false,
      false_or] at adds ⊢
    exact ⟨[.remove old], by rw [adds]; rfl⟩
  | recordLogout x => cases x <;> simp [asks] at adds
  | changePassword p | resetPassword p =>
    simp [asks, if_pos h] at adds
  | _ => simp [asks] at adds

structure Follows (u : AuthUser) (s : Tokens) (as : List Step) : Prop where
  list : (after AuthCommand.run u as).refreshTokens = (s.applyAll (asked u as)).items
  distinct : (after AuthCommand.run u as).refreshTokens.Nodup
  few : (after AuthCommand.run u as).refreshTokens.length ≤ 5
  added : ∀ a, Filled [a] → (a.1.exec a.2 (after AuthCommand.run u as)).Returns →
    ∀ t, .add t ∈ asked (after AuthCommand.run u as) [a] →
      t ∈ (after AuthCommand.run u (as ++ [a])).refreshTokens
  absent : ∀ more, Filled more → ∀ t, t ∉ (after AuthCommand.run u as).refreshTokens →
    .add t ∉ asked (after AuthCommand.run u as) more →
      t ∉ (after AuthCommand.run u (as ++ more)).refreshTokens

/-- From a list without duplicates and of at most five tokens, every run of commands keeps
the list that the operations asked for give. -/
theorem tokens_follow (u : AuthUser) (distinct : u.refreshTokens.Nodup)
    (few : u.refreshTokens.length ≤ 5) (as : List Step) (filled : Filled as) :
    Follows u ⟨u.refreshTokens, distinct, few⟩ as := by
  have list := run_tokens u ⟨u.refreshTokens, distinct, few⟩ rfl as filled
  generalize reached :
    (⟨u.refreshTokens, distinct, few⟩ : Tokens).applyAll (asked u as) = s at list
  refine
    { list := by rw [reached]; exact list
      distinct := by rw [list]; exact s.nodup
      few := by rw [list]; exact s.bounded
      added := fun a given returned t adds => ?_
      absent := fun more given t gone never => ?_ }
  · have next := run_tokens _ s list [a] given
    rw [after_append, next]
    rw [asked, asked, List.append_nil] at adds ⊢
    obtain ⟨ops, ends⟩ := asks_ends _ returned a.1 t adds
    rw [ends, RecentSet.applyAll, List.foldl_append]
    exact RecentSet.mem_add _ t (by decide)
  · rw [after_append, run_tokens _ s list more given]
    rw [list] at gone
    exact RecentSet.absent_until_added s t _ gone never

def sampleRun : List Step :=
  [(.verifyEmail, .still 1), (.recordLogin "t0", .still 2),
    (.recordTokenRefresh "t0" "t1", .still 3), (.suspend, .still 4),
    (.recordTokenRefresh "t1" "t2", .still 5)]

theorem sample_tokens_follow :
    ∃ u distinct few, AuthUser.register .sample .sample .sample ⟨"h"⟩ none (.still 0) = .ok u ∧
      Follows u ⟨u.refreshTokens, distinct, few⟩ sampleRun := by
  obtain ⟨u, registered, none⟩ : ∃ u, AuthUser.register .sample .sample .sample ⟨"h"⟩ none
      (.still 0) = .ok u ∧ u.refreshTokens = [] := ⟨_, rfl, rfl⟩
  have distinct : u.refreshTokens.Nodup := none ▸ List.nodup_nil
  have few : u.refreshTokens.length ≤ 5 := none ▸ Nat.zero_le 5
  exact ⟨u, distinct, few, registered, tokens_follow u distinct few sampleRun (by decide)⟩

end Runs

end KeramikStore.TokenList
