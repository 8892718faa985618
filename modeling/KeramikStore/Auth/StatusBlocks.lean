import KeramikStore.Library.Runs
import KeramikStore.Auth.CommandEffects

/-!
# Whether a suspension or a deletion sticks

Four commands set the status on purpose. Two others write it on the side, the
verification of the e-mail and its withdrawal, and their guards look at the
verification only. A block survives a run of the other commands exactly when
neither of these two passes its guard while the user is blocked.
-/

set_option autoImplicit false

namespace KeramikStore
open Library Library.Runs

namespace AuthCommand

def isStatusCommand : AuthCommand → Bool
  | activate | deactivate | suspend | softDelete => true
  | _ => false

def Blocked (s : Status) : Prop := s = .suspended ∨ s = .deleted

instance (s : Status) : Decidable (Blocked s) :=
  inferInstanceAs (Decidable (s = .suspended ∨ s = .deleted))

def Guarded (u : AuthUser) (a : AuthCommand × Clock) : Prop :=
  Blocked u.status → (a.1 = verifyEmail → u.canVerifyEmail = false) ∧
    (a.1 = unverifyEmail → u.emailVerified = false)

instance (u : AuthUser) (a : AuthCommand × Clock) : Decidable (Guarded u a) :=
  inferInstanceAs (Decidable (Blocked u.status → _ ∧ _))

def run (u : AuthUser) (a : AuthCommand × Clock) : AuthUser := (a.1.exec a.2 u).state

theorem run_status (u : AuthUser) (a : AuthCommand × Clock) :
    (run u a).status = (a.1.effect a.2 u).status := by
  obtain ⟨-, d, hp, -⟩ := exec_leaves a.1 a.2 u
  change (a.1.exec a.2 u).state.toAuthUserProps.status = _
  rw [hp]

theorem suspend_blocks (u : AuthUser) (clk : Clock) : (run u (.suspend, clk)).status = .suspended :=
  rfl

theorem softDelete_blocks (u : AuthUser) (clk : Clock) :
    (run u (.softDelete, clk)).status = .deleted := rfl

/-- On a blocked user a command that does not set the status on purpose keeps it
exactly when it is guarded. -/
theorem step_status_iff (u : AuthUser) (a : AuthCommand × Clock) (hb : Blocked u.status)
    (ha : a.1.isStatusCommand = false) : (run u a).status = u.status ↔ Guarded u a := by
  obtain ⟨c, clk⟩ := a
  have hact : Status.active ≠ u.status := by
    rcases hb with h | h <;> simp [h]
  have hina : Status.inactive ≠ u.status := by
    rcases hb with h | h <;> simp [h]
  rw [run_status, Guarded, imp_iff_right hb]
  cases c with
  | verifyEmail => by_cases h : u.canVerifyEmail = true <;> simp [effect, h, hact]
  | unverifyEmail => by_cases h : u.emailVerified = true <;> simp [effect, h, hina]
  | recordLogout t => cases t <;> simp [effect]
  | activate | deactivate | suspend | softDelete => simp [isStatusCommand] at ha
  | _ =>
    simp only [effect]
    (try split_ifs) <;> simp

theorem run_status_kept (u : AuthUser) (as : List (AuthCommand × Clock)) (hb : Blocked u.status)
    (ha : ∀ a ∈ as, a.1.isStatusCommand = false) (hg : Along run Guarded u as) :
    (after run u as).status = u.status := by
  induction as generalizing u with
  | nil => rfl
  | cons a as ih =>
    have hs := (step_status_iff u a hb (ha a (by simp))).mpr hg.1
    rw [after_cons, ih (run u a) (hs ▸ hb) (fun b h => ha b (by simp [h])) hg.2, hs]

theorem blocked_cannot_login (u : AuthUser) (hb : Blocked u.status) : u.canLogin = false := by
  rcases hb with h | h <;> simp [AuthUser.canLogin, Status.isActive, h]

structure BlocksStick (u : AuthUser) (as : List (AuthCommand × Clock)) : Prop where
  suspended : ∀ before clk mid rest, as = before ++ (.suspend, clk) :: mid ++ rest →
    (∀ a ∈ mid, a.1.isStatusCommand = false) →
    (after run u (before ++ (.suspend, clk) :: mid)).status = .suspended
  deleted : ∀ before clk mid rest, as = before ++ (.softDelete, clk) :: mid ++ rest →
    (∀ a ∈ mid, a.1.isStatusCommand = false) →
    (after run u (before ++ (.softDelete, clk) :: mid)).status = .deleted
  blocked : ∀ before mid rest, as = before ++ mid ++ rest →
    (∀ a ∈ mid, a.1.isStatusCommand = false) → Blocked (after run u before).status →
    (after run u (before ++ mid)).status = (after run u before).status ∧
      (after run u (before ++ mid)).canLogin = false

theorem segment_kept (u : AuthUser) (before mid rest : List (AuthCommand × Clock))
    (hg : Along run Guarded u (before ++ mid ++ rest))
    (hm : ∀ a ∈ mid, a.1.isStatusCommand = false) (hb : Blocked (after run u before).status) :
    (after run u (before ++ mid)).status = (after run u before).status := by
  rw [after_append]
  have hbefore := ((along_append run Guarded u (before ++ mid) rest).mp hg).1
  have hmid := (along_append run Guarded u before mid).mp hbefore
  exact run_status_kept _ mid hb hm hmid.2

theorem segment_after (u : AuthUser) (before mid rest : List (AuthCommand × Clock))
    (a : AuthCommand × Clock) (hg : Along run Guarded u (before ++ a :: mid ++ rest))
    (hm : ∀ b ∈ mid, b.1.isStatusCommand = false)
    (hb : Blocked (run (after run u before) a).status) :
    (after run u (before ++ a :: mid)).status = (run (after run u before) a).status := by
  have split : before ++ a :: mid = (before ++ [a]) ++ mid := by simp
  have reached : after run u (before ++ [a]) = run (after run u before) a := by
    simp [after_append]
  rw [split, ← reached]
  rw [split] at hg
  exact segment_kept u (before ++ [a]) mid rest hg hm (reached ▸ hb)

/-- A block sticks throughout a run exactly when no e-mail step of the run passes
its guard on a blocked user. -/
theorem blocksStick_iff (u : AuthUser) (as : List (AuthCommand × Clock)) :
    BlocksStick u as ↔ Along run Guarded u as := by
  constructor
  · intro h
    apply (along_iff run Guarded u as).mpr
    intro bs a cs e hb
    by_cases ha : a.1.isStatusCommand = true
    · constructor <;> intro hc <;> rw [hc] at ha <;> cases ha
    · have hone : ∀ b ∈ [a], b.1.isStatusCommand = false := by simpa using ha
      have hs := (h.blocked bs [a] cs (by simp [e]) hone hb).1
      rw [after_append] at hs
      exact (step_status_iff _ a hb (by simpa using ha)).mp hs hb
  · intro hg
    refine ⟨fun before clk mid rest e hm => ?_, fun before clk mid rest e hm => ?_,
      fun before mid rest e hm hb => ?_⟩
    · exact segment_after u before mid rest _ (e ▸ hg) hm (Or.inl (suspend_blocks _ clk))
    · exact segment_after u before mid rest _ (e ▸ hg) hm (Or.inr (softDelete_blocks _ clk))
    · have hs := segment_kept u before mid rest (e ▸ hg) hm hb
      exact ⟨hs, blocked_cannot_login _ (hs ▸ hb)⟩

/-- A customer suspended before verifying the e-mail follows the link of the
mail and is active again. -/
theorem suspended_user_verifies_himself_active :
    ∃ u, AuthUser.register .sample .sample .sample ⟨"h"⟩ none (.still 0) = .ok u ∧
      (after run u [(.suspend, .still 1)]).status = .suspended ∧
      (after run u [(.suspend, .still 1), (.verifyEmail, .still 2)]).status = .active ∧
      (after run u [(.suspend, .still 1), (.verifyEmail, .still 2)]).canLogin = true ∧
      ¬ BlocksStick u [(.suspend, .still 1), (.verifyEmail, .still 2)] := by
  refine ⟨_, rfl, rfl, rfl, rfl, fun h => ?_⟩
  exact absurd (h.suspended [] (.still 1) [(.verifyEmail, .still 2)] [] rfl (by decide)) (by decide)

end AuthCommand

end KeramikStore
