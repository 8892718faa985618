import KeramikStore.Library.Runs
import KeramikStore.Auth.AuthUserRepository
import KeramikStore.Auth.UseCases

/-!
# Password-reset tokens over interleaved requests

A forgotten password puts the hash of a fresh token into the token repository. A
reset reads the user of a token, then loads and saves that user, then removes its
own token; requests interleave between these steps. Nothing removes the other
tokens of the user or stops a reset that has already read one, so they are
revoked only in runs where a reset that ends is the only thing outstanding for
its user.
-/

set_option autoImplicit false

namespace KeramikStore.PasswordReset
open Library Library.Runs Library.KeyedTable

structure Services where
  hasher : PasswordHasher
  hashToken : String → String
  toLowerCase : String → String

inductive Event where
  | issued (hashedToken userId : String)
  | completed (hashedToken userId : String)
deriving DecidableEq

structure Attempt where
  hashedToken : String
  userId : String
  newPassword : String
  saved : Bool
deriving DecidableEq

structure Site where
  store : AuthStore
  /-- The token repository: hashed tokens and user ids. -/
  tokens : List (String × String)
  /-- The forgot-password requests that found a user. -/
  asked : List (ℕ × String)
  attempts : List (ℕ × Attempt)
  /-- What happened, the latest first. -/
  log : List Event

inductive Action where
  | findUser (request : ℕ) (email : String) (loading : Clock)
  | saveToken (request : ℕ) (hashedToken : String)
  | readToken (request : ℕ) (token newPassword : String)
  | saveUser (request : ℕ) (newHash : String) (audited : Bool) (loading clock : Clock)
  | invalidate (request : ℕ) (mailSent : Bool)
  | expire (hashedToken : String)

def invalidResetPasswordTokenError : Error :=
  .auth .invalidResetPasswordToken "Invalid or Expired Reset Password Token"

section Steps

variable (services : Services)

def findUser (i : ℕ) (email : String) (loading : Clock) (s : Site) : Site :=
  let found := PrismaAuthUserRepository.findByEmail services.toLowerCase email loading s.store
  match found.1 with
  | .ok (some u) =>
    { s with store := found.2
             asked := if u.canForgetPassword then put Prod.fst (i, u.id.getValue) s.asked
               else s.asked }
  | _ => { s with store := found.2 }

def saveToken (i : ℕ) (hashedToken : String) (s : Site) : Site :=
  match find Prod.fst i s.asked with
  | some request =>
    { s with tokens := put Prod.fst (hashedToken, request.2) s.tokens
             asked := erase Prod.fst i s.asked
             log := .issued hashedToken request.2 :: s.log }
  | none => s

def tokenUser (token : String) (s : Site) : Except Error (String × String) :=
  match (find Prod.fst (services.hashToken token) s.tokens).filter (·.2 != "") with
  | some entry => .ok entry
  | none => .error invalidResetPasswordTokenError

def readToken (i : ℕ) (token newPassword : String) (s : Site) : Site :=
  match find Prod.fst i s.attempts, Password.validateRaw newPassword,
    tokenUser services token s with
  | none, .ok (), .ok entry =>
    { s with attempts := put Prod.fst (i, ⟨entry.1, entry.2, newPassword, false⟩) s.attempts }
  | _, _, _ => s

def resetUser (a : Attempt) (newHash : String) (clk : Clock)
    (found : Except Error (Option AuthUser) × AuthStore) : Except Error AuthStore := do
  match ← found.1 with
  | none => .error invalidResetPasswordTokenError
  | some u =>
    let v ← UseCases.resetPassword services.hasher a.newPassword newHash clk u
    PrismaAuthUserRepository.save services.toLowerCase v found.2

def saveUser (i : ℕ) (newHash : String) (audited : Bool) (loading clk : Clock) (s : Site) : Site :=
  match (find Prod.fst i s.attempts).filter fun e => !e.2.saved with
  | none => s
  | some (_, a) =>
    let found := PrismaAuthUserRepository.findById a.userId loading s.store
    match resetUser services a newHash clk found with
    | .ok store =>
      { s with store := store
               attempts := if audited then put Prod.fst (i, { a with saved := true }) s.attempts
                 else erase Prod.fst i s.attempts }
    | .error _ => { s with store := found.2, attempts := erase Prod.fst i s.attempts }

def invalidate (i : ℕ) (mailSent : Bool) (s : Site) : Site :=
  match (find Prod.fst i s.attempts).filter (·.2.saved) with
  | none => s
  | some (_, a) =>
    { s with tokens := erase Prod.fst a.hashedToken s.tokens
             attempts := erase Prod.fst i s.attempts
             log := if mailSent then .completed a.hashedToken a.userId :: s.log else s.log }

def step (s : Site) : Action → Site
  | .findUser i email loading => findUser services i email loading s
  | .saveToken i hashedToken => saveToken i hashedToken s
  | .readToken i token newPassword => readToken services i token newPassword s
  | .saveUser i newHash audited loading clk => saveUser services i newHash audited loading clk s
  | .invalidate i mailSent => invalidate i mailSent s
  | .expire hashedToken => { s with tokens := erase Prod.fst hashedToken s.tokens }

end Steps

def start (store : AuthStore) : Site := ⟨store, [], [], [], []⟩

def Stale (token userId : String) : List Event → Prop
  | [] => False
  | .issued _ _ :: past => Stale token userId past
  | .completed _ u :: past =>
    (u = userId ∧ ∃ v, .issued token v ∈ past) ∨ Stale token userId past

def Revoked : List Event → Prop
  | [] => True
  | .issued _ _ :: past => Revoked past
  | .completed t u :: past => ¬ Stale t u past ∧ (∀ v, .completed t v ∉ past) ∧ Revoked past

def Event.issuedToken : Event → Option String
  | .issued t _ => some t
  | .completed _ _ => none

def IssuesFresh (s : Site) : Action → Prop
  | .saveToken _ t => ∀ e ∈ s.log, e.issuedToken ≠ some t
  | _ => True

instance (s : Site) (a : Action) : Decidable (IssuesFresh s a) := by
  cases a <;> unfold IssuesFresh <;> infer_instance

def RevokesAll (s : Site) : Action → Prop
  | .invalidate i mailSent => mailSent = true →
      ∀ e ∈ (find Prod.fst i s.attempts).filter (·.2.saved),
        (∀ token ∈ s.tokens, token.2 = e.2.userId → token.1 = e.2.hashedToken) ∧
        ∀ other ∈ s.attempts, other.2.userId = e.2.userId → other.1 = i
  | _ => True

instance (s : Site) (a : Action) : Decidable (RevokesAll s a) := by
  cases a <;> unfold RevokesAll <;> infer_instance

def Live (s : Site) (token userId : String) : Prop :=
  (token, userId) ∈ s.tokens ∨
    ∃ e ∈ s.attempts, e.2.hashedToken = token ∧ e.2.userId = userId

structure Outstanding (s : Site) : Prop where
  revoked : Revoked s.log
  live_issued : ∀ t u, Live s t u → .issued t u ∈ s.log
  one_owner : ∀ t u v, .issued t u ∈ s.log → .issued t v ∈ s.log → u = v
  live_valid : ∀ t u, Live s t u → ¬ Stale t u s.log
  live_unused : ∀ t u, Live s t u → ∀ v, .completed t v ∉ s.log
  used_issued : ∀ t v, .completed t v ∈ s.log → ∃ u, .issued t u ∈ s.log

theorem start_outstanding (store : AuthStore) : Outstanding (start store) where
  revoked := trivial
  live_issued t u h := by simp [Live, start] at h
  one_owner t u v h := absurd h List.not_mem_nil
  live_valid t u h := by simp [Live, start] at h
  live_unused t u h := by simp [Live, start] at h
  used_issued t v h := absurd h List.not_mem_nil

theorem stale_issued (t u : String) (log : List Event) (h : Stale t u log) :
    ∃ v, .issued t v ∈ log := by
  induction log with
  | nil => exact absurd h id
  | cons e past ih =>
    cases e with
    | issued x v =>
      obtain ⟨w, hw⟩ := ih h
      exact ⟨w, List.mem_cons_of_mem _ hw⟩
    | completed x v =>
      rcases h with ⟨-, w, hw⟩ | h
      · exact ⟨w, List.mem_cons_of_mem _ hw⟩
      · obtain ⟨w, hw⟩ := ih h
        exact ⟨w, List.mem_cons_of_mem _ hw⟩

theorem quiet_outstanding (s s' : Site) (h : Outstanding s) (hlog : s'.log = s.log)
    (live : ∀ t u, Live s' t u → Live s t u) : Outstanding s' where
  revoked := hlog ▸ h.revoked
  live_issued t u l := hlog ▸ h.live_issued t u (live t u l)
  one_owner := hlog ▸ h.one_owner
  live_valid t u l := hlog ▸ h.live_valid t u (live t u l)
  live_unused t u l := hlog ▸ h.live_unused t u (live t u l)
  used_issued := hlog ▸ h.used_issued

theorem issued_outstanding (s s' : Site) (t u : String) (h : Outstanding s)
    (hlog : s'.log = .issued t u :: s.log) (fresh : ∀ v, .issued t v ∉ s.log)
    (live : ∀ x v, Live s' x v → Live s x v ∨ x = t ∧ v = u) : Outstanding s' where
  revoked := hlog ▸ h.revoked
  live_issued x v l := by
    rw [hlog]
    rcases live x v l with old | ⟨rfl, rfl⟩
    · exact List.mem_cons_of_mem _ (h.live_issued x v old)
    · exact List.mem_cons_self
  one_owner x v w hv hw := by
    rw [hlog] at hv hw
    rcases List.mem_cons.mp hv with ev | oldv
    · obtain ⟨rfl, rfl⟩ := Event.issued.inj ev
      rcases List.mem_cons.mp hw with ew | oldw
      · exact (Event.issued.inj ew).2.symm
      · exact absurd oldw (fresh w)
    · rcases List.mem_cons.mp hw with ew | oldw
      · obtain ⟨rfl, rfl⟩ := Event.issued.inj ew
        exact absurd oldv (fresh v)
      · exact h.one_owner x v w oldv oldw
  live_valid x v l := by
    rw [hlog]
    rcases live x v l with old | ⟨rfl, rfl⟩
    · exact h.live_valid x v old
    · intro stale
      obtain ⟨w, hw⟩ := stale_issued x v s.log stale
      exact fresh w hw
  live_unused x v l w := by
    rw [hlog]
    rcases live x v l with old | ⟨rfl, rfl⟩
    · simpa using h.live_unused x v old w
    · intro used
      obtain ⟨y, hy⟩ := h.used_issued x w (by simpa using used)
      exact fresh y hy
  used_issued x v used := by
    rw [hlog] at used ⊢
    obtain ⟨w, hw⟩ := h.used_issued x v (by simpa using used)
    exact ⟨w, List.mem_cons_of_mem _ hw⟩

theorem completed_outstanding (s s' : Site) (t u : String) (h : Outstanding s)
    (hlog : s'.log = .completed t u :: s.log) (used : Live s t u)
    (live : ∀ x v, Live s' x v → Live s x v ∧ v ≠ u) : Outstanding s' where
  revoked := by
    rw [hlog]
    exact ⟨h.live_valid t u used, h.live_unused t u used, h.revoked⟩
  live_issued x v l := by
    rw [hlog]
    exact List.mem_cons_of_mem _ (h.live_issued x v (live x v l).1)
  one_owner x v w hv hw := by
    rw [hlog] at hv hw
    exact h.one_owner x v w (by simpa using hv) (by simpa using hw)
  live_valid x v l := by
    rw [hlog]
    rintro (⟨rfl, -⟩ | stale)
    · exact (live x _ l).2 rfl
    · exact h.live_valid x v (live x v l).1 stale
  live_unused x v l w hw := by
    rw [hlog] at hw
    rcases List.mem_cons.mp hw with e | hw
    · obtain ⟨rfl, rfl⟩ := Event.completed.inj e
      have same := h.one_owner x v w (h.live_issued x v (live x v l).1) (h.live_issued x w used)
      exact (live x v l).2 same
    · exact h.live_unused x v (live x v l).1 w hw
  used_issued x v hv := by
    rw [hlog] at hv ⊢
    rcases List.mem_cons.mp hv with e | hv
    · obtain ⟨rfl, rfl⟩ := Event.completed.inj e
      exact ⟨v, List.mem_cons_of_mem _ (h.live_issued x v used)⟩
    · obtain ⟨w, hw⟩ := h.used_issued x v hv
      exact ⟨w, List.mem_cons_of_mem _ hw⟩

theorem mem_put_attempt (i : ℕ) (a : Attempt) (s : Site) (e : ℕ × Attempt)
    (h : e ∈ put Prod.fst (i, a) s.attempts) : e = (i, a) ∨ e ∈ s.attempts :=
  ((mem_put _ _ _ _).mp h).imp_right And.left

theorem findUser_tokens (services : Services) (i : ℕ) (email : String) (loading : Clock)
    (s : Site) :
    (findUser services i email loading s).tokens = s.tokens ∧
      (findUser services i email loading s).attempts = s.attempts ∧
      (findUser services i email loading s).log = s.log := by
  unfold findUser
  dsimp only
  split <;> exact ⟨rfl, rfl, rfl⟩

theorem saveToken_outstanding (i : ℕ) (t : String) (s : Site) (h : Outstanding s)
    (fresh : ∀ e ∈ s.log, e.issuedToken ≠ some t) : Outstanding (saveToken i t s) := by
  unfold saveToken
  cases hf : find Prod.fst i s.asked with
  | none => exact h
  | some request =>
    apply issued_outstanding s _ t request.2 h rfl (fun v hv => fresh _ hv rfl)
    intro x v l
    rcases l with stored | reading
    · rcases (mem_put _ _ _ _).mp stored with e | ⟨old, -⟩
      · exact Or.inr (Prod.mk.inj e)
      · exact Or.inl (Or.inl old)
    · exact Or.inl (Or.inr reading)

theorem readToken_outstanding (services : Services) (i : ℕ) (token newPassword : String) (s : Site)
    (h : Outstanding s) : Outstanding (readToken services i token newPassword s) := by
  unfold readToken
  split
  · rename_i entry _ _ ht
    refine quiet_outstanding s _ h rfl fun x v l => ?_
    have stored : entry ∈ s.tokens := by
      unfold tokenUser at ht
      split at ht
      · rename_i found hf
        obtain rfl := Except.ok.inj ht
        exact (find_some _ _ _ _ (Option.filter_eq_some_iff.mp hf).1).1
      · cases ht
    rcases l with l | ⟨e, he, rfl, rfl⟩
    · exact Or.inl l
    · rcases mem_put_attempt i _ s e he with rfl | old
      · exact Or.inl stored
      · exact Or.inr ⟨e, old, rfl, rfl⟩
  · exact h

theorem saveUser_outstanding (services : Services) (i : ℕ) (newHash : String) (audited : Bool)
    (loading clk : Clock) (s : Site) (h : Outstanding s) :
    Outstanding (saveUser services i newHash audited loading clk s) := by
  have forgets : ∀ x v, (∃ e ∈ erase Prod.fst i s.attempts, e.2.hashedToken = x ∧ e.2.userId = v) →
      ∃ e ∈ s.attempts, e.2.hashedToken = x ∧ e.2.userId = v := by
    rintro x v ⟨e, he, hx⟩
    exact ⟨e, ((mem_erase _ _ _ _).mp he).1, hx⟩
  unfold saveUser
  split
  · exact h
  · rename_i j a hf
    have known := (find_some _ _ _ _ (Option.filter_eq_some_iff.mp hf).1).1
    dsimp only
    split
    · refine quiet_outstanding s _ h rfl fun x v l => l.imp_right ?_
      cases audited with
      | false => exact forgets x v
      | true =>
        rintro ⟨e, he, hx⟩
        rcases mem_put_attempt i _ s e he with rfl | old
        · exact ⟨_, known, hx⟩
        · exact ⟨e, old, hx⟩
    · exact quiet_outstanding s _ h rfl fun x v l => l.imp_right (forgets x v)

theorem invalidate_outstanding (i : ℕ) (mailSent : Bool) (s : Site) (h : Outstanding s)
    (alone : RevokesAll s (.invalidate i mailSent)) : Outstanding (invalidate i mailSent s) := by
  unfold RevokesAll at alone
  unfold invalidate
  cases hf : (find Prod.fst i s.attempts).filter (·.2.saved) with
  | none => exact h
  | some e =>
    obtain ⟨j, a⟩ := e
    have known := (find_some _ _ _ _ (Option.filter_eq_some_iff.mp hf).1).1
    have forgets : ∀ x v, (x, v) ∈ erase Prod.fst a.hashedToken s.tokens ∨
        (∃ e ∈ erase Prod.fst i s.attempts, e.2.hashedToken = x ∧ e.2.userId = v) → Live s x v := by
      rintro x v (stored | ⟨e, he, hx⟩)
      · exact Or.inl ((mem_erase _ _ _ _).mp stored).1
      · exact Or.inr ⟨e, ((mem_erase _ _ _ _).mp he).1, hx⟩
    cases mailSent with
    | false => exact quiet_outstanding s _ h rfl forgets
    | true =>
      obtain ⟨tokens, attempts⟩ := alone rfl _ (Option.mem_def.mpr hf)
      refine completed_outstanding s _ a.hashedToken a.userId h rfl
        (Or.inr ⟨_, known, rfl, rfl⟩) fun x v l => ⟨forgets x v l, ?_⟩
      rintro rfl
      rcases l with stored | ⟨e, he, -, hu⟩
      · obtain ⟨mem, other⟩ := (mem_erase _ _ _ _).mp stored
        exact other (tokens _ mem rfl)
      · obtain ⟨mem, other⟩ := (mem_erase _ _ _ _).mp he
        exact other (attempts e mem hu)

/-- One step that issues a fresh token, or completes with nothing else outstanding
for its user, keeps the outstanding tokens valid. -/
theorem step_outstanding (services : Services) (s : Site) (a : Action) (h : Outstanding s)
    (ha : IssuesFresh s a ∧ RevokesAll s a) : Outstanding (step services s a) := by
  obtain ⟨fresh, alone⟩ := ha
  cases a with
  | findUser i email loading =>
    obtain ⟨ht, hat, hl⟩ := findUser_tokens services i email loading s
    apply quiet_outstanding s _ h hl
    intro x v l
    unfold Live at *
    rwa [← ht, ← hat]
  | saveToken i t => exact saveToken_outstanding i t s h fresh
  | readToken i token newPassword => exact readToken_outstanding services i token newPassword s h
  | saveUser i newHash audited loading clk =>
    exact saveUser_outstanding services i newHash audited loading clk s h
  | invalidate i mailSent => exact invalidate_outstanding i mailSent s h alone
  | expire t =>
    exact quiet_outstanding s _ h rfl fun x v l =>
      l.imp_left fun stored => ((mem_erase _ _ _ _).mp stored).1

/-- In a run whose tokens are fresh and where every reset that completes is the
only thing outstanding for its user, a completed reset revokes every token issued
to the user before it, and no token is used twice. -/
theorem completed_reset_revokes (services : Services) (store : AuthStore) (as : List Action)
    (fresh : Along (step services) IssuesFresh (start store) as)
    (alone : Along (step services) RevokesAll (start store) as) :
    Throughout (step services) (fun s => Revoked s.log) (start store) as :=
  throughout_mono _ _ _ (fun _ h => h.revoked) _ _ <|
    throughout_of_step _ _ _ (step_outstanding services) _ as (start_outstanding store)
      ((along_and _ _ _ _ _).mpr ⟨fresh, alone⟩)

def sampleServices : Services where
  hasher := ⟨fun raw hash => raw == "Rahasia1!" && hash == "h"⟩
  hashToken token := "#" ++ token
  toLowerCase text := String.ofList (text.toList.map Char.toLower)

def sampleStore : AuthStore := ⟨⟨[UserRow.sample], UserRow.sample_unique⟩, []⟩

theorem single_reset_revokes :
    Throughout (step sampleServices) (fun s => Revoked s.log) (start sampleStore)
      [.findUser 0 "john.doe@example.com" (.still 10), .saveToken 0 "#a",
        .readToken 0 "a" "Rahasia2!", .saveUser 0 "h2" true (.still 11) (.still 12),
        .invalidate 0 true] :=
  completed_reset_revokes sampleServices sampleStore _ (by decide) (by decide)

def twoTokens : List Action := [
  .findUser 0 "john.doe@example.com" (.still 10), .saveToken 0 "#a",
  .findUser 1 "john.doe@example.com" (.still 11), .saveToken 1 "#b",
  .readToken 0 "a" "Rahasia2!", .saveUser 0 "h2" true (.still 12) (.still 13), .invalidate 0 true,
  .readToken 1 "b" "Rahasia3!", .saveUser 1 "h3" true (.still 14) (.still 15), .invalidate 1 true]

/-- A token survives the reset with the other one. -/
theorem older_token_survives_reset :
    Along (step sampleServices) IssuesFresh (start sampleStore) twoTokens ∧
      (after (step sampleServices) (start sampleStore) twoTokens).log =
        [.completed "#b" UserId.sample.value, .completed "#a" UserId.sample.value,
          .issued "#b" UserId.sample.value, .issued "#a" UserId.sample.value] ∧
      ¬ Throughout (step sampleServices) (fun s => Revoked s.log) (start sampleStore)
        twoTokens := by
  have log : (after (step sampleServices) (start sampleStore) twoTokens).log =
      [.completed "#b" UserId.sample.value, .completed "#a" UserId.sample.value,
        .issued "#b" UserId.sample.value, .issued "#a" UserId.sample.value] := by decide
  refine ⟨by decide, log, fun h => ?_⟩
  have revoked : Revoked (after (step sampleServices) (start sampleStore) twoTokens).log :=
    throughout_end (step sampleServices) (fun s => Revoked s.log) (start sampleStore) twoTokens h
  rw [log] at revoked
  exact revoked.1 (Or.inl ⟨rfl, UserId.sample.value, by decide⟩)

end KeramikStore.PasswordReset
