import KeramikStore.Auth.TokenList
import KeramikStore.Auth.UseCases

/-!
# When a refresh token looks stolen

A presented token that is not among the user's is taken for a stolen one, and all tokens
are revoked. A token leaves the list where it is exchanged or given up, and also where
five newer ones have pushed it out.
-/

set_option autoImplicit false

namespace KeramikStore.TheftAlarm
open Library Library.Runs TokenList

inductive Request where
  | loginWithEmail (password newToken : String)
  | googleAuthCallback (providerId newToken : String) (avatarUrl : Option String)
  | refreshToken (presented newToken : String) (checking : Reading)
  | logout (token : String)

structure Step where
  request : Request
  how : Reading

structure Session where
  row : RawAuthUser
  issued : List String
  exchanged : List String
  givenUp : List String
  pushedOut : List String
deriving DecidableEq

def start (row : RawAuthUser) : Session := ⟨row, row.refreshTokens, [], [], []⟩

namespace Request

def useCase (hasher : PasswordHasher) :
    Request → Clock → AuthUser → Except Error AuthUser
  | loginWithEmail password t => UseCases.loginWithEmail hasher password t
  | googleAuthCallback providerId t avatarUrl =>
    UseCases.googleAuthCallback providerId t avatarUrl
  | refreshToken presented t _ => UseCases.refreshToken presented t
  | logout t => UseCases.logout t

def precheck (raw : RawAuthUser) : Request → Except Error Unit
  | refreshToken presented _ checking => do
    let u ← PrismaAuthUserMapper.toDomain checking.origin checking.loading raw
    let _ ← (UseCases.validateRefreshToken "REFRESH_TOKEN" presented checking.clock (some u)).1
  | _ => pure ()

def refused (raw : RawAuthUser) : Request → RawAuthUser
  | refreshToken presented _ checking =>
    match PrismaAuthUserMapper.toDomain checking.origin checking.loading raw with
    | .error _ => raw
    | .ok u =>
      ((UseCases.validateRefreshToken "REFRESH_TOKEN" presented checking.clock (some u)).2.map
        PrismaAuthUserMapper.toPersistence).getD raw
  | _ => raw

def arguments : Request → List String
  | loginWithEmail _ t | googleAuthCallback _ t _ | logout t => [t]
  | refreshToken presented t _ => [presented, t]

def asks : Request → List (RecentSet.Op String)
  | loginWithEmail _ t | googleAuthCallback _ t _ => [.add t]
  | refreshToken presented t _ => [.remove presented, .add t]
  | logout t => [.remove t]

def issues : Request → List String
  | loginWithEmail _ t | googleAuthCallback _ t _ | refreshToken _ t _ => [t]
  | logout _ => []

def exchanges : Request → List String
  | refreshToken presented _ _ => [presented]
  | _ => []

def givesUp : Request → List String
  | logout t => [t]
  | _ => []

def pushesOut (tokens : List String) : Request → List String
  | loginWithEmail _ t | googleAuthCallback _ t _ => RecentSet.leaving 5 t tokens
  | _ => []

end Request

section Steps

variable (hasher : PasswordHasher)

def exec (raw : RawAuthUser) (a : Step) : Except Error RawAuthUser := do
  a.request.precheck raw
  UseCases.onRow a.how.origin a.how.loading (a.request.useCase hasher a.how.clock) raw

def step (s : Session) (a : Step) : Session :=
  match exec hasher s.row a with
  | .error _ => { s with row := a.request.refused s.row }
  | .ok row =>
    { row := row
      issued := s.issued ++ a.request.issues
      exchanged := s.exchanged ++ a.request.exchanges
      givenUp := s.givenUp ++ a.request.givesUp
      pushedOut := s.pushedOut ++ a.request.pushesOut s.row.refreshTokens }

def Succeeds (s : Session) (a : Step) : Prop := (exec hasher s.row a).toOption.isSome = true

instance (s : Session) (a : Step) : Decidable (Succeeds hasher s a) :=
  inferInstanceAs (Decidable (_ = true))

def Alarms (how : Reading) (token : String) (raw : RawAuthUser) : Prop :=
  ∃ u, PrismaAuthUserMapper.toDomain how.origin how.loading raw = .ok u ∧
    (UseCases.validateRefreshToken "REFRESH_TOKEN" token how.clock (some u)).2 =
      some (u.revokeAllRefreshTokens how.clock).state

variable (clk : Clock) (u v : AuthUser) (s : Tokens) (same : u.refreshTokens = s.items)

theorem validate_ok (token : String) (owner : UseCases.RefreshTokenOwner)
    (h : (UseCases.validateRefreshToken "REFRESH_TOKEN" token clk (some u)).1 = .ok owner) :
    token ∈ u.refreshTokens := by
  unfold UseCases.validateRefreshToken at h
  cases checks : u.ensureCanRefreshToken with
  | error e =>
    simp [checks] at h
  | ok _ =>
    by_cases held : u.hasRefreshToken token = true
    · exact List.contains_iff_mem.mp held
    · simp [checks, held] at h

theorem not_held_of_alarm (token : String)
    (h : (UseCases.validateRefreshToken "REFRESH_TOKEN" token clk (some u)).2 =
      some (u.revokeAllRefreshTokens clk).state) : token ∉ u.refreshTokens := by
  intro held
  have found : u.hasRefreshToken token = true := List.contains_iff_mem.mpr held
  unfold UseCases.validateRefreshToken at h
  cases checks : u.ensureCanRefreshToken with
  | error e => simp [checks] at h
  | ok _ => simp [checks, found] at h

include same

theorem adding_tokens (c : AuthCommand) (t : String)
    (asks_add : asks (c.exec clk u).Returns c = if (c.exec clk u).Returns then [.add t] else [])
    (filled : ∀ t ∈ TokenList.arguments c, t ≠ "") (h : (c.exec clk u).toExcept = .ok v) :
    v.refreshTokens = (s.add t).items := by
  obtain ⟨returns, rfl⟩ := (Outcome.toExcept_ok_iff _ _).mp h
  rw [step_tokens clk u s same c filled, asks_add, if_pos returns]
  rfl

theorem useCase_tokens (r : Request) (h : r.useCase hasher clk u = .ok v)
    (filled : ∀ t ∈ r.arguments, t ≠ "") : v.refreshTokens = (s.applyAll r.asks).items := by
  cases r with
  | loginWithEmail password t =>
    have login : UseCases.loginWithEmail hasher password t clk u = .ok v := h
    simp only [UseCases.loginWithEmail, bind_ok_iff] at login
    obtain ⟨_, -, _, -, _, -, recorded⟩ := login
    exact adding_tokens clk u v s same (.recordLogin t) t rfl filled recorded
  | googleAuthCallback providerId t avatarUrl =>
    have login : UseCases.googleAuthCallback providerId t avatarUrl clk u = .ok v := h
    simp only [UseCases.googleAuthCallback, bind_ok_iff] at login
    obtain ⟨w, linked, recorded⟩ := login
    have kept : w.refreshTokens = s.items := by
      unfold UseCases.linkGoogle at linked
      split_ifs at linked
      · obtain rfl := Except.ok.inj linked
        exact same
      · obtain ⟨-, rfl⟩ := (Outcome.toExcept_ok_iff _ _).mp linked
        exact step_tokens (clk.skip 1) u s same (.linkOAuth _) fun _ none =>
          absurd none List.not_mem_nil
    exact adding_tokens (clk.skip 2) w v s kept (.recordOAuthLogin .google t avatarUrl) t rfl filled
      recorded
  | refreshToken presented t checking =>
    obtain ⟨returns, rfl⟩ := (Outcome.toExcept_ok_iff _ _).mp h
    have tokens := recordTokenRefresh_tokens clk u s same presented t
    rw [if_pos returns] at tokens
    exact tokens
  | logout t =>
    have out : (u.recordLogout (some t) clk).toExcept = .ok v := h
    obtain ⟨-, rfl⟩ := (Outcome.toExcept_ok_iff _ _).mp out
    exact step_tokens clk u s same (.recordLogout (some t)) filled

omit same

theorem exec_ok (raw row : RawAuthUser) (a : Step) (h : exec hasher raw a = .ok row)
    (same : raw.refreshTokens = s.items) (filled : ∀ t ∈ a.request.arguments, t ≠ "") :
    row.refreshTokens = (s.applyAll a.request.asks).items ∧
      ∀ t ∈ a.request.exchanges, t ∈ s.items := by
  obtain ⟨_, admitted, saved⟩ := (bind_ok_iff _ _ _).mp h
  obtain ⟨u, v, loaded, done, rfl⟩ := (UseCases.onRow_ok_iff _ _ _ _ _).mp saved
  have held : u.refreshTokens = s.items :=
    (UseCases.loaded_tokens u _ _ raw loaded).trans same
  refine ⟨useCase_tokens hasher a.how.clock u v s held a.request done filled, fun t exchanged => ?_⟩
  cases request : a.request with
  | refreshToken presented new checking =>
    rw [request] at admitted exchanged
    obtain ⟨w, read, validated⟩ := (bind_ok_iff _ _ _).mp admitted
    obtain ⟨owner, valid, -⟩ := (bind_ok_iff _ _ _).mp validated
    obtain rfl := List.mem_singleton.mp exchanged
    rw [← same, ← UseCases.loaded_tokens w _ _ raw read]
    exact validate_ok checking.clock w t owner valid
  | _ =>
    rw [request] at exchanged
    exact absurd exchanged List.not_mem_nil

end Steps

section Ways

variable (s : Tokens) (r : Request) (t : String)

theorem removed_short (h : t ∈ s.items) : (s.remove t).items.length < 5 := by
  have shorter : (s.items.filter (· != t)).length < s.items.length :=
    List.length_filter_lt_length_iff_exists.mpr ⟨t, h, by simp⟩
  exact shorter.trans_le s.bounded

/-- A token leaves the list only where it is exchanged, given up or pushed out. -/
theorem leaves_by (held : ∀ p ∈ r.exchanges, p ∈ s.items) (h : t ∈ s.items) :
    t ∈ (s.applyAll r.asks).items ∨ t ∈ r.exchanges ∨ t ∈ r.givesUp ∨ t ∈ r.pushesOut s.items := by
  cases r with
  | loginWithEmail password x | googleAuthCallback providerId x avatarUrl =>
    exact (s.mem_add_or_leaving x t h).imp_right fun left => Or.inr (Or.inr left)
  | refreshToken presented x checking =>
    by_cases same : t = presented
    · exact Or.inr (Or.inl (List.mem_singleton.mpr same))
    · have kept : t ∈ (s.remove presented).items := List.mem_filter.mpr ⟨h, by simpa using same⟩
      have room := removed_short s presented (held presented (List.mem_singleton.mpr rfl))
      rcases (s.remove presented).mem_add_or_leaving x t kept with still | left
      · exact Or.inl still
      · rw [RecentSet.leaving, if_pos (Or.inr room)] at left
        exact absurd left List.not_mem_nil
  | logout x =>
    by_cases same : t = x
    · exact Or.inr (Or.inr (Or.inl (List.mem_singleton.mpr same)))
    · exact Or.inl (List.mem_filter.mpr ⟨h, by simpa using same⟩)

theorem issued_held (h : t ∈ r.issues) : t ∈ (s.applyAll r.asks).items := by
  cases r with
  | loginWithEmail password x | googleAuthCallback providerId x avatarUrl =>
    obtain rfl := List.mem_singleton.mp h
    exact s.mem_add t (by decide)
  | refreshToken presented x checking =>
    obtain rfl := List.mem_singleton.mp h
    exact (s.remove presented).mem_add t (by decide)
  | logout x => exact absurd h List.not_mem_nil

end Ways

section Runs

variable (hasher : PasswordHasher)

structure Accounted (s : Session) : Prop where
  distinct : s.row.refreshTokens.Nodup
  few : s.row.refreshTokens.length ≤ 5
  gone : ∀ t ∈ s.issued, t ∈ s.row.refreshTokens ∨ t ∈ s.exchanged ∨ t ∈ s.givenUp ∨
    t ∈ s.pushedOut

theorem step_accounted (s : Session) (a : Step) (h : Accounted s)
    (admitted : Succeeds hasher s a ∧ ∀ t ∈ a.request.arguments, t ≠ "") :
    Accounted (step hasher s a) := by
  obtain ⟨succeeds, filled⟩ := admitted
  unfold Succeeds at succeeds
  unfold step
  cases result : exec hasher s.row a with
  | error e =>
    rw [result] at succeeds
    exact nomatch succeeds
  | ok row =>
    have before : s.row.refreshTokens =
        (⟨s.row.refreshTokens, h.distinct, h.few⟩ : Tokens).items := rfl
    obtain ⟨tokens, held⟩ := exec_ok hasher _ s.row row a result before filled
    generalize (⟨s.row.refreshTokens, h.distinct, h.few⟩ : Tokens) = list at before tokens held
    refine ⟨tokens ▸ (list.applyAll _).nodup, tokens ▸ (list.applyAll _).bounded, ?_⟩
    intro t issued
    dsimp only at issued ⊢
    simp only [List.mem_append, tokens, before] at issued ⊢
    rcases issued with old | new
    · rcases h.gone t old with there | left
      · rw [before] at there
        have ways := leaves_by list a.request t held there
        tauto
      · tauto
    · exact Or.inl (issued_held list a.request t new)

/-- In every run of successful logins, refreshes and logouts, a token that was issued raises
the alarm only when it was exchanged, given up, or pushed out by a later login. -/
theorem alarm_has_cause (raw : RawAuthUser) (distinct : raw.refreshTokens.Nodup)
    (few : raw.refreshTokens.length ≤ 5) (run : List Step)
    (filled : ∀ a ∈ run, ∀ t ∈ a.request.arguments, t ≠ "")
    (succeeds : Along (step hasher) (Succeeds hasher) (start raw) run) (how : Reading)
    (token : String) (issued : token ∈ (after (step hasher) (start raw) run).issued)
    (alarm : Alarms how token (after (step hasher) (start raw) run).row) :
    token ∈ (after (step hasher) (start raw) run).exchanged ∨
      token ∈ (after (step hasher) (start raw) run).givenUp ∨
      token ∈ (after (step hasher) (start raw) run).pushedOut := by
  have accounted : Accounted (start raw) := ⟨distinct, few, fun _ h => Or.inl h⟩
  have throughout := throughout_of_step (step hasher) Accounted _ (step_accounted hasher)
    (start raw) run accounted
    ((along_and _ _ _ _ run).mpr ⟨succeeds, along_of_mem _ _ _ run filled⟩)
  obtain ⟨u, loaded, revoked⟩ := alarm
  have absent := not_held_of_alarm how.clock u token revoked
  rw [UseCases.loaded_tokens u _ _ _ loaded] at absent
  exact ((throughout_end _ _ _ _ throughout).gone token issued).resolve_left absent

def anyPassword : PasswordHasher := ⟨fun _ _ => true⟩

def login (token : String) (now : Date) : Step :=
  ⟨.loginWithEmail "Rahasia1!" token, ⟨.database, .still now, .still now⟩⟩

def sixDevices : List Step :=
  [login "t1" 3, login "t2" 4, login "t3" 5, login "t4" 6, login "t5" 7]

def loggedIn : Session where
  row := { RawAuthUser.sample with
    refreshTokens := ["t1", "t2", "t3", "t4", "t5"], lastLoginAt := some 7, updatedAt := 7 }
  issued := ["t0", "t1", "t2", "t3", "t4", "t5"]
  exchanged := []
  givenUp := []
  pushedOut := ["t0"]

theorem after_sixDevices : after (step anyPassword) (start .sample) sixDevices = loggedIn := by
  decide +kernel

theorem sixDevices_succeed :
    Along (step anyPassword) (Succeeds anyPassword) (start .sample) sixDevices := by decide

theorem loggedIn_alarms : Alarms ⟨.database, .still 8, .still 8⟩ "t0" loggedIn.row :=
  ⟨_, rfl, rfl⟩

/-- The token of the first of six devices was neither exchanged nor given up, and yet it
revokes the tokens of them all. -/
theorem sixth_device_alarms :
    Along (step anyPassword) (Succeeds anyPassword) (start .sample) sixDevices ∧
      after (step anyPassword) (start .sample) sixDevices = loggedIn ∧
      loggedIn.issued.Nodup ∧ "t0" ∈ loggedIn.issued ∧
      Alarms ⟨.database, .still 8, .still 8⟩ "t0" loggedIn.row ∧
      "t0" ∉ loggedIn.exchanged ∧ "t0" ∉ loggedIn.givenUp := by
  exact ⟨sixDevices_succeed, after_sixDevices, by decide, by decide, loggedIn_alarms, by decide,
    by decide⟩

theorem sixth_device_has_cause :
    "t0" ∈ loggedIn.exchanged ∨ "t0" ∈ loggedIn.givenUp ∨ "t0" ∈ loggedIn.pushedOut := by
  rw [← after_sixDevices]
  refine alarm_has_cause anyPassword .sample (by decide) (by decide) sixDevices (by decide)
    sixDevices_succeed ⟨.database, .still 8, .still 8⟩ "t0" ?_ ?_
  · rw [after_sixDevices]
    decide
  · rw [after_sixDevices]
    exact loggedIn_alarms

end Runs

end KeramikStore.TheftAlarm
