import KeramikStore.Library.Runs
import KeramikStore.Auth.GoogleSignIn

/-!
# Access tokens and the accounts behind them

A token is accepted if it is not blacklisted, has the right type and its user
exists; the status and the verification of the user are not looked at. So an
accepted token belongs to an active, verified account only as long as no account
with a live token is moved out of that state and no token is issued to another
account.
-/

set_option autoImplicit false

namespace KeramikStore.AccessTokens
open Library Library.Runs Library.KeyedTable

structure AccessTokenPayload where
  sub : String
  jti : String
  email : String
  role : Role
  type : String
deriving DecidableEq

def accessTokenType : String := "ACCESS_TOKEN"

def generate (u : AuthUser) (jti : String) : AccessTokenPayload :=
  ⟨u.id.getValue, jti, u.email.getValue, u.role, accessTokenType⟩

structure RequestedUser where
  id : String
  fullName : String
  email : String
  role : PrismaRole
  refreshTokens : List String
deriving DecidableEq

def requestedColumns (row : UserRow) : RequestedUser :=
  ⟨row.id, row.fullName, row.email, row.role, row.refreshTokens⟩

structure Site where
  users : UsersTable
  requested : List (String × RequestedUser)
  blacklisted : List String
  issued : List AccessTokenPayload

structure RequestUser where
  id : String
  email : String
  role : Role
  fullName : String
deriving DecidableEq

def accessTokenInvalidError (message : String) : Error := .auth .accessTokenInvalid message

def getRequestedUserById (userId : String) (s : Site) : Option RequestedUser × Site :=
  match find Prod.fst userId s.requested with
  | some entry => (some entry.2, s)
  | none =>
    match s.users.findById userId with
    | some row => (some (requestedColumns row),
        { s with requested := put Prod.fst (userId, requestedColumns row) s.requested })
    | none => (none, s)

def validateAccessToken (payload : AccessTokenPayload) (s : Site) :
    Except Error RequestUser × Site :=
  if s.blacklisted.contains payload.jti then
    (.error (accessTokenInvalidError "Access token has been revoked."), s)
  else if payload.type != accessTokenType then
    (.error (accessTokenInvalidError "Invalid token type. Access token required."), s)
  else
    let found := getRequestedUserById payload.sub s
    match found.1 with
    | none =>
      (.error (accessTokenInvalidError "Unauthorized access with invalid access token."), found.2)
    | some user =>
      (.ok ⟨user.id, user.email, roleMapper.toEntity user.role, user.fullName⟩, found.2)

inductive Request where
  | command (userId : String) (c : AuthCommand)
  | register (newId : UserId) (name : Name) (email : Email) (password : Password)
  | loginWithEmail (email password refreshToken : String)
  | refreshToken (userId presented newRefreshToken : String)
  | logout (userId refreshToken : String)
  | googleAuthCallback (profile : GoogleSignIn.Profile) (call : GoogleSignIn.Call)

namespace Request

def row (t : UsersTable) : Request → Option UserRow
  | command userId _ | refreshToken userId _ _ | logout userId _ => t.findById userId
  | register _ _ email _ => t.findByEmail email.getValue
  | loginWithEmail email _ _ => t.findByEmail email
  | googleAuthCallback p _ => t.findByEmail p.email

def present (missing : Error) (useCase : AuthUser → Except Error AuthUser) :
    Option AuthUser → Except Error AuthUser
  | some u => useCase u
  | none => .error missing

def registerNew (newId : UserId) (name : Name) (email : Email) (password : Password)
    (clk : Clock) : Option AuthUser → Except Error AuthUser
  | some _ => .error (.auth .emailAlreadyInUse
      ("The provided email " ++ email.getValue ++ " is already in use."))
  | none => AuthUser.register newId name email password none clk

def run (hasher : PasswordHasher) (clk : Clock) : Request → Option AuthUser → Except Error AuthUser
  | command _ c => present authUserNotFoundError fun u => (c.exec clk u).toExcept
  | register newId name email password => registerNew newId name email password clk
  | loginWithEmail _ password token =>
    present invalidCredentialsError (UseCases.loginWithEmail hasher password token clk)
  | refreshToken _ presented token =>
    present authUserNotFoundError (UseCases.refreshToken presented token clk)
  | logout _ token => present authUserNotFoundError (UseCases.logout token clk)
  | googleAuthCallback p c => GoogleSignIn.signIn p c

def issues : Request → Bool
  | loginWithEmail .. | refreshToken .. | googleAuthCallback .. => true
  | _ => false

def issuesUnchecked : Request → Bool
  | refreshToken .. | googleAuthCallback .. => true
  | _ => false

def lowers : Request → Bool
  | command _ c => match c with
    | .unverifyEmail | .deactivate | .suspend | .softDelete => true
    | _ => false
  | _ => false

def newId : Request → Option String
  | register id _ _ _ => some id.getValue
  | googleAuthCallback _ call => some call.newId.getValue
  | _ => none

def blacklists (jti : String) : Request → List String
  | logout .. => [jti]
  | _ => []

end Request

def load (how : Reading) (row : Option UserRow) : Except Error (Option AuthUser) :=
  PrismaAuthUserRepository.load how.loading (row.map fun r => (how.origin, r.authColumns))

def saveAuthUser (hasher : PasswordHasher) (q : Request) (how : Reading) (t : UsersTable) :
    Except Error (AuthUser × UsersTable) := do
  let found ← load how (q.row t)
  let v ← q.run hasher how.clock found
  let t' ← t.upsert (PrismaAuthUserMapper.toPersistence v)
  return (v, t')

def saveUser (host : Host) (userId : String) (c : UserCommand) (loading clk : Clock)
    (t : UsersTable) : Except Error (User × UsersTable) := do
  match t.findById userId with
  | none => .error (.user .notFound "User not found")
  | some row =>
    let u ← PrismaUserMapper.toDomain host loading row.userColumns
    let v ← (c.exec host clk u).toExcept
    let t' ← t.write (row.saveUser v)
    return (v, t')

inductive Action where
  | auth (q : Request) (jti : String) (how : Reading) (returns : Bool)
  | user (userId : String) (c : UserCommand) (loading clock : Clock)
  | validate (payload : AccessTokenPayload)
  | expire (jti : String)
  | drop (userId : String)

def Site.saved (userId : String) (announced : Bool) (t : UsersTable) (s : Site) : Site :=
  { s with users := t
           requested := if announced then erase Prod.fst userId s.requested else s.requested }

/-- The tokens reach their caller when nothing after the save throws. -/
def Site.issue (q : Request) (returns : Bool) (u : AuthUser) (jti : String) (s : Site) : Site :=
  { s with issued := if q.issues && returns then s.issued ++ [generate u jti] else s.issued }

section Steps

variable (hasher : PasswordHasher) (host : Host)

def authStep (q : Request) (jti : String) (how : Reading) (returns : Bool) (s : Site) : Site :=
  let s := { s with blacklisted := q.blacklists jti ++ s.blacklisted }
  match saveAuthUser hasher q how s.users with
  | .ok (v, t) => (s.saved v.id.getValue (!v.domainEvents.isEmpty) t).issue q returns v jti
  | .error _ => s

def userStep (userId : String) (c : UserCommand) (loading clk : Clock) (s : Site) : Site :=
  match saveUser host userId c loading clk s.users with
  | .ok (v, t) => s.saved v.id.getValue (!v.domainEvents.isEmpty) t
  | .error _ => s

def step (s : Site) : Action → Site
  | .auth q jti how returns => authStep hasher q jti how returns s
  | .user userId c loading clk => userStep host userId c loading clk s
  | .validate payload => (validateAccessToken payload s).2
  | .expire jti =>
    { s with issued := s.issued.filter (·.jti != jti)
             blacklisted := s.blacklisted.filter (· != jti) }
  | .drop userId => { s with requested := erase Prod.fst userId s.requested }

end Steps

def start (users : UsersTable) : Site := ⟨users, [], [], []⟩

def canAccess (row : UserRow) : Bool :=
  (statusMapper.toEntity row.status).isActive && row.emailVerified

def accepts (payload : AccessTokenPayload) (s : Site) : Bool :=
  (validateAccessToken payload s).1.toOption.isSome

def AcceptsOnlyAccess (s : Site) : Prop :=
  ∀ payload ∈ s.issued, accepts payload s = true →
    ∃ row ∈ s.users.rows, row.id = payload.sub ∧ canAccess row = true

instance (s : Site) : Decidable (AcceptsOnlyAccess s) :=
  inferInstanceAs (Decidable (∀ payload ∈ s.issued, _))

def NoLiveToken (s : Site) (userId : String) : Prop :=
  ∀ payload ∈ s.issued, payload.sub = userId → payload.jti ∈ s.blacklisted

instance (s : Site) (userId : String) : Decidable (NoLiveToken s userId) :=
  inferInstanceAs (Decidable (∀ payload ∈ s.issued, _))

section Conditions

variable (hasher : PasswordHasher) (host : Host)

def KeepsAccess (s : Site) : Action → Prop
  | .auth q _ how _ => ∀ saved ∈ (saveAuthUser hasher q how s.users).toOption,
      (q.lowers = true → NoLiveToken s saved.1.id.getValue) ∧
        (q.issuesUnchecked = true → ∀ row ∈ q.row s.users, row.emailVerified = true)
  | .user userId c loading clk => ∀ saved ∈ (saveUser host userId c loading clk s.users).toOption,
      c.lowers = true → NoLiveToken s saved.1.id.getValue
  | _ => True

instance (s : Site) (a : Action) : Decidable (KeepsAccess hasher host s a) := by
  cases a <;> unfold KeepsAccess <;> infer_instance

def IdsFresh (s : Site) : Action → Prop
  | .auth q _ _ _ => ∀ id ∈ q.newId, ∀ row ∈ s.users.rows, row.id ≠ id
  | _ => True

instance (s : Site) (a : Action) : Decidable (IdsFresh s a) := by
  cases a <;> unfold IdsFresh <;> infer_instance

end Conditions

section Access

variable (u v : AuthUser) (clk : Clock)

def Access (p : AuthUserProps) : Prop := p.status = .active ∧ p.emailVerified = true

theorem effect_access (c : AuthCommand) (h : (Request.command "" c).lowers = false)
    (hu : Access u.toAuthUserProps) : Access (c.effect clk u) := by
  obtain ⟨hs, hv⟩ := hu
  cases c with
  | unverifyEmail | deactivate | suspend | softDelete => cases h
  | verifyEmail =>
    simp only [AuthCommand.effect]
    split_ifs
    · exact ⟨rfl, rfl⟩
    · exact ⟨hs, hv⟩
  | activate => exact ⟨rfl, hv⟩
  | recordLogout t => cases t <;> exact ⟨hs, hv⟩
  | changePassword p | resetPassword p | recordOAuthLogin p t a | linkOAuth p | unlinkOAuth p =>
    simp only [AuthCommand.effect]
    split_ifs <;> exact ⟨hs, hv⟩
  | recordLogin t | recordTokenRefresh old new | revokeAllRefreshTokens => exact ⟨hs, hv⟩

theorem exec_access (c : AuthCommand) (h : (Request.command "" c).lowers = false)
    (hu : Access u.toAuthUserProps) : Access (c.exec clk u).state.toAuthUserProps := by
  obtain ⟨-, d, hp, -⟩ := AuthCommand.exec_leaves c clk u
  have after := effect_access u clk c h hu
  unfold Access at *
  rw [hp]
  exact after

theorem exec_id (c : AuthCommand) : (c.exec clk u).state.id = u.id :=
  (AuthCommand.exec_leaves c clk u).1

theorem loginWithEmail_access (hasher : PasswordHasher) (password token : String)
    (h : UseCases.loginWithEmail hasher password token clk u = .ok v) :
    v.id = u.id ∧ Access u.toAuthUserProps ∧ Access v.toAuthUserProps := by
  simp only [UseCases.loginWithEmail, bind_ok_iff, Outcome.toExcept_ok_iff] at h
  obtain ⟨_, login, _, -, _, -, -, rfl⟩ := h
  have checks := (raise_ok_iff _).mp login
  simp only [List.forall_mem_cons, Bool.not_eq_false'] at checks
  have access : Access u.toAuthUserProps := ⟨(Status.isActive_iff _).mp checks.1, checks.2.1⟩
  exact ⟨exec_id u clk (.recordLogin token), access,
    exec_access u clk (.recordLogin token) rfl access⟩

theorem addRefreshToken_returns (token : String) (now : Date)
    (h : (u.addRefreshToken token now).Returns) : token ∈ u.refreshTokens ∨ u.status = .active := by
  rcases AuthUser.addRefreshToken_cases u now token with ⟨hin, -⟩ | ⟨-, -, e⟩ | ⟨-, hact, -⟩
  · exact Or.inl hin
  · rw [e] at h
    exact absurd h (Outcome.not_returns_threw _ _)
  · exact Or.inr hact

theorem refreshToken_access (coupled : Coupled u.toAuthUserProps) (presented token : String)
    (h : UseCases.refreshToken presented token clk u = .ok v) (verified : u.emailVerified = true) :
    v.id = u.id ∧ Access v.toAuthUserProps := by
  simp only [UseCases.refreshToken, Outcome.toExcept_ok_iff] at h
  obtain ⟨returns, rfl⟩ := h
  refine ⟨exec_id u clk (.recordTokenRefresh presented token),
    exec_access u clk (.recordTokenRefresh presented token) rfl ⟨?_, verified⟩⟩
  unfold AuthUser.recordTokenRefresh at returns
  have added := ((Outcome.returns_andThen _ _).mp returns).1
  rcases addRefreshToken_returns _ token _ added with held | active
  · refine coupled.tokens_active (List.ne_nil_of_mem (a := token) ?_)
    exact List.mem_of_mem_filter held
  · exact active

theorem recordOAuthLogin_access (coupled : u.refreshTokens ≠ [] → u.status = .active)
    (token : String) (avatarUrl : Option String)
    (h : (u.recordOAuthLogin .google token avatarUrl clk).toExcept = .ok v)
    (verified : u.emailVerified = true) : Access v.toAuthUserProps := by
  obtain ⟨returns, rfl⟩ := (Outcome.toExcept_ok_iff _ _).mp h
  refine exec_access u clk (.recordOAuthLogin .google token avatarUrl) rfl ⟨?_, verified⟩
  obtain ⟨-, held | active⟩ := (GoogleSignIn.recordOAuthLogin_returns_iff u clk token avatarUrl).mp
    returns
  · exact coupled (List.ne_nil_of_mem held)
  · exact active

theorem googleAuthCallback_access (coupled : Coupled u.toAuthUserProps)
    (providerId token : String) (avatarUrl : Option String)
    (h : UseCases.googleAuthCallback providerId token avatarUrl clk u = .ok v)
    (verified : u.emailVerified = true) : Access v.toAuthUserProps := by
  obtain ⟨w, hw, hv⟩ := (bind_ok_iff _ _ _).mp h
  unfold UseCases.linkGoogle at hw
  split_ifs at hw with hp
  · obtain rfl := Except.ok.inj hw
    exact recordOAuthLogin_access _ v _ coupled.tokens_active token avatarUrl hv verified
  · obtain ⟨-, rfl⟩ := (Outcome.toExcept_ok_iff _ _).mp hw
    have link : ∀ q : AuthProvider, (u.linkOAuth q (clk.skip 1)).state.refreshTokens =
        u.refreshTokens ∧ (u.linkOAuth q (clk.skip 1)).state.status = u.status ∧
        (u.linkOAuth q (clk.skip 1)).state.emailVerified = u.emailVerified := by
      intro q
      unfold AuthUser.linkOAuth
      split_ifs <;> exact ⟨rfl, rfl, rfl⟩
    obtain ⟨tokens, status, email⟩ := link (.createGoogleProvider providerId clk)
    refine recordOAuthLogin_access _ v _ ?_ token avatarUrl hv (email.trans verified)
    rw [tokens, status]
    exact coupled.tokens_active

theorem newUser_access (p : GoogleSignIn.Profile) (c : GoogleSignIn.Call)
    (h : GoogleSignIn.newUser p c = .ok v) : Access v.toAuthUserProps := by
  simp only [GoogleSignIn.newUser, bind_ok_iff] at h
  obtain ⟨email, -, name, -, w, hw, hv⟩ := h
  obtain ⟨-, active, verified, -⟩ := AuthUser.fromOAuth_ok _ _ _ _ _ _ w hw
  exact recordOAuthLogin_access _ v _ (fun _ => active) _ _ hv verified

theorem run_found_access (hasher : PasswordHasher) (q : Request)
    (coupled : Coupled u.toAuthUserProps) (h : q.run hasher clk (some u) = .ok v) :
    v.id = u.id ∧ (q.lowers = false → Access u.toAuthUserProps → Access v.toAuthUserProps) ∧
      (q.issues = true → (q.issuesUnchecked = true → u.emailVerified = true) →
        Access v.toAuthUserProps) := by
  cases q with
  | command userId c =>
    obtain ⟨-, rfl⟩ := (Outcome.toExcept_ok_iff _ _).mp h
    exact ⟨exec_id u clk c, fun hl => exec_access u clk c hl, fun hi => nomatch hi⟩
  | register newId name email password => cases h
  | loginWithEmail email password token =>
    obtain ⟨hid, -, access⟩ := loginWithEmail_access u v clk hasher password token h
    exact ⟨hid, fun _ _ => access, fun _ _ => access⟩
  | refreshToken userId presented token =>
    have hid : v.id = u.id := by
      obtain ⟨-, rfl⟩ := (Outcome.toExcept_ok_iff _ _).mp h
      exact exec_id u clk (.recordTokenRefresh presented token)
    have access := fun verified =>
      (refreshToken_access u v clk coupled presented token h verified).2
    exact ⟨hid, fun _ hu => access hu.2, fun _ hv => access (hv rfl)⟩
  | logout userId token =>
    obtain ⟨-, rfl⟩ := (Outcome.toExcept_ok_iff (u.recordLogout (some token) clk) v).mp h
    exact ⟨exec_id u clk (.recordLogout (some token)),
      fun _ => exec_access u clk (.recordLogout (some token)) rfl, fun hi => nomatch hi⟩
  | googleAuthCallback p c =>
    have hid := (GoogleSignIn.googleAuthCallback_identity u v _ _ _ _ h).1
    have access := googleAuthCallback_access u v _ coupled _ _ _ h
    exact ⟨hid, fun _ hu => access hu.2, fun _ hv => access (hv rfl)⟩

/-- A request that finds no user creates one with its new id, which has access if a
token is issued to it. -/
theorem run_missing_access (hasher : PasswordHasher) (q : Request)
    (h : q.run hasher clk none = .ok v) :
    q.newId = some v.id.getValue ∧ (q.issues = true → Access v.toAuthUserProps) := by
  cases q with
  | register newId name email password =>
    simp only [Request.run, Request.registerNew] at h
    have made := (AuthUser.register_ok _ _ _ _ _ _ v h).1
    exact ⟨by rw [made]; rfl, fun hi => nomatch hi⟩
  | googleAuthCallback p c =>
    have hid := (GoogleSignIn.newUser_identity v p c h).1
    exact ⟨by rw [hid]; rfl, fun _ => newUser_access v p c h⟩
  | command userId c | loginWithEmail email password token | refreshToken userId presented token
  | logout userId token => cases h

end Access

section Rows

theorem canAccess_iff (row : UserRow) : canAccess row = true ↔
    statusMapper.toEntity row.status = .active ∧ row.emailVerified = true := by
  simp [canAccess]

theorem canAccess_saved_iff (v : AuthUser) (old : Option UserRow) :
    canAccess (UserRow.savedAuthUser (PrismaAuthUserMapper.toPersistence v) old) = true ↔
      Access v.toAuthUserProps := by
  have columns := UserRow.authColumns_savedAuthUser (PrismaAuthUserMapper.toPersistence v) old
  have status : (UserRow.savedAuthUser (PrismaAuthUserMapper.toPersistence v) old).status =
      statusMapper.toPersistence v.status := congrArg RawAuthUser.status columns
  have verified : (UserRow.savedAuthUser (PrismaAuthUserMapper.toPersistence v) old).emailVerified =
      v.emailVerified := congrArg RawAuthUser.emailVerified columns
  rw [canAccess_iff, status, verified, EnumMapper.toEntity_toPersistence]
  rfl

theorem loaded_access (row : UserRow) (u : AuthUser) (o : Origin) (clk : Clock)
    (h : PrismaAuthUserMapper.toDomain o clk row.authColumns = .ok u) :
    Coupled u.toAuthUserProps ∧ u.emailVerified = row.emailVerified ∧
      (Access u.toAuthUserProps ↔ canAccess row = true) := by
  obtain ⟨name, email, id, -, -, -, hv, rfl⟩ := (PrismaAuthUserMapper.toDomain_ok_iff _ _ _ _).mp h
  exact ⟨((validate_ok_iff _ _ _).mp hv).1, rfl, (canAccess_iff row).symm⟩

/-- An account with access keeps it if the row that is written with its id has it. -/
theorem write_access (t t' : UsersTable) (new : UserRow)
    (hw : t'.rows = put UserRow.id new t.rows) (userId : String)
    (h : ∃ row ∈ t.rows, row.id = userId ∧ canAccess row = true)
    (keeps : ∀ row ∈ t.rows, row.id = new.id → new.id = userId → canAccess row = true →
      canAccess new = true) :
    ∃ row ∈ t'.rows, row.id = userId ∧ canAccess row = true := by
  obtain ⟨row, hr, rfl, access⟩ := h
  rw [hw]
  by_cases e : row.id = new.id
  · exact ⟨new, (mem_put _ _ _ _).mpr (Or.inl rfl), e.symm, keeps row hr e e.symm access⟩
  · exact ⟨row, (mem_put _ _ _ _).mpr (Or.inr ⟨hr, e⟩), rfl, access⟩

end Rows

def LiveAccess (s : Site) : Prop :=
  ∀ payload ∈ s.issued, payload.jti ∉ s.blacklisted →
    ∃ row ∈ s.users.rows, row.id = payload.sub ∧ canAccess row = true

theorem accepted_not_blacklisted (payload : AccessTokenPayload) (s : Site)
    (h : accepts payload s = true) : payload.jti ∉ s.blacklisted := by
  intro listed
  unfold accepts validateAccessToken at h
  rw [if_pos (List.contains_iff_mem.mpr listed)] at h
  cases h

theorem liveAccess_accepts (s : Site) (h : LiveAccess s) : AcceptsOnlyAccess s :=
  fun payload hp ha => h payload hp (accepted_not_blacklisted payload s ha)

section Saves

variable (hasher : PasswordHasher) (host : Host)

theorem saveAuthUser_ok (q : Request) (how : Reading) (t t' : UsersTable) (v : AuthUser)
    (h : saveAuthUser hasher q how t = .ok (v, t')) :
    ∃ found, load how (q.row t) = .ok found ∧ q.run hasher how.clock found = .ok v ∧
      t'.rows = t.upsertedRows (PrismaAuthUserMapper.toPersistence v) := by
  simp only [saveAuthUser, bind_ok_iff] at h
  obtain ⟨found, hf, w, hw, t'', ht, e⟩ := h
  obtain ⟨rfl, rfl⟩ := Prod.mk.inj (Except.ok.inj e)
  exact ⟨found, hf, hw, (UsersTable.upsert_ok_iff _ _ _).mp ht⟩

theorem row_mem (q : Request) (t : UsersTable) (row : UserRow) (h : q.row t = some row) :
    row ∈ t.rows := by
  cases q <;> exact (find_some _ _ _ _ h).1

theorem load_some (how : Reading) (row : Option UserRow) (u : AuthUser)
    (h : load how row = .ok (some u)) : ∃ r, row = some r ∧
      PrismaAuthUserMapper.toDomain how.origin how.loading r.authColumns = .ok u := by
  obtain ⟨o, raw, hf, hd⟩ := (PrismaAuthUserRepository.load_some_iff _ _ u).mp h
  obtain ⟨r, hr, e⟩ := Option.map_eq_some_iff.mp hf
  obtain ⟨rfl, rfl⟩ := Prod.mk.inj e
  exact ⟨r, hr, hd⟩

/-- The row that a request saves has access if the row of its user had it, or if a
token is issued. -/
theorem saved_access (q : Request) (how : Reading) (s : Site) (t' : UsersTable) (v : AuthUser)
    (h : saveAuthUser hasher q how s.users = .ok (v, t'))
    (fresh : ∀ id ∈ q.newId, ∀ row ∈ s.users.rows, row.id ≠ id)
    (verified : q.issuesUnchecked = true → ∀ row ∈ q.row s.users, row.emailVerified = true) :
    (∀ row ∈ s.users.rows, row.id = v.id.getValue → q.lowers = false → canAccess row = true →
      Access v.toAuthUserProps) ∧ (q.issues = true → Access v.toAuthUserProps) := by
  obtain ⟨found, hf, hv, -⟩ := saveAuthUser_ok hasher q how s.users t' v h
  cases found with
  | none =>
    obtain ⟨hid, access⟩ := run_missing_access v how.clock hasher q hv
    exact ⟨fun row hr e => absurd e (fresh _ hid row hr), access⟩
  | some u =>
    obtain ⟨r, hrow, hd⟩ := load_some how _ u hf
    obtain ⟨coupled, email, access⟩ := loaded_access r u how.origin how.loading hd
    obtain ⟨hid, keeps, issued⟩ := run_found_access u v how.clock hasher q coupled hv
    obtain ⟨rowid, -, -⟩ := GoogleSignIn.loaded_identity r u how.origin how.loading hd
    refine ⟨fun row hr e hl ha => keeps hl (access.mpr ?_), fun hi => issued hi fun hq => ?_⟩
    · have same := s.users.eq_of_id r row (row_mem q s.users r hrow) hr (by rw [e, hid, rowid])
      rw [same]
      exact ha
    · rw [email]
      exact verified hq r hrow

theorem authStep_live (q : Request) (jti : String) (how : Reading) (returns : Bool) (s : Site)
    (live : LiveAccess s)
    (keeps : KeepsAccess hasher host s (.auth q jti how returns))
    (fresh : IdsFresh s (.auth q jti how returns)) :
    LiveAccess (authStep hasher q jti how returns s) := by
  have fewer : LiveAccess { s with blacklisted := q.blacklists jti ++ s.blacklisted } :=
    fun payload hp hb => live payload hp fun old => hb (List.mem_append_right _ old)
  unfold authStep
  dsimp only
  cases hs : saveAuthUser hasher q how s.users with
  | error e => exact fewer
  | ok saved =>
    obtain ⟨v, t⟩ := saved
    obtain ⟨lowering, verified⟩ := keeps (v, t) (Option.mem_def.mpr (by rw [hs]; rfl))
    obtain ⟨stays, issued⟩ := saved_access hasher q how s t v hs fresh verified
    obtain ⟨-, -, -, rows⟩ := saveAuthUser_ok hasher q how s.users t v hs
    intro payload hp hb
    change payload ∈ (if (q.issues && returns) = true then s.issued ++ [generate v jti]
      else s.issued) at hp
    change payload.jti ∉ q.blacklists jti ++ s.blacklisted at hb
    have old : payload ∈ s.issued →
        ∃ row ∈ t.rows, row.id = payload.sub ∧ canAccess row = true := by
      intro hold
      have unlisted : payload.jti ∉ s.blacklisted := fun l => hb (List.mem_append_right _ l)
      apply write_access s.users t _ rows payload.sub (live payload hold unlisted)
      intro row hr e sub access
      rw [UserRow.id_savedAuthUser] at e sub
      refine (canAccess_saved_iff v _).mpr (stays row hr e ?_ access)
      by_contra hl
      exact unlisted (lowering (by simpa using hl) payload hold sub.symm)
    split_ifs at hp with hi
    · rcases List.mem_append.mp hp with hold | hnew
      · exact old hold
      · rw [List.mem_singleton.mp hnew]
        have mem := UsersTable.savedAuthUser_mem (PrismaAuthUserMapper.toPersistence v) s.users
        rw [← rows] at mem
        exact ⟨_, mem, UserRow.id_savedAuthUser _ _,
          (canAccess_saved_iff v _).mpr (issued (Bool.and_eq_true_iff.mp hi).1)⟩
    · exact old hp

theorem saveUser_ok (userId : String) (c : UserCommand) (loading clk : Clock) (t t' : UsersTable)
    (v : User) (h : saveUser host userId c loading clk t = .ok (v, t')) :
    ∃ row ∈ t.rows, ∃ u, row.id = v.id.getValue ∧
      PrismaUserMapper.toDomain host loading row.userColumns = .ok u ∧
      UserCommand.Moves c clk u v ∧ t'.rows = put UserRow.id (row.saveUser v) t.rows := by
  unfold saveUser at h
  cases hr : t.findById userId with
  | none =>
    rw [hr] at h
    cases h
  | some row =>
    rw [hr] at h
    simp only [bind_ok_iff] at h
    obtain ⟨u, hu, w, hw, t'', ht, e⟩ := h
    obtain ⟨rfl, rfl⟩ := Prod.mk.inj (Except.ok.inj e)
    obtain ⟨returns, rfl⟩ := (Outcome.toExcept_ok_iff _ _).mp hw
    have moves := UserCommand.exec_moves host c clk u returns
    obtain ⟨-, -, hid, -⟩ := PrismaUserMapper.toDomain_shared host loading _ u hu
    refine ⟨row, (UsersTable.findById_some userId t row hr).1, u, ?_, hu, moves,
      (UsersTable.write_ok_iff _ _ _).mp ht⟩
    rw [moves.id, hid]
    rfl

theorem userStep_live (userId : String) (c : UserCommand) (loading clk : Clock) (s : Site)
    (live : LiveAccess s) (keeps : KeepsAccess hasher host s (.user userId c loading clk)) :
    LiveAccess (userStep host userId c loading clk s) := by
  unfold userStep
  cases hs : saveUser host userId c loading clk s.users with
  | error e => exact live
  | ok saved =>
    obtain ⟨v, t⟩ := saved
    have lowering := keeps (v, t) (Option.mem_def.mpr (by rw [hs]; rfl))
    obtain ⟨row, hr, u, hid, hu, moves, rows⟩ := saveUser_ok host userId c loading clk _ t v hs
    intro payload hp hb
    apply write_access s.users t _ rows payload.sub (live payload hp hb)
    intro other ho e sub access
    have same := s.users.eq_of_id other row ho hr (by rw [e, hid]; rfl)
    rw [same] at access
    obtain ⟨active, verified⟩ := (canAccess_iff row).mp access
    obtain ⟨-, -, -, -, status, -⟩ := PrismaUserMapper.toDomain_shared host loading _ u hu
    have hl : c.lowers = false := by
      by_contra hl
      exact hb (lowering (by simpa using hl) payload hp sub.symm)
    refine (canAccess_iff _).mpr ⟨?_, verified⟩
    change statusMapper.toEntity (statusMapper.toPersistence v.status) = .active
    rw [EnumMapper.toEntity_toPersistence]
    exact moves.stays_active hl (status.trans active)

theorem getRequestedUserById_kept (userId : String) (s : Site) :
    (getRequestedUserById userId s).2.users = s.users ∧
      (getRequestedUserById userId s).2.blacklisted = s.blacklisted ∧
      (getRequestedUserById userId s).2.issued = s.issued := by
  unfold getRequestedUserById
  cases find Prod.fst userId s.requested with
  | some entry => exact ⟨rfl, rfl, rfl⟩
  | none => cases s.users.findById userId <;> exact ⟨rfl, rfl, rfl⟩

theorem validateAccessToken_kept (payload : AccessTokenPayload) (s : Site) :
    (validateAccessToken payload s).2.users = s.users ∧
      (validateAccessToken payload s).2.blacklisted = s.blacklisted ∧
      (validateAccessToken payload s).2.issued = s.issued := by
  have kept := getRequestedUserById_kept payload.sub s
  unfold validateAccessToken
  split_ifs
  · exact ⟨rfl, rfl, rfl⟩
  · exact ⟨rfl, rfl, rfl⟩
  · dsimp only
    cases (getRequestedUserById payload.sub s).1 <;> exact kept

/-- One step with fresh ids that lowers no account with a live token, and issues
none to an unverified one, keeps the access of the live tokens. -/
theorem step_live (s : Site) (a : Action) (live : LiveAccess s)
    (ha : KeepsAccess hasher host s a ∧ IdsFresh s a) : LiveAccess (step hasher host s a) := by
  cases a with
  | auth q jti how returns => exact authStep_live hasher host q jti how returns s live ha.1 ha.2
  | user userId c loading clk => exact userStep_live hasher host userId c loading clk s live ha.1
  | validate payload =>
    obtain ⟨users, blacklisted, issued⟩ := validateAccessToken_kept payload s
    change LiveAccess (validateAccessToken payload s).2
    unfold LiveAccess
    rw [users, blacklisted, issued]
    exact live
  | expire jti =>
    intro payload hp hb
    obtain ⟨mem, other⟩ := List.mem_filter.mp hp
    exact live payload mem fun listed => hb (List.mem_filter.mpr ⟨listed, other⟩)
  | drop userId => exact live

end Saves

def sampleHasher : PasswordHasher := ⟨fun raw hash => raw == "Rahasia1!" && hash == "h"⟩

def sampleUsers : UsersTable := ⟨[UserRow.sample], UserRow.sample_unique⟩

def login : Action :=
  .auth (.loginWithEmail "john.doe@example.com" "Rahasia1!" "t2") "j1"
    ⟨.database, .still 10, .still 11⟩ true

def suspendedAfterLogin : List Action := [
  login, .auth (.command UserId.sample.value .suspend) "" ⟨.database, .still 12, .still 13⟩ true]

end KeramikStore.AccessTokens
