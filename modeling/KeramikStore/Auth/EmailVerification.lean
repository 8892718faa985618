import KeramikStore.Auth.GoogleSignIn
import KeramikStore.Auth.PasswordReset
import KeramikStore.Auth.SessionRaces
import KeramikStore.Users.Announcements

/-!
# Registration and the verification of addresses

A registration saves an inactive user and mails a token to its address, and the mail can
be asked for again. A verification reads the user of a token, loads and changes that
user, saves it and removes the token. The requests interleave between these steps, with
each other and with those of both modules that change a user otherwise, and each may end
at any point. A look-up that misses the cache writes its entry later, the entries of a
user that is saved go later, and the profile module works on copies of any age. One
specification says all that a step can do.
-/

set_option autoImplicit false

namespace KeramikStore

structure AuthUser.KeepsAccount (u v : AuthUser) : Prop where
  id : v.id = u.id
  email : v.email = u.email
  verified : v.emailVerified = u.emailVerified

theorem AuthUser.keepsAccount_trans (u v w : AuthUser) (h : u.KeepsAccount v)
    (k : v.KeepsAccount w) : u.KeepsAccount w :=
  ⟨k.id.trans h.id, k.email.trans h.email, k.verified.trans h.verified⟩

theorem AuthCommand.effect_verified (c : AuthCommand) (clk : Clock) (u : AuthUser)
    (plain : c ≠ .verifyEmail) (plain' : c ≠ .unverifyEmail) :
    (c.effect clk u).emailVerified = u.emailVerified := by
  cases c with
  | verifyEmail => exact absurd rfl plain
  | unverifyEmail => exact absurd rfl plain'
  | recordLogout t => cases t <;> rfl
  | _ => simp only [AuthCommand.effect] <;> split_ifs <;> rfl

theorem AuthCommand.exec_keepsAccount (c : AuthCommand) (clk : Clock) (u : AuthUser)
    (plain : c ≠ .verifyEmail) (plain' : c ≠ .unverifyEmail) :
    u.KeepsAccount (c.exec clk u).state := by
  obtain ⟨id, d, props, -⟩ := exec_leaves c clk u
  refine ⟨id, exec_email c clk u, ?_⟩
  rw [props]
  exact effect_verified c clk u plain plain'

def AuthUser.Ends (u v : AuthUser) : Prop :=
  ∃ c : AuthCommand, c ≠ .verifyEmail ∧ c ≠ .unverifyEmail ∧ ∃ clk, (c.exec clk u).Returns ∧
    (c.exec clk u).state = v

theorem AuthUser.ends_of_exec (c : AuthCommand) (clk : Clock) (u v : AuthUser)
    (h : (c.exec clk u).Returns ∧ (c.exec clk u).state = v) (plain : c ≠ .verifyEmail)
    (plain' : c ≠ .unverifyEmail) : u.Ends v := ⟨c, plain, plain', clk, h⟩

/-- The other use cases end in a command besides the two of the verification, on a user with
the account as it was. -/
theorem SessionRaces.Request.run_ends (hasher : PasswordHasher) (clk : Clock)
    (q : SessionRaces.Request) (u v : AuthUser) (h : q.run hasher clk u = .ok v) :
    ∃ w, u.KeepsAccount w ∧ w.Ends v := by
  have same : u.KeepsAccount u := ⟨rfl, rfl, rfl⟩
  cases q with
  | loginWithEmail password token =>
    simp only [run, UseCases.loginWithEmail, Library.bind_ok_iff,
      Library.Outcome.toExcept_ok_iff] at h
    obtain ⟨_, -, _, -, _, -, ends⟩ := h
    exact ⟨u, same, AuthUser.ends_of_exec (.recordLogin token) clk u v ends (by simp) (by simp)⟩
  | refreshToken presented token =>
    have ends := (Library.Outcome.toExcept_ok_iff _ _).mp h
    exact ⟨u, same, AuthUser.ends_of_exec (.recordTokenRefresh presented token) clk u v ends
      (by simp) (by simp)⟩
  | logout token =>
    simp only [run, UseCases.logout, Library.Outcome.toExcept_ok_iff] at h
    exact ⟨u, same, AuthUser.ends_of_exec (.recordLogout (some token)) clk u v h
      (by simp) (by simp)⟩
  | googleAuthCallback providerId token avatarUrl =>
    obtain ⟨w, linked, h⟩ := (Library.bind_ok_iff _ _ _).mp h
    have ends := (Library.Outcome.toExcept_ok_iff _ _).mp h
    refine ⟨w, ?_, AuthUser.ends_of_exec (.recordOAuthLogin .google token avatarUrl) (clk.skip 2)
      w v ends (by simp) (by simp)⟩
    unfold UseCases.linkGoogle at linked
    split_ifs at linked
    · obtain rfl := Except.ok.inj linked
      exact same
    · obtain ⟨-, rfl⟩ := (Library.Outcome.toExcept_ok_iff _ _).mp linked
      exact AuthCommand.exec_keepsAccount (.linkOAuth (.createGoogleProvider providerId clk))
        (clk.skip 1) u (by simp) (by simp)
  | changePassword current new hash =>
    simp only [run, UseCases.changePassword, Library.bind_ok_iff,
      Library.Outcome.toExcept_ok_iff] at h
    obtain ⟨_, -, _, -, _, -, _, -, ends⟩ := h
    exact ⟨u, same, AuthUser.ends_of_exec (.changePassword (.fromHash hash)) clk u v ends
      (by simp) (by simp)⟩
  | resetPassword new hash =>
    simp only [run, UseCases.resetPassword, Library.bind_ok_iff,
      Library.Outcome.toExcept_ok_iff] at h
    obtain ⟨_, -, _, -, _, -, _, -, ends⟩ := h
    exact ⟨u, same, AuthUser.ends_of_exec (.resetPassword (.fromHash hash)) clk u v ends
      (by simp) (by simp)⟩

theorem AuthUser.ends_keepsAccount (u v : AuthUser) (h : u.Ends v) : u.KeepsAccount v := by
  obtain ⟨c, plain, plain', clk, -, rfl⟩ := h
  exact AuthCommand.exec_keepsAccount c clk u plain plain'

theorem AuthUser.announced_events (u : AuthUser) (h : u.Announced) : u.domainEvents ≠ [] := by
  obtain ⟨e, mem, -⟩ := h
  intro silent
  simp [UserCaches.announcedAuth, silent] at mem

namespace EmailVerification
open Library Library.KeyedTable
open PasswordReset (Services)

structure RegisterCommand where
  fullName : String
  email : String
  password : String
deriving DecidableEq

structure Recipient where
  userId : String
  name : String
  address : String
deriving DecidableEq

/-- A prompt look-up has the entry of the cache, or else the row, whose entry it writes at
once. A late one missed the cache before, and its entry is still to be written. -/
inductive Access where
  | prompt
  | late
deriving DecidableEq

inductive Purpose where
  | register
  | verifyEmail (hashedToken : String)
  | other
deriving DecidableEq

inductive Stage where
  | checked (command : RegisterCommand)
  | changed (why : Purpose) (u : AuthUser)
  | profiled (u : User)
  | owed (r : Recipient)
  | stored (r : Recipient) (token : String)
  | read (hashedToken userId : String)
  | verified (hashedToken : String)
deriving DecidableEq

inductive Event where
  | issued (token userId address : String)
  | mailed (token address : String)
  | presented (token : String)
  | verified (hashedToken userId address : String)
  | vouched (userId address : String)
deriving DecidableEq

structure Site where
  store : AuthStore
  -- what late look-ups have read and not yet written to the cache
  pending : List (UserAuthCacheKey × RawAuthUser)
  -- what the profile module has read, in its caches or in hand
  profiles : List RawUser
  -- the verification tokens, by their hashes
  tokens : List (String × String)
  stages : List (ℕ × Stage)
  -- the latest first
  log : List Event

inductive Action where
  | checkEmail (request : ℕ) (command : RegisterCommand)
  | createUser (request : ℕ) (newId : UserId) (hash : String) (clock : Clock)
  | resend (request : ℕ) (email : String) (how : Access) (loading : Clock)
  | saveToken (request : ℕ) (token : String) (kept : Bool)
  | sendMail (request : ℕ)
  | readToken (request : ℕ) (token : String)
  | verify (request : ℕ) (how : Access) (loading clock : Clock)
  | signUp (request : ℕ) (profile : GoogleSignIn.Profile) (call : GoogleSignIn.Call)
      (how : Access)
  | change (request : ℕ) (who : String) (q : SessionRaces.Request) (how : Access)
      (loading clock : Clock)
  | save (request : ℕ) (audited told : Bool)
  | invalidate (request : ℕ) (removed : Bool)
  | readProfile (userId : String)
  | changeProfile (request copy : ℕ) (host : Host) (c : UserCommand) (loading clock : Clock)
  | saveProfile (request : ℕ)
  | fill (entry : ℕ) (kept : Bool)
  | expire (hashedToken : String)
  | forget (key : UserAuthCacheKey)
  | abandon (request : ℕ)

def emailAlreadyInUseError (email : String) : Error :=
  .auth .emailAlreadyInUse ("The provided email " ++ email ++ " is already in use.")

def invalidVerificationTokenError : Error :=
  .auth .invalidVerificationToken "Email verification token is invalid or has expired"

def userNotFoundError (message : String) : Error := .auth .authUserNotFound message

def cannotVerifyEmailError : Error :=
  -- an identifier has no text of its own
  .auth .cannotVerifyEmail "User with ID [object Object] cannot verify email."

section UseCases

def isEmailExisting (email : String) (t : UsersTable) : Bool :=
  0 < (t.rows.filter fun row => row.email = email).length

def checkEmail (c : RegisterCommand) (t : UsersTable) : Except Error Stage :=
  if isEmailExisting c.email t then .error (emailAlreadyInUseError c.email) else .ok (.checked c)

def newUser (newId : UserId) (hash : String) (clk : Clock) (c : RegisterCommand) :
    Except Error AuthUser := do
  Password.validateRaw c.password
  let name ← Name.create c.fullName
  let email ← Email.create c.email
  AuthUser.register newId name email (.fromHash hash) (some .customer) clk

def recipient (u : AuthUser) : Recipient := ⟨u.id.getValue, u.name.getFullName, u.email.getValue⟩

def mayVerify (email : String) : Option AuthUser → Except Error Recipient
  | none => .error (userNotFoundError ("User with email " ++ email ++ " not found."))
  | some u => if u.canVerifyEmail then .ok (recipient u) else .error cannotVerifyEmailError

def tokenUser (services : Services) (token : String) (tokens : List (String × String)) :
    Except Error (String × String) :=
  match (find Prod.fst (services.hashToken token) tokens).filter (·.2 != "") with
  | some entry => .ok entry
  | none => .error invalidVerificationTokenError

def verifyEmail (userId : String) (clk : Clock) : Option AuthUser → Except Error AuthUser
  | none => .error (userNotFoundError ("User with ID " ++ userId ++ " not found"))
  | some u => (u.verifyEmail clk).toExcept

def changeUser (hasher : PasswordHasher) (q : SessionRaces.Request) (clk : Clock) :
    Option AuthUser → Except Error AuthUser
  | none => .error authUserNotFoundError
  | some u => q.run hasher clk u

def editUser (host : Host) (c : UserCommand) (loading clk : Clock) (raw : RawUser) :
    Except Error User := do
  let u ← PrismaUserMapper.toDomain host loading raw
  (c.exec host clk u).toExcept

end UseCases

section Steps

def proceed (i : ℕ) (next : Option Stage) (s : Site) : Site :=
  { s with stages := next.elim (erase Prod.fst i s.stages) fun st => put Prod.fst (i, st) s.stages }

def enter (i : ℕ) (first : Except Error Stage) (s : Site) : Site :=
  match find Prod.fst i s.stages, first with
  | none, .ok st => proceed i (some st) s
  | _, _ => s

def stage (i : ℕ) (s : Site) : Option Stage := (find Prod.fst i s.stages).map Prod.snd

def Purpose.next (u : AuthUser) : Purpose → Option Stage
  | .register => some (.owed (recipient u))
  | .verifyEmail hashedToken => some (.verified hashedToken)
  | .other => none

def Purpose.record (u : AuthUser) : Purpose → List Event
  | .verifyEmail hashedToken => [.verified hashedToken u.id.getValue u.email.getValue]
  | _ => []

variable (services : Services)

def lookUp (key : SessionRaces.CacheKey) (who : String) (loading : Clock) (s : AuthStore) :
    Except Error (Option AuthUser) × AuthStore :=
  match key with
  | .byId => PrismaAuthUserRepository.findById who loading s
  | .byEmail => PrismaAuthUserRepository.findByEmail services.toLowerCase who loading s

def queried (key : SessionRaces.CacheKey) (who : String) (t : UsersTable) :
    Option (UserAuthCacheKey × RawAuthUser) :=
  match key with
  | .byId => (t.findById who).map fun row => (.userById who, row.authColumns)
  | .byEmail => (t.findByEmail who).map fun row =>
      (.userByEmail (services.toLowerCase who), row.authColumns)

def look (how : Access) (key : SessionRaces.CacheKey) (who : String) (loading : Clock)
    (s : Site) : Except Error (Option AuthUser) × Site :=
  match how with
  | .prompt =>
    let found := lookUp services key who loading s.store
    (found.1, { s with store := found.2 })
  | .late =>
    let entry := queried services key who s.store.table
    (PrismaAuthUserRepository.load loading (entry.map fun e => (.database, e.2)),
      { s with pending := entry.toList ++ s.pending })

def createUser (i : ℕ) (newId : UserId) (hash : String) (clk : Clock) (s : Site) : Site :=
  match stage i s with
  | some (.checked c) =>
    proceed i ((newUser newId hash clk c).toOption.map (.changed .register)) s
  | _ => s

def resend (i : ℕ) (email : String) (how : Access) (loading : Clock) (s : Site) : Site :=
  let found := look services how .byEmail email loading s
  enter i ((found.1 >>= mayVerify email).map .owed) found.2

def saveToken (i : ℕ) (token : String) (kept : Bool) (s : Site) : Site :=
  match stage i s with
  | some (.owed r) =>
    -- the cache may fail to keep the token; the mail is sent all the same
    proceed i (some (.stored r token))
      { s with tokens := if kept then put Prod.fst (services.hashToken token, r.userId) s.tokens
                 else s.tokens
               log := .issued token r.userId r.address :: s.log }
  | _ => s

def sendMail (i : ℕ) (s : Site) : Site :=
  match stage i s with
  | some (.stored r token) =>
    proceed i none { s with log := .mailed token r.address :: s.log }
  | _ => s

def readToken (i : ℕ) (token : String) (s : Site) : Site :=
  enter i ((tokenUser services token s.tokens).map fun entry => .read entry.1 entry.2)
    { s with log := .presented token :: s.log }

def verify (i : ℕ) (how : Access) (loading clk : Clock) (s : Site) : Site :=
  match stage i s with
  | some (.read hashedToken userId) =>
    let found := look services how .byId userId loading s
    proceed i ((found.1 >>= verifyEmail userId clk).toOption.map
      (.changed (.verifyEmail hashedToken))) found.2
  | _ => s

def signUp (i : ℕ) (p : GoogleSignIn.Profile) (c : GoogleSignIn.Call) (how : Access) (s : Site) :
    Site :=
  let found := look services how .byEmail p.email c.loading s
  match found.1 with
  | .ok none =>
    enter i ((GoogleSignIn.newUser p c).map (.changed .other))
      { found.2 with log := .vouched c.newId.getValue p.email :: s.log }
  | _ => found.2

def change (i : ℕ) (who : String) (q : SessionRaces.Request) (how : Access)
    (loading clk : Clock) (s : Site) : Site :=
  let found := look services how q.key who loading s
  enter i ((found.1 >>= changeUser services.hasher q clk).map (.changed .other)) found.2

def save (i : ℕ) (audited told : Bool) (s : Site) : Site :=
  match stage i s with
  | some (.changed why u) =>
    match PrismaAuthUserRepository.save services.toLowerCase u s.store with
    | .ok store =>
      -- where the listener has not been told yet, its two keys go later, as `forget` does it
      proceed i (if audited then why.next u else none)
        { s with
          store := if told then store else { store with cached := s.store.cached }
          log := why.record u ++ s.log }
    | .error _ => proceed i none s
  | _ => s

def invalidate (i : ℕ) (removed : Bool) (s : Site) : Site :=
  match stage i s with
  | some (.verified hashedToken) =>
    proceed i none
      { s with tokens := if removed then erase Prod.fst hashedToken s.tokens else s.tokens }
  | _ => s

def changeProfile (i copy : ℕ) (host : Host) (c : UserCommand) (loading clk : Clock) (s : Site) :
    Site :=
  match s.profiles[copy]? with
  | some raw => enter i ((editUser host c loading clk raw).map .profiled) s
  | none => s

def saveProfile (i : ℕ) (s : Site) : Site :=
  match stage i s with
  | some (.profiled u) =>
    match s.store.table.write (UserCaches.userRow u s.store.table) with
    | .ok table => proceed i none { s with store := { s.store with table := table } }
    | .error _ => proceed i none s
  | _ => s

def fill (n : ℕ) (kept : Bool) (s : Site) : Site :=
  match s.pending[n]? with
  | some entry =>
    { s with
      pending := s.pending.eraseIdx n
      store := if kept then { s.store with cached := put Prod.fst entry s.store.cached }
        else s.store }
  | none => s

def step (s : Site) : Action → Site
  | .checkEmail i c => enter i (checkEmail c s.store.table) s
  | .createUser i newId hash clk => createUser i newId hash clk s
  | .resend i email how loading => resend services i email how loading s
  | .saveToken i token kept => saveToken services i token kept s
  | .sendMail i => sendMail i s
  | .readToken i token => readToken services i token s
  | .verify i how loading clk => verify services i how loading clk s
  | .signUp i p c how => signUp services i p c how s
  | .change i who q how loading clk => change services i who q how loading clk s
  | .save i audited told => save services i audited told s
  | .invalidate i removed => invalidate i removed s
  | .readProfile userId =>
    { s with
      profiles := ((s.store.table.findById userId).map UserRow.userColumns).toList ++ s.profiles }
  | .changeProfile i copy host c loading clk => changeProfile i copy host c loading clk s
  | .saveProfile i => saveProfile i s
  | .fill n kept => fill n kept s
  | .expire hashedToken => { s with tokens := erase Prod.fst hashedToken s.tokens }
  | .forget key =>
    { s with store := { s.store with cached := erase Prod.fst key s.store.cached } }
  | .abandon i => proceed i none s

end Steps

def start (table : UsersTable) : Site := ⟨⟨table, []⟩, [], [], [], [], []⟩

section Accounts

def storeCopies (s : AuthStore) : List RawAuthUser :=
  s.table.rows.map UserRow.authColumns ++ s.cached.map Prod.snd

def Site.copies (s : Site) : List RawAuthUser := storeCopies s.store ++ s.pending.map Prod.snd

def account (raw : RawAuthUser) : String × String := (raw.id, raw.email)

def userAccount (u : AuthUser) : String × String := (u.id.getValue, u.email.getValue)

def profileAccount (u : User) : String × String := (u.id.getValue, u.email.getValue)

def Stage.account : Stage → Option (String × String)
  | .changed _ u => some (userAccount u)
  | .profiled u => some (profileAccount u)
  | .owed r | .stored r _ => some (r.userId, r.address)
  | _ => none

def Event.account : Event → Option (String × String)
  | .issued _ userId address | .verified _ userId address | .vouched userId address =>
    some (userId, address)
  | _ => none

def Site.accounts (s : Site) : List (String × String) :=
  s.copies.map account ++ s.profiles.map (fun raw => (raw.id, raw.email)) ++
    s.stages.filterMap (fun e => e.2.account) ++ s.log.filterMap Event.account

def Action.newId : Action → Option String
  | .createUser _ newId _ _ => some newId.getValue
  | .signUp _ _ call _ => some call.newId.getValue
  | _ => none

def FreshIds (s : Site) (a : Action) : Prop := ∀ id ∈ a.newId, ∀ p ∈ s.accounts, p.1 ≠ id

instance (s : Site) (a : Action) : Decidable (FreshIds s a) := by
  unfold FreshIds
  infer_instance

theorem mem_storeCopies (s : AuthStore) (raw : RawAuthUser) : raw ∈ storeCopies s ↔
    (∃ row ∈ s.table.rows, row.authColumns = raw) ∨ ∃ entry ∈ s.cached, entry.2 = raw := by
  simp [storeCopies]

theorem mem_copies (s : Site) (raw : RawAuthUser) : raw ∈ s.copies ↔
    raw ∈ storeCopies s.store ∨ ∃ entry ∈ s.pending, entry.2 = raw := by
  simp [Site.copies]

theorem row_copy (s : Site) (row : UserRow) (hr : row ∈ s.store.table.rows) :
    row.authColumns ∈ s.copies :=
  (mem_copies s _).mpr (Or.inl ((mem_storeCopies _ _).mpr (Or.inl ⟨row, hr, rfl⟩)))

theorem mem_accounts (s : Site) (p : String × String) : p ∈ s.accounts ↔
    (∃ raw ∈ s.copies, account raw = p) ∨ (∃ raw ∈ s.profiles, (raw.id, raw.email) = p) ∨
      (∃ e ∈ s.stages, e.2.account = some p) ∨ ∃ e ∈ s.log, e.account = some p := by
  simp [Site.accounts]

theorem copy_account (s : Site) (raw : RawAuthUser) (h : raw ∈ s.copies) :
    account raw ∈ s.accounts := (mem_accounts s _).mpr (Or.inl ⟨raw, h, rfl⟩)

theorem profile_account (s : Site) (raw : RawUser) (h : raw ∈ s.profiles) :
    (raw.id, raw.email) ∈ s.accounts := (mem_accounts s _).mpr (Or.inr (Or.inl ⟨raw, h, rfl⟩))

theorem stage_account (s : Site) (e : ℕ × Stage) (p : String × String) (h : e ∈ s.stages)
    (hp : e.2.account = some p) : p ∈ s.accounts :=
  (mem_accounts s p).mpr (Or.inr (Or.inr (Or.inl ⟨e, h, hp⟩)))

theorem log_account (s : Site) (e : Event) (p : String × String) (h : e ∈ s.log)
    (hp : e.account = some p) : p ∈ s.accounts :=
  (mem_accounts s p).mpr (Or.inr (Or.inr (Or.inr ⟨e, h, hp⟩)))

end Accounts

section Reads

/-- A look-up makes no copy of its own and finds one of those there are. -/
theorem wrap_copies (key : UserAuthCacheKey) (row : Option UserRow) (s : AuthStore)
    (known : ∀ r ∈ row, r ∈ s.table.rows) :
    (∀ raw ∈ storeCopies (PrismaAuthUserRepository.wrap key row s).2, raw ∈ storeCopies s) ∧
      ∀ o raw, (PrismaAuthUserRepository.wrap key row s).1 = some (o, raw) →
        raw ∈ storeCopies s := by
  unfold PrismaAuthUserRepository.wrap
  cases hc : find Prod.fst key s.cached with
  | some entry =>
    refine ⟨fun _ h => h, fun o raw h => ?_⟩
    obtain ⟨-, rfl⟩ := Prod.mk.inj (Option.some.inj h)
    exact (mem_storeCopies s _).mpr (Or.inr ⟨entry, (find_some _ _ _ _ hc).1, rfl⟩)
  | none =>
    cases row with
    | none => exact ⟨fun _ h => h, fun _ _ h => absurd h.symm (Option.some_ne_none _)⟩
    | some r =>
      have there : r.authColumns ∈ storeCopies s :=
        (mem_storeCopies s _).mpr (Or.inl ⟨r, known r rfl, rfl⟩)
      refine ⟨fun raw h => ?_, fun o raw h => ?_⟩
      · rcases (mem_storeCopies _ raw).mp h with rows | ⟨entry, mem, rfl⟩
        · exact (mem_storeCopies s raw).mpr (Or.inl rows)
        · rcases (mem_put _ _ _ _).mp mem with rfl | ⟨old, -⟩
          · exact there
          · exact (mem_storeCopies s _).mpr (Or.inr ⟨entry, old, rfl⟩)
      · obtain ⟨-, rfl⟩ := Prod.mk.inj (Option.some.inj h)
        exact there

structure LoadedFrom (raw : RawAuthUser) (u : AuthUser) : Prop where
  account : userAccount u = account raw
  verified : u.emailVerified = raw.emailVerified

theorem toDomain_loadedFrom (o : Origin) (clk : Clock) (raw : RawAuthUser) (u : AuthUser)
    (h : PrismaAuthUserMapper.toDomain o clk raw = .ok u) : LoadedFrom raw u := by
  obtain ⟨name, email, id, -, he, hi, -, rfl⟩ := (PrismaAuthUserMapper.toDomain_ok_iff _ _ _ _).mp h
  exact ⟨Prod.ext ((UserId.fromString_ok_iff _ _).mp hi) ((Email.create_ok_iff _ _).mp he), rfl⟩

def Queried (t : UsersTable) (e : UserAuthCacheKey × RawAuthUser) : Prop :=
  ∃ row ∈ t.rows, row.authColumns = e.2 ∧ ∀ userId, e.1 = .userById userId → row.id = userId

variable (services : Services) (key : SessionRaces.CacheKey) (who : String) (loading : Clock)

theorem queried_row (t : UsersTable) (e : UserAuthCacheKey × RawAuthUser)
    (h : queried services key who t = some e) : Queried t e := by
  cases key with
  | byId =>
    obtain ⟨row, found, rfl⟩ := Option.map_eq_some_iff.mp h
    obtain ⟨mem, named⟩ := t.findById_some who row found
    exact ⟨row, mem, rfl, fun userId same => named.trans (UserAuthCacheKey.userById.inj same)⟩
  | byEmail =>
    obtain ⟨row, found, rfl⟩ := Option.map_eq_some_iff.mp h
    obtain ⟨mem, -⟩ := t.findByEmail_some who row found
    exact ⟨row, mem, rfl, fun userId impossible => nomatch impossible⟩

theorem lookUp_copies (s : AuthStore) (raw : RawAuthUser)
    (h : raw ∈ storeCopies (lookUp services key who loading s).2) : raw ∈ storeCopies s := by
  cases key with
  | byId =>
    exact (wrap_copies _ _ s fun r hr => (UsersTable.findById_some _ _ r hr).1).1 raw h
  | byEmail =>
    exact (wrap_copies _ _ s fun r hr => (UsersTable.findByEmail_some _ _ r hr).1).1 raw h

theorem lookUp_loads (s : AuthStore) (u : AuthUser)
    (h : (lookUp services key who loading s).1 = .ok (some u)) :
    ∃ raw ∈ storeCopies s, LoadedFrom raw u := by
  cases key with
  | byId =>
    obtain ⟨o, raw, found, loads⟩ := (PrismaAuthUserRepository.load_some_iff _ _ u).mp h
    exact ⟨raw, (wrap_copies _ _ s fun r hr => (UsersTable.findById_some _ _ r hr).1).2 o raw found,
      toDomain_loadedFrom o loading raw u loads⟩
  | byEmail =>
    obtain ⟨o, raw, found, loads⟩ := (PrismaAuthUserRepository.load_some_iff _ _ u).mp h
    exact ⟨raw,
      (wrap_copies _ _ s fun r hr => (UsersTable.findByEmail_some _ _ r hr).1).2 o raw found,
      toDomain_loadedFrom o loading raw u loads⟩

theorem lookUp_table (s : AuthStore) :
    (lookUp services key who loading s).2.table = s.table := by
  cases key with
  | byId | byEmail => exact PrismaAuthUserRepository.wrap_table _ _ s

/-- A user that is found is loaded from a copy, whether the look-up is late or not. -/
theorem look_loads (how : Access) (s : Site) (u : AuthUser)
    (h : (look services how key who loading s).1 = .ok (some u)) :
    ∃ raw ∈ s.copies, LoadedFrom raw u := by
  cases how with
  | prompt =>
    obtain ⟨raw, mem, loaded⟩ := lookUp_loads services key who loading s.store u h
    exact ⟨raw, (mem_copies s raw).mpr (Or.inl mem), loaded⟩
  | late =>
    obtain ⟨o, raw, found, loads⟩ := (PrismaAuthUserRepository.load_some_iff _ _ u).mp h
    obtain ⟨e, asked, same⟩ := Option.map_eq_some_iff.mp found
    obtain ⟨-, rfl⟩ := Prod.mk.inj same
    obtain ⟨row, mem, copy, -⟩ := queried_row services key who s.store.table e asked
    exact ⟨e.2, copy ▸ row_copy s row mem, toDomain_loadedFrom o loading _ u loads⟩

theorem save_copies (s : AuthStore) (u : AuthUser) (s' : AuthStore) (raw : RawAuthUser)
    (saved : PrismaAuthUserRepository.save services.toLowerCase u s = .ok s')
    (h : raw ∈ storeCopies s') :
    raw ∈ storeCopies s ∨ raw = PrismaAuthUserMapper.toPersistence u := by
  obtain ⟨ht, hc⟩ := (PrismaAuthUserRepository.save_ok_iff _ u s s').mp saved
  have rows := (UsersTable.upsert_ok_iff _ _ _).mp ht
  rcases (mem_storeCopies s' raw).mp h with ⟨row, hr, rfl⟩ | ⟨entry, he, rfl⟩
  · rw [rows, UsersTable.upsertedRows] at hr
    rcases (mem_put _ _ _ _).mp hr with rfl | ⟨old, -⟩
    · exact Or.inr (UserRow.authColumns_savedAuthUser _ _)
    · exact Or.inl ((mem_storeCopies s _).mpr (Or.inl ⟨row, old, rfl⟩))
  · left
    rw [hc] at he
    split_ifs at he
    · exact (mem_storeCopies s _).mpr (Or.inr ⟨entry, he, rfl⟩)
    · have old := (PrismaAuthUserRepository.mem_invalidate _ _ _ _ _ he).1
      exact (mem_storeCopies s _).mpr (Or.inr ⟨entry, old, rfl⟩)

end Reads

section UseCaseResults

variable (clk : Clock) (u v : AuthUser)

theorem newUser_ok (newId : UserId) (hash : String) (c : RegisterCommand)
    (h : newUser newId hash clk c = .ok u) :
    userAccount u = (newId.getValue, c.email) ∧ u.emailVerified = false ∧ u.Announced := by
  simp only [newUser, bind_ok_iff] at h
  obtain ⟨_, -, name, -, email, he, made⟩ := h
  obtain ⟨id, props⟩ := AuthUser.factory_ok _ _ newId _ _ u made
  have kept : u.email = email := by rw [props]
  refine ⟨Prod.ext (congrArg UserId.getValue id) ?_, by rw [props],
    AuthUser.register_announced _ _ _ _ _ _ u made⟩
  exact (congrArg Email.getValue kept).trans ((Email.create_ok_iff _ _).mp he)

theorem googleUser_ok (p : GoogleSignIn.Profile) (c : GoogleSignIn.Call)
    (h : GoogleSignIn.newUser p c = .ok v) :
    userAccount v = (c.newId.getValue, p.email) ∧ v.Announced := by
  simp only [GoogleSignIn.newUser, bind_ok_iff] at h
  obtain ⟨email, he, name, -, w, made, signed⟩ := h
  obtain ⟨sameId, sameEmail, -⟩ := GoogleSignIn.recordOAuthLogin_identity w v _ _ _ signed
  obtain ⟨id, props⟩ := AuthUser.factory_ok _ _ c.newId _ _ w made
  have kept : w.email = email := by rw [props]
  refine ⟨Prod.ext (congrArg UserId.getValue (sameId.trans id)) ?_, ?_⟩
  · exact (congrArg Email.getValue (sameEmail.trans kept)).trans ((Email.create_ok_iff _ _).mp he)
  · obtain ⟨returns, rfl⟩ := (Outcome.toExcept_ok_iff _ _).mp signed
    exact AuthCommand.exec_announced (.recordOAuthLogin .google c.refreshToken p.avatarUrl) _ w
      returns

variable (found : Option AuthUser)

theorem mayVerify_ok (email : String) (r : Recipient) (h : mayVerify email found = .ok r) :
    ∃ w, found = some w ∧ w.canVerifyEmail = true ∧ r = recipient w := by
  cases found with
  | none => cases h
  | some w =>
    simp only [mayVerify] at h
    split_ifs at h with can
    exact ⟨w, rfl, can, (Except.ok.inj h).symm⟩

theorem tokenUser_ok (services : Services) (token : String) (tokens : List (String × String))
    (entry : String × String) (h : tokenUser services token tokens = .ok entry) :
    entry ∈ tokens ∧ entry.1 = services.hashToken token := by
  unfold tokenUser at h
  split at h
  · rename_i e stored
    obtain rfl := Except.ok.inj h
    exact find_some _ _ _ _ (Option.filter_eq_some_iff.mp stored).1
  · cases h

theorem verifyEmail_ok (userId : String) (h : verifyEmail userId clk found = .ok v) :
    ∃ w, found = some w ∧ w.canVerifyEmail = true ∧ userAccount v = userAccount w ∧
      v.emailVerified = true ∧ v.Announced := by
  cases found with
  | none => cases h
  | some w =>
    obtain ⟨returns, rfl⟩ := (Outcome.toExcept_ok_iff _ _).mp h
    have announced := AuthCommand.exec_announced .verifyEmail clk w returns
    refine ⟨w, rfl, ?_⟩
    change AuthUser.Announced (w.verifyEmail clk).state at announced
    unfold AuthUser.verifyEmail at returns announced ⊢
    by_cases can : w.canVerifyEmail = true
    · rw [if_neg (by simp [can])] at announced ⊢
      exact ⟨can, rfl, rfl, announced⟩
    · rw [if_pos (by simp [can])] at returns
      exact absurd returns (Outcome.not_returns_threw _ w)

theorem changeUser_ok (hasher : PasswordHasher) (q : SessionRaces.Request)
    (h : changeUser hasher q clk found = .ok v) :
    ∃ w, found = some w ∧ userAccount v = userAccount w ∧ v.emailVerified = w.emailVerified ∧
      v.Announced := by
  cases found with
  | none => cases h
  | some w =>
    obtain ⟨x, kept, ends⟩ := q.run_ends hasher clk w v h
    obtain ⟨id, email, verified⟩ := w.keepsAccount_trans x v kept (x.ends_keepsAccount v ends)
    obtain ⟨c, -, -, clk', returns, rfl⟩ := ends
    exact ⟨w, rfl, by rw [userAccount, id, email]; rfl, verified, c.exec_announced clk' x returns⟩

theorem editUser_ok (host : Host) (c : UserCommand) (loading : Clock) (raw : RawUser) (w : User)
    (h : editUser host c loading clk raw = .ok w) : profileAccount w = (raw.id, raw.email) := by
  simp only [editUser, bind_ok_iff, Outcome.toExcept_ok_iff] at h
  obtain ⟨loaded, loads, returns, rfl⟩ := h
  obtain ⟨-, email, id, -⟩ := PrismaUserMapper.toDomain_shared host loading raw loaded loads
  have moves := UserCommand.exec_moves host c clk loaded returns
  unfold profileAccount
  rw [moves.id, moves.email, id, email]

end UseCaseResults

section Stages

variable (i : ℕ) (s : Site)

theorem stage_mem (st : Stage) (h : stage i s = some st) : (i, st) ∈ s.stages := by
  obtain ⟨e, found, rfl⟩ := Option.map_eq_some_iff.mp h
  obtain ⟨mem, rfl⟩ := find_some _ _ _ _ found
  exact mem

theorem mem_proceed (next : Option Stage) (e : ℕ × Stage) (h : e ∈ (proceed i next s).stages) :
    next = some e.2 ∨ e ∈ s.stages := by
  unfold proceed at h
  cases next with
  | none => exact Or.inr ((mem_erase _ _ _ _).mp h).1
  | some st =>
    rcases (mem_put _ _ _ _).mp h with rfl | ⟨old, -⟩
    · exact Or.inl rfl
    · exact Or.inr old

theorem mem_enter (first : Except Error Stage) (e : ℕ × Stage)
    (h : e ∈ (enter i first s).stages) : first = .ok e.2 ∨ e ∈ s.stages := by
  unfold enter at h
  split at h
  · rename_i st _
    rcases mem_proceed i s (some st) e h with next | old
    · exact Or.inl (by rw [Option.some.inj next])
    · exact Or.inr old
  · exact Or.inr h

theorem enter_rest (first : Except Error Stage) :
    enter i first s = { s with stages := (enter i first s).stages } := by
  unfold enter
  split <;> rfl

end Stages

section Specification

variable (services : Services) (s : Site) (a : Action)

def Action.Prompt : Action → Prop
  | .resend _ _ how _ | .verify _ how _ _ | .signUp _ _ _ how | .change _ _ _ how _ _ =>
    how = .prompt
  | .save _ _ told => told = true
  | .saveProfile _ | .fill _ _ => False
  | _ => True

inductive StoreMove : AuthStore → Prop where
  | same : StoreMove s.store
  | lookedUp (key : SessionRaces.CacheKey) (who : String) (loading : Clock) :
      StoreMove (lookUp services key who loading s.store).2
  | saved (i : ℕ) (why : Purpose) (u : AuthUser) (held : (i, .changed why u) ∈ s.stages)
      (store : AuthStore)
      (written : PrismaAuthUserRepository.save services.toLowerCase u s.store = .ok store)
      (cached : List (UserAuthCacheKey × RawAuthUser))
      (dropped : cached = store.cached ∨ ¬ a.Prompt ∧ cached = s.store.cached) :
      StoreMove { store with cached := cached }
  | profiled (i : ℕ) (u : User) (held : (i, .profiled u) ∈ s.stages) (table : UsersTable)
      (written : s.store.table.write (UserCaches.userRow u s.store.table) = .ok table)
      (late : ¬ a.Prompt) : StoreMove { s.store with table := table }
  | filled (entry : UserAuthCacheKey × RawAuthUser) (mem : entry ∈ s.pending)
      (late : ¬ a.Prompt) :
      StoreMove { s.store with cached := put Prod.fst entry s.store.cached }
  | forgot (key : UserAuthCacheKey) :
      StoreMove { s.store with cached := erase Prod.fst key s.store.cached }

def Found (w : AuthUser) : Prop :=
  ∃ how key who loading, (look services how key who loading s).1 = .ok (some w)

def newAccount : Action → Option (String × String)
  | .createUser i newId _ _ =>
    match stage i s with
    | some (.checked c) => some (newId.getValue, c.email)
    | _ => none
  | .signUp _ p c _ => some (c.newId.getValue, p.email)
  | _ => none

inductive Reached (log : List Event) : Stage → Prop where
  | checked (c : RegisterCommand) : Reached log (.checked c)
  | created (u : AuthUser) (new : newAccount s a = some (userAccount u))
      (unverified : u.emailVerified = false) (announced : u.Announced) :
      Reached log (.changed .register u)
  | signedUp (u : AuthUser) (new : newAccount s a = some (userAccount u))
      (told : .vouched u.id.getValue u.email.getValue ∈ log) (announced : u.Announced) :
      Reached log (.changed .other u)
  | loaded (w u : AuthUser) (found : Found services s w) (same : userAccount u = userAccount w)
      (kept : u.emailVerified = w.emailVerified) (announced : u.Announced) :
      Reached log (.changed .other u)
  | verified (i : ℕ) (hashedToken userId : String) (how : Access) (loading : Clock)
      (w u : AuthUser) (held : (i, .read hashedToken userId) ∈ s.stages)
      (found : (look services how .byId userId loading s).1 = .ok (some w))
      (can : w.canVerifyEmail = true) (same : userAccount u = userAccount w)
      (now : u.emailVerified = true) (announced : u.Announced) :
      Reached log (.changed (.verifyEmail hashedToken) u)
  | profiled (raw : RawUser) (u : User) (held : raw ∈ s.profiles)
      (same : profileAccount u = (raw.id, raw.email)) : Reached log (.profiled u)
  | asked (w : AuthUser) (found : Found services s w) (can : w.canVerifyEmail = true) :
      Reached log (.owed (recipient w))
  | registered (i : ℕ) (u : AuthUser) (held : (i, .changed .register u) ∈ s.stages) :
      Reached log (.owed (recipient u))
  | stored (i : ℕ) (r : Recipient) (token : String) (held : (i, .owed r) ∈ s.stages)
      (told : .issued token r.userId r.address ∈ log) : Reached log (.stored r token)
  | read (i : ℕ) (token userId : String) (asked : a = .readToken i token)
      (known : (services.hashToken token, userId) ∈ s.tokens) (told : .presented token ∈ log) :
      Reached log (.read (services.hashToken token) userId)
  | closing (hashedToken : String) : Reached log (.verified hashedToken)

inductive Told : Event → Prop where
  | issued (i : ℕ) (r : Recipient) (token : String) (kept : Bool)
      (asked : a = .saveToken i token kept) (held : stage i s = some (.owed r)) :
      Told (.issued token r.userId r.address)
  | mailed (i : ℕ) (r : Recipient) (token : String) (held : (i, .stored r token) ∈ s.stages) :
      Told (.mailed token r.address)
  | presented (token : String) : Told (.presented token)
  | verified (i : ℕ) (hashedToken : String) (u : AuthUser)
      (held : (i, .changed (.verifyEmail hashedToken) u) ∈ s.stages) :
      Told (.verified hashedToken u.id.getValue u.email.getValue)
  | vouched (userId address : String) (new : newAccount s a = some (userId, address)) :
      Told (.vouched userId address)

structure Copied (t : Site) : Prop where
  store : StoreMove services s a t.store
  pending : ∀ e ∈ t.pending, e ∈ s.pending ∨ Queried s.store.table e
  profiles : ∀ raw ∈ t.profiles, raw ∈ s.profiles ∨
    ∃ row ∈ s.store.table.rows, row.userColumns = raw

structure Spec (s' : Site) : Prop extends Copied services s a s' where
  stages : ∀ e ∈ s'.stages, e ∈ s.stages ∨ Reached services s a s'.log e.2
  log : ∃ news, s'.log = news ++ s.log ∧ ∀ e ∈ news, Told s a e
  tokens : ∀ e ∈ s'.tokens, e ∈ s.tokens ∨ ∃ i token kept r, a = .saveToken i token kept ∧
    (i, .owed r) ∈ s.stages ∧ e = (services.hashToken token, r.userId) ∧
    .issued token r.userId r.address ∈ s'.log

theorem copied_move (t : Site) (store : StoreMove services s a t.store)
    (pending : t.pending = s.pending) (profiles : t.profiles = s.profiles) :
    Copied services s a t where
  store := store
  pending _ mem := Or.inl (pending ▸ mem)
  profiles _ mem := Or.inl (profiles ▸ mem)

theorem copied_refl : Copied services s a s := copied_move services s a s .same rfl rfl

theorem copied_look (how : Access) (key : SessionRaces.CacheKey) (who : String)
    (loading : Clock) : Copied services s a (look services how key who loading s).2 := by
  cases how with
  | prompt => exact copied_move services s a _ (.lookedUp key who loading) rfl rfl
  | late =>
    refine ⟨.same, fun e mem => ?_, fun _ mem => Or.inl mem⟩
    rcases List.mem_append.mp mem with new | old
    · exact Or.inr (queried_row services key who s.store.table e (Option.mem_toList.mp new))
    · exact Or.inl old

theorem look_rest (how : Access) (key : SessionRaces.CacheKey) (who : String) (loading : Clock) :
    (look services how key who loading s).2.stages = s.stages ∧
      (look services how key who loading s).2.tokens = s.tokens ∧
        (look services how key who loading s).2.log = s.log := by
  cases how <;> exact ⟨rfl, rfl, rfl⟩

theorem silent (t : Site) (log : t.log = s.log) :
    ∃ news, t.log = news ++ s.log ∧ ∀ e ∈ news, Told s a e :=
  ⟨[], log, fun _ mem => absurd mem List.not_mem_nil⟩

theorem telling (t : Site) (e : Event) (log : t.log = e :: s.log) (told : Told s a e) :
    ∃ news, t.log = news ++ s.log ∧ ∀ e ∈ news, Told s a e :=
  ⟨[e], log, fun _ mem => by rwa [List.mem_singleton.mp mem]⟩

theorem spec_copied (t : Site) (copied : Copied services s a t) (stages : t.stages = s.stages)
    (log : t.log = s.log) (tokens : ∀ e ∈ t.tokens, e ∈ s.tokens) : Spec services s a t where
  toCopied := copied
  stages _ mem := Or.inl (stages ▸ mem)
  log := silent s a t log
  tokens e mem := Or.inl (tokens e mem)

theorem spec_refl : Spec services s a s :=
  spec_copied services s a s (copied_refl services s a) rfl rfl fun _ mem => mem

theorem spec_kept (s' : Site) (spec : Spec services s a s') (e : Event) (h : e ∈ s.log) :
    e ∈ s'.log := by
  obtain ⟨news, log, -⟩ := spec.log
  rw [log]
  exact List.mem_append_right news h

theorem spec_told (s' : Site) (spec : Spec services s a s') (e : Event) (h : e ∈ s'.log) :
    e ∈ s.log ∨ Told s a e := by
  obtain ⟨news, log, told⟩ := spec.log
  rw [log] at h
  exact (List.mem_append.mp h).symm.imp_right (told e)

theorem spec_proceed (i : ℕ) (t : Site) (next : Option Stage)
    (copied : Copied services s a t) (stages : t.stages = s.stages)
    (reached : ∀ st, next = some st → Reached services s a t.log st)
    (log : ∃ news, t.log = news ++ s.log ∧ ∀ e ∈ news, Told s a e)
    (tokens : ∀ e ∈ t.tokens, e ∈ s.tokens) : Spec services s a (proceed i next t) where
  store := copied.store
  pending := copied.pending
  profiles := copied.profiles
  stages e mem := by
    rcases mem_proceed i t next e mem with new | old
    · exact Or.inr (reached e.2 new)
    · exact Or.inl (stages ▸ old)
  log := log
  tokens e mem := Or.inl (tokens e mem)

theorem spec_enter (i : ℕ) (t : Site) (first : Except Error Stage)
    (copied : Copied services s a t) (stages : t.stages = s.stages)
    (reached : ∀ st, first = .ok st → Reached services s a t.log st)
    (log : ∃ news, t.log = news ++ s.log ∧ ∀ e ∈ news, Told s a e)
    (tokens : t.tokens = s.tokens) : Spec services s a (enter i first t) := by
  have entered := mem_enter i t first
  rw [enter_rest i t first] at entered ⊢
  refine ⟨⟨copied.store, copied.pending, copied.profiles⟩, fun e mem => ?_, log, fun e mem => ?_⟩
  · rcases entered e mem with new | old
    · exact Or.inr (reached e.2 new)
    · exact Or.inl (stages ▸ old)
  · exact Or.inl (tokens ▸ mem)

variable (i : ℕ)

theorem checkEmail_spec (c : RegisterCommand) :
    Spec services s a (enter i (checkEmail c s.store.table) s) := by
  refine spec_enter services s a i s _ (copied_refl services s a) rfl (fun st h => ?_)
    (silent s a s rfl) rfl
  unfold checkEmail at h
  split_ifs at h
  obtain rfl := Except.ok.inj h
  exact .checked c

theorem createUser_spec (newId : UserId) (hash : String) (clk : Clock) :
    Spec services s (.createUser i newId hash clk) (createUser i newId hash clk s) := by
  unfold createUser
  split
  · rename_i c at_stage
    refine spec_proceed services s _ i s _ (copied_refl services s _) rfl (fun st h => ?_)
      (silent s _ s rfl) fun _ mem => mem
    obtain ⟨u, made, rfl⟩ := Option.map_eq_some_iff.mp h
    have created := newUser_ok clk u newId hash c ((toOption_eq_some_iff _ _).mp made)
    refine .created u ?_ created.2.1 created.2.2
    simp only [newAccount, at_stage, created.1]
  · exact spec_refl services s _

theorem resend_spec (email : String) (how : Access) (loading : Clock) :
    Spec services s a (resend services i email how loading s) := by
  obtain ⟨stages, tokens, log⟩ := look_rest services s how .byEmail email loading
  refine spec_enter services s a i _ _ (copied_look services s a how .byEmail email loading) stages
    (fun st h => ?_) (silent s a _ log) tokens
  obtain ⟨r, asked, rfl⟩ := (map_ok_iff _ _ _).mp h
  obtain ⟨found, load, may⟩ := (bind_ok_iff _ _ _).mp asked
  obtain ⟨w, rfl, can, rfl⟩ := mayVerify_ok found email r may
  exact .asked w ⟨_, _, _, _, load⟩ can

theorem saveToken_spec (token : String) (kept : Bool) :
    Spec services s (.saveToken i token kept) (saveToken services i token kept s) := by
  unfold saveToken
  split
  · rename_i r at_stage
    have held := stage_mem i s _ at_stage
    refine ⟨copied_move services s _ _ .same rfl rfl, fun e mem => ?_,
      telling s _ _ _ rfl (.issued i r token kept rfl at_stage), fun e mem => ?_⟩
    · rcases mem_proceed i _ _ e mem with new | old
      · right
        obtain ⟨j, st⟩ := e
        obtain rfl := Option.some.inj new
        exact .stored i r token held List.mem_cons_self
      · exact Or.inl old
    · change e ∈ (if kept then _ else _) at mem
      split_ifs at mem
      · rcases (mem_put _ _ _ _).mp mem with rfl | ⟨old, -⟩
        · exact Or.inr ⟨i, token, kept, r, rfl, held, rfl, List.mem_cons_self⟩
        · exact Or.inl old
      · exact Or.inl mem
  · exact spec_refl services s _

theorem spec_end (t : Site) (copied : Copied services s a t) (stages : t.stages = s.stages)
    (log : ∃ news, t.log = news ++ s.log ∧ ∀ e ∈ news, Told s a e)
    (tokens : ∀ e ∈ t.tokens, e ∈ s.tokens) : Spec services s a (proceed i none t) :=
  spec_proceed services s a i t none copied stages
    (fun st h => absurd h.symm (Option.some_ne_none st)) log tokens

theorem sendMail_spec : Spec services s a (sendMail i s) := by
  unfold sendMail
  split
  · rename_i r token at_stage
    exact spec_end services s a i _ (copied_move services s a _ .same rfl rfl) rfl
      (telling s a _ _ rfl (.mailed i r token (stage_mem i s _ at_stage))) fun _ mem => mem
  · exact spec_refl services s a

theorem readToken_spec (token : String) :
    Spec services s (.readToken i token) (readToken services i token s) := by
  refine spec_enter services s _ i _ _ (copied_move services s _ _ .same rfl rfl) rfl
    (fun st h => ?_) (telling s _ _ _ rfl (.presented token)) rfl
  obtain ⟨entry, known, rfl⟩ := (map_ok_iff _ _ _).mp h
  obtain ⟨mem, named⟩ := tokenUser_ok services token s.tokens entry known
  rw [named]
  exact .read i token entry.2 rfl (by rwa [← named]) List.mem_cons_self

theorem verify_spec (how : Access) (loading clk : Clock) :
    Spec services s a (verify services i how loading clk s) := by
  unfold verify
  split
  · rename_i hashedToken userId at_stage
    obtain ⟨stages, tokens, log⟩ := look_rest services s how .byId userId loading
    refine spec_proceed services s a i _ _ (copied_look services s a how .byId userId loading)
      stages (fun st h => ?_) (silent s a _ log) fun _ mem => tokens ▸ mem
    obtain ⟨v, changed, rfl⟩ := Option.map_eq_some_iff.mp h
    obtain ⟨found, load, verified⟩ := (bind_ok_iff _ _ _).mp ((toOption_eq_some_iff _ _).mp changed)
    obtain ⟨w, rfl, can, same, now, announced⟩ := verifyEmail_ok clk v found userId verified
    exact .verified i hashedToken userId how loading w v (stage_mem i s _ at_stage) load can same
      now announced
  · exact spec_refl services s a

theorem signUp_spec (p : GoogleSignIn.Profile) (c : GoogleSignIn.Call) (how : Access) :
    Spec services s (.signUp i p c how) (signUp services i p c how s) := by
  obtain ⟨stages, tokens, log⟩ := look_rest services s how .byEmail p.email c.loading
  have copied := copied_look services s (.signUp i p c how) how .byEmail p.email c.loading
  unfold signUp
  dsimp only
  split
  · refine spec_enter services s _ i _ _ ⟨copied.store, copied.pending, copied.profiles⟩ stages
      (fun st h => ?_) (telling s _ _ _ rfl (.vouched _ _ rfl)) tokens
    obtain ⟨v, made, rfl⟩ := (map_ok_iff _ _ _).mp h
    obtain ⟨created, announced⟩ := googleUser_ok v p c made
    refine .signedUp v (congrArg some created.symm) ?_ announced
    obtain ⟨id, email⟩ := Prod.mk.inj created
    rw [id, email]
    exact List.mem_cons_self
  · exact spec_copied services s _ _ copied stages log fun _ mem => tokens ▸ mem

theorem change_spec (who : String) (q : SessionRaces.Request) (how : Access)
    (loading clk : Clock) : Spec services s a (change services i who q how loading clk s) := by
  obtain ⟨stages, tokens, log⟩ := look_rest services s how q.key who loading
  refine spec_enter services s a i _ _ (copied_look services s a how q.key who loading) stages
    (fun st h => ?_) (silent s a _ log) tokens
  obtain ⟨v, asked, rfl⟩ := (map_ok_iff _ _ _).mp h
  obtain ⟨found, load, changed⟩ := (bind_ok_iff _ _ _).mp asked
  obtain ⟨w, rfl, same, kept, announced⟩ := changeUser_ok clk v found services.hasher q changed
  exact .loaded w v ⟨_, _, _, _, load⟩ same kept announced

theorem save_spec (audited told : Bool) :
    Spec services s (.save i audited told) (save services i audited told s) := by
  unfold save
  split
  · rename_i why u at_stage
    have held := stage_mem i s _ at_stage
    split
    · rename_i store written
      refine spec_proceed services s _ i _ _ (copied_move services s _ _ ?_ rfl rfl) rfl
        (fun st h => ?_) ⟨why.record u, rfl, fun e mem => ?_⟩ fun _ mem => mem
      · cases told with
        | true => exact .saved i why u held store written store.cached (Or.inl rfl)
        | false =>
          exact .saved i why u held store written s.store.cached
            (Or.inr ⟨Bool.false_ne_true, rfl⟩)
      · cases audited with
        | false => cases h
        | true =>
          cases why with
          | register =>
            obtain rfl := Option.some.inj h
            exact .registered i u held
          | verifyEmail hashedToken =>
            obtain rfl := Option.some.inj h
            exact .closing hashedToken
          | other => cases h
      · cases why with
        | verifyEmail hashedToken =>
          obtain rfl := List.mem_singleton.mp mem
          exact .verified i hashedToken u held
        | register | other => cases mem
    · exact spec_end services s _ i s (copied_refl services s _) rfl (silent s _ s rfl)
        fun _ mem => mem
  · exact spec_refl services s _

theorem invalidate_spec (removed : Bool) : Spec services s a (invalidate i removed s) := by
  unfold invalidate
  split
  · refine spec_end services s a i _ (copied_move services s a _ .same rfl rfl) rfl
      (silent s a _ rfl) fun e mem => ?_
    change e ∈ (if removed then _ else _) at mem
    split_ifs at mem
    · exact ((mem_erase _ _ _ _).mp mem).1
    · exact mem
  · exact spec_refl services s a

theorem readProfile_spec (userId : String) :
    Spec services s a (step services s (.readProfile userId)) := by
  refine spec_copied services s a _ ⟨.same, fun _ mem => Or.inl mem, fun raw mem => ?_⟩ rfl rfl
    fun _ mem => mem
  rcases List.mem_append.mp mem with new | old
  · obtain ⟨row, found, rfl⟩ := Option.map_eq_some_iff.mp (Option.mem_toList.mp new)
    exact Or.inr ⟨row, (UsersTable.findById_some _ _ row found).1, rfl⟩
  · exact Or.inl old

theorem changeProfile_spec (copy : ℕ) (host : Host) (c : UserCommand) (loading clk : Clock) :
    Spec services s a (changeProfile i copy host c loading clk s) := by
  unfold changeProfile
  split
  · rename_i raw taken
    refine spec_enter services s a i s _ (copied_refl services s a) rfl (fun st h => ?_)
      (silent s a s rfl) rfl
    obtain ⟨u, edited, rfl⟩ := (map_ok_iff _ _ _).mp h
    exact .profiled raw u (List.mem_of_getElem? taken) (editUser_ok clk host c loading raw u edited)
  · exact spec_refl services s a

theorem saveProfile_spec : Spec services s (.saveProfile i) (saveProfile i s) := by
  unfold saveProfile
  split
  · rename_i u at_stage
    split
    · rename_i table written
      have late : ¬ Action.Prompt (.saveProfile i) := id
      exact spec_end services s _ i _ (copied_move services s _ _
        (.profiled i u (stage_mem i s _ at_stage) table written late) rfl rfl) rfl
        (silent s _ _ rfl) fun _ mem => mem
    · exact spec_end services s _ i s (copied_refl services s _) rfl (silent s _ s rfl)
        fun _ mem => mem
  · exact spec_refl services s _

theorem fill_spec (n : ℕ) (kept : Bool) : Spec services s (.fill n kept) (fill n kept s) := by
  unfold fill
  split
  · rename_i entry taken
    have late : ¬ Action.Prompt (.fill n kept) := id
    refine spec_copied services s _ _ ⟨?_, fun e mem => Or.inl (List.mem_of_mem_eraseIdx mem),
      fun _ mem => Or.inl mem⟩ rfl rfl fun _ mem => mem
    cases kept with
    | true => exact .filled entry (List.mem_of_getElem? taken) late
    | false => exact .same
  · exact spec_refl services s _

theorem step_spec : Spec services s a (step services s a) := by
  cases a with
  | checkEmail i c => exact checkEmail_spec services s _ i c
  | createUser i newId hash clk => exact createUser_spec services s i newId hash clk
  | resend i email how loading => exact resend_spec services s _ i email how loading
  | saveToken i token kept => exact saveToken_spec services s i token kept
  | sendMail i => exact sendMail_spec services s _ i
  | readToken i token => exact readToken_spec services s i token
  | verify i how loading clk => exact verify_spec services s _ i how loading clk
  | signUp i p c how => exact signUp_spec services s i p c how
  | change i who q how loading clk => exact change_spec services s _ i who q how loading clk
  | save i audited told => exact save_spec services s i audited told
  | invalidate i removed => exact invalidate_spec services s _ i removed
  | readProfile userId => exact readProfile_spec services s _ userId
  | changeProfile i copy host c loading clk =>
    exact changeProfile_spec services s _ i copy host c loading clk
  | saveProfile i => exact saveProfile_spec services s i
  | fill n kept => exact fill_spec services s n kept
  | expire hashedToken =>
    exact spec_copied services s _ _ (copied_move services s _ _ .same rfl rfl) rfl rfl
      fun e mem => ((mem_erase _ _ _ _).mp mem).1
  | forget key =>
    exact spec_copied services s _ _ (copied_move services s _ _ (.forgot key) rfl rfl) rfl rfl
      fun _ mem => mem
  | abandon i =>
    exact spec_end services s _ i s (copied_refl services s _) rfl (silent s _ s rfl)
      fun _ mem => mem

variable (s' : Site) (spec : Spec services s a s')
include spec

/-- A copy that a step leaves was there before, or is the user that one of the modules
saves. -/
theorem spec_copies (raw : RawAuthUser) (h : raw ∈ s'.copies) : raw ∈ s.copies ∨
    (∃ i why u, (i, .changed why u) ∈ s.stages ∧ raw = PrismaAuthUserMapper.toPersistence u) ∨
      ∃ i u, (i, .profiled u) ∈ s.stages ∧
        raw = (UserCaches.userRow u s.store.table).authColumns := by
  rcases (mem_copies s' raw).mp h with here | ⟨entry, mem, rfl⟩
  · have known : ∀ r ∈ storeCopies s.store, r ∈ s.copies :=
      fun r mem => (mem_copies s r).mpr (Or.inl mem)
    have cached : ∀ entry ∈ s.store.cached, entry.2 ∈ s.copies :=
      fun entry mem => known _ ((mem_storeCopies _ _).mpr (Or.inr ⟨entry, mem, rfl⟩))
    generalize s'.store = store, spec.store = move at here
    cases move with
    | same => exact Or.inl (known raw here)
    | lookedUp key who loading =>
      exact Or.inl (known raw (lookUp_copies services key who loading s.store raw here))
    | saved i why u held store written cached' dropped =>
      rcases (mem_storeCopies _ raw).mp here with rows | ⟨entry, mem, rfl⟩
      · rcases save_copies services s.store u store raw written
          ((mem_storeCopies _ _).mpr (Or.inl rows)) with old | rfl
        · exact Or.inl (known raw old)
        · exact Or.inr (Or.inl ⟨i, why, u, held, rfl⟩)
      · rcases dropped with rfl | ⟨-, rfl⟩
        · rcases save_copies services s.store u store entry.2 written
            ((mem_storeCopies _ _).mpr (Or.inr ⟨entry, mem, rfl⟩)) with old | same
          · exact Or.inl (known _ old)
          · exact Or.inr (Or.inl ⟨i, why, u, held, same⟩)
        · exact Or.inl (cached entry mem)
    | profiled i u held table written late =>
      rcases (mem_storeCopies _ raw).mp here with ⟨row, hr, rfl⟩ | ⟨entry, mem, rfl⟩
      · rw [(UsersTable.write_ok_iff _ _ _).mp written] at hr
        rcases (mem_put _ _ _ _).mp hr with rfl | ⟨old, -⟩
        · exact Or.inr (Or.inr ⟨i, u, held, rfl⟩)
        · exact Or.inl (row_copy s row old)
      · exact Or.inl (cached entry mem)
    | filled entry mem late =>
      rcases (mem_storeCopies _ raw).mp here with rows | ⟨e, there, rfl⟩
      · exact Or.inl (known raw ((mem_storeCopies _ _).mpr (Or.inl rows)))
      · rcases (mem_put _ _ _ _).mp there with rfl | ⟨old, -⟩
        · exact Or.inl ((mem_copies s _).mpr (Or.inr ⟨e, mem, rfl⟩))
        · exact Or.inl (cached e old)
    | forgot key =>
      rcases (mem_storeCopies _ raw).mp here with rows | ⟨e, there, rfl⟩
      · exact Or.inl (known raw ((mem_storeCopies _ _).mpr (Or.inl rows)))
      · exact Or.inl (cached e ((mem_erase _ _ _ _).mp there).1)
  · rcases spec.pending entry mem with old | ⟨row, hr, same, -⟩
    · exact Or.inl ((mem_copies s _).mpr (Or.inr ⟨entry, old, rfl⟩))
    · exact Or.inl (same ▸ row_copy s row hr)

end Specification

end EmailVerification

end KeramikStore
