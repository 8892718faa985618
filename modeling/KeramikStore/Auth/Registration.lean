import KeramikStore.Auth.VerificationOutcome

/-!
# From a registration to a verified account

A registration that nothing interrupts goes through just when nobody has its e-mail and
the password, the name and the e-mail are accepted; otherwise it leaves no row, no token
and no mail. The token that it mails verifies the new account just when the mapper reads
the stored name and hash back: the registration itself never checks that.
-/

set_option autoImplicit false

namespace KeramikStore.EmailVerification
open Library Library.Runs Library.KeyedTable
open PasswordReset (Services)

structure Valid (c : RegisterCommand) (name : Name) (email : Email) : Prop where
  password : Password.validateRaw c.password = .ok ()
  name : Name.create c.fullName = .ok name
  email : Email.create c.email = .ok email

section NewUsers

variable (newId : UserId) (hash : String) (clk : Clock) (c : RegisterCommand) (name : Name)
  (email : Email)

def registeredProps : AuthUserProps where
  name := name
  email := email
  emailVerified := false
  emailVerifiedAt := none
  password := some (.fromHash hash)
  role := .customer
  status := .inactive
  providers := []
  lastLoginAt := none
  refreshTokens := []
  createdAt := clk.read 0
  updatedAt := clk.read 1
  deletedAt := none

def registeredUser : AuthUser :=
  { registeredProps hash clk name email with
    id := newId, domainEvents := [.userRegistered newId.getValue email.getValue] }

theorem registered_dated : Dated (clk.read 1) (registeredProps hash clk name email) where
  verified := nofun
  login := nofun
  created := clk.ordered 0 1 (Nat.zero_le 1)
  updated := le_rfl
  deleted := nofun

theorem registered_coupled : Coupled (registeredProps hash clk name email) where
  providers_verified some_provider := absurd rfl some_provider
  verified_active verified := absurd verified Bool.false_ne_true
  verified_dated := rfl
  tokens_active some_token := absurd rfl some_token
  tokens_text _ mem := absurd mem List.not_mem_nil
  deleted_dated := rfl

theorem register_eq : AuthUser.register newId name email (.fromHash hash) (some .customer) clk =
    .ok (registeredUser newId hash clk name email) := by
  have past : clk.read 1 ≤ (clk.skip 2).start := clk.ordered 1 2 (Nat.le_succ 1)
  have valid := (validate_iff_coupled .database (clk.skip 2) (clk.read 1) _
    (registered_dated hash clk name email) past).mpr (registered_coupled hash clk name email)
  have made : AuthUser.construct .database (clk.skip 2) newId
      (registeredProps hash clk name email) =
      .ok { registeredProps hash clk name email with id := newId, domainEvents := [] } :=
    (AuthUser.construct_ok_iff _ _ _ _ _).mpr ⟨valid, rfl⟩
  exact (bind_ok_iff _ _ _).mpr ⟨_, made, rfl⟩

theorem newUser_ok_iff (u : AuthUser) : newUser newId hash clk c = .ok u ↔
    ∃ name email, Valid c name email ∧ u = registeredUser newId hash clk name email := by
  simp only [newUser, bind_ok_iff, register_eq]
  constructor
  · rintro ⟨_, password, name, hn, email, he, made⟩
    exact ⟨name, email, ⟨password, hn, he⟩, (Except.ok.inj made).symm⟩
  · rintro ⟨name, email, ⟨password, hn, he⟩, rfl⟩
    exact ⟨(), password, name, hn, email, he, rfl⟩

end NewUsers

/-- A row with a new identifier and a new e-mail, and without providers, can be added. -/
theorem upsert_inserts (raw : RawAuthUser) (t : UsersTable)
    (newId : ∀ row ∈ t.rows, row.id ≠ raw.id) (newEmail : ∀ row ∈ t.rows, row.email ≠ raw.email)
    (plain : raw.authProviders = []) :
    ∃ t', t.upsert raw = .ok t' ∧ t'.rows = put UserRow.id (.createAuthUser raw) t.rows := by
  have absent : t.findById raw.id = none := by
    refine Option.eq_none_iff_forall_ne_some.mpr fun row found => ?_
    obtain ⟨mem, named⟩ := t.findById_some raw.id row found
    exact newId row mem named
  have unique : UniqueColumns (put UserRow.id (.createAuthUser raw) t.rows) := by
    constructor
    · refine uniqueBy_insert _ _ t.rows t.unique.id _ (List.nodup_singleton _) ?_
      intro row mem x hx same
      obtain rfl := List.mem_singleton.mp hx
      exact newId row mem (List.mem_singleton.mp same).symm
    · refine uniqueBy_insert _ _ t.rows t.unique.email _ (List.nodup_singleton _) ?_
      intro row mem x hx same
      obtain rfl := List.mem_singleton.mp hx
      exact newEmail row mem (List.mem_singleton.mp same).symm
    · have none_linked : (UserRow.createAuthUser raw).providerIds = [] := by
        unfold UserRow.providerIds UserRow.createAuthUser
        rw [plain]
        rfl
      refine uniqueBy_insert _ _ t.rows t.unique.provider _ ?_ ?_
      · rw [none_linked]
        exact List.nodup_nil
      · intro row mem x hx
        rw [none_linked] at hx
        cases hx
  refine ⟨⟨_, unique⟩, (t.upsert_ok_iff raw _).mpr ?_, rfl⟩
  unfold UsersTable.upsertedRows
  rw [absent]
  rfl

section Requests

variable (services : Services) (s : Site) (i : ℕ) (c : RegisterCommand) (newId : UserId)
  (hash : String) (clk : Clock) (token : String)

/-- A registration from its first step to its last; the audit entry is written and the cache
does what it is asked to do. -/
def registration : List Action :=
  [.checkEmail i c, .createUser i newId hash clk, .save i true true, .saveToken i token true,
    .sendMail i]

structure Registers (u : AuthUser) (s' : Site) : Prop where
  rows : s'.store.table.rows = put UserRow.id
    (.createAuthUser (PrismaAuthUserMapper.toPersistence u)) s.store.table.rows
  tokens : s'.tokens = put Prod.fst (services.hashToken token, u.id.getValue) s.tokens
  ended : stage i s' = none
  log : s'.log = .mailed token c.email :: .issued token u.id.getValue c.email :: s.log

structure Rejects (s' : Site) : Prop where
  store : s'.store = s.store
  tokens : s'.tokens = s.tokens
  log : s'.log = s.log

theorem isEmailExisting_iff (email : String) (t : UsersTable) :
    isEmailExisting email t = true ↔ ∃ row ∈ t.rows, row.email = email := by
  simp [isEmailExisting, List.length_pos_iff_exists_mem]

theorem registration_rejected (free : stage i s = none)
    (h : (∃ row ∈ s.store.table.rows, row.email = c.email) ∨ ∀ name email, ¬ Valid c name email) :
    Rejects s (after (step services) s (registration i c newId hash clk token)) := by
  by_cases taken : isEmailExisting c.email s.store.table = true
  · have check : step services s (.checkEmail i c) = s := by
      change enter i (checkEmail c s.store.table) s = s
      unfold checkEmail
      rw [if_pos taken]
      exact enter_error i s _
    have done : after (step services) s (registration i c newId hash clk token) = s := by
      rw [registration, after_cons, check]
      exact after_ended services i s free _ (by simp [Action.continued])
    rw [done]
    exact ⟨rfl, rfl, rfl⟩
  · have invalid := h.resolve_left fun found => taken ((isEmailExisting_iff _ _).mpr found)
    have check : step services s (.checkEmail i c) = proceed i (some (.checked c)) s := by
      change enter i (checkEmail c s.store.table) s = _
      unfold checkEmail
      rw [if_neg taken]
      exact enter_free i s _ free
    have fails : (newUser newId hash clk c).toOption = none := by
      refine Option.eq_none_iff_forall_ne_some.mpr fun u made => ?_
      obtain ⟨name, email, valid, -⟩ :=
        (newUser_ok_iff newId hash clk c u).mp ((toOption_eq_some_iff _ _).mp made)
      exact invalid name email valid
    have ends : createUser i newId hash clk (proceed i (some (.checked c)) s) =
        proceed i none (proceed i (some (.checked c)) s) := by
      unfold createUser
      rw [stage_proceed]
      dsimp only
      rw [fails]
      rfl
    have done : after (step services) s (registration i c newId hash clk token) =
        proceed i none (proceed i (some (.checked c)) s) := by
      rw [registration, after_cons, check, after_cons]
      change after (step services)
        (createUser i newId hash clk (proceed i (some (.checked c)) s)) _ = _
      rw [ends]
      exact after_ended services i _ (stage_proceed i _ none) _ (by simp [Action.continued])
    rw [done]
    exact ⟨rfl, rfl, rfl⟩

theorem registration_accepted (free : stage i s = none)
    (fresh : ∀ row ∈ s.store.table.rows, row.id ≠ newId.getValue)
    (nobody : ∀ row ∈ s.store.table.rows, row.email ≠ c.email) (name : Name) (email : Email)
    (valid : Valid c name email) :
    Registers services s i c token (registeredUser newId hash clk name email)
      (after (step services) s (registration i c newId hash clk token)) := by
  have address : email.getValue = c.email := (Email.create_ok_iff _ _).mp valid.email
  have taken : isEmailExisting c.email s.store.table ≠ true := fun found => by
    obtain ⟨row, hr, same⟩ := (isEmailExisting_iff _ _).mp found
    exact nobody row hr same
  generalize hu : registeredUser newId hash clk name email = u
  have made : (newUser newId hash clk c).toOption = some u :=
    (toOption_eq_some_iff _ _).mpr
      ((newUser_ok_iff newId hash clk c u).mpr ⟨name, email, valid, hu.symm⟩)
  have account : userAccount u = (newId.getValue, c.email) := by
    rw [← hu, ← address]
    rfl
  obtain ⟨own, mail⟩ := Prod.mk.inj account
  obtain ⟨table, inserted, rows⟩ := upsert_inserts (PrismaAuthUserMapper.toPersistence u)
    s.store.table (fun row hr same => fresh row hr (same.trans own))
    (fun row hr same => nobody row hr (same.trans mail)) (by rw [← hu]; rfl)
  obtain ⟨store, saved⟩ := (PrismaAuthUserRepository.save_succeeds_iff services.toLowerCase u
    s.store).mpr ⟨table, inserted⟩
  have kept : store.table = table := by
    obtain ⟨written, -⟩ := (PrismaAuthUserRepository.save_ok_iff _ u s.store store).mp saved
    exact Except.ok.inj (written.symm.trans inserted)
  have checks : enter i (checkEmail c s.store.table) s = proceed i (some (.checked c)) s := by
    unfold checkEmail
    rw [if_neg taken]
    exact enter_free i s _ free
  have creates : ∀ t : Site, createUser i newId hash clk (proceed i (some (.checked c)) t) =
      proceed i (some (.changed .register u)) (proceed i (some (.checked c)) t) := by
    intro t
    unfold createUser
    rw [stage_proceed]
    dsimp only
    rw [made]
    rfl
  have saves : ∀ t : Site, t.store = s.store →
      save services i true true (proceed i (some (.changed .register u)) t) =
        proceed i (some (.owed (recipient u)))
          { proceed i (some (.changed .register u)) t with store := store } := by
    intro t same
    unfold save
    rw [stage_proceed]
    dsimp only [proceed]
    rw [same, saved]
    rfl
  have issues : ∀ (t : Site) (r : Recipient),
      saveToken services i token true (proceed i (some (.owed r)) t) =
        proceed i (some (.stored r token))
          { proceed i (some (.owed r)) t with
            tokens := put Prod.fst (services.hashToken token, r.userId) t.tokens
            log := .issued token r.userId r.address :: t.log } := by
    intro t r
    unfold saveToken
    rw [stage_proceed]
    rfl
  have mails : ∀ (t : Site) (r : Recipient), sendMail i (proceed i (some (.stored r token)) t) =
      proceed i none { proceed i (some (.stored r token)) t with
        log := .mailed token r.address :: t.log } := by
    intro t r
    unfold sendMail
    rw [stage_proceed]
    rfl
  simp only [registration, after_cons, after_nil, step, checks, creates]
  rw [saves]
  · rw [issues, mails]
    refine ⟨?_, rfl, stage_proceed i _ none, ?_⟩
    · rw [← rows, ← kept]
      rfl
    · rw [← mail]
      rfl
  · rfl

end Requests

/-- A registration that nothing interrupts registers the customer if nobody has the e-mail
and the inputs are valid, and otherwise leaves no trace. -/
theorem uninterrupted_registration (services : Services) (s : Site) (i : ℕ) (c : RegisterCommand)
    (newId : UserId) (hash : String) (clk : Clock) (token : String) (free : stage i s = none)
    (fresh : ∀ row ∈ s.store.table.rows, row.id ≠ newId.getValue) :
    (∀ name email, (∀ row ∈ s.store.table.rows, row.email ≠ c.email) → Valid c name email →
        Registers services s i c token (registeredUser newId hash clk name email)
          (after (step services) s (registration i c newId hash clk token))) ∧
      (((∃ row ∈ s.store.table.rows, row.email = c.email) ∨ ∀ name email, ¬ Valid c name email) →
        Rejects s (after (step services) s (registration i c newId hash clk token))) :=
  ⟨fun name email nobody => registration_accepted services s i c newId hash clk token free fresh
      nobody name email,
    registration_rejected services s i c newId hash clk token free⟩

section RoundTrip

variable (services : Services) (s : Site) (i : ℕ) (c : RegisterCommand) (newId : UserId)
  (hash : String) (clk : Clock) (token : String)

theorem id_nonempty (id : UserId) : id.getValue ≠ "" := by
  intro empty
  have accepted : UserId.regex.test "" = true := empty ▸ id.accepted
  exact absurd accepted (by decide)

theorem registration_consistent (consistent : Consistent services s)
    (fresh : ∀ p ∈ s.accounts, p.1 ≠ newId.getValue) :
    Consistent services (after (step services) s (registration i c newId hash clk token)) := by
  have known : ∀ p ∈ (step services s (.checkEmail i c)).accounts, p ∈ s.accounts := by
    intro p hp
    rcases spec_accounts services s _ _ (step_spec services s (.checkEmail i c)) p hp with old | new
    · exact old
    · cases new
  have along : Along (step services) (fun t a => FreshIds t a ∧ a.Prompt) s
      (registration i c newId hash clk token) := by
    have plain : ∀ (t : Site) (a : Action), a.newId = none → FreshIds t a := by
      intro t a none id named
      rw [none] at named
      cases named
    refine ⟨⟨plain _ _ rfl, trivial⟩, ⟨?_, trivial⟩, ⟨plain _ _ rfl, rfl⟩, ⟨plain _ _ rfl, trivial⟩,
      ⟨plain _ _ rfl, trivial⟩, trivial⟩
    intro id same p hp
    obtain rfl := Option.some.inj same
    exact fresh p (known p hp)
  exact throughout_end _ _ _ _ <| throughout_of_step (step services) _ _
    (fun t a h new => spec_consistent services t _ a (step_spec services t a) h new.1 new.2) _ _
    consistent along

theorem registered_loads_iff (o : Origin) (loading : Clock) (name : Name) (email : Email)
    (later : clk.read 1 ≤ loading.start) :
    (∃ u, PrismaAuthUserMapper.toDomain o loading (PrismaAuthUserMapper.toPersistence
        (registeredUser newId hash clk name email)) = .ok u ∧ u.canVerifyEmail = true) ↔
      (∃ again, Name.create name.getFullName = .ok again) ∧ hash ≠ "" := by
  constructor
  · rintro ⟨u, loads, can⟩
    obtain ⟨again, address, id, hn, -, -, -, rfl⟩ :=
      (PrismaAuthUserMapper.toDomain_ok_iff _ _ _ u).mp loads
    refine ⟨⟨again, hn⟩, ?_⟩
    rintro rfl
    cases can
  · rintro ⟨⟨again, hn⟩, nonempty⟩
    have dated : Dated (clk.read 1) (registeredProps hash clk again email) :=
      registered_dated hash clk again email
    have valid := (validate_iff_coupled o loading (clk.read 1) _ dated later).mpr
      (registered_coupled hash clk again email)
    have props : PrismaAuthUserMapper.propsOf (PrismaAuthUserMapper.toPersistence
        (registeredUser newId hash clk name email)) again email =
          registeredProps hash clk again email := by
      have password := (PrismaAuthUserMapper.password_kept_iff (some (.fromHash hash))).mpr
        (fun empty => nonempty (congrArg Password.value (Option.some.inj empty)))
      unfold PrismaAuthUserMapper.propsOf registeredProps
      simp only [PrismaAuthUserMapper.toPersistence, registeredUser, registeredProps, password,
        EnumMapper.toEntity_toPersistence, List.map_nil]
    refine ⟨{ registeredProps hash clk again email with id := newId, domainEvents := [] },
      (PrismaAuthUserMapper.toDomain_ok_iff _ _ _ _).mpr ⟨again, email, newId, hn,
        Email.create_getValue email, UserId.fromString_getValue newId, ?_, ?_⟩, rfl⟩
    · rw [props]
      exact valid
    · rw [props]

theorem mailed_tokenUser (userId : String) (tokens : List (String × String))
    (nonempty : userId ≠ "") :
    tokenUser services token (put Prod.fst (services.hashToken token, userId) tokens) =
      .ok (services.hashToken token, userId) := by
  unfold tokenUser
  have found := find_put_same Prod.fst (services.hashToken token, userId) tokens
  have kept : (some (services.hashToken token, userId)).filter (fun e => e.2 != "") =
      some (services.hashToken token, userId) :=
    Option.filter_eq_some_iff.mpr ⟨rfl, by simpa using nonempty⟩
  simp only [found, kept]

theorem lookUp_row (loading : Clock) (store : AuthStore) (row : UserRow)
    (hr : row ∈ store.table.rows)
    (coherent : PrismaAuthUserRepository.Coherent services.toLowerCase store) :
    ∃ o, (lookUp services .byId row.id loading store).1 =
      (PrismaAuthUserMapper.toDomain o loading row.authColumns).map some := by
  have held : store.table.findById row.id = some row :=
    (find_eq_some_iff _ _ store.table.unique.id row.id row).mpr ⟨hr, rfl⟩
  change ∃ o, PrismaAuthUserRepository.load loading (PrismaAuthUserRepository.wrap
    (.userById row.id) (store.table.findById row.id) store).1 = _
  unfold PrismaAuthUserRepository.wrap
  cases hc : find Prod.fst (UserAuthCacheKey.userById row.id) store.cached with
  | none =>
    rw [held]
    exact ⟨.database, rfl⟩
  | some entry =>
    obtain ⟨mem, named⟩ := find_some _ _ _ _ hc
    obtain ⟨r, hr', copy, holds⟩ := coherent entry mem
    rw [named] at holds
    obtain rfl := store.table.eq_of_id r row hr' hr holds
    exact ⟨.cache, by rw [copy]; rfl⟩

/-- The token that a registration mails verifies the new account just when the stored
name is accepted again and the hash is not empty. -/
theorem registered_verifies_iff (name : Name) (email : Email) (loading clk' : Clock)
    (consistent : Consistent services s) (free : stage i s = none)
    (fresh : ∀ p ∈ s.accounts, p.1 ≠ newId.getValue)
    (nobody : ∀ row ∈ s.store.table.rows, row.email ≠ c.email) (valid : Valid c name email)
    (later : clk.read 1 ≤ loading.start) :
    (∃ row ∈ (after (step services) s (registration i c newId hash clk token ++
        verification i token loading clk')).store.table.rows,
        row.id = newId.getValue ∧ row.emailVerified = true) ↔
      (∃ again, Name.create name.getFullName = .ok again) ∧ hash ≠ "" := by
  have newRow : ∀ row ∈ s.store.table.rows, row.id ≠ newId.getValue := fun row hr =>
    fresh _ (copy_account s row.authColumns (row_copy s row hr))
  have registers := registration_accepted services s i c newId hash clk token free newRow nobody
    name email valid
  have coherent := (registration_consistent services s i c newId hash clk token consistent
    fresh).coherent
  rw [after_append]
  generalize after (step services) s (registration i c newId hash clk token) = s' at *
  obtain ⟨new, columns, held, named, unverified⟩ : ∃ new : UserRow,
      new.authColumns = PrismaAuthUserMapper.toPersistence (registeredUser newId hash clk name email) ∧
        new ∈ s'.store.table.rows ∧ new.id = newId.getValue ∧ new.emailVerified = false := by
    refine ⟨.createAuthUser (PrismaAuthUserMapper.toPersistence
      (registeredUser newId hash clk name email)), rfl, ?_, rfl, rfl⟩
    rw [registers.rows]
    exact (mem_put _ _ _ _).mpr (Or.inl rfl)
  obtain ⟨o, lookUp_new⟩ := lookUp_row services loading s'.store new held coherent
  rw [columns, named] at lookUp_new
  have stored : tokenUser services token s'.tokens =
      .ok (services.hashToken token, newId.getValue) := by
    rw [registers.tokens]
    exact mailed_tokenUser services token newId.getValue s.tokens (id_nonempty newId)
  obtain ⟨accepted, refused⟩ := uninterrupted_verification services s' i token loading clk'
    registers.ended coherent
  rw [← registered_loads_iff newId hash clk o loading name email later]
  constructor
  · rintro ⟨row, hr, same, verified⟩
    by_contra unloadable
    have table := (refused ?_).table
    · rw [table] at hr
      rw [s'.store.table.eq_of_id row new hr held (same.trans named.symm), unverified] at verified
      cases verified
    · rintro userId u ⟨stored', found, can⟩
      obtain ⟨-, rfl⟩ := Prod.mk.inj (Except.ok.inj (stored.symm.trans stored'))
      obtain ⟨v, loads, whole⟩ := (map_ok_iff _ _ _).mp (lookUp_new.symm.trans found)
      obtain rfl := Option.some.inj whole
      exact unloadable ⟨v, loads, can⟩
  · rintro ⟨u, loads, can⟩
    have found : (lookUp services .byId newId.getValue loading s'.store).1 = .ok (some u) := by
      rw [lookUp_new, loads]
      rfl
    obtain ⟨row, verifies⟩ := accepted newId.getValue u ⟨stored, found, can⟩
    refine ⟨verifiedRow clk' row, ?_, verifies.named, rfl⟩
    rw [verifies.rows]
    exact (mem_put _ _ _ _).mpr (Or.inl rfl)

end RoundTrip

section Samples
open PasswordReset (sampleServices)

def sampleCommand : RegisterCommand := ⟨"John Doe", "john.doe@example.com", "Rahasia1!"⟩

theorem no_rows_unique : UniqueColumns [] :=
  ⟨List.nodup_nil, List.nodup_nil, List.nodup_nil⟩

def noUsers : UsersTable := ⟨[], no_rows_unique⟩

theorem sampleCommand_valid : Valid sampleCommand .sample .sample :=
  ⟨by decide, by decide, by decide⟩

theorem nobody : ∀ row ∈ (start noUsers).store.table.rows, row.email ≠ sampleCommand.email :=
  fun _ mem => absurd mem List.not_mem_nil

theorem nobody_fresh :
    ∀ row ∈ (start noUsers).store.table.rows, row.id ≠ UserId.sample.getValue :=
  fun _ mem => absurd mem List.not_mem_nil

theorem sample_registration :
    Registers sampleServices (start noUsers) 0 sampleCommand "a"
      (registeredUser .sample "h" (.still 1) .sample .sample)
      (after (step sampleServices) (start noUsers)
        (registration 0 sampleCommand .sample "h" (.still 1) "a")) :=
  (uninterrupted_registration sampleServices (start noUsers) 0 sampleCommand .sample "h" (.still 1)
    "a" rfl nobody_fresh).1 .sample .sample nobody sampleCommand_valid

theorem sample_round_trip :
    ∃ row ∈ (after (step sampleServices) (start noUsers)
        (registration 0 sampleCommand .sample "h" (.still 1) "a" ++
          verification 0 "a" (.still 2) (.still 3))).store.table.rows,
      row.id = UserId.sample.getValue ∧ row.emailVerified = true :=
  (registered_verifies_iff sampleServices (start noUsers) 0 sampleCommand .sample "h" (.still 1) "a"
    .sample .sample (.still 2) (.still 3) (start_consistent sampleServices noUsers) rfl
    (by decide) nobody sampleCommand_valid (by decide)).mpr ⟨⟨.sample, by decide⟩, by decide⟩

end Samples

end KeramikStore.EmailVerification
