import KeramikStore.Auth.AuthUserRepository
import KeramikStore.Auth.UseCases

/-!
# Google sign-in and the provider identity

The callback looks for a user by the e-mail of the profile only. A user found
without a Google provider is linked, and the unique constraint on provider
identities refuses the save when another user holds the identity; the same holds
for a user that is created. A user found with another Google identity is signed in
as it is. So a sign-in binds to the identity exactly when it meets no such user.
-/

set_option autoImplicit false

namespace KeramikStore

def AuthUser.isLinkedWith (name : AuthProviderName) (providerId : String) (u : AuthUser) : Bool :=
  u.providers.any fun p => p.providerName == name && p.providerId == providerId

namespace GoogleSignIn
open Library

structure Profile where
  providerId : String
  email : String
  fullName : String
  avatarUrl : Option String

structure Call where
  newId : UserId
  refreshToken : String
  audited : Bool
  loading : Clock
  clock : Clock

structure AuthResult where
  id : String
  email : String
  fullName : String
  refreshToken : String
deriving DecidableEq

def newUser (p : Profile) (c : Call) : Except Error AuthUser := do
  let email ← Email.create p.email
  let name ← Name.create p.fullName
  let u ← AuthUser.fromOAuth c.newId name email (.createGoogleProvider p.providerId c.clock) none
    (c.clock.skip 1)
  (u.recordOAuthLogin .google c.refreshToken p.avatarUrl (c.clock.skip 9)).toExcept

def signIn (p : Profile) (c : Call) : Option AuthUser → Except Error AuthUser
  | some u => UseCases.googleAuthCallback p.providerId c.refreshToken p.avatarUrl c.clock u
  | none => newUser p c

def auditLogError : Error := .failure "Failed to create audit log"

def execute (toLowerCase : String → String) (p : Profile) (c : Call) (s : AuthStore) :
    Except Error (AuthResult × AuthStore) := do
  let found := PrismaAuthUserRepository.findByEmail toLowerCase p.email c.loading s
  let authUser ← signIn p c (← found.1)
  let saved ← PrismaAuthUserRepository.save toLowerCase authUser found.2
  raise [(!c.audited, auditLogError)]
  return (⟨authUser.id.getValue, authUser.email.getValue, authUser.name.getFullName,
    c.refreshToken⟩, saved)

structure Binds (t : UsersTable) (providerId userId : String) : Prop where
  owner : ∀ row ∈ t.rows, (.GOOGLE, providerId) ∈ row.providerIds → userId = row.id
  no_other : ∀ row ∈ t.rows, row.id = userId → ∀ other, (.GOOGLE, other) ∈ row.providerIds →
    (.GOOGLE, providerId) ∈ row.providerIds

def TakesOver (p : Profile) (c : Call) (u : AuthUser) : Prop :=
  u.hasProvider .google = true ∧ u.isLinkedWith .google p.providerId = false ∧
    c.audited = true ∧ (c.refreshToken ∈ u.refreshTokens ∨ u.status = .active)

section Commands

variable (u v : AuthUser) (clk : Clock)

theorem recordOAuthLogin_returns_iff (token : String) (avatarUrl : Option String) :
    (u.recordOAuthLogin .google token avatarUrl clk).Returns ↔
      u.hasProvider .google = true ∧ (token ∈ u.refreshTokens ∨ u.status = .active) := by
  unfold AuthUser.recordOAuthLogin
  by_cases hp : u.hasProvider .google = true
  · simp only [hp, Bool.not_true, Bool.false_eq_true, if_false, true_and]
    rcases AuthUser.addRefreshToken_cases u (clk.read 0) token with
      ⟨hin, e⟩ | ⟨hin, hact, e⟩ | ⟨hin, hact, e⟩
    · simp [e, hin]
    · simp [e, hin, hact]
    · simp [e, hact]
  · simp [hp]

theorem recordOAuthLogin_identity (token : String) (avatarUrl : Option String)
    (h : (u.recordOAuthLogin .google token avatarUrl clk).toExcept = .ok v) :
    v.id = u.id ∧ v.email = u.email ∧ v.providers = u.providers := by
  obtain ⟨-, rfl⟩ := (Outcome.toExcept_ok_iff _ _).mp h
  obtain ⟨hid, d, hp, -⟩ := AuthCommand.recordOAuthLogin_leaves .google token avatarUrl clk u
  have props : ∀ q : AuthUserProps,
      q = { AuthCommand.effect clk u (.recordOAuthLogin .google token avatarUrl) with
        updatedAt := d } →
      q.email = u.email ∧ q.providers = u.providers := by
    rintro q rfl
    simp only [AuthCommand.effect]
    split_ifs <;> exact ⟨rfl, rfl⟩
  exact ⟨hid, props _ hp⟩

/-- A sign-in keeps the user and at most adds the identity of the profile. -/
theorem googleAuthCallback_identity (providerId token : String) (avatarUrl : Option String)
    (h : UseCases.googleAuthCallback providerId token avatarUrl clk u = .ok v) :
    v.id = u.id ∧ v.email = u.email ∧ v.providers =
      if u.hasProvider .google then u.providers
      else u.providers ++ [.createGoogleProvider providerId clk] := by
  obtain ⟨w, hw, hv⟩ := (bind_ok_iff _ _ _).mp h
  obtain ⟨hid, hemail, hproviders⟩ := recordOAuthLogin_identity w v _ token avatarUrl hv
  rw [hid, hemail, hproviders]
  unfold UseCases.linkGoogle at hw
  by_cases hp : u.hasProvider .google = true
  · rw [if_pos hp] at hw ⊢
    obtain rfl := Except.ok.inj hw
    exact ⟨rfl, rfl, rfl⟩
  · rw [if_neg hp] at hw ⊢
    obtain ⟨-, rfl⟩ := (Outcome.toExcept_ok_iff _ _).mp hw
    unfold AuthUser.linkOAuth
    rw [if_neg (by simpa [AuthProvider.createGoogleProvider] using hp)]
    exact ⟨rfl, rfl, rfl⟩

theorem newUser_identity (p : Profile) (c : Call) (h : newUser p c = .ok v) :
    v.id = c.newId ∧ v.providers = [.createGoogleProvider p.providerId c.clock] := by
  simp only [newUser, bind_ok_iff] at h
  obtain ⟨email, -, name, -, w, hw, hv⟩ := h
  obtain ⟨hid, -, hproviders⟩ := recordOAuthLogin_identity w v _ _ _ hv
  obtain ⟨made, -, -, -, linked⟩ := AuthUser.fromOAuth_ok _ _ _ _ _ _ w hw
  rw [hid, hproviders, linked]
  exact ⟨made, rfl⟩

end Commands

section Rows

variable (row : UserRow) (u : AuthUser) (o : Origin) (clk : Clock)

theorem toEntity_google_iff (p : PrismaAuthProviderName) :
    providerMapper.toEntity p = .google ↔ p = .GOOGLE := by
  cases p <;> decide

theorem loaded_identity (h : PrismaAuthUserMapper.toDomain o clk row.authColumns = .ok u) :
    u.id.getValue = row.id ∧ u.email.getValue = row.email ∧
      u.providers = row.authProviders.map RawAuthProvider.toDomain := by
  obtain ⟨name, email, id, -, he, hi, -, rfl⟩ := (PrismaAuthUserMapper.toDomain_ok_iff _ _ _ _).mp h
  exact ⟨(UserId.fromString_ok_iff _ _).mp hi, (Email.create_ok_iff _ _).mp he, rfl⟩

theorem mem_providerIds (x : PrismaAuthProviderName × String) :
    x ∈ row.providerIds ↔ ∃ p ∈ row.authProviders, p.provider = x.1 ∧ p.providerId = x.2 := by
  simp [UserRow.providerIds, Prod.ext_iff]

theorem hasProvider_google_iff (h : u.providers = row.authProviders.map RawAuthProvider.toDomain) :
    u.hasProvider .google = true ↔ ∃ x, (.GOOGLE, x) ∈ row.providerIds := by
  simp only [AuthUser.hasProvider, h, List.any_map, List.any_eq_true, Function.comp_apply,
    RawAuthProvider.toDomain, beq_iff_eq, toEntity_google_iff, mem_providerIds]
  constructor
  · rintro ⟨p, hp, e⟩
    exact ⟨p.providerId, p, hp, e, rfl⟩
  · rintro ⟨x, p, hp, e, -⟩
    exact ⟨p, hp, e⟩

theorem isLinkedWith_google_iff (h : u.providers = row.authProviders.map RawAuthProvider.toDomain)
    (x : String) : u.isLinkedWith .google x = true ↔ (.GOOGLE, x) ∈ row.providerIds := by
  simp only [AuthUser.isLinkedWith, h, List.any_map, List.any_eq_true, Function.comp_apply,
    RawAuthProvider.toDomain, Bool.and_eq_true, beq_iff_eq, toEntity_google_iff, mem_providerIds]

end Rows

section SignIn

variable (toLowerCase : String → String) (p : Profile) (c : Call) (s : AuthStore)

theorem execute_ok (r : AuthResult) (s' : AuthStore)
    (h : execute toLowerCase p c s = .ok (r, s')) :
    ∃ found v t', (PrismaAuthUserRepository.findByEmail toLowerCase p.email c.loading s).1 =
        .ok found ∧ signIn p c found = .ok v ∧
      s.table.upsert (PrismaAuthUserMapper.toPersistence v) = .ok t' ∧ c.audited = true ∧
      r.id = v.id.getValue := by
  simp only [execute, bind_ok_iff] at h
  obtain ⟨found, hf, v, hv, saved, hs, _, ha, e⟩ := h
  obtain ⟨rfl, -⟩ := Prod.mk.inj (Except.ok.inj e)
  have hu := ((PrismaAuthUserRepository.save_ok_iff toLowerCase v _ saved).mp hs).1
  rw [PrismaAuthUserRepository.findByEmail_table] at hu
  exact ⟨found, v, saved.table, hf, hv, hu, by simpa using (raise_ok_iff _).mp ha, rfl⟩

theorem execute_succeeds (found : Option AuthUser) (v : AuthUser) (t' : UsersTable)
    (hf : (PrismaAuthUserRepository.findByEmail toLowerCase p.email c.loading s).1 = .ok found)
    (hv : signIn p c found = .ok v)
    (hu : s.table.upsert (PrismaAuthUserMapper.toPersistence v) = .ok t')
    (ha : c.audited = true) :
    ∃ r s', execute toLowerCase p c s = .ok (r, s') ∧ r.id = v.id.getValue := by
  rw [← PrismaAuthUserRepository.findByEmail_table toLowerCase s p.email c.loading] at hu
  obtain ⟨saved, hs⟩ := (PrismaAuthUserRepository.save_succeeds_iff toLowerCase v _).mpr ⟨t', hu⟩
  refine ⟨⟨v.id.getValue, v.email.getValue, v.name.getFullName, c.refreshToken⟩, saved, ?_, rfl⟩
  simp only [execute, bind_ok_iff]
  exact ⟨found, hf, v, hv, saved, hs, (), (raise_ok_iff _).mpr (by simp [ha]), rfl⟩

/-- The write of a linked or created user shows that nobody else holds the identity. -/
theorem upsert_shows_unheld (v : AuthUser) (t' : UsersTable) (clk : Clock)
    (hu : s.table.upsert (PrismaAuthUserMapper.toPersistence v) = .ok t')
    (linked : .createGoogleProvider p.providerId clk ∈ v.providers) (row : UserRow)
    (hr : row ∈ s.table.rows) (held : (.GOOGLE, p.providerId) ∈ row.providerIds) :
    row.id = v.id.getValue := by
  by_contra other
  apply UsersTable.upsert_takes_no_provider _ _ _ hu row hr other _ held
  refine List.mem_map.mpr ⟨RawAuthProvider.toPersistence (.createGoogleProvider p.providerId clk),
    List.mem_map.mpr ⟨_, linked, rfl⟩, rfl⟩

/-- A user found without another Google identity is signed in as the one it is. -/
theorem found_binds (u v : AuthUser) (t' : UsersTable) (row : UserRow) (hr : row ∈ s.table.rows)
    (o : Origin) (hd : PrismaAuthUserMapper.toDomain o c.loading row.authColumns = .ok u)
    (hv : UseCases.googleAuthCallback p.providerId c.refreshToken p.avatarUrl c.clock u = .ok v)
    (hu : s.table.upsert (PrismaAuthUserMapper.toPersistence v) = .ok t')
    (same : u.hasProvider .google = true → u.isLinkedWith .google p.providerId = true) :
    Binds s.table p.providerId v.id.getValue := by
  obtain ⟨rowid, -, providers⟩ := loaded_identity row u o c.loading hd
  obtain ⟨hid, -, hproviders⟩ := googleAuthCallback_identity u v c.clock _ _ _ hv
  have none_else : ∀ other, (.GOOGLE, other) ∈ row.providerIds →
      (.GOOGLE, p.providerId) ∈ row.providerIds := fun other ho =>
    (isLinkedWith_google_iff row u providers _).mp
      (same ((hasProvider_google_iff row u providers).mpr ⟨other, ho⟩))
  rw [hid, rowid]
  constructor
  · intro other hother held
    by_cases hp : u.hasProvider .google = true
    · have mine := (isLinkedWith_google_iff row u providers _).mp (same hp)
      rw [s.table.eq_of_provider row other hr hother _ mine held]
    · rw [if_neg hp] at hproviders
      have alone := upsert_shows_unheld p s v t' c.clock hu (by simp [hproviders]) other hother held
      rw [alone, hid, rowid]
  · intro other hother e
    rw [s.table.eq_of_id other row hother hr e]
    exact none_else

theorem created_binds (v : AuthUser) (t' : UsersTable)
    (fresh : ∀ row ∈ s.table.rows, row.id ≠ c.newId.getValue) (hv : newUser p c = .ok v)
    (hu : s.table.upsert (PrismaAuthUserMapper.toPersistence v) = .ok t') :
    Binds s.table p.providerId v.id.getValue := by
  obtain ⟨hid, hproviders⟩ := newUser_identity v p c hv
  constructor
  · intro row hr held
    exact (upsert_shows_unheld p s v t' c.clock hu (by simp [hproviders]) row hr held).symm
  · intro row hr e
    rw [hid] at e
    exact absurd e (fresh row hr)

theorem taken_over_signs_in (u : AuthUser) (row : UserRow) (hr : row ∈ s.table.rows) (o : Origin)
    (hd : PrismaAuthUserMapper.toDomain o c.loading row.authColumns = .ok u)
    (h : TakesOver p c u) :
    ∃ v t', signIn p c (some u) = .ok v ∧
      s.table.upsert (PrismaAuthUserMapper.toPersistence v) = .ok t' ∧ v.id = u.id := by
  obtain ⟨hp, -, -, hready⟩ := h
  obtain ⟨rowid, rowemail, providers⟩ := loaded_identity row u o c.loading hd
  have returns := (recordOAuthLogin_returns_iff u (c.clock.skip 2) c.refreshToken p.avatarUrl).mpr
    ⟨hp, hready⟩
  have hv : signIn p c (some u) =
      .ok (u.recordOAuthLogin .google c.refreshToken p.avatarUrl (c.clock.skip 2)).state := by
    refine (bind_ok_iff _ _ _).mpr ⟨u, ?_, (Outcome.toExcept_ok_iff _ _).mpr ⟨returns, rfl⟩⟩
    rw [UseCases.linkGoogle, if_pos hp]
  obtain ⟨hid, hemail, hproviders⟩ := googleAuthCallback_identity u _ c.clock _ _ _ hv
  rw [if_pos hp] at hproviders
  obtain ⟨t', hu⟩ := s.table.upsert_succeeds (PrismaAuthUserMapper.toPersistence
      (u.recordOAuthLogin .google c.refreshToken p.avatarUrl (c.clock.skip 2)).state) row hr
    ((congrArg UserId.getValue hid).trans rowid) ((congrArg Email.getValue hemail).trans rowemail)
    (by simp only [PrismaAuthUserMapper.toPersistence, hproviders, providers, List.map_map]
        unfold UserRow.providerIds
        apply List.map_congr_left
        intro q _
        simp [RawAuthProvider.toDomain, RawAuthProvider.toPersistence])
  exact ⟨_, t', hv, hu, hid⟩

/-- A sign-in that takes a user over does not bind to the identity of the profile. -/
theorem taken_over_not_bound (u : AuthUser) (row : UserRow) (hr : row ∈ s.table.rows) (o : Origin)
    (hd : PrismaAuthUserMapper.toDomain o c.loading row.authColumns = .ok u)
    (h : TakesOver p c u) : ¬ Binds s.table p.providerId u.id.getValue := by
  intro binds
  obtain ⟨rowid, -, providers⟩ := loaded_identity row u o c.loading hd
  obtain ⟨other, ho⟩ := (hasProvider_google_iff row u providers).mp h.1
  have mine := binds.no_other row hr rowid.symm other ho
  have linked := (isLinkedWith_google_iff row u providers p.providerId).mpr mine
  rw [h.2.1] at linked
  cases linked

/-- What signs in without taking over has no Google identity or the one of the profile. -/
theorem linked_of_not_taken_over (u v : AuthUser) (ha : c.audited = true)
    (hv : UseCases.googleAuthCallback p.providerId c.refreshToken p.avatarUrl c.clock u = .ok v)
    (safe : ¬ TakesOver p c u) (hp : u.hasProvider .google = true) :
    u.isLinkedWith .google p.providerId = true := by
  by_contra unlinked
  obtain ⟨w, hw, hlogin⟩ := (bind_ok_iff _ _ _).mp hv
  rw [UseCases.linkGoogle, if_pos hp] at hw
  obtain rfl := Except.ok.inj hw
  obtain ⟨returns, -⟩ := (Outcome.toExcept_ok_iff _ _).mp hlogin
  obtain ⟨-, hready⟩ := (recordOAuthLogin_returns_iff _ _ _ _).mp returns
  exact safe ⟨hp, by simpa using unlinked, ha, hready⟩

/-- On a coherent store, and with a new id for a new user, every sign-in that
succeeds binds to the identity of the profile exactly when the e-mail does not
find a user that it takes over. -/
theorem sign_in_binds_iff (coherent : PrismaAuthUserRepository.Coherent toLowerCase s)
    (fresh : ∀ row ∈ s.table.rows, row.id ≠ c.newId.getValue) :
    (∀ r s', execute toLowerCase p c s = .ok (r, s') → Binds s.table p.providerId r.id) ↔
      ∀ u, (PrismaAuthUserRepository.findByEmail toLowerCase p.email c.loading s).1 = .ok (some u) →
        ¬ TakesOver p c u := by
  constructor
  · intro binds u hf h
    obtain ⟨row, hr, o, hd⟩ :=
      PrismaAuthUserRepository.findByEmail_loads toLowerCase s p.email c.loading u coherent hf
    obtain ⟨v, t', hv, hu, hid⟩ := taken_over_signs_in p c s u row hr o hd h
    obtain ⟨r, s', he, rid⟩ := execute_succeeds toLowerCase p c s (some u) v t' hf hv hu h.2.2.1
    apply taken_over_not_bound p c s u row hr o hd h
    rw [← hid, ← rid]
    exact binds r s' he
  · intro safe r s' he
    obtain ⟨found, v, t', hf, hv, hu, ha, rid⟩ := execute_ok toLowerCase p c s r s' he
    rw [rid]
    cases found with
    | none => exact created_binds p c s v t' fresh hv hu
    | some u =>
      obtain ⟨row, hr, o, hd⟩ :=
        PrismaAuthUserRepository.findByEmail_loads toLowerCase s p.email c.loading u coherent hf
      have linked := linked_of_not_taken_over p c u v ha hv (safe u hf)
      exact found_binds p c s u v t' row hr o hd hv hu linked

end SignIn

def linkedSample : UserRow := { UserRow.sample with authProviders := [⟨.GOOGLE, "g-1", 3⟩] }

def linkedStore : AuthStore := ⟨⟨[linkedSample], by decide⟩, []⟩

def sampleCall : Call where
  newId := ⟨"7a1f2c3e-0a4b-4c5d-8e6f-102030405060", by decide⟩
  refreshToken := "t2"
  audited := true
  loading := .still 10
  clock := .still 11

theorem same_identity_binds :
    ∃ r s', execute id ⟨"g-1", "john.doe@example.com", "John Doe", none⟩ sampleCall linkedStore =
      .ok (r, s') ∧ Binds linkedStore.table "g-1" r.id :=
  ⟨_, _, rfl, (sign_in_binds_iff id ⟨"g-1", "john.doe@example.com", "John Doe", none⟩ sampleCall
    linkedStore (PrismaAuthUserRepository.coherent_cold id _) (by decide)).mpr
      (fun u hu h => by
        obtain rfl := Option.some.inj (Except.ok.inj hu)
        exact absurd h.2.1 (by decide)) _ _ rfl⟩

/-- A profile that carries the e-mail of a user and another Google identity is
signed in as that user. -/
theorem other_identity_takes_over :
    PrismaAuthUserRepository.Coherent id linkedStore ∧
      ∃ r s', execute id ⟨"g-2", "john.doe@example.com", "John Doe", none⟩ sampleCall linkedStore =
        .ok (r, s') ∧ r.id = linkedSample.id ∧ ¬ Binds linkedStore.table "g-2" r.id := by
  refine ⟨PrismaAuthUserRepository.coherent_cold id _, _, _, rfl, rfl, fun h => ?_⟩
  have linked := h.no_other linkedSample (by decide) rfl "g-1" (by decide)
  exact absurd linked (by decide)

end GoogleSignIn

end KeramikStore
