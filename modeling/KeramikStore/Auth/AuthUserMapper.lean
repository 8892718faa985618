import KeramikStore.Auth.AuthUser

/-!
# Rows of the authentication aggregate

The row that the auth repository reads and writes, with the two directions of
its mapper. Loading runs every value object and the whole validation again;
storing runs nothing. The exact condition under which a stored user loads as
the same user is stated once and used for whole runs.
-/

set_option autoImplicit false

namespace KeramikStore
open Library Library.Text

inductive PrismaRole where
  | CUSTOMER | ADMIN | STAFF
deriving DecidableEq, Repr

inductive PrismaUserStatus where
  | ACTIVE | INACTIVE | SUSPENDED | DELETED
deriving DecidableEq, Repr

inductive PrismaAuthProviderName where
  | GOOGLE | FACEBOOK
deriving DecidableEq, Repr

def roleMapper : EnumMapper Role PrismaRole where
  toPersistence
    | .customer => .CUSTOMER
    | .admin => .ADMIN
    | .staff => .STAFF
  toEntity
    | .CUSTOMER => .customer
    | .ADMIN => .admin
    | .STAFF => .staff
  toEntity_toPersistence t := by cases t <;> rfl
  toPersistence_toEntity u := by cases u <;> rfl

def statusMapper : EnumMapper Status PrismaUserStatus where
  toPersistence
    | .active => .ACTIVE
    | .inactive => .INACTIVE
    | .suspended => .SUSPENDED
    | .deleted => .DELETED
  toEntity
    | .ACTIVE => .active
    | .INACTIVE => .inactive
    | .SUSPENDED => .suspended
    | .DELETED => .deleted
  toEntity_toPersistence t := by cases t <;> rfl
  toPersistence_toEntity u := by cases u <;> rfl

def providerMapper : EnumMapper AuthProviderName PrismaAuthProviderName where
  toPersistence
    | .google => .GOOGLE
    | .facebook => .FACEBOOK
  toEntity
    | .GOOGLE => .google
    | .FACEBOOK => .facebook
  toEntity_toPersistence t := by cases t <;> rfl
  toPersistence_toEntity u := by cases u <;> rfl

structure RawAuthProvider where
  provider : PrismaAuthProviderName
  providerId : String
  linkedAt : Date
deriving DecidableEq, Repr

structure RawAuthUser where
  id : String
  fullName : String
  email : String
  emailVerified : Bool
  emailVerifiedAt : Option Date
  password : Option String
  role : PrismaRole
  status : PrismaUserStatus
  refreshTokens : List String
  lastLoginAt : Option Date
  createdAt : Date
  updatedAt : Date
  deletedAt : Option Date
  authProviders : List RawAuthProvider
deriving DecidableEq, Repr

namespace RawAuthProvider

def toDomain (p : RawAuthProvider) : AuthProvider :=
  ⟨providerMapper.toEntity p.provider, p.providerId, p.linkedAt⟩

def toPersistence (p : AuthProvider) : RawAuthProvider :=
  ⟨providerMapper.toPersistence p.providerName, p.providerId, p.linkedAt⟩

@[simp] theorem toDomain_toPersistence (p : AuthProvider) : toDomain (toPersistence p) = p := by
  simp [toDomain, toPersistence]

end RawAuthProvider

namespace PrismaAuthUserMapper

def propsOf (raw : RawAuthUser) (name : Name) (email : Email) : AuthUserProps where
  name := name
  email := email
  emailVerified := raw.emailVerified
  emailVerifiedAt := raw.emailVerifiedAt
  password := (raw.password.filter (· != "")).map .fromHash
  role := roleMapper.toEntity raw.role
  status := statusMapper.toEntity raw.status
  providers := raw.authProviders.map RawAuthProvider.toDomain
  lastLoginAt := raw.lastLoginAt
  refreshTokens := raw.refreshTokens
  createdAt := raw.createdAt
  updatedAt := raw.updatedAt
  deletedAt := raw.deletedAt

def toDomain (o : Origin) (clk : Clock) (raw : RawAuthUser) : Except Error AuthUser := do
  let name ← Name.create raw.fullName
  let email ← Email.create raw.email
  AuthUser.reconstruct o clk raw.id (propsOf raw name email)

def toPersistence (u : AuthUser) : RawAuthUser where
  fullName := u.name.getFullName
  id := u.id.getValue
  email := u.email.getValue
  emailVerified := u.emailVerified
  emailVerifiedAt := u.emailVerifiedAt
  password := u.password.map Password.getValue
  role := roleMapper.toPersistence u.role
  status := statusMapper.toPersistence u.status
  refreshTokens := u.refreshTokens
  authProviders := u.providers.map RawAuthProvider.toPersistence
  lastLoginAt := u.lastLoginAt
  createdAt := u.createdAt
  updatedAt := u.updatedAt
  deletedAt := u.deletedAt

end PrismaAuthUserMapper

theorem AuthUser.construct_ok_iff (o : Origin) (clk : Clock) (id : UserId) (props : AuthUserProps)
    (u : AuthUser) : construct o clk id props = .ok u ↔
      props.validate o clk = .ok () ∧ u = { props with id := id, domainEvents := [] } := by
  unfold construct
  cases h : props.validate o clk with
  | ok _ => simp [eq_comm]
  | error e => simp

theorem AuthUser.factory_ok (o : Origin) (clk : Clock) (id : UserId) (props : AuthUserProps)
    (announced : AuthUser → DomainEvent) (u : AuthUser)
    (h : (construct o clk id props >>= fun v => pure (v.addDomainEvent (announced v))) = .ok u) :
    u.id = id ∧ u.toAuthUserProps = props := by
  obtain ⟨v, constructed, h⟩ := (bind_ok_iff _ _ _).mp h
  obtain ⟨-, rfl⟩ := (construct_ok_iff o clk id props v).mp constructed
  obtain rfl := Except.ok.inj h
  exact ⟨rfl, rfl⟩

theorem AuthUser.register_ok (id : UserId) (name : Name) (email : Email) (password : Password)
    (role : Option Role) (clk : Clock) (u : AuthUser)
    (h : register id name email password role clk = .ok u) :
    u.id = id ∧ u.status = .inactive ∧ u.password = some password := by
  obtain ⟨same, made⟩ := factory_ok _ _ id _ _ u h
  rw [made]
  exact ⟨same, rfl, rfl⟩

theorem AuthUser.fromOAuth_ok (id : UserId) (name : Name) (email : Email)
    (provider : AuthProvider) (role : Option Role) (clk : Clock) (u : AuthUser)
    (h : fromOAuth id name email provider role clk = .ok u) :
    u.id = id ∧ u.status = .active ∧ u.emailVerified = true ∧ u.password = none ∧
      u.providers = [provider] := by
  obtain ⟨same, made⟩ := factory_ok _ _ id _ _ u h
  rw [made]
  exact ⟨same, rfl, rfl, rfl, rfl⟩

namespace PrismaAuthUserMapper

/-- A row loads as `u` just when each of its value objects is created and the
properties validate. -/
theorem toDomain_ok_iff (o : Origin) (clk : Clock) (raw : RawAuthUser) (u : AuthUser) :
    toDomain o clk raw = .ok u ↔
      ∃ name email id, Name.create raw.fullName = .ok name ∧ Email.create raw.email = .ok email ∧
        UserId.fromString raw.id = .ok id ∧ (propsOf raw name email).validate o clk = .ok () ∧
        u = { propsOf raw name email with id := id, domainEvents := [] } := by
  simp only [toDomain, AuthUser.reconstruct, bind_ok_iff, AuthUser.construct_ok_iff]
  constructor
  · rintro ⟨name, hn, email, he, id, hi, hv, rfl⟩
    exact ⟨name, email, id, hn, he, hi, hv, rfl⟩
  · rintro ⟨name, email, id, hn, he, hi, hv, rfl⟩
    exact ⟨name, hn, email, he, id, hi, hv, rfl⟩

theorem password_kept_iff (p : Option Password) :
    ((p.map Password.getValue).filter (· != "")).map Password.fromHash = p ↔ p ≠ some ⟨""⟩ := by
  rcases p with _ | ⟨⟨v⟩⟩
  · simp
  · by_cases h : v = "" <;> simp [Password.getValue, Password.fromHash, Option.filter, h]

theorem providers_kept (ps : List AuthProvider) :
    (ps.map RawAuthProvider.toPersistence).map RawAuthProvider.toDomain = ps := by
  simp [List.map_map, Function.comp_def]

theorem propsOf_toPersistence (u : AuthUser) (h : u.password ≠ some ⟨""⟩) :
    propsOf (toPersistence u) u.name u.email = u.toAuthUserProps := by
  have hp := (password_kept_iff u.password).mpr h
  simp only [propsOf, toPersistence, providers_kept, hp, EnumMapper.toEntity_toPersistence]

/-- A stored user loads as the same user exactly when its stored name is
accepted unchanged, its password hash is not empty and it validates. -/
theorem toDomain_toPersistence_iff (o : Origin) (clk : Clock) (u : AuthUser) :
    toDomain o clk (toPersistence u) = .ok { u with domainEvents := [] } ↔
      u.name.Stable ∧ u.password ≠ some ⟨""⟩ ∧ u.validate o clk = .ok () := by
  rw [toDomain_ok_iff, ← Name.create_getFullName_iff]
  constructor
  · rintro ⟨name, email, id, hn, he, hi, hv, hu⟩
    have hname : u.name = name := congrArg (fun v : AuthUser => v.name) hu
    have hemail : u.email = email := congrArg (fun v : AuthUser => v.email) hu
    have hpass := congrArg (fun v : AuthUser => v.password) hu
    subst hname hemail
    have hp : u.password ≠ some ⟨""⟩ := (password_kept_iff u.password).mp hpass.symm
    refine ⟨hn, hp, ?_⟩
    rwa [propsOf_toPersistence u hp] at hv
  · rintro ⟨hn, hp, hv⟩
    refine ⟨u.name, u.email, u.id, hn, Email.create_getValue u.email,
      UserId.fromString_getValue u.id, ?_, ?_⟩
    · rwa [propsOf_toPersistence u hp]
    · rw [propsOf_toPersistence u hp]

end PrismaAuthUserMapper

def RawAuthUser.sample : RawAuthUser where
  id := UserId.sample.value
  fullName := "John Doe"
  email := "john.doe@example.com"
  emailVerified := true
  emailVerifiedAt := some 1
  password := some "h0"
  role := .CUSTOMER
  status := .ACTIVE
  refreshTokens := ["t0"]
  lastLoginAt := some 2
  createdAt := 0
  updatedAt := 2
  deletedAt := none
  authProviders := []

end KeramikStore
