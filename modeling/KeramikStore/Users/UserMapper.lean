import KeramikStore.Auth.AuthUserMapper
import KeramikStore.Users.User

/-!
# Rows of the profile aggregate

The columns that the user repository reads and writes, with the two directions
of its mapper. The role and status tables are those of the auth mapper.
-/

set_option autoImplicit false

namespace KeramikStore
open Library Library.Text

inductive PrismaGender where
  | MALE | FEMALE
deriving DecidableEq, Repr

inductive PrismaAddressLabel where
  | HOME | OFFICE | OTHER
deriving DecidableEq, Repr

def genderMapper : EnumMapper Gender PrismaGender where
  toPersistence
    | .male => .MALE
    | .female => .FEMALE
  toEntity
    | .MALE => .male
    | .FEMALE => .female
  toEntity_toPersistence t := by cases t <;> rfl
  toPersistence_toEntity u := by cases u <;> rfl

def addressLabelMapper : EnumMapper AddressLabel PrismaAddressLabel where
  toPersistence
    | .home => .HOME
    | .office => .OFFICE
    | .other => .OTHER
  toEntity
    | .HOME => .home
    | .OFFICE => .office
    | .OTHER => .other
  toEntity_toPersistence t := by cases t <;> rfl
  toPersistence_toEntity u := by cases u <;> rfl

structure RawAddress where
  label : PrismaAddressLabel
  recipient : String
  phone : String
  street : String
  city : String
  province : String
  postalCode : String
  country : String
  latitude : Option JsNumber
  longitude : Option JsNumber
  isDefault : Bool
deriving DecidableEq

structure RawUser where
  id : String
  fullName : String
  email : String
  dateOfBirth : Option Date
  gender : Option PrismaGender
  avatarUrl : Option String
  phoneNumber : Option String
  phoneVerified : Bool
  phoneVerifiedAt : Option Date
  role : PrismaRole
  status : PrismaUserStatus
  createdAt : Date
  updatedAt : Date
  deletedAt : Option Date
  addresses : List RawAddress
deriving DecidableEq

namespace RawAddress

def toDomain (addr : RawAddress) : Except Error Address := do
  let phone ← PhoneNumber.create addr.phone
  Address.create {
    label := addressLabelMapper.toEntity addr.label
    recipient := addr.recipient
    phone := phone
    street := addr.street
    city := addr.city
    province := addr.province
    postalCode := addr.postalCode
    country := addr.country
    latitude := addr.latitude
    longitude := addr.longitude
    isDefault := addr.isDefault }

def toPersistence (addr : Address) : RawAddress where
  label := addressLabelMapper.toPersistence addr.props.label
  recipient := addr.props.recipient
  phone := addr.props.phone.getValue
  street := addr.props.street
  city := addr.props.city
  province := addr.props.province
  postalCode := addr.props.postalCode
  country := addr.props.country
  latitude := addr.props.latitude
  longitude := addr.props.longitude
  isDefault := addr.props.isDefault

theorem toDomain_toPersistence (a : Address) : (toPersistence a).toDomain = .ok a := by
  unfold toDomain toPersistence
  dsimp only
  rw [PhoneNumber.create_getValue, EnumMapper.toEntity_toPersistence]
  exact Address.create_props a

end RawAddress

namespace PrismaUserMapper

def toDomain (host : Host) (clk : Clock) (raw : RawUser) : Except Error User := do
  let name ← Name.create raw.fullName
  let email ← Email.create raw.email
  let dateOfBirth ← raw.dateOfBirth.mapM (DateOfBirth.create host clk)
  let avatarUrl ← (raw.avatarUrl.filter (· != "")).mapM (Avatar.create host)
  let phoneNumber ← (raw.phoneNumber.filter (· != "")).mapM PhoneNumber.create
  let addresses ← raw.addresses.mapM RawAddress.toDomain
  User.reconstruct raw.id {
    name, dateOfBirth, avatarUrl, phoneNumber, addresses, email
    gender := raw.gender.map genderMapper.toEntity
    phoneVerified := raw.phoneVerified
    phoneVerifiedAt := raw.phoneVerifiedAt
    role := roleMapper.toEntity raw.role
    status := statusMapper.toEntity raw.status
    createdAt := raw.createdAt
    updatedAt := raw.updatedAt
    deletedAt := raw.deletedAt }

def toPersistence (u : User) : RawUser where
  id := u.id.getValue
  fullName := u.name.getFullName
  email := u.email.getValue
  dateOfBirth := u.dateOfBirth.map DateOfBirth.value
  gender := u.gender.map genderMapper.toPersistence
  avatarUrl := u.avatarUrl.map Avatar.url
  phoneNumber := u.phoneNumber.map PhoneNumber.getValue
  phoneVerified := u.phoneVerified
  phoneVerifiedAt := u.phoneVerifiedAt
  role := roleMapper.toPersistence u.role
  status := statusMapper.toPersistence u.status
  createdAt := u.createdAt
  updatedAt := u.updatedAt
  deletedAt := u.deletedAt
  addresses := u.addresses.map RawAddress.toPersistence

theorem toDomain_shared (host : Host) (clk : Clock) (raw : RawUser) (u : User)
    (h : toDomain host clk raw = .ok u) :
    Name.create raw.fullName = .ok u.name ∧ u.email.getValue = raw.email ∧
      u.id.getValue = raw.id ∧ u.role = roleMapper.toEntity raw.role ∧
      u.status = statusMapper.toEntity raw.status ∧ u.createdAt = raw.createdAt ∧
      u.updatedAt = raw.updatedAt ∧ u.deletedAt = raw.deletedAt := by
  simp only [toDomain, User.reconstruct, bind_ok_iff] at h
  obtain ⟨name, hn, email, he, _, -, _, -, _, -, _, -, id, hi, -, -, hu⟩ := h
  obtain rfl := Except.ok.inj hu
  exact ⟨hn, (Email.create_ok_iff _ _).mp he, (UserId.fromString_ok_iff _ _).mp hi, rfl, rfl, rfl,
    rfl, rfl⟩

theorem addresses_loaded (addresses : List Address) :
    (addresses.map RawAddress.toPersistence).mapM RawAddress.toDomain = .ok addresses := by
  induction addresses with
  | nil => rfl
  | cons a rest ih =>
    rw [List.map_cons, List.mapM_cons, RawAddress.toDomain_toPersistence, ih]
    rfl

theorem phone_loaded (phone : Option PhoneNumber) :
    ((phone.map PhoneNumber.getValue).filter (· != "")).mapM PhoneNumber.create = .ok phone := by
  cases phone with
  | none => rfl
  | some p =>
    have filled : (some p.getValue).filter (· != "") = some p.getValue := by
      simp [Option.filter, p.getValue_ne_empty]
    rw [Option.map_some, filled, Option.mapM_some, PhoneNumber.create_getValue]
    rfl

/-- A saved user is loaded again just when its value objects can be made again and its
properties pass the validation. -/
theorem toDomain_toPersistence_iff (host : Host) (clk : Clock) (u : User) :
    (∃ v, toDomain host clk (toPersistence u) = .ok v) ↔
      (∃ name, Name.create u.name.getFullName = .ok name) ∧
        (∀ b ∈ u.dateOfBirth, ∃ birth, DateOfBirth.create host clk b.value = .ok birth) ∧
        (∀ a ∈ u.avatarUrl, a.url ≠ "" → ∃ avatar, Avatar.create host a.url = .ok avatar) ∧
        User.validate u.toUserProps = .ok () := by
  have births := option_mapM_ok_iff (DateOfBirth.create host clk)
    (u.dateOfBirth.map DateOfBirth.value)
  have avatars := option_mapM_ok_iff (Avatar.create host)
    ((u.avatarUrl.map Avatar.url).filter (· != ""))
  have each : (∀ url ∈ (u.avatarUrl.map Avatar.url).filter (· != ""),
      ∃ avatar, Avatar.create host url = .ok avatar) ↔
      ∀ a ∈ u.avatarUrl, a.url ≠ "" → ∃ avatar, Avatar.create host a.url = .ok avatar := by
    simp [Option.filter_eq_some_iff]
  rw [each] at avatars
  rw [← avatars]
  simp only [Option.mem_map, forall_exists_index, and_imp, forall_apply_eq_imp_iff₂] at births
  rw [← births]
  unfold toDomain toPersistence User.reconstruct
  simp only [bind_ok_iff, Email.create_getValue, phone_loaded, addresses_loaded, Except.ok.injEq,
    UserId.fromString_getValue, EnumMapper.toEntity_toPersistence, exists_eq_left']
  constructor
  · rintro ⟨v, name, hn, birth, hb, avatar, ha, _, valid, -⟩
    exact ⟨⟨name, hn⟩, ⟨birth, hb⟩, ⟨avatar, ha⟩, valid⟩
  · rintro ⟨⟨name, hn⟩, ⟨birth, hb⟩, ⟨avatar, ha⟩, valid⟩
    exact ⟨_, name, hn, birth, hb, avatar, ha, (), valid, rfl⟩

end PrismaUserMapper

end KeramikStore
