import KeramikStore.Library.ReadThrough
import KeramikStore.Auth.AccessTokens

/-!
# Six caches over one table

The repositories of the two modules read the users table through caches of their
own: four reads by id and two by e-mail. No write drops an entry itself. A save
emits the events of the user that it saves, and one listener drops the entries of
the user that an event names, in all six caches; it handles the events of creation
and the general events of an update, and no others. A removal of a row emits nothing.
-/

set_option autoImplicit false

namespace KeramikStore
open Library Library.KeyedTable Library.ReadThrough

structure UserDetail where
  id : String
  fullName : String
  email : String
  dateOfBirth : Option Date
  gender : Option PrismaGender
  avatarUrl : Option String
  phoneNumber : Option String
  phoneVerified : Bool
  role : PrismaRole
  status : PrismaUserStatus
  createdAt : Date
  updatedAt : Date
  addresses : List RawAddress
deriving DecidableEq

namespace UserRow

def detailColumns (row : UserRow) : UserDetail where
  id := row.id
  fullName := row.fullName
  email := row.email
  dateOfBirth := row.dateOfBirth
  gender := row.gender
  avatarUrl := row.avatarUrl
  phoneNumber := row.phoneNumber
  phoneVerified := row.phoneVerified
  role := row.role
  status := row.status
  createdAt := row.createdAt
  updatedAt := row.updatedAt
  addresses := row.addresses

def createUser (raw : RawUser) : UserRow where
  id := raw.id
  email := raw.email
  emailVerified := false
  emailVerifiedAt := none
  password := none
  fullName := raw.fullName
  gender := raw.gender
  dateOfBirth := raw.dateOfBirth
  phoneNumber := raw.phoneNumber
  phoneVerified := raw.phoneVerified
  phoneVerifiedAt := raw.phoneVerifiedAt
  avatarUrl := raw.avatarUrl
  role := raw.role
  status := raw.status
  refreshTokens := []
  createdAt := raw.createdAt
  updatedAt := raw.updatedAt
  deletedAt := raw.deletedAt
  lastLoginAt := none
  authProviders := []
  addresses := raw.addresses

def savedUser (raw : RawUser) (old : Option UserRow) : UserRow :=
  old.elim (createUser raw) (writeUser raw)

@[simp] theorem userColumns_savedUser (raw : RawUser) (old : Option UserRow) :
    (savedUser raw old).userColumns = raw := by
  cases old <;> rfl

@[simp] theorem id_savedUser (raw : RawUser) (old : Option UserRow) :
    (savedUser raw old).id = raw.id := by
  cases old <;> rfl

@[simp] theorem email_savedUser (raw : RawUser) (old : Option UserRow) :
    (savedUser raw old).email = raw.email := by
  cases old <;> rfl

@[simp] theorem email_savedAuthUser (raw : RawAuthUser) (old : Option UserRow) :
    (savedAuthUser raw old).email = raw.email := by
  cases old <;> rfl

end UserRow

def recordNotFound : Error := .failure "P2025"

namespace UsersTable

theorem unique_erase (id : String) (t : UsersTable) :
    UniqueColumns (erase UserRow.id id t.rows) where
  id := uniqueBy_erase UserRow.id _ id t.rows t.unique.id
  email := uniqueBy_erase UserRow.id _ id t.rows t.unique.email
  provider := uniqueBy_erase UserRow.id _ id t.rows t.unique.provider

/-- Rows of other tables that refer to the user are not spoken of. -/
def delete (id : String) (t : UsersTable) : Except Error UsersTable :=
  match t.findById id with
  | some _ => .ok ⟨erase UserRow.id id t.rows, t.unique_erase id⟩
  | none => .error recordNotFound

theorem findByEmail_iff (email : String) (t : UsersTable) (row : UserRow) :
    t.findByEmail email = some row ↔ row ∈ t.rows ∧ row.email = email :=
  find_eq_some_iff UserRow.email t.rows t.unique.email email row

theorem findById_write_self (row : UserRow) (t t' : UsersTable) (h : t.write row = .ok t') :
    t'.findById row.id = some row := by
  unfold findById
  rw [(write_ok_iff row t t').mp h]
  exact find_put_same UserRow.id row t.rows

theorem findById_write_other (row : UserRow) (t t' : UsersTable) (h : t.write row = .ok t')
    (id : String) (other : row.id ≠ id) : t'.findById id = t.findById id := by
  unfold findById
  rw [(write_ok_iff row t t').mp h]
  exact find_put_other UserRow.id id row t.rows other

theorem delete_ok (id : String) (t t' : UsersTable) (h : t.delete id = .ok t') :
    t'.rows = erase UserRow.id id t.rows := by
  unfold delete at h
  cases hf : t.findById id with
  | none =>
    rw [hf] at h
    cases h
  | some row =>
    rw [hf] at h
    exact congrArg rows (Except.ok.inj h).symm

theorem findById_delete_self (id : String) (t t' : UsersTable) (h : t.delete id = .ok t') :
    t'.findById id = none := by
  cases hf : t'.findById id with
  | none => rfl
  | some row =>
    obtain ⟨mem, same⟩ := findById_some id t' row hf
    rw [delete_ok id t t' h] at mem
    exact absurd same ((mem_erase _ _ _ _).mp mem).2

theorem findById_delete_other (id : String) (t t' : UsersTable) (h : t.delete id = .ok t')
    (other : String) (ne : id ≠ other) : t'.findById other = t.findById other := by
  unfold findById
  rw [delete_ok id t t' h]
  exact find_erase_other UserRow.id id other t.rows ne

end UsersTable

inductive ById where
  | auth | requested | profile | detail
deriving DecidableEq

inductive ByEmail where
  | auth | profile
deriving DecidableEq

inductive UserColumns where
  | auth (raw : RawAuthUser)
  | requested (raw : AccessTokens.RequestedUser)
  | profile (raw : RawUser)
  | detail (raw : UserDetail)
deriving DecidableEq

def ById.select : ById → UserRow → UserColumns
  | auth, row => .auth row.authColumns
  | requested, row => .requested (AccessTokens.requestedColumns row)
  | profile, row => .profile row.userColumns
  | detail, row => .detail row.detailColumns

def ByEmail.select : ByEmail → UserRow → UserColumns
  | auth, row => .auth row.authColumns
  | profile, row => .profile row.userColumns

inductive UserCacheKey where
  | byId (read : ById) (userId : String)
  | byEmail (read : ByEmail) (lowered : String)
deriving DecidableEq

namespace UserCacheKey

def stem : UserCacheKey → String
  | byId .auth _ => "auth:user:id:"
  | byId .requested _ => "auth:requested-user:id:"
  | byId .profile _ => "user:profile:id:"
  | byId .detail _ => "user:profile:detail:id:"
  | byEmail .auth _ => "auth:user:email:"
  | byEmail .profile _ => "user:profile:email:"

def named : UserCacheKey → String
  | byId _ userId => userId
  | byEmail _ lowered => lowered

def text (k : UserCacheKey) : String := k.stem ++ k.named

theorem stem_apart (j k : UserCacheKey) (h : j.stem.toList <+: k.stem.toList) :
    j.stem = k.stem := by
  revert h
  cases j with
  | byId r i =>
    cases k with
    | byId r' i' => cases r <;> cases r' <;> simp [stem]
    | byEmail r' e' => cases r <;> cases r' <;> simp [stem]
  | byEmail r e =>
    cases k with
    | byId r' i' => cases r <;> cases r' <;> simp [stem]
    | byEmail r' e' => cases r <;> cases r' <;> simp [stem]

theorem eq_of_stem (j k : UserCacheKey) (hs : j.stem = k.stem) (hn : j.named = k.named) :
    j = k := by
  revert hs
  cases j with
  | byId r i =>
    cases k with
    | byId r' i' =>
      obtain rfl : i = i' := hn
      cases r <;> cases r' <;> simp [stem]
    | byEmail r' e' => cases r <;> cases r' <;> simp [stem]
  | byEmail r e =>
    cases k with
    | byId r' i' => cases r <;> cases r' <;> simp [stem]
    | byEmail r' e' =>
      obtain rfl : e = e' := hn
      cases r <;> cases r' <;> simp [stem]

/-- Keys of different reads, or of one read for different users, are different texts. -/
theorem text_injective (j k : UserCacheKey) (h : j.text = k.text) : j = k := by
  have chars : j.stem.toList ++ j.named.toList = k.stem.toList ++ k.named.toList := by
    simpa [text] using congrArg String.toList h
  have first : j.stem.toList <+: k.stem.toList ++ k.named.toList := ⟨_, chars⟩
  have same : j.stem = k.stem := by
    rcases List.prefix_or_prefix_of_prefix first (List.prefix_append _ _) with jk | kj
    · exact stem_apart j k jk
    · exact (stem_apart k j kj).symm
  rw [same] at chars
  exact eq_of_stem j k same (String.toList_inj.mp (List.append_cancel_left chars))

end UserCacheKey

abbrev UserStore := Store UsersTable UserCacheKey UserColumns

variable (toLowerCase : String → String)

namespace UserCache

def getUserByIdKey (userId : String) : UserCacheKey := .byId .profile userId
def getUserDetailByIdKey (userId : String) : UserCacheKey := .byId .detail userId
def getUserByEmailKey (email : String) : UserCacheKey := .byEmail .profile (toLowerCase email)

def getInvalidationKeys (userId email : String) : List UserCacheKey :=
  [getUserByIdKey userId, getUserDetailByIdKey userId] ++
    if email = "" then [] else [getUserByEmailKey toLowerCase email]

end UserCache

namespace UserAuthCache

def getUserByIdKey (userId : String) : UserCacheKey := .byId .auth userId
def getRequestedUserByIdKey (userId : String) : UserCacheKey := .byId .requested userId
def getUserByEmailKey (email : String) : UserCacheKey := .byEmail .auth (toLowerCase email)

def getInvalidationKeys (userId email : String) : List UserCacheKey :=
  [getUserByIdKey userId, getRequestedUserByIdKey userId] ++
    if email = "" then [] else [getUserByEmailKey toLowerCase email]

end UserAuthCache

structure UserPayload where
  userId : String
  email : String
deriving DecidableEq

namespace UnifiedUserCacheInvalidationListener

def ofAuthEvent : DomainEvent → Option UserPayload
  | .userRegistered userId email => some ⟨userId, email⟩
  | .userCreatedFromOAuth userId email _ _ _ => some ⟨userId, email⟩
  | .authUserUpdated userId email _ => some ⟨userId, email⟩
  | _ => none

def ofUserEvent : UserEvent → Option UserPayload
  | .userUpdated userId email _ _ => some ⟨userId, email⟩
  | _ => none

def exactKeys (t : UsersTable) (e : UserPayload) : List UserCacheKey :=
  let userEmail := ((t.findById e.userId).map UserRow.email).getD e.email
  UserCache.getInvalidationKeys toLowerCase e.userId userEmail ++
    UserAuthCache.getInvalidationKeys toLowerCase e.userId userEmail

def handle (s : UserStore) (e : UserPayload) : UserStore :=
  { s with cached := drop (exactKeys toLowerCase s.table e) s.cached }

def emit (es : List UserPayload) (s : UserStore) : UserStore := es.foldl (handle toLowerCase) s

theorem emit_eq (es : List UserPayload) (s : UserStore) :
    emit toLowerCase es s =
      { s with cached := drop (es.flatMap (exactKeys toLowerCase s.table)) s.cached } := by
  induction es generalizing s with
  | nil => simp [emit]
  | cons e es ih =>
    change emit toLowerCase es (handle toLowerCase s e) = _
    rw [ih, List.flatMap_cons, drop_append]
    rfl

theorem byId_mem_exactKeys (t : UsersTable) (e : UserPayload) (r : ById) (userId : String) :
    UserCacheKey.byId r userId ∈ exactKeys toLowerCase t e ↔ userId = e.userId := by
  simp only [exactKeys, UserCache.getInvalidationKeys, UserAuthCache.getInvalidationKeys,
    UserCache.getUserByIdKey, UserCache.getUserDetailByIdKey, UserCache.getUserByEmailKey,
    UserAuthCache.getUserByIdKey, UserAuthCache.getRequestedUserByIdKey,
    UserAuthCache.getUserByEmailKey]
  split_ifs <;> cases r <;> simp

theorem byEmail_mem_exactKeys (t : UsersTable) (e : UserPayload) (r : ByEmail) (row : UserRow)
    (hr : t.findById e.userId = some row) (present : row.email ≠ "") :
    UserCacheKey.byEmail r (toLowerCase row.email) ∈ exactKeys toLowerCase t e := by
  simp only [exactKeys, hr, UserCache.getInvalidationKeys, UserAuthCache.getInvalidationKeys,
    UserCache.getUserByEmailKey, UserAuthCache.getUserByEmailKey]
  cases r <;> simp [present]

/-- The listener drops the four entries by id of the users that the events name. -/
theorem byId_mem_keys (t : UsersTable) (es : List UserPayload) (r : ById) (userId : String) :
    UserCacheKey.byId r userId ∈ es.flatMap (exactKeys toLowerCase t) ↔
      ∃ e ∈ es, userId = e.userId := by
  simp only [List.mem_flatMap, byId_mem_exactKeys]

end UnifiedUserCacheInvalidationListener

namespace UserCaches
open UnifiedUserCacheInvalidationListener

/-! The rows that the reads find, before a mapper makes results of them. -/

def PrismaAuthUserRepository.findById (userId : String) (s : UserStore) :
    Answer UserColumns × UserStore :=
  wrap (UserAuthCache.getUserByIdKey userId)
    ((s.table.findById userId).map fun row => .auth row.authColumns) s

def PrismaAuthUserQueryRepository.getRequestedUserById (userId : String) (s : UserStore) :
    Answer UserColumns × UserStore :=
  wrap (UserAuthCache.getRequestedUserByIdKey userId)
    ((s.table.findById userId).map fun row => .requested (AccessTokens.requestedColumns row)) s

def PrismaUserRepository.findById (userId : String) (s : UserStore) :
    Answer UserColumns × UserStore :=
  wrap (UserCache.getUserByIdKey userId)
    ((s.table.findById userId).map fun row => .profile row.userColumns) s

def PrismaUserQueryRepository.getUserDetailById (userId : String) (s : UserStore) :
    Answer UserColumns × UserStore :=
  wrap (UserCache.getUserDetailByIdKey userId)
    ((s.table.findById userId).map fun row => .detail row.detailColumns) s

def PrismaAuthUserRepository.findByEmail (email : String) (s : UserStore) :
    Answer UserColumns × UserStore :=
  wrap (UserAuthCache.getUserByEmailKey toLowerCase email)
    ((s.table.findByEmail email).map fun row => .auth row.authColumns) s

def PrismaUserRepository.findByEmail (email : String) (s : UserStore) :
    Answer UserColumns × UserStore :=
  wrap (UserCache.getUserByEmailKey toLowerCase email)
    ((s.table.findByEmail email).map fun row => .profile row.userColumns) s

def write (row : UserRow) (es : List UserPayload) (s : UserStore) : Except Error UserStore := do
  let table ← s.table.write row
  return emit toLowerCase es { s with table := table }

def announcedAuth (u : AuthUser) : List UserPayload := u.domainEvents.filterMap ofAuthEvent

def announcedUser (u : User) : List UserPayload := u.domainEvents.filterMap ofUserEvent

def authRow (u : AuthUser) (t : UsersTable) : UserRow :=
  UserRow.savedAuthUser (PrismaAuthUserMapper.toPersistence u) (t.findById u.id.getValue)

def userRow (u : User) (t : UsersTable) : UserRow :=
  UserRow.savedUser (PrismaUserMapper.toPersistence u) (t.findById u.id.getValue)

def PrismaAuthUserRepository.save (u : AuthUser) (s : UserStore) : Except Error UserStore :=
  write toLowerCase (authRow u s.table) (announcedAuth u) s

def PrismaUserRepository.save (u : User) (s : UserStore) : Except Error UserStore :=
  write toLowerCase (userRow u s.table) (announcedUser u) s

def PrismaUserRepository.delete (id : String) (s : UserStore) : Except Error UserStore := do
  let table ← s.table.delete id
  return { s with table := table }

@[simp] theorem id_authRow (u : AuthUser) (t : UsersTable) :
    (authRow u t).id = u.id.getValue := UserRow.id_savedAuthUser _ _

@[simp] theorem email_authRow (u : AuthUser) (t : UsersTable) :
    (authRow u t).email = u.email.getValue := UserRow.email_savedAuthUser _ _

@[simp] theorem id_userRow (u : User) (t : UsersTable) : (userRow u t).id = u.id.getValue :=
  UserRow.id_savedUser _ _

@[simp] theorem email_userRow (u : User) (t : UsersTable) :
    (userRow u t).email = u.email.getValue := UserRow.email_savedUser _ _

theorem write_ok_iff (row : UserRow) (es : List UserPayload) (s s' : UserStore) :
    write toLowerCase row es s = .ok s' ↔ ∃ t', s.table.write row = .ok t' ∧
      s' = ⟨t', drop (es.flatMap (exactKeys toLowerCase t')) s.cached⟩ := by
  simp only [write, bind_ok_iff]
  apply exists_congr
  intro t'
  apply and_congr_right
  intro _
  rw [emit_eq]
  constructor
  · intro h
    exact (Except.ok.inj h).symm
  · rintro rfl
    rfl

end UserCaches

open UserCaches

def ById.find : ById → String → UserStore → Answer UserColumns × UserStore
  | auth => UserCaches.PrismaAuthUserRepository.findById
  | requested => UserCaches.PrismaAuthUserQueryRepository.getRequestedUserById
  | profile => UserCaches.PrismaUserRepository.findById
  | detail => UserCaches.PrismaUserQueryRepository.getUserDetailById

def ByEmail.find : ByEmail → String → UserStore → Answer UserColumns × UserStore
  | auth => UserCaches.PrismaAuthUserRepository.findByEmail toLowerCase
  | profile => UserCaches.PrismaUserRepository.findByEmail toLowerCase

/-- What the two modules do to the store. An operation that throws changes nothing. -/
inductive UserOperation where
  | findById (read : ById) (userId : String)
  | findByEmail (read : ByEmail) (email : String)
  | saveAuthUser (u : AuthUser)
  | saveUser (u : User)
  | delete (id : String)
  | expire (key : UserCacheKey)

namespace UserOperation

def perform (s : UserStore) : UserOperation → UserStore
  | findById r userId => (r.find userId s).2
  | findByEmail r email => (r.find toLowerCase email s).2
  | saveAuthUser u => (UserCaches.PrismaAuthUserRepository.save toLowerCase u s).toOption.getD s
  | saveUser u => (UserCaches.PrismaUserRepository.save toLowerCase u s).toOption.getD s
  | delete id => (UserCaches.PrismaUserRepository.delete id s).toOption.getD s
  | expire key => { s with cached := drop [key] s.cached }

end UserOperation

def lowerAscii (text : String) : String := String.ofList (text.toList.map Char.toLower)

def UserStore.cold (table : UsersTable) : UserStore := ⟨table, fun _ => none⟩

end KeramikStore
