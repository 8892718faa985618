import KeramikStore.Library.KeyedTable
import KeramikStore.Library.Runs
import KeramikStore.Users.SharedRow

/-!
# The users table and its auth repository

The table holds rows that satisfy its unique constraints, so a write that would
break one of them fails. Look-ups by id and by e-mail go through a cache: the
entry for an e-mail is found under its lower-case form, the row under its exact
form. A save that announces a change drops the entries of the saved user. As long
as every entry is a copy of its row, what a look-up finds is what a row holds.
-/

set_option autoImplicit false

namespace KeramikStore
open Library Library.KeyedTable Library.Runs

namespace UserRow

def providerIds (row : UserRow) : List (PrismaAuthProviderName × String) :=
  row.authProviders.map fun p => (p.provider, p.providerId)

/-- The create branch of the auth repository's upsert; the columns that it does
not write take their defaults. -/
def createAuthUser (raw : RawAuthUser) : UserRow where
  id := raw.id
  email := raw.email
  emailVerified := raw.emailVerified
  emailVerifiedAt := raw.emailVerifiedAt
  password := raw.password
  fullName := raw.fullName
  gender := none
  dateOfBirth := none
  phoneNumber := none
  phoneVerified := false
  phoneVerifiedAt := none
  avatarUrl := none
  role := raw.role
  status := raw.status
  refreshTokens := raw.refreshTokens
  createdAt := raw.createdAt
  updatedAt := raw.updatedAt
  deletedAt := raw.deletedAt
  lastLoginAt := raw.lastLoginAt
  authProviders := raw.authProviders
  addresses := []

def savedAuthUser (raw : RawAuthUser) (old : Option UserRow) : UserRow :=
  old.elim (createAuthUser raw) (writeAuthUser raw)

@[simp] theorem authColumns_savedAuthUser (raw : RawAuthUser) (old : Option UserRow) :
    (savedAuthUser raw old).authColumns = raw := by
  cases old <;> rfl

@[simp] theorem id_savedAuthUser (raw : RawAuthUser) (old : Option UserRow) :
    (savedAuthUser raw old).id = raw.id := by
  cases old <;> rfl

end UserRow

structure UniqueColumns (rows : List UserRow) : Prop where
  id : UniqueBy (fun row => [row.id]) rows
  email : UniqueBy (fun row => [row.email]) rows
  provider : UniqueBy UserRow.providerIds rows

instance (rows : List UserRow) : Decidable (UniqueColumns rows) :=
  decidable_of_iff (UniqueBy (fun row => [row.id]) rows ∧ UniqueBy (fun row => [row.email]) rows ∧
      UniqueBy UserRow.providerIds rows)
    ⟨fun ⟨i, e, p⟩ => ⟨i, e, p⟩, fun ⟨i, e, p⟩ => ⟨i, e, p⟩⟩

theorem UserRow.sample_unique : UniqueColumns [UserRow.sample] := by decide

structure UsersTable where
  rows : List UserRow
  unique : UniqueColumns rows

def uniqueConstraintViolation : Error := .failure "P2002"

namespace UsersTable

def findById (id : String) (t : UsersTable) : Option UserRow := find UserRow.id id t.rows

def findByEmail (email : String) (t : UsersTable) : Option UserRow :=
  find UserRow.email email t.rows

def write (row : UserRow) (t : UsersTable) : Except Error UsersTable :=
  if h : UniqueColumns (put UserRow.id row t.rows) then .ok ⟨put UserRow.id row t.rows, h⟩
  else .error uniqueConstraintViolation

def upsertedRows (raw : RawAuthUser) (t : UsersTable) : List UserRow :=
  put UserRow.id (UserRow.savedAuthUser raw (t.findById raw.id)) t.rows

def upsert (raw : RawAuthUser) (t : UsersTable) : Except Error UsersTable :=
  t.write (UserRow.savedAuthUser raw (t.findById raw.id))

theorem write_ok_iff (row : UserRow) (t t' : UsersTable) :
    t.write row = .ok t' ↔ t'.rows = put UserRow.id row t.rows := by
  unfold write
  constructor
  · intro h
    split_ifs at h with hu
    exact congrArg rows (Except.ok.inj h).symm
  · intro h
    obtain ⟨rows, unique⟩ := t'
    obtain rfl : rows = put UserRow.id row t.rows := h
    rw [dif_pos unique]

theorem upsert_ok_iff (raw : RawAuthUser) (t t' : UsersTable) :
    t.upsert raw = .ok t' ↔ t'.rows = t.upsertedRows raw := write_ok_iff _ t t'

theorem findById_some (id : String) (t : UsersTable) (row : UserRow)
    (h : t.findById id = some row) : row ∈ t.rows ∧ row.id = id := find_some _ _ _ _ h

theorem findByEmail_some (email : String) (t : UsersTable) (row : UserRow)
    (h : t.findByEmail email = some row) : row ∈ t.rows ∧ row.email = email := find_some _ _ _ _ h

theorem eq_of_id (t : UsersTable) (r s : UserRow) (hr : r ∈ t.rows) (hs : s ∈ t.rows)
    (h : r.id = s.id) : r = s :=
  eq_of_uniqueBy _ t.rows t.unique.id r s hr hs r.id (by simp) (by simp [h])

theorem eq_of_provider (t : UsersTable) (r s : UserRow) (hr : r ∈ t.rows) (hs : s ∈ t.rows)
    (x : PrismaAuthProviderName × String) (hxr : x ∈ r.providerIds) (hxs : x ∈ s.providerIds) :
    r = s :=
  eq_of_uniqueBy _ t.rows t.unique.provider r s hr hs x hxr hxs

theorem savedAuthUser_mem (raw : RawAuthUser) (t : UsersTable) :
    UserRow.savedAuthUser raw (t.findById raw.id) ∈ t.upsertedRows raw :=
  (mem_put _ _ _ _).mpr (Or.inl rfl)

theorem other_mem (raw : RawAuthUser) (t : UsersTable) (row : UserRow) (hr : row ∈ t.rows)
    (h : row.id ≠ raw.id) : row ∈ t.upsertedRows raw :=
  (mem_put _ _ _ _).mpr (Or.inr ⟨hr, by simpa using h⟩)

/-- A write cannot bring a provider identity that another row has. -/
theorem upsert_takes_no_provider (raw : RawAuthUser) (t t' : UsersTable)
    (h : t.upsert raw = .ok t') (row : UserRow) (hr : row ∈ t.rows) (other : row.id ≠ raw.id)
    (x : PrismaAuthProviderName × String) (hx : x ∈ row.providerIds) :
    x ∉ raw.authProviders.map fun p => (p.provider, p.providerId) := by
  intro taken
  have rows := (upsert_ok_iff raw t t').mp h
  have saved := savedAuthUser_mem raw t
  have kept := other_mem raw t row hr other
  rw [← rows] at saved kept
  have same := eq_of_provider t' row _ kept saved x hx <| by
    rw [← UserRow.authColumns_savedAuthUser raw (t.findById raw.id)] at taken
    exact taken
  exact other (by rw [same, UserRow.id_savedAuthUser])

theorem upsert_succeeds (raw : RawAuthUser) (t : UsersTable) (row : UserRow) (hr : row ∈ t.rows)
    (hid : raw.id = row.id) (hemail : raw.email = row.email)
    (hproviders : (raw.authProviders.map fun p => (p.provider, p.providerId)) = row.providerIds) :
    ∃ t', t.upsert raw = .ok t' := by
  have columns := UserRow.authColumns_savedAuthUser raw (t.findById raw.id)
  generalize hn : UserRow.savedAuthUser raw (t.findById raw.id) = new at columns
  have id : new.id = row.id := by rw [← hid, ← columns]; rfl
  have email : new.email = row.email := by rw [← hemail, ← columns]; rfl
  have provider : new.providerIds = row.providerIds := by rw [← hproviders, ← columns]; rfl
  have unique : UniqueColumns (t.upsertedRows raw) := by
    unfold upsertedRows
    rw [hn]
    exact ⟨uniqueBy_put _ _ t.rows t.unique.id t.unique.id row new hr id (by rw [id]),
      uniqueBy_put _ _ t.rows t.unique.id t.unique.email row new hr id (by rw [email]),
      uniqueBy_put _ _ t.rows t.unique.id t.unique.provider row new hr id provider⟩
  exact ⟨⟨t.upsertedRows raw, unique⟩, (upsert_ok_iff _ _ _).mpr rfl⟩

end UsersTable

inductive UserAuthCacheKey where
  | userById (userId : String)
  | userByEmail (lowered : String)
deriving DecidableEq

structure AuthStore where
  table : UsersTable
  cached : List (UserAuthCacheKey × RawAuthUser)

namespace PrismaAuthUserRepository

def wrap (key : UserAuthCacheKey) (row : Option UserRow) (s : AuthStore) :
    Option (Origin × RawAuthUser) × AuthStore :=
  match find Prod.fst key s.cached with
  | some entry => (some (.cache, entry.2), s)
  | none =>
    match row with
    | some row => (some (.database, row.authColumns),
        { s with cached := put Prod.fst (key, row.authColumns) s.cached })
    | none => (none, s)

def load (clk : Clock) : Option (Origin × RawAuthUser) → Except Error (Option AuthUser)
  | some (o, raw) => (PrismaAuthUserMapper.toDomain o clk raw).map some
  | none => .ok none

def findById (userId : String) (clk : Clock) (s : AuthStore) :
    Except Error (Option AuthUser) × AuthStore :=
  (wrap (.userById userId) (s.table.findById userId) s).map (load clk) id

variable (toLowerCase : String → String)

def findByEmail (email : String) (clk : Clock) (s : AuthStore) :
    Except Error (Option AuthUser) × AuthStore :=
  (wrap (.userByEmail (toLowerCase email)) (s.table.findByEmail email) s).map (load clk) id

def invalidate (userId email : String) (cached : List (UserAuthCacheKey × RawAuthUser)) :
    List (UserAuthCacheKey × RawAuthUser) :=
  erase Prod.fst (.userById userId) (erase Prod.fst (.userByEmail (toLowerCase email)) cached)

def save (u : AuthUser) (s : AuthStore) : Except Error AuthStore := do
  let table ← s.table.upsert (PrismaAuthUserMapper.toPersistence u)
  return { table := table
           cached := if u.domainEvents.isEmpty then s.cached
             else invalidate toLowerCase u.id.getValue u.email.getValue s.cached }

theorem save_ok_iff (u : AuthUser) (s s' : AuthStore) : save toLowerCase u s = .ok s' ↔
    s.table.upsert (PrismaAuthUserMapper.toPersistence u) = .ok s'.table ∧
      s'.cached = if u.domainEvents.isEmpty then s.cached
        else invalidate toLowerCase u.id.getValue u.email.getValue s.cached := by
  obtain ⟨table', cached'⟩ := s'
  simp only [save, bind_ok_iff]
  constructor
  · rintro ⟨table, ht, h⟩
    obtain ⟨rfl, rfl⟩ := AuthStore.mk.inj (Except.ok.inj h)
    exact ⟨ht, rfl⟩
  · rintro ⟨ht, rfl⟩
    exact ⟨table', ht, rfl⟩

theorem wrap_table (key : UserAuthCacheKey) (row : Option UserRow) (s : AuthStore) :
    (wrap key row s).2.table = s.table := by
  unfold wrap
  cases find Prod.fst key s.cached with
  | some entry => rfl
  | none => cases row <;> rfl

def Holds (row : UserRow) : UserAuthCacheKey → Prop
  | .userById userId => row.id = userId
  | .userByEmail lowered => toLowerCase row.email = lowered

def Coherent (s : AuthStore) : Prop :=
  ∀ entry ∈ s.cached, ∃ row ∈ s.table.rows, row.authColumns = entry.2 ∧
    Holds toLowerCase row entry.1

theorem coherent_cold (table : UsersTable) : Coherent toLowerCase ⟨table, []⟩ :=
  fun _ mem => absurd mem List.not_mem_nil

theorem wrap_found (s : AuthStore) (key : UserAuthCacheKey) (row : Option UserRow)
    (h : Coherent toLowerCase s)
    (hrow : ∀ r, row = some r → r ∈ s.table.rows ∧ Holds toLowerCase r key)
    (o : Origin) (raw : RawAuthUser) (hf : (wrap key row s).1 = some (o, raw)) :
    ∃ r ∈ s.table.rows, r.authColumns = raw ∧ Holds toLowerCase r key := by
  unfold wrap at hf
  cases hc : find Prod.fst key s.cached with
  | some entry =>
    rw [hc] at hf
    obtain ⟨-, rfl⟩ := Prod.mk.inj (Option.some.inj hf)
    obtain ⟨mem, rfl⟩ := find_some _ _ _ _ hc
    exact h entry mem
  | none =>
    rw [hc] at hf
    cases row with
    | none => cases hf
    | some r =>
      obtain ⟨-, rfl⟩ := Prod.mk.inj (Option.some.inj hf)
      exact ⟨r, (hrow r rfl).1, rfl, (hrow r rfl).2⟩

theorem wrap_coherent (s : AuthStore) (key : UserAuthCacheKey) (row : Option UserRow)
    (h : Coherent toLowerCase s)
    (hrow : ∀ r, row = some r → r ∈ s.table.rows ∧ Holds toLowerCase r key) :
    Coherent toLowerCase (wrap key row s).2 := by
  unfold wrap
  cases find Prod.fst key s.cached with
  | some entry => exact h
  | none =>
    cases row with
    | none => exact h
    | some r =>
      intro entry mem
      rcases (mem_put _ _ _ _).mp mem with rfl | ⟨old, -⟩
      · exact ⟨r, (hrow r rfl).1, rfl, (hrow r rfl).2⟩
      · exact h entry old

theorem findById_row (s : AuthStore) (userId : String) (r : UserRow)
    (h : s.table.findById userId = some r) :
    r ∈ s.table.rows ∧ Holds toLowerCase r (.userById userId) :=
  UsersTable.findById_some userId s.table r h

theorem findByEmail_row (s : AuthStore) (email : String) (r : UserRow)
    (h : s.table.findByEmail email = some r) :
    r ∈ s.table.rows ∧ Holds toLowerCase r (.userByEmail (toLowerCase email)) := by
  obtain ⟨mem, rfl⟩ := UsersTable.findByEmail_some email s.table r h
  exact ⟨mem, rfl⟩

theorem load_some_iff (clk : Clock) (found : Option (Origin × RawAuthUser)) (u : AuthUser) :
    load clk found = .ok (some u) ↔
      ∃ o raw, found = some (o, raw) ∧ PrismaAuthUserMapper.toDomain o clk raw = .ok u := by
  cases found with
  | none => simp [load]
  | some entry =>
    obtain ⟨o, raw⟩ := entry
    cases h : PrismaAuthUserMapper.toDomain o clk raw with
    | error e =>
      constructor
      · intro hf
        rw [load, h] at hf
        cases hf
      · rintro ⟨o', raw', e', hu⟩
        obtain ⟨rfl, rfl⟩ := Prod.mk.inj (Option.some.inj e')
        rw [h] at hu
        cases hu
    | ok v =>
      constructor
      · intro hf
        rw [load, h] at hf
        exact ⟨o, raw, rfl, h.trans (congrArg _ (Option.some.inj (Except.ok.inj hf)))⟩
      · rintro ⟨o', raw', e', hu⟩
        obtain ⟨rfl, rfl⟩ := Prod.mk.inj (Option.some.inj e')
        rw [load, hu]
        rfl

theorem findByEmail_loads (s : AuthStore) (email : String) (clk : Clock) (u : AuthUser)
    (h : Coherent toLowerCase s) (hu : (findByEmail toLowerCase email clk s).1 = .ok (some u)) :
    ∃ row ∈ s.table.rows, ∃ o, PrismaAuthUserMapper.toDomain o clk row.authColumns = .ok u := by
  obtain ⟨o, raw, hw, hd⟩ := (load_some_iff clk _ u).mp hu
  obtain ⟨row, hr, rfl, -⟩ := wrap_found toLowerCase s _ _ h
    (fun r hr => findByEmail_row toLowerCase s email r hr) o raw hw
  exact ⟨row, hr, o, hd⟩

theorem findByEmail_table (s : AuthStore) (email : String) (clk : Clock) :
    (findByEmail toLowerCase email clk s).2.table = s.table := wrap_table _ _ s

theorem save_succeeds_iff (u : AuthUser) (s : AuthStore) :
    (∃ s', save toLowerCase u s = .ok s') ↔
      ∃ t', s.table.upsert (PrismaAuthUserMapper.toPersistence u) = .ok t' := by
  constructor
  · rintro ⟨s', h⟩
    exact ⟨s'.table, ((save_ok_iff toLowerCase u s s').mp h).1⟩
  · rintro ⟨t', h⟩
    exact ⟨⟨t', _⟩, (save_ok_iff toLowerCase u s _).mpr ⟨h, rfl⟩⟩

inductive Operation where
  | findById (userId : String) (clk : Clock)
  | findByEmail (email : String) (clk : Clock)
  | save (u : AuthUser)
  | expire (key : UserAuthCacheKey)

def perform (s : AuthStore) : Operation → AuthStore
  | .findById userId clk => (findById userId clk s).2
  | .findByEmail email clk => (findByEmail toLowerCase email clk s).2
  | .save u => (save toLowerCase u s).toOption.getD s
  | .expire key => { s with cached := erase Prod.fst key s.cached }

def Announces (s : AuthStore) : Operation → Prop
  | .save u => u.domainEvents.isEmpty = false ∧ ∀ row ∈ s.table.rows, row.id = u.id.getValue →
      toLowerCase row.email = toLowerCase u.email.getValue
  | _ => True

theorem mem_invalidate (userId email : String) (cached : List (UserAuthCacheKey × RawAuthUser))
    (entry : UserAuthCacheKey × RawAuthUser)
    (h : entry ∈ invalidate toLowerCase userId email cached) :
    entry ∈ cached ∧ entry.1 ≠ .userByEmail (toLowerCase email) ∧ entry.1 ≠ .userById userId := by
  obtain ⟨inner, byId⟩ := (mem_erase _ _ _ _).mp h
  obtain ⟨mem, byEmail⟩ := (mem_erase _ _ _ _).mp inner
  exact ⟨mem, byEmail, byId⟩

/-- The entries that an announced save leaves are copies of other rows. -/
theorem save_coherent (u : AuthUser) (s s' : AuthStore) (h : Coherent toLowerCase s)
    (hs : save toLowerCase u s = .ok s') (announced : Announces toLowerCase s (.save u)) :
    Coherent toLowerCase s' := by
  obtain ⟨events, email⟩ := announced
  obtain ⟨ht, hc⟩ := (save_ok_iff toLowerCase u s s').mp hs
  rw [events, if_neg Bool.false_ne_true] at hc
  intro entry mem
  rw [hc] at mem
  obtain ⟨old, byEmail, byId⟩ := mem_invalidate toLowerCase _ _ _ entry mem
  obtain ⟨row, hr, copy, holds⟩ := h entry old
  have other : row.id ≠ u.id.getValue := by
    intro same
    cases hk : entry.1 with
    | userById userId =>
      rw [hk] at holds byId
      exact byId (congrArg _ (holds.symm.trans same))
    | userByEmail lowered =>
      rw [hk] at holds byEmail
      exact byEmail (congrArg _ (holds.symm.trans (email row hr same)))
  refine ⟨row, ?_, copy, holds⟩
  rw [(UsersTable.upsert_ok_iff _ _ _).mp ht]
  exact UsersTable.other_mem _ s.table row hr other

theorem perform_coherent (s : AuthStore) (op : Operation) (h : Coherent toLowerCase s)
    (announced : Announces toLowerCase s op) : Coherent toLowerCase (perform toLowerCase s op) := by
  cases op with
  | findById userId clk =>
    exact wrap_coherent toLowerCase s _ _ h fun r => findById_row toLowerCase s userId r
  | findByEmail email clk =>
    exact wrap_coherent toLowerCase s _ _ h fun r => findByEmail_row toLowerCase s email r
  | save u =>
    change Coherent toLowerCase ((save toLowerCase u s).toOption.getD s)
    cases hs : save toLowerCase u s with
    | error e => exact h
    | ok s' => exact save_coherent toLowerCase u s s' h hs announced
  | expire key =>
    intro entry mem
    exact h entry ((mem_erase _ _ _ _).mp mem).1

/-- From a cold cache, a store whose saves are announced stays coherent. -/
theorem coherent_throughout (table : UsersTable) (ops : List Operation)
    (announced : Along (perform toLowerCase) (Announces toLowerCase) ⟨table, []⟩ ops) :
    Throughout (perform toLowerCase) (Coherent toLowerCase) ⟨table, []⟩ ops :=
  throughout_of_step _ _ _ (perform_coherent toLowerCase) _ ops (coherent_cold toLowerCase table)
    announced

end PrismaAuthUserRepository

end KeramikStore
