import KeramikStore.Library.VersionedCache
import KeramikStore.Products.Pagination
import KeramikStore.Shared.Moments
import KeramikStore.Users.UserCaches

/-!
# The list of all users

The filters of a list come from the address of the request as they are, and their texts
are the end of its cache key. The database knows its own spelling of the roles and the
statuses and refuses any other text. A list is cached as JSON, which turns the dates into
texts, and its key begins with a version that every announced change increments. In every
run a list is answered as the table at that time would be, with one exception: a role with
a status written into it has the key of the list that gives both.
-/

set_option autoImplicit false

namespace KeramikStore
open Library Library.Text Library.Runs

structure UserListColumns (δ : Type) where
  id : String
  fullName : String
  email : String
  dateOfBirth : Option δ
  gender : Option PrismaGender
  avatarUrl : Option String
  phoneNumber : Option String
  phoneVerified : Bool
  role : PrismaRole
  status : PrismaUserStatus
  createdAt : δ
  updatedAt : δ

structure UsersFound (δ : Type) where
  users : List (UserListColumns δ)
  total : ℕ

section Dates

variable {δ ε ζ : Type}

def UserListColumns.map (f : δ → ε) (user : UserListColumns δ) : UserListColumns ε :=
  { user with
    dateOfBirth := user.dateOfBirth.map f
    createdAt := f user.createdAt
    updatedAt := f user.updatedAt }

def UsersFound.map (f : δ → ε) (found : UsersFound δ) : UsersFound ε :=
  { found with users := found.users.map (UserListColumns.map f) }

theorem UserListColumns.map_map (f : δ → ε) (g : ε → ζ) (user : UserListColumns δ) :
    (user.map f).map g = user.map (g ∘ f) := by
  unfold UserListColumns.map
  rw [Option.map_map]
  rfl

theorem UsersFound.map_map (f : δ → ε) (g : ε → ζ) (found : UsersFound δ) :
    (found.map f).map g = found.map (g ∘ f) := by
  unfold UsersFound.map
  simp only [List.map_map, Function.comp_def, UserListColumns.map_map]

end Dates

def UserRow.listColumns (row : UserRow) : UserListColumns Date where
  id := row.id
  fullName := row.fullName
  email := row.email
  dateOfBirth := row.dateOfBirth
  gender := row.gender
  avatarUrl := row.avatarUrl
  phoneNumber := row.phoneNumber
  phoneVerified := row.phoneVerified
  role := row.role
  status := row.status
  createdAt := row.createdAt
  updatedAt := row.updatedAt

def PrismaRole.name : PrismaRole → String
  | .CUSTOMER => "CUSTOMER"
  | .ADMIN => "ADMIN"
  | .STAFF => "STAFF"

def PrismaUserStatus.name : PrismaUserStatus → String
  | .ACTIVE => "ACTIVE"
  | .INACTIVE => "INACTIVE"
  | .SUSPENDED => "SUSPENDED"
  | .DELETED => "DELETED"

def PrismaRole.ofName (s : String) : Option PrismaRole :=
  [.ADMIN, .STAFF, .CUSTOMER].find? fun role => role.name = s

def PrismaUserStatus.ofName (s : String) : Option PrismaUserStatus :=
  [.ACTIVE, .INACTIVE, .SUSPENDED, .DELETED].find? fun status => status.name = s

structure FindAllUsersQueryOptions where
  page : Option JsNumber
  limit : Option JsNumber
  role : Option String
  status : Option String

structure UserWhere where
  role : Option PrismaRole
  status : Option PrismaUserStatus

def invalidClause : Error := .failure "PrismaClientValidationError"

namespace UserWhere

def matching (clause : UserWhere) (row : UserRow) : Bool :=
  clause.role.all (· == row.role) && clause.status.all (· == row.status)

end UserWhere

def newestFirst (a b : UserRow) : Bool := b.createdAt ≤ a.createdAt

theorem newestFirst_total : Pages.Total newestFirst where
  total a b := by simpa [newestFirst] using le_total b.createdAt a.createdAt
  trans a b c hab hbc := by
    simp only [newestFirst, decide_eq_true_eq] at *
    exact hbc.trans hab

def SortsUsers (sort : List UserRow → List UserRow) : Prop :=
  ∀ rows, Pages.Arranges newestFirst rows (sort rows)

namespace FindAllUsersQueryOptions

variable (o : FindAllUsersQueryOptions)

def pageOf : JsNumber := JsNumber.orElse (.ofNat 1) o.page
def limitOf : JsNumber := JsNumber.orElse (.ofNat 10) o.limit

def roleOf : Option String := o.role.filter (· ≠ "")
def statusOf : Option String := o.status.filter (· ≠ "")

def clause : Option UserWhere := do
  let role ← o.roleOf.mapM PrismaRole.ofName
  let status ← o.statusOf.mapM PrismaUserStatus.ofName
  return ⟨role, status⟩

def rows (sort : List UserRow → List UserRow) (clause : UserWhere) (t : UsersTable) :
    Option (List UserRow) :=
  PagedListing.window (PagedListing.skip o.pageOf o.limitOf) o.limitOf
    (sort (t.rows.filter clause.matching))

end FindAllUsersQueryOptions

namespace UserCache

def filters (role status : Option String) : List Char :=
  (role.map fun r => ":role:".toList ++ r.toList).getD [] ++
    (status.map fun s => ":status:".toList ++ s.toList).getD []

def getUserListKey (host : KeyHost) (page limit : JsNumber) (role status : Option String)
    (version : ℕ) : List Char :=
  "user:profile:list:v".toList ++ (digits version ++
    ':' :: ("page:".toList ++ ((host.numberText page).toList ++
      ':' :: ("limit:".toList ++ ((host.numberText limit).toList ++ filters role status)))))

end UserCache

structure UserItem where
  id : String
  fullName : String
  email : String
  gender : Option Gender
  dateOfBirth : Option String
  avatarUrl : Option String
  phoneNumber : Option String
  isPhoneVerified : Bool
  role : Role
  status : Status
  createdAt : String
  updatedAt : String

structure GetAllUsersResult where
  users : List UserItem
  pagination : PaginationInfo

structure GetAllUsersCommand where
  page : Option JsNumber
  limit : Option JsNumber
  role : Option String
  status : Option String

structure UserListStore where
  table : UsersTable
  version : Option ℕ
  cached : List Char → Option (UsersFound String)

def UserListStore.cold (table : UsersTable) : UserListStore := ⟨table, none, fun _ => none⟩

def UserListStore.current (s : UserListStore) : ℕ := s.version.getD 0

namespace PrismaUserQueryRepository

section

variable (sort : List UserRow → List UserRow) (o : FindAllUsersQueryOptions)

def queryUsers (t : UsersTable) : Except Error (UsersFound Date) :=
  match o.clause with
  | none => .error invalidClause
  | some clause =>
    match o.rows sort clause t with
    | none => .error invalidClause
    | some rows => .ok
        { users := rows.map UserRow.listColumns
          total := (t.rows.filter clause.matching).length }

variable (dates : DateHost) (host : KeyHost)

def listKey (version : ℕ) : List Char :=
  UserCache.getUserListKey host o.pageOf o.limitOf o.roleOf o.statusOf version

/-- The dates of a list that was cached are texts, those of one that was read are not. -/
def findAllUsers (s : UserListStore) : Except Error (UsersFound Moment) × UserListStore :=
  match s.cached (listKey o host s.current) with
  | some entry => (.ok (entry.map .text), s)
  | none =>
    match queryUsers sort o s.table with
    | .error e => (.error e, s)
    | .ok found => (.ok (found.map .date),
        { s with
          cached := Function.update s.cached (listKey o host s.current)
            (some (found.map dates.toISOString)) })

end

end PrismaUserQueryRepository

namespace GetAllUsersUseCase

variable (command : GetAllUsersCommand)

def pageOf : JsNumber := JsNumber.orElse (.ofNat 1) command.page
def limitOf : JsNumber := JsNumber.orElse (.ofNat 10) command.limit

def options : FindAllUsersQueryOptions where
  page := some (pageOf command)
  limit := some (limitOf command)
  role := command.role
  status := command.status

def pagination (total : JsNumber) : PaginationInfo :=
  let totalPages := PagedListing.totalPages (limitOf command) total
  { currentPage := pageOf command
    itemsPerPage := limitOf command
    totalItems := total
    totalPages := totalPages
    hasNextPage := (pageOf command).lt totalPages
    hasPreviousPage := JsNumber.lt (.ofNat 1) (pageOf command) }

variable (dates : DateHost)

def item (user : UserListColumns Moment) : Except Error UserItem := do
  let dateOfBirth ← Moment.normalised dates user.dateOfBirth
  return {
    id := user.id
    fullName := user.fullName
    email := user.email
    gender := user.gender.map genderMapper.toEntity
    dateOfBirth := dateOfBirth
    avatarUrl := user.avatarUrl
    phoneNumber := user.phoneNumber
    isPhoneVerified := user.phoneVerified
    role := roleMapper.toEntity user.role
    status := statusMapper.toEntity user.status
    createdAt := user.createdAt.json dates
    updatedAt := user.updatedAt.json dates }

def respond (found : UsersFound Moment) : Except Error GetAllUsersResult := do
  let users ← found.users.mapM (item dates)
  return { users := users, pagination := pagination command (.ofNat found.total) }

variable (host : KeyHost) (sort : List UserRow → List UserRow)

/-- The request `GET /users`, up to the JSON text of its response. -/
def execute (s : UserListStore) : Except Error GetAllUsersResult × UserListStore :=
  let found := PrismaUserQueryRepository.findAllUsers sort (options command) dates host s
  (found.1 >>= respond command dates, found.2)

def answer (t : UsersTable) : Except Error GetAllUsersResult := do
  let found ← PrismaUserQueryRepository.queryUsers sort (options command) t
  respond command dates (found.map .date)

end GetAllUsersUseCase

/-- A list, a change of users with the increment of the version that its announcement
brings, the end of an entry, or the loss of the whole cache. -/
inductive UserListAction where
  | list (sort : List UserRow → List UserRow) (command : GetAllUsersCommand)
  | change (table : UsersTable)
  | expire (key : List Char)
  | flush

namespace UserListAction

variable (dates : DateHost) (host : KeyHost)

def step (s : UserListStore) : UserListAction → UserListStore
  | list sort command => (GetAllUsersUseCase.execute command dates host sort s).2
  | change table => { s with table := table, version := some (s.current + 1) }
  | expire key => { s with cached := Function.update s.cached key none }
  | flush => .cold s.table

def Orderly : UserListAction → Prop
  | list sort _ => SortsUsers sort
  | _ => True

end UserListAction

namespace UserLists
open UserCache PrismaUserQueryRepository GetAllUsersUseCase UserListAction

section Keys

/-- Two texts without a colon, with a separator that has two of them, are told apart. -/
theorem pair_inj (r s r' s' : List Char) (plain : ':' ∉ r) (plain' : ':' ∉ s)
    (same : r ++ (":status:".toList ++ s) = r' ++ (":status:".toList ++ s')) : r = r' ∧ s = s' := by
  have colons := congrArg (List.count ':') same
  simp only [List.count_append, List.count_eq_zero.mpr plain, List.count_eq_zero.mpr plain']
    at colons
  have none : ':' ∉ r' := List.count_eq_zero.mp (by omega)
  exact ProductListKey.next_inj "status:".toList r r' s s' plain none same

/-- Filters without a colon are read back from a key, unless they stand in its role. -/
theorem filters_cases (role status role' status' : Option String)
    (plain : ∀ r ∈ role, ':' ∉ r.toList) (plain' : ∀ s ∈ status, ':' ∉ s.toList)
    (same : filters role status = filters role' status') :
    (role' = role ∧ status' = status) ∨
      ∃ r s, role = some r ∧ status = some s ∧ role' = some (r ++ ":status:" ++ s) ∧
        status' = none := by
  unfold filters at same
  cases role with
  | none =>
    cases role' with
    | some r' => cases status <;> exact absurd same (by simp)
    | none =>
      refine Or.inl ⟨rfl, ?_⟩
      cases status <;> cases status' <;> simp_all [String.toList_inj]
  | some r =>
    have plain := plain r rfl
    cases role' with
    | none => cases status' <;> exact absurd same (by simp)
    | some r' =>
      have texts := List.append_cancel_left ((List.append_assoc _ _ _).symm.trans
        (same.trans (List.append_assoc _ _ _)))
      cases status with
      | none =>
        cases status' with
        | none =>
          have chars : r = r' := String.toList_inj.mp (by simpa using texts)
          exact Or.inl ⟨congrArg some chars.symm, rfl⟩
        | some s' =>
          -- the role of the first key has no colon
          have chars : r.toList = r'.toList ++ (":status:".toList ++ s'.toList) := by
            simpa using texts
          exact absurd (chars ▸ by simp) plain
      | some s =>
        have plain' := plain' s rfl
        cases status' with
        | none =>
          have chars : r'.toList = r.toList ++ (":status:".toList ++ s.toList) := by
            simpa using texts.symm
          refine Or.inr ⟨r, s, rfl, rfl, congrArg some (String.toList_inj.mp ?_), rfl⟩
          rw [chars, String.toList_append, String.toList_append, List.append_assoc]
        | some s' =>
          obtain ⟨front, rest⟩ := pair_inj _ _ _ _ plain plain' texts
          exact Or.inl ⟨congrArg some (String.toList_inj.mp front.symm),
            congrArg some (String.toList_inj.mp rest.symm)⟩

theorem role_name (s : String) (role : PrismaRole) :
    PrismaRole.ofName s = some role ↔ s = role.name := by
  unfold PrismaRole.ofName
  constructor
  · intro found
    simpa [eq_comm] using List.find?_some found
  · rintro rfl
    cases role <;> decide

theorem status_name (s : String) (status : PrismaUserStatus) :
    PrismaUserStatus.ofName s = some status ↔ s = status.name := by
  unfold PrismaUserStatus.ofName
  constructor
  · intro found
    simpa [eq_comm] using List.find?_some found
  · rintro rfl
    cases status <;> decide

theorem role_name_plain (role : PrismaRole) : ':' ∉ role.name.toList ∧ role.name ≠ "" := by
  cases role <;> decide

theorem status_name_plain (status : PrismaUserStatus) :
    ':' ∉ status.name.toList ∧ status.name ≠ "" := by
  cases status <;> decide

theorem clause_eq_some_iff (o : FindAllUsersQueryOptions) (clause : UserWhere) :
    o.clause = some clause ↔ o.roleOf = clause.role.map PrismaRole.name ∧
      o.statusOf = clause.status.map PrismaUserStatus.name := by
  unfold FindAllUsersQueryOptions.clause
  obtain ⟨role, status⟩ := clause
  cases o.roleOf <;> cases o.statusOf <;> cases role <;> cases status <;>
    simp [role_name, status_name, and_comm, Option.bind_eq_some_iff]

theorem filters_starts (role status : Option String) : Starts ':' (filters role status) := by
  unfold filters
  cases role with
  | some r => exact starts_cons ':' _
  | none =>
    cases status with
    | some s => exact starts_cons ':' _
    | none => exact starts_nil ':'

variable (host : KeyHost)

structure Alike (o o' : FindAllUsersQueryOptions) : Prop where
  page : o.pageOf = o'.pageOf
  limit : o.limitOf = o'.limitOf
  filters : UserCache.filters o.roleOf o.statusOf = UserCache.filters o'.roleOf o'.statusOf

theorem key_alike (documented : host.Documented) (o o' : FindAllUsersQueryOptions) (v w : ℕ)
    (same : listKey o host v = listKey o' host w) : v = w ∧ Alike o o' := by
  unfold listKey UserCache.getUserListKey at same
  have rest := List.append_cancel_left same
  obtain ⟨version, rest⟩ := ProductListKey.next_inj "page:".toList _ _ _ _
    (ProductListKey.digits_plain v) (ProductListKey.digits_plain w) rest
  obtain ⟨page, rest⟩ := ProductListKey.next_inj "limit:".toList _ _ _ _
    (documented.numberText_plain _) (documented.numberText_plain _) rest
  obtain ⟨limit, rest⟩ := upTo_inj ':' _ _ _ _ (documented.numberText_plain _)
    (documented.numberText_plain _) (filters_starts _ _) (filters_starts _ _) rest
  exact ⟨digits_injective v w version,
    documented.numberText_injective _ _ (String.toList_inj.mp page),
    documented.numberText_injective _ _ (String.toList_inj.mp limit), rest⟩

end Keys

section Queries

def Counts (o : FindAllUsersQueryOptions) : Prop :=
  (PagedListing.window (PagedListing.skip o.pageOf o.limitOf) o.limitOf
    ([] : List UserRow)).isSome

structure Forged (o : FindAllUsersQueryOptions) : Prop where
  role : ∃ (role : PrismaRole) (status : PrismaUserStatus),
    o.role = some (role.name ++ ":status:" ++ status.name)
  status : o.statusOf = none
  counts : Counts o

variable (sort : List UserRow → List UserRow) (o o' : FindAllUsersQueryOptions)

theorem queryUsers_congr (t : UsersTable) (page : o.pageOf = o'.pageOf)
    (limit : o.limitOf = o'.limitOf) (role : o.roleOf = o'.roleOf)
    (status : o.statusOf = o'.statusOf) : queryUsers sort o t = queryUsers sort o' t := by
  unfold queryUsers FindAllUsersQueryOptions.clause FindAllUsersQueryOptions.rows
  rw [page, limit, role, status]

theorem queryUsers_ok (t : UsersTable) (found : UsersFound Date)
    (h : queryUsers sort o t = .ok found) : (∃ clause, o.clause = some clause) ∧ Counts o := by
  unfold queryUsers at h
  cases hc : o.clause with
  | none =>
    rw [hc] at h
    cases h
  | some clause =>
    refine ⟨⟨clause, rfl⟩, ?_⟩
    rw [hc] at h
    cases hr : o.rows sort clause t with
    | none => simp [hr] at h
    | some rows =>
      unfold Counts
      rw [PagedListing.window_isSome _ _ [] (sort (t.rows.filter clause.matching))]
      exact Option.isSome_of_eq_some hr

/-- Two requests with one key ask for the same list, if the database answers the first and
the second is not forged. -/
theorem queryUsers_alike (t : UsersTable) (found : UsersFound Date) (alike : Alike o o')
    (answered : queryUsers sort o t = .ok found) (honest : ¬ Forged o') :
    queryUsers sort o' t = .ok found := by
  obtain ⟨⟨clause, named⟩, counts⟩ := queryUsers_ok sort o t found answered
  obtain ⟨roles, statuses⟩ := (clause_eq_some_iff o clause).mp named
  have plainRole : ∀ r ∈ o.roleOf, ':' ∉ r.toList := by
    rw [roles]
    rintro r given
    obtain ⟨role, -, rfl⟩ := Option.map_eq_some_iff.mp given
    exact (role_name_plain role).1
  have plainStatus : ∀ s ∈ o.statusOf, ':' ∉ s.toList := by
    rw [statuses]
    rintro s given
    obtain ⟨status, -, rfl⟩ := Option.map_eq_some_iff.mp given
    exact (status_name_plain status).1
  obtain ⟨role, status⟩ | ⟨r, s, hr, hs, role, status⟩ := filters_cases o.roleOf o.statusOf
    o'.roleOf o'.statusOf plainRole plainStatus alike.filters
  · rw [← answered]
    exact queryUsers_congr sort o' o t alike.page.symm alike.limit.symm role status
  · refine absurd ?_ honest
    obtain ⟨own, -, rfl⟩ := Option.map_eq_some_iff.mp (roles.symm.trans hr)
    obtain ⟨own', -, rfl⟩ := Option.map_eq_some_iff.mp (statuses.symm.trans hs)
    refine ⟨⟨own, own', (Option.filter_eq_some_iff.mp role).1⟩, status, ?_⟩
    unfold Counts at *
    rwa [← alike.page, ← alike.limit]

end Queries

section Runs

variable (dates : DateHost) (host : KeyHost)

structure Honest (s : UserListStore) : Prop where
  bounded : ∀ o v entry, s.cached (listKey o host v) = some entry → v ≤ s.current
  entry : ∀ o entry, s.cached (listKey o host s.current) = some entry →
    ∃ o' own found, Alike o' o ∧ SortsUsers own ∧ queryUsers own o' s.table = .ok found ∧
      entry = found.map dates.toISOString

theorem cold_honest (t : UsersTable) : Honest dates host (.cold t) :=
  ⟨fun _ _ _ found => absurd found.symm (Option.some_ne_none _),
    fun _ _ found => absurd found.symm (Option.some_ne_none _)⟩

variable (documented : host.Documented)
include documented

theorem findAllUsers_honest (s : UserListStore) (sort : List UserRow → List UserRow)
    (sorts : SortsUsers sort) (o : FindAllUsersQueryOptions) (honest : Honest dates host s) :
    Honest dates host (findAllUsers sort o dates host s).2 := by
  unfold findAllUsers
  cases hit : s.cached (listKey o host s.current) with
  | some entry => exact honest
  | none =>
    cases answered : queryUsers sort o s.table with
    | error e => exact honest
    | ok found =>
      constructor
      · intro o' v entry filled
        obtain ⟨same, -⟩ | old := VersionedCache.cached_update _ _ _ _ _ filled
        · exact ((key_alike host documented o' o v s.current same).1).le
        · exact honest.bounded o' v entry old
      · intro o' entry filled
        obtain ⟨same, value⟩ | old := VersionedCache.cached_update _ _ _ _ _ filled
        · have alike := (key_alike host documented o o' _ _ same.symm).2
          exact ⟨o, sort, found, alike, sorts, answered, (Option.some.inj value).symm⟩
        · exact honest.entry o' entry old

theorem step_honest (s : UserListStore) (a : UserListAction) (honest : Honest dates host s)
    (orderly : a.Orderly) : Honest dates host (step dates host s a) := by
  cases a with
  | list sort command =>
    exact findAllUsers_honest dates host documented s sort orderly (options command) honest
  | change table =>
    -- no entry has the version that the change brings about
    refine ⟨fun o v entry found => Nat.le_succ_of_le (honest.bounded o v entry found), ?_⟩
    intro o entry found
    exact absurd (honest.bounded o _ entry found) (Nat.not_succ_le_self _)
  | expire key =>
    constructor
    · intro o v entry found
      obtain ⟨-, gone⟩ | old := VersionedCache.cached_update _ _ _ _ _ found
      · cases gone
      · exact honest.bounded o v entry old
    · intro o entry found
      obtain ⟨-, gone⟩ | old := VersionedCache.cached_update _ _ _ _ _ found
      · cases gone
      · exact honest.entry o entry old
  | flush => exact cold_honest dates host s.table

def Reached (s : UserListStore) : Prop :=
  ∃ t run, (∀ a ∈ run, Orderly a) ∧ s = after (step dates host) (.cold t) run

theorem reached_honest (s : UserListStore) (reached : Reached dates host s) :
    Honest dates host s := by
  obtain ⟨t, run, orderly, rfl⟩ := reached
  have each := throughout_of_step (step dates host) (Honest dates host) (fun _ a => a.Orderly)
    (step_honest dates host documented) (.cold t) run (cold_honest dates host t)
    (along_of_mem _ _ _ run orderly)
  exact throughout_end _ _ _ run each

omit documented

theorem findAllUsers_hit (sort : List UserRow → List UserRow) (o : FindAllUsersQueryOptions)
    (s : UserListStore) (entry : UsersFound String)
    (hit : s.cached (listKey o host s.current) = some entry) :
    findAllUsers sort o dates host s = (.ok (entry.map .text), s) := by
  unfold findAllUsers
  rw [hit]

theorem findAllUsers_miss (sort : List UserRow → List UserRow) (o : FindAllUsersQueryOptions)
    (s : UserListStore) (found : UsersFound Date) (miss : s.cached (listKey o host s.current) = none)
    (answered : queryUsers sort o s.table = .ok found) :
    findAllUsers sort o dates host s = (.ok (found.map .date),
      { s with
        cached := Function.update s.cached (listKey o host s.current)
          (some (found.map dates.toISOString)) }) := by
  unfold findAllUsers
  rw [miss, answered]

/-- The response does not show whether its users went through the cache. -/
theorem respond_json (documented : dates.Documented) (command : GetAllUsersCommand)
    (found : UsersFound Date) :
    respond command dates ((found.map dates.toISOString).map .text) =
      respond command dates (found.map .date) := by
  have items : ∀ user : UserListColumns Date,
      item dates (user.map (Moment.text ∘ dates.toISOString)) = item dates (user.map .date) := by
    intro user
    unfold item
    have cached := Moment.normalised_json dates documented user.dateOfBirth
    simp only [UserListColumns.map, Function.comp_def, Moment.json]
    rw [cached, Moment.normalised_date]
  unfold respond
  rw [UsersFound.map_map]
  simp only [UsersFound.map, List.mapM_map, Function.comp_def] at *
  simp only [items]

def AnsweredByTable (s : UserListStore) (sort : List UserRow → List UserRow)
    (command : GetAllUsersCommand) : Prop :=
  ∃ own, SortsUsers own ∧
    (execute command dates host sort s).1 = answer command dates own s.table

theorem honest_answer (datesDocumented : dates.Documented) (s : UserListStore)
    (honest : Honest dates host s) (sort : List UserRow → List UserRow) (sorts : SortsUsers sort)
    (command : GetAllUsersCommand) (unforged : ¬ Forged (options command)) :
    AnsweredByTable dates host s sort command := by
  unfold AnsweredByTable execute answer
  cases hit : s.cached (listKey (options command) host s.current) with
  | some entry =>
    obtain ⟨o', own, found, alike, sorts', answered, rfl⟩ := honest.entry _ _ hit
    refine ⟨own, sorts', ?_⟩
    rw [findAllUsers_hit dates host sort (options command) s _ hit,
      queryUsers_alike own o' (options command) s.table found alike answered unforged]
    exact respond_json dates datesDocumented command found
  | none =>
    refine ⟨sort, sorts, ?_⟩
    unfold findAllUsers
    rw [hit]
    cases queryUsers sort (options command) s.table <;> rfl

def newest (rows : List UserRow) : List UserRow := rows.mergeSort newestFirst

theorem newest_sorts : SortsUsers newest := fun rows =>
  ⟨List.mergeSort_perm rows newestFirst,
    List.pairwise_mergeSort newestFirst_total.trans newestFirst_total.total rows⟩

def spelledOut (command : GetAllUsersCommand) (role : PrismaRole) (status : PrismaUserStatus) :
    GetAllUsersCommand :=
  { command with role := some role.name, status := some status.name }

theorem roleOf_some (o : FindAllUsersQueryOptions) (r : String) (given : o.role = some r)
    (filled : r ≠ "") : o.roleOf = some r := by
  unfold FindAllUsersQueryOptions.roleOf
  rw [given, Option.filter_some, if_pos (decide_eq_true filled)]

theorem statusOf_some (o : FindAllUsersQueryOptions) (s : String) (given : o.status = some s)
    (filled : s ≠ "") : o.statusOf = some s := by
  unfold FindAllUsersQueryOptions.statusOf
  rw [given, Option.filter_some, if_pos (decide_eq_true filled)]

theorem spelledOut_key (command : GetAllUsersCommand) (role : PrismaRole)
    (status : PrismaUserStatus)
    (forged : (options command).role = some (role.name ++ ":status:" ++ status.name))
    (alone : (options command).statusOf = none) (version : ℕ) :
    listKey (options (spelledOut command role status)) host version =
      listKey (options command) host version := by
  have roles := roleOf_some (options (spelledOut command role status)) _ rfl (role_name_plain role).2
  have statuses := statusOf_some (options (spelledOut command role status)) _ rfl
    (status_name_plain status).2
  have own := roleOf_some _ _ forged (by cases role <;> cases status <;> decide)
  unfold listKey
  rw [roles, statuses, own, alone]
  show UserCache.getUserListKey host _ _ _ _ version = _
  unfold UserCache.getUserListKey UserCache.filters
  simp [options, spelledOut, FindAllUsersQueryOptions.pageOf, FindAllUsersQueryOptions.limitOf,
    pageOf, limitOf]

def shown (user : UserListColumns Date) : UserItem where
  id := user.id
  fullName := user.fullName
  email := user.email
  gender := user.gender.map genderMapper.toEntity
  dateOfBirth := user.dateOfBirth.map dates.toISOString
  avatarUrl := user.avatarUrl
  phoneNumber := user.phoneNumber
  isPhoneVerified := user.phoneVerified
  role := roleMapper.toEntity user.role
  status := statusMapper.toEntity user.status
  createdAt := dates.toISOString user.createdAt
  updatedAt := dates.toISOString user.updatedAt

theorem item_date (user : UserListColumns Date) :
    item dates (user.map .date) = .ok (shown dates user) := by
  unfold item UserListColumns.map shown
  rw [Moment.normalised_date]
  rfl

theorem respond_date (command : GetAllUsersCommand) (found : UsersFound Date) :
    respond command dates (found.map .date) = .ok
      { users := found.users.map (shown dates)
        pagination := pagination command (.ofNat found.total) } := by
  have items : ∀ users : List (UserListColumns Date),
      users.mapM (fun user => item dates (user.map .date)) = .ok (users.map (shown dates)) := by
    intro users
    induction users with
    | nil => rfl
    | cons user users ih =>
      rw [List.mapM_cons, item_date, ih]
      rfl
  unfold respond UsersFound.map
  rw [List.mapM_map]
  show (found.users.mapM fun user => item dates (user.map .date)) >>= _ = _
  rw [items]
  rfl

theorem queryUsers_refused (sort : List UserRow → List UserRow) (o : FindAllUsersQueryOptions)
    (t : UsersTable) (unknown : o.clause = none) : queryUsers sort o t = .error invalidClause := by
  unfold queryUsers
  rw [unknown]

theorem clause_forged (command : GetAllUsersCommand) (role : PrismaRole)
    (status : PrismaUserStatus)
    (spelled : (options command).role = some (role.name ++ ":status:" ++ status.name)) :
    (options command).clause = none := by
  cases named : (options command).clause with
  | none => rfl
  | some clause =>
    have own := roleOf_some _ _ spelled (by cases role <;> cases status <;> decide)
    have same := own.symm.trans ((clause_eq_some_iff _ clause).mp named).1
    obtain ⟨name, -, text⟩ := Option.map_eq_some_iff.mp same.symm
    have plain := (role_name_plain name).1
    rw [text] at plain
    exact absurd (by simp) plain

/-- After the request that it imitates, a forged one takes its answer. -/
theorem forged_answered (datesDocumented : dates.Documented) (command : GetAllUsersCommand)
    (forged : Forged (options command)) :
    ∃ s, Reached dates host s ∧ ¬ AnsweredByTable dates host s newest command := by
  obtain ⟨⟨role, status, spelled⟩, alone, counts⟩ := forged
  obtain ⟨t⟩ : Nonempty UsersTable := ⟨⟨[], by decide⟩⟩
  have key := spelledOut_key host command role status spelled alone
  have named : (options (spelledOut command role status)).clause =
      some ⟨some role, some status⟩ := (clause_eq_some_iff _ _).mpr
    ⟨roleOf_some _ _ rfl (role_name_plain role).2, statusOf_some _ _ rfl (status_name_plain status).2⟩
  obtain ⟨rows, window⟩ : ∃ rows, (options (spelledOut command role status)).rows newest
      ⟨some role, some status⟩ t = some rows := by
    unfold Counts at counts
    rw [PagedListing.window_isSome _ _ _ (newest (t.rows.filter
      (UserWhere.matching ⟨some role, some status⟩)))] at counts
    exact Option.isSome_iff_exists.mp counts
  obtain ⟨found, answered⟩ : ∃ found,
      queryUsers newest (options (spelledOut command role status)) t = .ok found := by
    unfold queryUsers
    rw [named]
    dsimp only
    rw [window]
    exact ⟨_, rfl⟩
  refine ⟨after (step dates host) (.cold t) [.list newest (spelledOut command role status)],
    ⟨t, _, ?_, rfl⟩, ?_⟩
  · intro a mem
    obtain rfl := List.mem_singleton.mp mem
    exact newest_sorts
  · rintro ⟨own, -, same⟩
    have filled : after (step dates host) (.cold t)
        [.list newest (spelledOut command role status)] =
        ⟨t, none, Function.update (fun _ => none) (listKey (options command) host 0)
          (some (found.map dates.toISOString))⟩ := by
      show (findAllUsers newest _ dates host (.cold t)).2 = _
      rw [findAllUsers_miss dates host newest _ (.cold t) found rfl answered, ← key 0]
      rfl
    generalize after (step dates host) (.cold t)
      [.list newest (spelledOut command role status)] = s at filled same
    have hit : s.cached (listKey (options command) host s.current) =
        some (found.map dates.toISOString) := by
      have unversioned : s.current = 0 := by rw [filled]; rfl
      rw [unversioned, filled]
      dsimp only
      rw [Function.update_self]
    unfold execute answer at same
    rw [findAllUsers_hit dates host newest _ s _ hit, queryUsers_refused own (options command)
      s.table (clause_forged command role status spelled)] at same
    change respond command dates ((found.map dates.toISOString).map .text) = _ at same
    rw [respond_json dates datesDocumented, respond_date] at same
    cases same

/-- In every run the response is what the table alone would give, in some order that the
database may choose, just when no status is written into the role. -/
theorem lists_exact_iff (datesDocumented : dates.Documented) (documented : host.Documented)
    (command : GetAllUsersCommand) :
    (∀ s, Reached dates host s → ∀ sort, SortsUsers sort →
        AnsweredByTable dates host s sort command) ↔ ¬ Forged (options command) := by
  constructor
  · intro exact_lists forged
    obtain ⟨s, reached, other⟩ := forged_answered dates host datesDocumented command forged
    exact other (exact_lists s reached newest newest_sorts)
  · intro unforged s reached sort sorts
    exact honest_answer dates host datesDocumented s
      (reached_honest dates host documented s reached) sort sorts command unforged

def documentedRole : Role → String
  | .admin => "admin"
  | .staff => "staff"
  | .customer => "customer"

def documentedStatus : Status → String
  | .active => "active"
  | .inactive => "inactive"
  | .suspended => "suspended"
  | .deleted => "deleted"

theorem documented_unknown (o : FindAllUsersQueryOptions)
    (given : (∃ role, o.role = some (documentedRole role)) ∨
      ∃ status, o.status = some (documentedStatus status)) : o.clause = none ∧ ¬ Forged o := by
  obtain ⟨role, role_given⟩ | ⟨status, status_given⟩ := given
  · constructor
    · cases named : o.clause with
      | none => rfl
      | some clause =>
        have own := roleOf_some o _ role_given (by cases role <;> decide)
        have same := own.symm.trans ((clause_eq_some_iff o clause).mp named).1
        obtain ⟨name, -, text⟩ := Option.map_eq_some_iff.mp same.symm
        exact absurd text (by cases role <;> cases name <;> decide)
    · rintro ⟨⟨name, value, forged⟩, -, -⟩
      have text := Option.some.inj (role_given.symm.trans forged)
      have plain : ':' ∉ (documentedRole role).toList := by cases role <;> decide
      rw [text] at plain
      exact absurd (by simp) plain
  · have own := statusOf_some o _ status_given (by cases status <;> decide)
    constructor
    · cases named : o.clause with
      | none => rfl
      | some clause =>
        have same := own.symm.trans ((clause_eq_some_iff o clause).mp named).2
        obtain ⟨name, -, text⟩ := Option.map_eq_some_iff.mp same.symm
        exact absurd text (by cases status <;> cases name <;> decide)
    · rintro ⟨-, alone, -⟩
      exact absurd (own.symm.trans alone) (Option.some_ne_none _)

/-- In no run does a request with a filter in the documented spelling get a list. -/
theorem documented_filter_refused (datesDocumented : dates.Documented)
    (documented : host.Documented) (command : GetAllUsersCommand)
    (given : (∃ role, command.role = some (documentedRole role)) ∨
      ∃ status, command.status = some (documentedStatus status))
    (s : UserListStore) (reached : Reached dates host s) (sort : List UserRow → List UserRow)
    (sorts : SortsUsers sort) : (execute command dates host sort s).1 = .error invalidClause := by
  obtain ⟨unknown, unforged⟩ := documented_unknown (options command) given
  obtain ⟨own, -, same⟩ := honest_answer dates host datesDocumented s
    (reached_honest dates host documented s reached) sort sorts command unforged
  rw [same]
  unfold answer
  rw [queryUsers_refused own (options command) s.table unknown]
  rfl

end Runs

def suspendedAdmins : GetAllUsersCommand where
  page := none
  limit := none
  role := some "ADMIN:status:SUSPENDED"
  status := none

theorem suspendedAdmins_forged : Forged (options suspendedAdmins) where
  role := ⟨.ADMIN, .SUSPENDED, rfl⟩
  status := rfl
  counts := by
    unfold Counts
    decide +kernel

theorem suspendedAdmins_not_exact :
    ¬ ∀ s, Reached Calendar.host ProductListKey.sampleHost s → ∀ sort, SortsUsers sort →
      AnsweredByTable Calendar.host ProductListKey.sampleHost s sort suspendedAdmins := fun exact =>
  (lists_exact_iff Calendar.host ProductListKey.sampleHost Calendar.host_documented
    ProductListKey.sampleHost_documented suspendedAdmins).mp exact suspendedAdmins_forged

/-- Staff, in the documented spelling, after a list of all users. -/
theorem staff_refused : (execute ⟨none, none, some "staff", none⟩ Calendar.host
    ProductListKey.sampleHost newest (step Calendar.host ProductListKey.sampleHost
      (.cold AccessTokens.sampleUsers) (.list newest ⟨none, none, none, none⟩))).1 =
    .error invalidClause := by
  have reached : Reached Calendar.host ProductListKey.sampleHost
      (step Calendar.host ProductListKey.sampleHost (.cold AccessTokens.sampleUsers)
        (.list newest ⟨none, none, none, none⟩)) := by
    refine ⟨AccessTokens.sampleUsers, [.list newest ⟨none, none, none, none⟩], ?_, rfl⟩
    intro a mem
    obtain rfl := List.mem_singleton.mp mem
    exact newest_sorts
  exact documented_filter_refused Calendar.host ProductListKey.sampleHost Calendar.host_documented
    ProductListKey.sampleHost_documented _ (Or.inl ⟨.staff, rfl⟩) _ reached newest newest_sorts

end UserLists

end KeramikStore
