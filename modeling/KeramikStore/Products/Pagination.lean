import KeramikStore.Library.PagedListing
import KeramikStore.Library.VersionedCache
import KeramikStore.Products.ListCacheKey
import KeramikStore.Products.ProductRepository

/-!
# Browsing the catalogue page by page

Each page is a query of its own, sorted by a single column. Products that are equal in
this column may stand in another order in the next query, so where a page ends between
them, one can be shown twice and another left out. The pages hold each product once, in
every order that the database may choose, just when no page ends between such products.
The count of the pages and the two flags are right in any case.
-/

set_option autoImplicit false

namespace KeramikStore
open Library Library.Pages Library.Runs

abbrev ProductQueryListItemResult := ProductQueryDetailResult

structure FindAllProductsQueryResult where
  products : List ProductQueryListItemResult
  total : JsNumber
deriving DecidableEq

/-- The database names a row by the 32 bits of its block and the 16 bits of its place
there, so it holds no more of them. -/
def ProductsTable.Addressable (t : ProductsTable) : Prop := t.rows.length < 2 ^ 48

instance (t : ProductsTable) : Decidable t.Addressable :=
  inferInstanceAs (Decidable (t.rows.length < 2 ^ 48))

/-- What the database does with the clauses of a list query. A row may stand before
another one if the sorted column allows it; rows that are equal there may each stand
before the other. -/
structure CatalogueDatabase where
  matching : ProductWhere → RawProduct → Bool
  mayPrecede : ProductSortBy × SortOrder → RawProduct → RawProduct → Bool
  total : ∀ orderBy, Total (mayPrecede orderBy)

namespace CatalogueDatabase

variable (db : CatalogueDatabase)

def select (clause : ProductWhere) (t : ProductsTable) : List RawProduct :=
  t.rows.filter (db.matching clause)

def Sorts (orderBy : ProductSortBy × SortOrder) (sort : List RawProduct → List RawProduct) : Prop :=
  ∀ rows, Arranges (db.mayPrecede orderBy) rows (sort rows)

def count (clause : ProductWhere) (t : ProductsTable) : JsNumber :=
  .ofNat (db.select clause t).length

/-- A `take` below zero would count from the end, but no page has one. Other numbers
that do not count rows are refused. -/
def findMany (sort : List RawProduct → List RawProduct) (o : FindAllProductsQueryOptions)
    (t : ProductsTable) : Except ProductFailure (List RawProduct) :=
  match o.skip.position, o.take.position with
  | some skip, some take => .ok (((sort (db.select o.buildWhereClause t)).drop skip).take take)
  | _, _ => .error (.failure "PrismaClientValidationError")

end CatalogueDatabase

/-- The version of the lists and their entries. An entry has been through JSON, which
leaves all that a page shows as it is. -/
structure ListEntries where
  version : Option ℕ
  cached : String → Option FindAllProductsQueryResult

namespace PrismaProductQueryRepository

def mapToListItem (raw : RawProduct) : ProductQueryListItemResult where
  id := raw.id
  sku := raw.sku
  name := raw.name
  description := raw.description
  brand := raw.brand
  imageUrl := raw.imageUrl
  price := raw.price
  currency := raw.currency
  tilePerBox := raw.tilePerBox
  status := raw.status
  size := extractSize (raw.attributes.getD .empty)
  attributes := raw.attributes.getD .empty
  createdAt := raw.createdAt
  updatedAt := raw.updatedAt

def fetchList (db : CatalogueDatabase) (sort : List RawProduct → List RawProduct)
    (o : FindAllProductsQueryOptions) (t : ProductsTable) :
    Except ProductFailure FindAllProductsQueryResult := do
  let products ← db.findMany sort o t
  return { products := products.map fun row => mapToListItem (querySelect row)
           total := db.count o.buildWhereClause t }

def listKey (keyHost : KeyHost) (o : FindAllProductsQueryOptions) (entries : ListEntries) :
    String :=
  ProductListKey.getProductListKey keyHost (entries.version.getD 0) o

def findAllProducts (keyHost : KeyHost) (db : CatalogueDatabase)
    (sort : List RawProduct → List RawProduct) (o : FindAllProductsQueryOptions)
    (t : ProductsTable) (entries : ListEntries) :
    Except ProductFailure FindAllProductsQueryResult × ListEntries :=
  match entries.cached (listKey keyHost o entries) with
  | some result => (.ok result, entries)
  | none =>
    match fetchList db sort o t with
    | .error e => (.error e, entries)
    | .ok result => (.ok result,
        { entries with
          cached := Function.update entries.cached (listKey keyHost o entries) (some result) })

end PrismaProductQueryRepository

structure BrowsingProductsCommand where
  page : Option JsNumber
  limit : Option JsNumber
  searchQuery : Option String
  sizeRange : Option SizeFilter
  brand : Option String
  priceRange : Option PriceRangeFilter
  attributes : Option AttributesFilter
  sortBy : ProductSortBy
  sortOrder : SortOrder

structure ProductListItemAttributes where
  grade : Option String
  finishing : Option String
  applicationAreas : Option (List String)
deriving DecidableEq

structure ProductListItem where
  id : String
  sku : String
  name : String
  brand : Option String
  imageUrl : Option String
  price : JsNumber
  currency : String
  tilePerBox : JsNumber
  status : String
  size : ProductQuerySize
  attributes : ProductListItemAttributes
deriving DecidableEq

structure PaginationInfo where
  currentPage : JsNumber
  itemsPerPage : JsNumber
  totalItems : JsNumber
  totalPages : JsNumber
  hasNextPage : Bool
  hasPreviousPage : Bool
deriving DecidableEq

structure BrowsingProductsResult where
  products : List ProductListItem
  pagination : PaginationInfo
deriving DecidableEq

namespace BrowsingProductsUseCase

def pageOf (command : BrowsingProductsCommand) : JsNumber := .orElse (.ofNat 1) command.page
def limitOf (command : BrowsingProductsCommand) : JsNumber := .orElse (.ofNat 10) command.limit

def options (command : BrowsingProductsCommand) : FindAllProductsQueryOptions where
  page := some (pageOf command)
  limit := some (limitOf command)
  sortBy := some command.sortBy
  sortOrder := some command.sortOrder
  status := none
  brand := command.brand
  priceRange := command.priceRange
  size := command.sizeRange.map fun range => { range with order := ⟨_, .refl _⟩ }
  attributes := command.attributes

def mapToProductListItem (product : ProductQueryListItemResult) : ProductListItem where
  id := product.id
  sku := product.sku
  name := product.name
  brand := product.brand
  imageUrl := product.imageUrl
  price := product.price
  currency := product.currency
  tilePerBox := product.tilePerBox
  status := product.status
  size := product.size
  attributes :=
    { grade := product.attributes.grade
      finishing := product.attributes.finishing
      applicationAreas := product.attributes.applicationAreas }

def present (command : BrowsingProductsCommand) (found : FindAllProductsQueryResult) :
    BrowsingProductsResult :=
  let totalPages := (found.total.div (limitOf command)).mathCeil
  { products := found.products.map mapToProductListItem
    pagination :=
      { currentPage := pageOf command
        itemsPerPage := limitOf command
        totalItems := found.total
        totalPages := totalPages
        hasNextPage := (pageOf command).lt totalPages
        hasPreviousPage := JsNumber.lt (.ofNat 1) (pageOf command) } }

def searches (command : BrowsingProductsCommand) : Bool :=
  command.searchQuery.any (· != "")

section Execute

variable (keyHost : KeyHost) (db : CatalogueDatabase)

def execute (sort : List RawProduct → List RawProduct) (command : BrowsingProductsCommand)
    (t : ProductsTable) (entries : ListEntries) :
    Except ProductFailure BrowsingProductsResult × ListEntries :=
  if searches command then
    (.error (.failure "Search functionality not implemented yet"), entries)
  else
    (PrismaProductQueryRepository.findAllProducts keyHost db sort (options command) t entries).map
      (Except.map (present command)) id

end Execute

def atPage (command : BrowsingProductsCommand) (p : ℕ) : BrowsingProductsCommand :=
  { command with page := some (.ofNat p) }

def matching (db : CatalogueDatabase) (command : BrowsingProductsCommand) (t : ProductsTable) :
    List RawProduct :=
  db.select (options command).buildWhereClause t

def shown (row : RawProduct) : ProductListItem :=
  mapToProductListItem
    (PrismaProductQueryRepository.mapToListItem (PrismaProductQueryRepository.querySelect row))

def Honest (keyHost : KeyHost) (db : CatalogueDatabase) (o : FindAllProductsQueryOptions)
    (t : ProductsTable) (entries : ListEntries) : Prop :=
  ∀ result, entries.cached (PrismaProductQueryRepository.listKey keyHost o entries) = some result →
    ∃ sort, db.Sorts o.orderBy sort ∧
      PrismaProductQueryRepository.fetchList db sort o t = .ok result

def IsPage (totalPages p : ℕ) : Prop := 1 ≤ p ∧ p ≤ totalPages

structure Describes (totalPages p : ℕ) (pagination : PaginationInfo) : Prop where
  count : pagination.totalPages = .ofNat totalPages
  next : pagination.hasNextPage = true ↔ IsPage totalPages (p + 1)
  previous : pagination.hasPreviousPage = true ↔ IsPage totalPages (p - 1)

/-- In whatever order the database answers each query and whatever the cache holds of
earlier answers, the pages hold each product once, the next one is empty, and the flags
tell which pages there are. -/
def PagesPartition (keyHost : KeyHost) (db : CatalogueDatabase) (command : BrowsingProductsCommand)
    (t : ProductsTable) : Prop :=
  ∀ (sort : ℕ → List RawProduct → List RawProduct) (entries : ℕ → ListEntries),
    (∀ p, db.Sorts (options command).orderBy (sort p)) →
    (∀ p, Honest keyHost db (options (atPage command p)) t (entries p)) →
    ∃ (totalPages : ℕ) (results : ℕ → BrowsingProductsResult),
      (∀ p, 1 ≤ p → p ≤ totalPages + 1 →
        (execute keyHost db (sort p) (atPage command p) t (entries p)).1 = .ok (results p) ∧
          Describes totalPages p (results p).pagination) ∧
      ((List.range totalPages).flatMap fun p => (results (p + 1)).products).Perm
        ((matching db command t).map shown) ∧
      (results (totalPages + 1)).products = []

section Pages
open PrismaProductQueryRepository

variable (keyHost : KeyHost) (db : CatalogueDatabase) (command : BrowsingProductsCommand)
  (t : ProductsTable) (n : ℕ)

theorem pageOf_atPage (q : ℕ) : pageOf (atPage command (q + 1)) = .ofNat (q + 1) :=
  JsNumber.orElse_of_given _ _ (JsNumber.given_ofNat_succ q)

theorem findAllProducts_cold (o : FindAllProductsQueryOptions)
    (sort : List RawProduct → List RawProduct) (entries : ListEntries)
    (cold : entries.cached (listKey keyHost o entries) = none) :
    (findAllProducts keyHost db sort o t entries).1 = fetchList db sort o t := by
  unfold findAllProducts
  rw [cold]
  cases fetchList db sort o t <;> rfl

/-- An entry that is taken is what some query of the same list has given. -/
theorem findAllProducts_honest (o : FindAllProductsQueryOptions)
    (sort : List RawProduct → List RawProduct) (sorts : db.Sorts o.orderBy sort)
    (entries : ListEntries) (honest : Honest keyHost db o t entries) :
    ∃ own, db.Sorts o.orderBy own ∧
      (findAllProducts keyHost db sort o t entries).1 = fetchList db own o t := by
  cases entry : entries.cached (listKey keyHost o entries) with
  | some result =>
    obtain ⟨own, hown, fetched⟩ := honest result entry
    unfold findAllProducts
    rw [entry]
    exact ⟨own, hown, fetched.symm⟩
  | none => exact ⟨sort, sorts, findAllProducts_cold keyHost db t o sort entries entry⟩

def foundAt (q : ℕ) (arranged : List RawProduct) : FindAllProductsQueryResult where
  products := (page n q arranged).map fun row => mapToListItem (querySelect row)
  total := .ofNat arranged.length

def resultAt (q : ℕ) (arranged : List RawProduct) : BrowsingProductsResult :=
  present (atPage command (q + 1)) (foundAt n q arranged)

theorem products_resultAt (q : ℕ) (arranged : List RawProduct) :
    (resultAt command n q arranged).products = (page n q arranged).map shown :=
  List.map_map

theorem nodup_shown : ((matching db command t).map shown).Nodup := by
  have ids : (t.rows.map RawProduct.id).Nodup := by
    rw [List.map_eq_flatMap]
    exact t.unique.id
  have kept : ((matching db command t).map RawProduct.id).Nodup :=
    ids.sublist (List.filter_sublist.map _)
  apply List.Nodup.of_map ProductListItem.id
  rw [List.map_map]
  exact kept

theorem few_matching (held : t.Addressable) : (matching db command t).length < 2 ^ 48 :=
  (List.length_filter_le _ _).trans_lt held

variable (one : 1 ≤ n) (asked : limitOf command = .ofNat n)
  (number : Binary64.represent n = .fin n) (held : t.Addressable)
include one asked number held

theorem skip_atPage (q : ℕ) (reached : q ≤ pageCount n (matching db command t).length) :
    (options (atPage command (q + 1))).skip = .ofNat (q * n) := by
  show PagedListing.skip (pageOf (atPage command (q + 1))) (limitOf command) = _
  rw [pageOf_atPage, asked]
  exact PagedListing.skip_page one number _ q (few_matching db command t held) reached

/-- The database is asked for the window of the page. -/
theorem fetchList_atPage (own : List RawProduct → List RawProduct)
    (sorts : db.Sorts (options command).orderBy own) (q : ℕ)
    (reached : q ≤ pageCount n (matching db command t).length) :
    fetchList db own (options (atPage command (q + 1))) t =
      .ok (foundAt n q (own (matching db command t))) := by
  have skip := skip_atPage db command t n one asked number held q reached
  have take : (options (atPage command (q + 1))).take = .ofNat n := asked
  have length := (sorts (matching db command t)).length
  unfold fetchList CatalogueDatabase.findMany
  rw [skip, take, JsNumber.position_ofNat, JsNumber.position_ofNat, foundAt, length]
  rfl

omit held in
theorem describes_resultAt (q : ℕ) (arranged : List RawProduct) (few : arranged.length < 2 ^ 53)
    (reached : q ≤ pageCount n arranged.length) :
    Describes (pageCount n arranged.length) (q + 1) (resultAt command n q arranged).pagination := by
  have pages : PagedListing.totalPages (limitOf command) (.ofNat arranged.length) =
      .ofNat (pageCount n arranged.length) := by
    rw [asked]
    exact PagedListing.totalPages_count one number arranged.length few
  have current := pageOf_atPage command q
  constructor
  · exact pages
  · show (pageOf (atPage command (q + 1))).lt
      (PagedListing.totalPages (limitOf command) (.ofNat arranged.length)) = true ↔ _
    rw [current, pages, JsNumber.ofNat_lt_ofNat, decide_eq_true_iff, IsPage]
    omega
  · show JsNumber.lt (.ofNat 1) (pageOf (atPage command (q + 1))) = true ↔ _
    rw [current, JsNumber.ofNat_lt_ofNat, decide_eq_true_iff, IsPage]
    omega

theorem execute_atPage (listed : searches command = false)
    (sort own : List RawProduct → List RawProduct)
    (sorts : db.Sorts (options command).orderBy own) (entries : ListEntries) (q : ℕ)
    (reached : q ≤ pageCount n (matching db command t).length)
    (found : (findAllProducts keyHost db sort (options (atPage command (q + 1))) t entries).1 =
      fetchList db own (options (atPage command (q + 1))) t) :
    (execute keyHost db sort (atPage command (q + 1)) t entries).1 =
      .ok (resultAt command n q (own (matching db command t))) := by
  rw [fetchList_atPage db command t n one asked number held own sorts q reached] at found
  unfold execute
  rw [show searches (atPage command (q + 1)) = false from listed]
  show Except.map _ (findAllProducts keyHost db sort _ t entries).1 = _
  rw [found]
  rfl

theorem execute_cold (listed : searches command = false)
    (sort : List RawProduct → List RawProduct) (sorts : db.Sorts (options command).orderBy sort)
    (q : ℕ) (reached : q ≤ pageCount n (matching db command t).length) :
    (execute keyHost db sort (atPage command (q + 1)) t ⟨none, fun _ => none⟩).1 =
      .ok (resultAt command n q (sort (matching db command t))) :=
  execute_atPage keyHost db command t n one asked number held listed sort sort sorts _ q reached
    (findAllProducts_cold keyHost db t _ sort _ rfl)

theorem describes_own (own : List RawProduct → List RawProduct)
    (sorts : db.Sorts (options command).orderBy own) (q : ℕ)
    (reached : q ≤ pageCount n (matching db command t).length) :
    Describes (pageCount n (matching db command t).length) (q + 1)
      (resultAt command n q (own (matching db command t))).pagination := by
  have few := few_matching db command t held
  rw [← (sorts (matching db command t)).length] at few reached ⊢
  exact describes_resultAt command n one asked number q _ (few.trans (by norm_num)) reached

omit asked number held in
theorem own_ends (own : List RawProduct → List RawProduct)
    (sorts : db.Sorts (options command).orderBy own) (q : ℕ)
    (next : q = pageCount n (matching db command t).length) :
    (resultAt command n q (own (matching db command t))).products = [] := by
  have past := page_pageCount one (own (matching db command t))
  rw [(sorts _).length, ← next] at past
  rw [products_resultAt, past, List.map_nil]

/-- Cut or not, a page tells which pages there are, and the one after the last is empty. -/
theorem execute_describes (listed : searches command = false)
    (sort : List RawProduct → List RawProduct) (sorts : db.Sorts (options command).orderBy sort)
    (entries : ListEntries) (q : ℕ) (reached : q ≤ pageCount n (matching db command t).length)
    (honest : Honest keyHost db (options (atPage command (q + 1))) t entries) :
    ∃ result, (execute keyHost db sort (atPage command (q + 1)) t entries).1 = .ok result ∧
      Describes (pageCount n (matching db command t).length) (q + 1) result.pagination ∧
      (q = pageCount n (matching db command t).length → result.products = []) := by
  obtain ⟨own, hown, found⟩ := findAllProducts_honest keyHost db t
    (options (atPage command (q + 1))) sort sorts entries honest
  refine ⟨resultAt command n q (own (matching db command t)), ?_, ?_, ?_⟩
  · exact execute_atPage keyHost db command t n one asked number held listed sort own hown entries q
      reached found
  · exact describes_own db command t n one asked number held own hown q reached
  · exact own_ends db command t n one own hown q

theorem pages_of_uncut (listed : searches command = false)
    (uncut : Uncut (db.mayPrecede (options command).orderBy) n (matching db command t)) :
    PagesPartition keyHost db command t := by
  intro sort entries sorts honest
  -- the order of each page is that of its own query or of the one that filled its entry
  have orders (q : ℕ) : ∃ own, db.Sorts (options command).orderBy own ∧
      (findAllProducts keyHost db (sort (q + 1)) (options (atPage command (q + 1))) t
        (entries (q + 1))).1 = fetchList db own (options (atPage command (q + 1))) t :=
    findAllProducts_honest keyHost db t (options (atPage command (q + 1))) (sort (q + 1))
      (sorts (q + 1)) (entries (q + 1)) (honest (q + 1))
  choose own hown found using orders
  refine ⟨pageCount n (matching db command t).length,
    fun p => resultAt command n (p - 1) (own (p - 1) (matching db command t)), ?_, ?_, ?_⟩
  · intro p from_one to_next
    obtain ⟨q, rfl⟩ : ∃ q, p = q + 1 := ⟨p - 1, by omega⟩
    have reached : q ≤ pageCount n (matching db command t).length := by omega
    simp only [Nat.add_sub_cancel]
    exact ⟨execute_atPage keyHost db command t n one asked number held listed _ _ (hown q) _ q
      reached (found q), describes_own db command t n one asked number held _ (hown q) q reached⟩
  · have each := pages_perm (db.total (options command).orderBy) one uncut
      (fun q => own q (matching db command t)) fun q => hown q _
    have items := each.map shown
    rw [List.map_flatMap] at items
    simpa only [Nat.add_sub_cancel, products_resultAt] using items
  · simp only [Nat.add_sub_cancel]
    exact own_ends db command t n one _ (hown _) _ rfl

/-- A column in which no two matching products are equal needs nothing else. -/
theorem pages_of_apart (listed : searches command = false)
    (apart : ∀ x ∈ matching db command t, ∀ y ∈ matching db command t,
      db.mayPrecede (options command).orderBy x y = true →
        db.mayPrecede (options command).orderBy y x = true → x = y) :
    PagesPartition keyHost db command t :=
  pages_of_uncut keyHost db command t n one asked number held listed
    (uncut_of_apart (db.total _) (nodup_shown db command t).of_map apart)

theorem uncut_of_pages (listed : searches command = false)
    (partition : PagesPartition keyHost db command t) :
    Uncut (db.mayPrecede (options command).orderBy) n (matching db command t) := by
  by_contra cut
  obtain ⟨sort, sorts, p, x, last, here, there⟩ :=
    exists_repeating (db.total (options command).orderBy) one cut
  -- each page is asked for first by the run itself, so no entry stands in for its query
  obtain ⟨totalPages, results, pages, perm, -⟩ := partition (fun r => sort (r - 1))
    (fun _ => ⟨none, fun _ => none⟩) (fun r => sorts (r - 1)) fun _ _ found => nomatch found
  have shows (q : ℕ) (reached : q ≤ pageCount n (matching db command t).length)
      (within : q ≤ totalPages) :
      results (q + 1) = resultAt command n q (sort q (matching db command t)) := by
    have answer := (pages (q + 1) (by omega) (by omega)).1
    rw [Nat.add_sub_cancel, execute_cold keyHost db command t n one asked number held listed _
      (sorts q) q reached] at answer
    exact (Except.ok.inj answer).symm
  have total : totalPages = pageCount n (matching db command t).length := by
    have count := (pages 1 (by omega) (by omega)).2.count
    have described := (describes_own db command t n one asked number held (sort 0) (sorts 0) 0
      (Nat.zero_le _)).count
    rw [shows 0 (Nat.zero_le _) (Nat.zero_le _), described, JsNumber.ofNat_eq_iff] at count
    exact count.symm
  have distinct := perm.nodup_iff.mpr (nodup_shown db command t)
  rw [List.nodup_flatMap] at distinct
  have apart := List.pairwise_iff_getElem.mp distinct.2 p (p + 1)
    (by rw [List.length_range]; omega) (by rw [List.length_range]; omega) (Nat.lt_succ_self p)
  rw [List.getElem_range, List.getElem_range] at apart
  have on_page (q : ℕ) (within : q ≤ totalPages)
      (mem : x ∈ page n q (sort q (matching db command t))) :
      shown x ∈ (results (q + 1)).products := by
    rw [shows q (total ▸ within) within, products_resultAt]
    exact List.mem_map_of_mem mem
  exact apart (on_page p (by omega) here) (on_page (p + 1) (by omega) there)

/-- The pages hold each product once just when the products that are equal in the sorted
column are always on one page: with `b` products strictly before one and `u` not strictly
after it, the positions `b` and `u - 1` are on the same page. -/
theorem pages_partition_iff (listed : searches command = false) :
    PagesPartition keyHost db command t ↔
      Uncut (db.mayPrecede (options command).orderBy) n (matching db command t) :=
  ⟨uncut_of_pages keyHost db command t n one asked number held listed,
    pages_of_uncut keyHost db command t n one asked number held listed⟩

end Pages

/-! What the cache holds of a list that starts with a cold one. -/

section Entries
open PrismaProductQueryRepository

variable (keyHost : KeyHost) (db : CatalogueDatabase) (command : BrowsingProductsCommand)
  (t : ProductsTable)

inductive ListAction where
  | browse (p : ℕ) (sort : List RawProduct → List RawProduct)
      (sorts : db.Sorts (options command).orderBy sort)
  | expire (key : String)
  | renew (version : Option ℕ)

def perform (entries : ListEntries) : ListAction db command → ListEntries
  | .browse p sort _ => (execute keyHost db sort (atPage command p) t entries).2
  | .expire key => { entries with cached := Function.update entries.cached key none }
  | .renew version => { entries with version := version }

def AllHonest (entries : ListEntries) : Prop :=
  ∀ version p, Honest keyHost db (options (atPage command p)) t { entries with version := version }

/-- Pages of one list have one key only if they are the same page. -/
theorem options_of_key (documented : keyHost.Documented) (v w p q : ℕ)
    (h : ProductListKey.getProductListKey keyHost v (options (atPage command p)) =
      ProductListKey.getProductListKey keyHost w (options (atPage command q))) :
    options (atPage command p) = options (atPage command q) := by
  obtain rfl := ProductListKey.key_version keyHost v w _ _ h
  have same : pageOf (atPage command p) = pageOf (atPage command q) :=
    (ProductListKey.key_alike keyHost documented v _ _ h).1.page
  show { options command with page := some (pageOf (atPage command p)) } =
    { options command with page := some (pageOf (atPage command q)) }
  rw [same]

theorem execute_entries (sort : List RawProduct → List RawProduct) (entries : ListEntries) :
    (execute keyHost db sort command t entries).2 = entries ∨
      ∃ result, fetchList db sort (options command) t = .ok result ∧
        (execute keyHost db sort command t entries).2 = { entries with
          cached := Function.update entries.cached (listKey keyHost (options command) entries)
            (some result) } := by
  unfold execute
  by_cases search : searches command = true
  · exact .inl (by rw [if_pos search])
  rw [if_neg search, Prod.map_snd, id_eq]
  unfold findAllProducts
  cases entries.cached (listKey keyHost (options command) entries) with
  | some result => exact .inl rfl
  | none =>
    cases fetched : fetchList db sort (options command) t with
    | error e => exact .inl rfl
    | ok result => exact .inr ⟨result, rfl, rfl⟩

theorem perform_honest (documented : keyHost.Documented) (entries : ListEntries)
    (action : ListAction db command) (honest : AllHonest keyHost db command t entries) :
    AllHonest keyHost db command t (perform keyHost db command t entries action) := by
  cases action with
  | renew version => exact fun v p => honest v p
  | expire key =>
    intro version p result entry
    rcases VersionedCache.cached_update _ _ _ _ _ entry with ⟨-, gone⟩ | old
    · cases gone
    · exact honest version p result old
  | browse p sort sorts =>
    rcases execute_entries keyHost db (atPage command p) t sort entries with kept | filled
    · show AllHonest keyHost db command t (execute keyHost db sort (atPage command p) t entries).2
      rw [kept]
      exact honest
    · obtain ⟨fetched, own, filled⟩ := filled
      show AllHonest keyHost db command t (execute keyHost db sort (atPage command p) t entries).2
      rw [filled]
      intro version q result entry
      rcases VersionedCache.cached_update _ _ _ _ _ entry with ⟨same, new⟩ | old
      · -- the entry of this page is read for no other one
        rw [options_of_key keyHost command documented _ _ q p same, ← Option.some.inj new]
        exact ⟨sort, sorts, own⟩
      · exact honest version q result old

/-- From a cold cache, all that the pages of a list read was read for them. -/
theorem honest_throughout (documented : keyHost.Documented) (version : Option ℕ)
    (run : List (ListAction db command)) :
    Throughout (perform keyHost db command t) (AllHonest keyHost db command t)
      ⟨version, fun _ => none⟩ run :=
  throughout_of_keep _ _
    (fun entries action honest => perform_honest keyHost db command t documented entries action
      honest) _ run fun _ _ _ found => nomatch found

end Entries

/-! A database that sorts by the price and by the dates. -/

def sampleColumn (sortBy : ProductSortBy) (row : RawProduct) : ℚ :=
  match sortBy, row.price with
  | .price, .fin q => q
  | .updatedAt, _ => row.updatedAt
  | _, _ => row.createdAt

def sampleCatalogue : CatalogueDatabase where
  matching clause row :=
    clause.status.elim (row.status != "DELETED") fun status => row.status == status.getValue
  mayPrecede orderBy x y :=
    match orderBy.2 with
    | .asc => sampleColumn orderBy.1 x ≤ sampleColumn orderBy.1 y
    | .desc => sampleColumn orderBy.1 y ≤ sampleColumn orderBy.1 x
  total orderBy := by
    cases orderBy.2 with
    | asc =>
      constructor
      · intro x y
        simpa using le_total _ _
      · intro x y z
        simpa using le_trans
    | desc =>
      constructor
      · intro x y
        simpa using le_total _ _
      · intro x y z above below
        simp only [decide_eq_true_eq] at *
        exact below.trans above

def byPrice (limit : ℕ) : BrowsingProductsCommand where
  page := none
  limit := some (.ofNat limit)
  searchQuery := none
  sizeRange := none
  brand := none
  priceRange := none
  attributes := none
  sortBy := .price
  sortOrder := .asc

def sampleCatalogueTable : ProductsTable where
  rows :=
    [RawProduct.sample,
      { RawProduct.sample with id := "twin", sku := "TWIN-1" },
      { RawProduct.sample with id := "dearer", sku := "DEAR-1", price := .ofNat 20 }]
  unique := by decide

theorem sample_pages_partition :
    PagesPartition ProductListKey.sampleHost sampleCatalogue (byPrice 2) sampleCatalogueTable :=
  (pages_partition_iff ProductListKey.sampleHost sampleCatalogue (byPrice 2) sampleCatalogueTable
    2 (by decide) (by decide +kernel) (by decide +kernel) (by decide) rfl).mpr
    (by decide +kernel)

/-- With one product a page, one of the twins can be on the first two pages and the other
one on none. -/
theorem twins_break_partition :
    ¬PagesPartition ProductListKey.sampleHost sampleCatalogue (byPrice 1) sampleCatalogueTable := by
  intro partition
  have uncut := uncut_of_pages ProductListKey.sampleHost sampleCatalogue (byPrice 1)
    sampleCatalogueTable 1 (by decide) (by decide +kernel) (by decide +kernel) (by decide) rfl
    partition
  exact absurd uncut (by decide +kernel)

end BrowsingProductsUseCase

end KeramikStore
