import KeramikStore.Products.Pagination

/-!
# Which lists are always right

Lists of all kinds are asked for, products are written, entries of the cache expire and the
cache is lost. A write gives the lists a new version, so an entry that is taken was read
from the table of now; but it may have been read for another list, whose key is the same.
A list is answered rightly in every run just when all lists of its key select the same
products.
-/

set_option autoImplicit false

namespace KeramikStore.ListRuns
open Library Library.Runs Library.Pages PrismaProductQueryRepository FindAllProductsQueryOptions
open ProductListKey

structure Catalogue where
  table : ProductsTable
  entries : ListEntries

namespace Catalogue

def start (table : ProductsTable) : Catalogue := ⟨table, none, fun _ => none⟩

def version (s : Catalogue) : ℕ := s.entries.version.getD 0

end Catalogue

variable (keyHost : KeyHost) (db : CatalogueDatabase)

inductive Action where
  | list (o : FindAllProductsQueryOptions) (sort : List RawProduct → List RawProduct)
      (sorts : db.Sorts o.orderBy sort)
  | write (table : ProductsTable)
  | expire (key : String)
  | lose

def step (s : Catalogue) : Action db → Catalogue
  | .list o sort _ => { s with entries := (findAllProducts keyHost db sort o s.table s.entries).2 }
  | .write table => ⟨table, { s.entries with version := some (s.version + 1) }⟩
  | .expire key =>
    { s with entries := { s.entries with cached := Function.update s.entries.cached key none } }
  | .lose => { s with entries := ⟨none, fun _ => none⟩ }

def Answers (o : FindAllProductsQueryOptions) (t : ProductsTable)
    (answer : Except ProductFailure FindAllProductsQueryResult) : Prop :=
  ∃ sort, db.Sorts o.orderBy sort ∧ fetchList db sort o t = answer

def AlwaysRight (o : FindAllProductsQueryOptions) : Prop :=
  ∀ table run sort, db.Sorts o.orderBy sort →
    let s := after (step keyHost db) (.start table) run
    Answers db o s.table (findAllProducts keyHost db sort o s.table s.entries).1

def Share (o₁ o₂ : FindAllProductsQueryOptions) : Prop :=
  PlainAlike keyHost o₁ o₂ ∧ filtersStart keyHost o₁ = filtersStart keyHost o₂

def InRange (o : FindAllProductsQueryOptions) : Prop :=
  o.skip.position.isSome = true ∧ o.take.position.isSome = true

section Queries

variable {keyHost} {o₁ o₂ : FindAllProductsQueryOptions} (alike : PlainAlike keyHost o₁ o₂)
include alike

theorem window_alike : o₁.skip = o₂.skip ∧ o₁.take = o₂.take ∧ o₁.orderBy = o₂.orderBy := by
  refine ⟨?_, alike.limit, ?_⟩
  · unfold skip
    rw [alike.page, alike.limit]
  · unfold orderBy
    rw [alike.sortBy, alike.sortOrder]

/-- Lists that are alike but for their filters differ in what they select only. -/
theorem fetch_alike (sort : List RawProduct → List RawProduct) (t : ProductsTable)
    (same : db.select o₁.buildWhereClause t = db.select o₂.buildWhereClause t) :
    fetchList db sort o₁ t = fetchList db sort o₂ t := by
  obtain ⟨skip, take, -⟩ := window_alike alike
  unfold fetchList CatalogueDatabase.findMany CatalogueDatabase.count
  rw [skip, take, same]

theorem answers_alike (t : ProductsTable)
    (same : db.select o₁.buildWhereClause t = db.select o₂.buildWhereClause t)
    (answer : Except ProductFailure FindAllProductsQueryResult) :
    Answers db o₁ t answer ↔ Answers db o₂ t answer := by
  unfold Answers
  rw [(window_alike alike).2.2]
  simp only [fetch_alike db alike _ t same]

end Queries

theorem fetch_total (sort : List RawProduct → List RawProduct) (o : FindAllProductsQueryOptions)
    (t : ProductsTable) (result : FindAllProductsQueryResult)
    (h : fetchList db sort o t = .ok result) : result.total = db.count o.buildWhereClause t := by
  obtain ⟨products, -, made⟩ := (bind_ok_iff _ _ _).mp h
  rw [← Except.ok.inj made]

theorem fetch_ok (sort : List RawProduct → List RawProduct) (o : FindAllProductsQueryOptions)
    (t : ProductsTable) (inRange : InRange o) : ∃ result, fetchList db sort o t = .ok result := by
  obtain ⟨skip, hskip⟩ := Option.isSome_iff_exists.mp inRange.1
  obtain ⟨take, htake⟩ := Option.isSome_iff_exists.mp inRange.2
  unfold fetchList CatalogueDatabase.findMany
  rw [hskip, htake]
  exact ⟨_, rfl⟩

theorem exists_sort (o : FindAllProductsQueryOptions) : ∃ sort, db.Sorts o.orderBy sort :=
  ⟨_, fun rows => arranges_mergeSort (db.total o.orderBy) rows⟩

def Told (s : Catalogue) : Prop :=
  ∀ key result, s.entries.cached key = some result → ∃ v o,
    key = getProductListKey keyHost v o ∧ v ≤ s.version ∧
      (v = s.version → Answers db o s.table (.ok result))

theorem told_start (table : ProductsTable) : Told keyHost db (.start table) :=
  fun _ _ entry => absurd entry.symm (Option.some_ne_none _)

theorem list_entries (o : FindAllProductsQueryOptions) (sort : List RawProduct → List RawProduct)
    (s : Catalogue) : (findAllProducts keyHost db sort o s.table s.entries).2 = s.entries ∨
      ∃ result, fetchList db sort o s.table = .ok result ∧
        (findAllProducts keyHost db sort o s.table s.entries).2 = { s.entries with
          cached := Function.update s.entries.cached (getProductListKey keyHost s.version o)
            (some result) } := by
  unfold findAllProducts
  cases s.entries.cached (listKey keyHost o s.entries) with
  | some result => exact Or.inl rfl
  | none =>
    cases fetched : fetchList db sort o s.table with
    | error e => exact Or.inl rfl
    | ok result => exact Or.inr ⟨result, rfl, rfl⟩

theorem step_told (s : Catalogue) (a : Action db) (told : Told keyHost db s) :
    Told keyHost db (step keyHost db s a) := by
  cases a with
  | list o sort sorts =>
    dsimp only [step]
    obtain kept | ⟨result, fetched, filled⟩ := list_entries keyHost db o sort s
    · rw [kept]
      exact told
    · rw [filled]
      intro key found entry
      obtain ⟨rfl, new⟩ | old := VersionedCache.cached_update _ _ _ _ _ entry
      · obtain rfl := Option.some.inj new
        exact ⟨s.version, o, rfl, le_rfl, fun _ => ⟨sort, sorts, fetched⟩⟩
      · exact told key found old
  | write table =>
    intro key result entry
    obtain ⟨v, o, named, past, -⟩ := told key result entry
    exact ⟨v, o, named, past.trans (Nat.le_succ _), fun now => absurd now (Nat.ne_of_lt
      (Nat.lt_succ_of_le past))⟩
  | expire key =>
    intro k result entry
    obtain ⟨-, gone⟩ | old := VersionedCache.cached_update _ _ _ _ _ entry
    · exact absurd gone.symm (Option.some_ne_none _)
    · exact told k result old
  | lose => exact fun _ _ entry => absurd entry.symm (Option.some_ne_none _)

/-- In every state of a run, a list is answered as the database might answer some list of
its key. -/
theorem answered_by_sharer (documented : keyHost.Documented) (o : FindAllProductsQueryOptions)
    (sort : List RawProduct → List RawProduct) (sorts : db.Sorts o.orderBy sort) (s : Catalogue)
    (told : Told keyHost db s) : ∃ o', Share keyHost o o' ∧
      Answers db o' s.table (findAllProducts keyHost db sort o s.table s.entries).1 := by
  cases entry : s.entries.cached (listKey keyHost o s.entries) with
  | none =>
    refine ⟨o, ⟨⟨rfl, rfl, rfl, rfl, rfl, rfl⟩, rfl⟩, sort, sorts, ?_⟩
    exact (BrowsingProductsUseCase.findAllProducts_cold keyHost db s.table o sort s.entries
      entry).symm
  | some result =>
    obtain ⟨v, o', named, -, answered⟩ := told _ result entry
    have now := ProductListKey.key_version keyHost _ _ _ _ named
    subst now
    refine ⟨o', key_alike keyHost documented _ o o' named, ?_⟩
    unfold findAllProducts
    rw [entry]
    exact answered rfl

def only (row : RawProduct) : ProductsTable where
  rows := [row]
  unique := by
    constructor <;> unfold KeyedTable.UniqueBy <;> rw [List.flatMap_singleton]
    · exact List.nodup_singleton row.id
    · unfold RawProduct.indexedSku
      split_ifs
      · exact List.nodup_singleton row.sku
      · exact List.nodup_nil

theorem count_only (clause : ProductWhere) (row : RawProduct) :
    db.count clause (only row) = .ofNat (if db.matching clause row then 1 else 0) := by
  unfold CatalogueDatabase.count CatalogueDatabase.select only
  rw [List.filter_singleton]
  cases db.matching clause row <;> rfl

/-- The answer to the first list of a run is taken for each list of its key. -/
theorem first_is_taken (o o' : FindAllProductsQueryOptions) (share : Share keyHost o o')
    (table : ProductsTable) (first own : List RawProduct → List RawProduct)
    (sorts : db.Sorts o'.orderBy first) (result : FindAllProductsQueryResult)
    (fetched : fetchList db first o' table = .ok result) :
    (findAllProducts keyHost db own o table
      (step keyHost db (.start table) (.list o' first sorts)).entries).1 = .ok result := by
  have key : listKey keyHost o' (Catalogue.start table).entries =
      listKey keyHost o (Catalogue.start table).entries :=
    (key_of_alike keyHost 0 o o' share.1 share.2).symm
  have filled : (step keyHost db (.start table) (.list o' first sorts)).entries =
      { version := none
        cached := Function.update (fun _ => none)
          (listKey keyHost o (Catalogue.start table).entries) (some result) } := by
    rw [← key]
    unfold step findAllProducts
    dsimp only [Catalogue.start]
    rw [fetched]
  rw [filled]
  have entry : Function.update (fun _ => none)
      (listKey keyHost o (Catalogue.start table).entries) (some result)
      (listKey keyHost o (Catalogue.start table).entries) = some result :=
    Function.update_self _ _ _
  unfold findAllProducts
  dsimp only [Catalogue.start, listKey] at entry ⊢
  rw [entry]

theorem selects_alike (o o' : FindAllProductsQueryOptions) (share : Share keyHost o o')
    (inRange : InRange o') (row : RawProduct) (right : AlwaysRight keyHost db o) :
    db.matching o'.buildWhereClause row = db.matching o.buildWhereClause row := by
  obtain ⟨first, sorts⟩ := exists_sort db o'
  obtain ⟨own, owns⟩ := exists_sort db o
  obtain ⟨result, fetched⟩ := fetch_ok db first o' (only row) inRange
  obtain ⟨arranged, -, answered⟩ := right (only row) [.list o' first sorts] own owns
  have taken := first_is_taken keyHost db o o' share (only row) first own sorts result fetched
  have theirs := fetch_total db first o' (only row) result fetched
  have ours := fetch_total db arranged o (only row) result (answered.trans taken)
  rw [theirs, count_only, count_only] at ours
  cases one : db.matching o'.buildWhereClause row <;>
    cases other : db.matching o.buildWhereClause row <;> rw [one, other] at ours
  all_goals first | rfl | exact absurd ours (by decide)

/-- A list is answered rightly in every run just when every list of its key selects the
same products. -/
theorem always_right_iff (documented : keyHost.Documented) (o : FindAllProductsQueryOptions)
    (inRange : InRange o) : AlwaysRight keyHost db o ↔ ∀ o', Share keyHost o o' → ∀ row,
      db.matching o'.buildWhereClause row = db.matching o.buildWhereClause row := by
  constructor
  · intro right o' share row
    obtain ⟨skip, take, -⟩ := window_alike share.1
    have inRange' : InRange o' := by
      unfold InRange at *
      rwa [← skip, ← take]
    exact selects_alike keyHost db o o' share inRange' row right
  · intro same table run sort sorts
    have told := throughout_end (step keyHost db) (Told keyHost db) (.start table) run
      (throughout_of_keep _ _ (step_told keyHost db) _ _ (told_start keyHost db table))
    obtain ⟨o', share, answered⟩ :=
      answered_by_sharer keyHost db documented o sort sorts _ told
    refine (answers_alike db share.1 _ ?_ _).mpr answered
    exact List.filter_congr fun row _ => (same o' share row).symm

def FoldsBrands : Prop :=
  ∀ c₁ c₂ : ProductWhere, c₁.status = c₂.status → c₁.price = c₂.price → c₁.and = c₂.and →
    c₁.brand.map keyHost.toLowerCase = c₂.brand.map keyHost.toLowerCase →
    ∀ row, db.matching c₁ row = db.matching c₂ row

/-- A list whose nested filters have no JSON text has none. -/
theorem no_nested_filters (o : FindAllProductsQueryOptions)
    (plain : filtersStart keyHost o = none) :
    o.priceRange = none ∧ o.size = none ∧ o.attributes = none := by
  have unset := Option.map_eq_none_iff.mp plain
  unfold complexJson at unset
  cases fields : o.complexFields keyHost.numberText with
  | nil =>
    unfold complexFields at fields
    obtain ⟨both, attributes⟩ := List.append_eq_nil_iff.mp fields
    obtain ⟨price, size⟩ := List.append_eq_nil_iff.mp both
    simpa using And.intro price (And.intro size attributes)
  | cons field rest =>
    rw [fields] at unset
    exact absurd unset (Option.some_ne_none _)

/-- A list without nested filters shares its key with lists that select the same only. -/
theorem plain_selects (folds : FoldsBrands keyHost db) (o : FindAllProductsQueryOptions)
    (plain : filtersStart keyHost o = none) (o' : FindAllProductsQueryOptions)
    (share : Share keyHost o o') (row : RawProduct) :
    db.matching o'.buildWhereClause row = db.matching o.buildWhereClause row := by
  obtain ⟨price, size, attributes⟩ := no_nested_filters keyHost o plain
  obtain ⟨price', size', attributes'⟩ := no_nested_filters keyHost o' (share.2.symm.trans plain)
  refine folds _ _ share.1.status.symm ?_ ?_ share.1.brand.symm row
  · unfold buildWhereClause
    rw [price, price']
  · unfold buildWhereClause
    rw [size, size', attributes, attributes']

open BrowsingProductsUseCase in
/-- The lists of the sample catalogue by price are always right. -/
theorem by_price_always_right :
    AlwaysRight sampleHost sampleCatalogue (options (byPrice 2)) := by
  have folds : FoldsBrands sampleHost sampleCatalogue := by
    intro c₁ c₂ status _ _ _ row
    unfold sampleCatalogue
    dsimp only
    rw [status]
  have plain : filtersStart sampleHost (options (byPrice 2)) = none := by decide +kernel
  exact (always_right_iff sampleHost sampleCatalogue sampleHost_documented (options (byPrice 2))
    ⟨by decide +kernel, by decide +kernel⟩).mpr
    (plain_selects sampleHost sampleCatalogue folds _ plain)

end KeramikStore.ListRuns
