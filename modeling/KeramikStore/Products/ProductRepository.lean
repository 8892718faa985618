import KeramikStore.Library.KeyedTable
import KeramikStore.Library.ReadThrough
import KeramikStore.Library.Runs
import KeramikStore.Products.UseCases

/-!
# The products table and its two repositories

The repository of the aggregate and the one for queries share the cache entry of a
product. The first fills it with any row, the second only with rows that are not
deleted, and neither tells the other's copies apart. A copy has been through JSON,
which leaves the price a text, so the detail query throws on every copy that it
takes and answers only from the database.
-/

set_option autoImplicit false

namespace KeramikStore
open Library Library.KeyedTable Library.ReadThrough Library.Runs

def RawProduct.indexedSku (row : RawProduct) : List String :=
  if row.deletedAt.isNone then [row.sku] else []

structure UniqueProducts (rows : List RawProduct) : Prop where
  id : UniqueBy (fun row => [row.id]) rows
  sku : UniqueBy RawProduct.indexedSku rows

instance (rows : List RawProduct) : Decidable (UniqueProducts rows) :=
  decidable_of_iff (UniqueBy (fun row => [row.id]) rows ∧ UniqueBy RawProduct.indexedSku rows)
    ⟨fun ⟨i, s⟩ => ⟨i, s⟩, fun ⟨i, s⟩ => ⟨i, s⟩⟩

structure ProductsTable where
  rows : List RawProduct
  unique : UniqueProducts rows

namespace ProductsTable

def findById (id : String) (t : ProductsTable) : Option RawProduct :=
  find RawProduct.id id t.rows

def findDetailById (id : String) (t : ProductsTable) : Option RawProduct :=
  (t.findById id).filter fun row => row.status != "DELETED"

def upsert (row : RawProduct) (t : ProductsTable) : Except ProductFailure ProductsTable :=
  if h : UniqueProducts (put RawProduct.id row t.rows) then
    .ok ⟨put RawProduct.id row t.rows, h⟩
  else .error (.failure "P2002")

end ProductsTable

inductive ProductCacheKey where
  | productById (productId : String)
  | productBySKU (sku : String)
deriving DecidableEq

abbrev ProductStore := Store ProductsTable ProductCacheKey RawProduct

namespace ProductCache

variable (host : ProductHost)

def getProductByIdKey (productId : String) : ProductCacheKey := .productById productId
def getProductBySKUKey (sku : String) : ProductCacheKey := .productBySKU (host.toUpperCase sku)

def getInvalidationKeys (productId sku : String) : List ProductCacheKey :=
  getProductByIdKey productId :: if sku = "" then [] else [getProductBySKUKey host sku]

end ProductCache

namespace PrismaProductRepository

variable (host : ProductHost)

def loadFound : Answer RawProduct → Except ProductFailure (Option Product)
  | .hit raw | .fetched (some raw) => (load host raw).mapError .domain
  | .fetched none => .ok none

def findById (productId : String) (s : ProductStore) :
    Except ProductFailure (Option Product) × ProductStore :=
  (wrap (ProductCache.getProductByIdKey productId) (s.table.findById productId) s).map
    (loadFound host) id

/-- The article number is not unique over the whole table, so what the database client
gives for it is supplied. -/
abbrev SkuQuery := String → ProductsTable → Except ProductFailure (Option RawProduct)

def findBySKU (query : SkuQuery) (sku : SKU) (s : ProductStore) :
    Except ProductFailure (Option Product) × ProductStore :=
  match s.cached (ProductCache.getProductBySKUKey host sku.getValue),
    query sku.getValue s.table with
  | none, .error e => (.error e, s)
  | _, found => (wrap (ProductCache.getProductBySKUKey host sku.getValue)
      (found.toOption.bind id) s).map (loadFound host) id

def write (product : Product) (s : ProductStore) : Except ProductFailure ProductStore := do
  let table ← s.table.upsert (PrismaProductMapper.toPersistence product)
  let keys := ProductCache.getInvalidationKeys host product.id.getValue product.sku.getValue
  return ⟨table, drop keys s.cached⟩

def save (product : Product) (s : ProductStore) : Except ProductFailure ProductStore :=
  write host product s

def delete (productId : String) (clk : Clock) (s : ProductStore) :
    Except ProductFailure ProductStore :=
  match s.table.findById productId with
  | none => .ok s
  | some raw => do
    let product ← (PrismaProductMapper.toDomain host raw).mapError .domain
    let deleted ← (product.delete clk).toExcept.mapError .domain
    write host deleted s

end PrismaProductRepository

structure ProductQuerySize where
  width : JsNumber
  height : JsNumber
  thickness : Option JsNumber
  unit : String
deriving DecidableEq

structure ProductQueryDetailResult where
  id : String
  sku : String
  name : String
  description : Option String
  brand : Option String
  imageUrl : Option String
  price : JsNumber
  currency : String
  tilePerBox : JsNumber
  status : String
  size : ProductQuerySize
  attributes : RawProductAttributes
  createdAt : Date
  updatedAt : Date
deriving DecidableEq

namespace PrismaProductQueryRepository

def querySelect (row : RawProduct) : RawProduct := { row with deletedAt := none }

def extractSize (attrs : RawProductAttributes) : ProductQuerySize where
  width := attrs.width.getD (.fin 0)
  height := attrs.height.getD (.fin 0)
  thickness := attrs.thickness
  unit := attrs.unit.getD "cm"

/-- A decimal of the database has `toNumber`, the text that JSON leaves of it has not. -/
def toNumber : Origin → JsNumber → Except ProductFailure JsNumber
  | .database, price => .ok price
  | .cache, _ => .error (.failure "raw.price.toNumber is not a function")

def mapToDetailResult (o : Origin) (raw : RawProduct) :
    Except ProductFailure ProductQueryDetailResult := do
  let price ← toNumber o raw.price
  return { id := raw.id
           sku := raw.sku
           name := raw.name
           description := raw.description
           brand := raw.brand
           imageUrl := raw.imageUrl
           price := price
           currency := raw.currency
           tilePerBox := raw.tilePerBox
           status := raw.status
           size := extractSize (raw.attributes.getD .empty)
           attributes := raw.attributes.getD .empty
           createdAt := raw.createdAt
           updatedAt := raw.updatedAt }

def mapFound : Answer RawProduct → Except ProductFailure (Option ProductQueryDetailResult)
  | .hit raw => some <$> mapToDetailResult .cache raw
  | .fetched (some raw) => some <$> mapToDetailResult .database raw
  | .fetched none => .ok none

def readDetail (productId : String) (s : ProductStore) : Answer RawProduct × ProductStore :=
  wrap (ProductCache.getProductByIdKey productId)
    ((s.table.findDetailById productId).map querySelect) s

def getProductDetailById (productId : String) (s : ProductStore) :
    Except ProductFailure (Option ProductQueryDetailResult) × ProductStore :=
  (readDetail productId s).map mapFound id

theorem hit_throws (raw : RawProduct) :
    mapFound (.hit raw) = .error (.failure "raw.price.toNumber is not a function") := rfl

theorem result_row (productId : String) (s : ProductStore) (raw : RawProduct)
    (result : ProductQueryDetailResult) (found : (readDetail productId s).1.row = some raw)
    (answer : (getProductDetailById productId s).1 = .ok (some result)) :
    ∃ row, s.table.findById productId = some row ∧ querySelect row = raw ∧
      row.status ≠ "DELETED" := by
  change mapFound (readDetail productId s).1 = _ at answer
  unfold readDetail at found answer
  cases hc : s.cached (ProductCache.getProductByIdKey productId) with
  | some copy =>
    rw [wrap_hit _ _ s copy hc, hit_throws] at answer
    cases answer
  | none =>
    rw [wrap_miss _ _ s hc] at found
    obtain ⟨row, hr, rfl⟩ := Option.map_eq_some_iff.mp found
    obtain ⟨hrow, live⟩ := Option.filter_eq_some_iff.mp hr
    exact ⟨row, hrow, rfl, by simpa using live⟩

end PrismaProductQueryRepository

inductive ProductOperation where
  | findById (productId : String)
  | findBySKU (sku : SKU)
  | save (product : Product)
  | delete (productId : String) (clk : Clock)
  | getProductDetailById (productId : String)
  | expire (key : ProductCacheKey)

namespace ProductOperation
open PrismaProductRepository PrismaProductQueryRepository

variable (host : ProductHost) (query : SkuQuery)

def perform (s : ProductStore) : ProductOperation → ProductStore
  | findById productId => (PrismaProductRepository.findById host productId s).2
  | findBySKU sku => (PrismaProductRepository.findBySKU host query sku s).2
  | save product => (PrismaProductRepository.save host product s).toOption.getD s
  | delete productId clk => (PrismaProductRepository.delete host productId clk s).toOption.getD s
  | getProductDetailById productId =>
    (PrismaProductQueryRepository.getProductDetailById productId s).2
  | expire key => { s with cached := drop [key] s.cached }

def HidesDeleted (s : ProductStore) : Prop :=
  ∀ productId raw result, (readDetail productId s).1.row = some raw →
    (PrismaProductQueryRepository.getProductDetailById productId s).1 = .ok (some result) →
      raw.status ≠ "DELETED"

/-- Deleted products stay hidden, whatever the cache held at the start. -/
theorem deleted_products_stay_hidden (s : ProductStore) (run : List ProductOperation) :
    Throughout (perform host query) HidesDeleted s run := by
  have hides : ∀ t, HidesDeleted t := by
    intro t productId raw result found answer
    obtain ⟨row, -, rfl, live⟩ := result_row productId t raw result found answer
    exact live
  exact throughout_of_keep _ _ (fun t op _ => hides (perform host query t op)) s run (hides s)

def CopyOf (t : ProductsTable) : ProductCacheKey → RawProduct → Prop
  | .productById productId, v => ∃ row, t.findById productId = some row ∧
      (v = row ∨ v = querySelect row)
  | .productBySKU _, _ => True

def Current (s : ProductStore) : Prop := Entries (CopyOf s.table) s

theorem upsert_ok (row : RawProduct) (t t' : ProductsTable) (h : t.upsert row = .ok t') :
    t'.rows = put RawProduct.id row t.rows := by
  unfold ProductsTable.upsert at h
  split_ifs at h
  exact congrArg ProductsTable.rows (Except.ok.inj h).symm

theorem write_current (product : Product) (s s' : ProductStore) (h : Current s)
    (hw : PrismaProductRepository.write host product s = .ok s') : Current s' := by
  simp only [write, bind_ok_iff] at hw
  obtain ⟨table, ht, hs⟩ := hw
  obtain rfl := Except.ok.inj hs
  intro k v hv
  obtain ⟨kept, hc⟩ := (drop_some_iff _ _ _ _).mp hv
  cases k with
  | productBySKU sku => trivial
  | productById productId =>
    have other : product.id.getValue ≠ productId := by
      rintro rfl
      exact kept List.mem_cons_self
    have same : table.findById productId = s.table.findById productId := by
      unfold ProductsTable.findById
      rw [upsert_ok _ _ _ ht]
      exact find_put_other _ productId _ _ other
    change ∃ row, table.findById productId = some row ∧ _
    rw [same]
    exact h _ v hc

theorem wrap_current (key : ProductCacheKey) (row : Option RawProduct) (s : ProductStore)
    (h : Current s) (hrow : ∀ v, row = some v → CopyOf s.table key v) :
    Current (wrap key row s).2 := by
  unfold Current
  rw [wrap_table]
  exact wrap_entries _ key row s h hrow

theorem save_current (product : Product) (s : ProductStore) (h : Current s) :
    Current ((PrismaProductRepository.save host product s).toOption.getD s) := by
  cases hw : PrismaProductRepository.save host product s with
  | error e => exact h
  | ok s' => exact write_current host product s s' h hw

theorem delete_current (productId : String) (clk : Clock) (s : ProductStore) (h : Current s) :
    Current ((PrismaProductRepository.delete host productId clk s).toOption.getD s) := by
  cases hd : PrismaProductRepository.delete host productId clk s with
  | error e => exact h
  | ok s' =>
    unfold PrismaProductRepository.delete at hd
    split at hd
    · obtain rfl := Except.ok.inj hd
      exact h
    · simp only [bind_ok_iff] at hd
      obtain ⟨product, -, deleted, -, hw⟩ := hd
      exact write_current host deleted s s' h hw

theorem perform_current (s : ProductStore) (op : ProductOperation) (h : Current s) :
    Current (perform host query s op) := by
  cases op with
  | findById productId =>
    exact wrap_current _ _ s h fun v hv => ⟨v, hv, Or.inl rfl⟩
  | findBySKU sku =>
    change Current (PrismaProductRepository.findBySKU host query sku s).2
    unfold PrismaProductRepository.findBySKU
    split
    · exact h
    · exact wrap_current _ _ s h fun v _ => trivial
  | save product => exact save_current host product s h
  | delete productId clk => exact delete_current host productId clk s h
  | getProductDetailById productId =>
    apply wrap_current _ _ s h
    intro v hv
    obtain ⟨row, found, rfl⟩ := Option.map_eq_some_iff.mp hv
    exact ⟨row, (Option.filter_eq_some_iff.mp found).1, Or.inr rfl⟩
  | expire key => exact drop_entries _ [key] s h

theorem cold_current (table : ProductsTable) : Current ⟨table, fun _ => none⟩ := by
  intro k v h
  cases h

/-- From a cold cache, every entry of a product stays a copy of its current row. -/
theorem current_throughout (table : ProductsTable) (run : List ProductOperation) :
    Throughout (perform host query) Current ⟨table, fun _ => none⟩ run :=
  throughout_of_keep _ _ (perform_current host query) _ run (cold_current table)

/-! The entry of a product can hold the row of its deletion. It is the price that
keeps the detail read from answering with it. -/

def sampleTable : ProductsTable := ⟨[RawProduct.sample], by decide⟩

example : (perform .sample (fun _ _ => .ok none)
    (perform .sample (fun _ _ => .ok none) ⟨sampleTable, fun _ => none⟩
      (.delete RawProduct.sample.id (.still 1)))
    (.findById RawProduct.sample.id)).cached (.productById RawProduct.sample.id) =
      some .sampleDeleted := by
  decide +kernel

end ProductOperation

end KeramikStore
