import KeramikStore.Library.VersionedCache
import KeramikStore.Products.ListCacheKey
import KeramikStore.Products.ProductRepository

/-!
# Product lists beside saves and deletions

A list is cached under a key that begins with the version of all lists, and each
save or deletion ends by incrementing that version. The version can be read back
from the key, whatever the options are, so a list that starts after a save or a
deletion has returned gives products and a total that were read after its write.
-/

set_option autoImplicit false

namespace KeramikStore.ListCache
open Library Library.Runs Library.VersionedCache

structure ListQueries where
  count : ProductWhere → ProductsTable → ℕ
  findMany : ProductWhere → JsNumber → JsNumber → ProductSortBy × SortOrder → ProductsTable →
    List RawProduct

inductive ListRequest where
  | findAllProducts (options : FindAllProductsQueryOptions)
  | save (product : Product)
  | delete (productId : String) (clk : Clock)

def ListRequest.request (host : ProductHost) :
    ListRequest → Request ProductsTable FindAllProductsQueryOptions
  | findAllProducts options => .list options
  | save product => .write fun _ =>
      some fun t => (t.upsert (PrismaProductMapper.toPersistence product)).toOption
  | delete productId clk => .write fun read => do
      let raw ← read.findById productId
      let row ← (DeleteProductUseCase.written host clk raw).toOption
      return fun t => (t.upsert row).toOption

def queries (database : ListQueries) (keyHost : KeyHost) :
    Queries ProductsTable FindAllProductsQueryOptions String ℕ (List RawProduct) where
  count o t := database.count o.buildWhereClause t
  find o t := (database.findMany o.buildWhereClause o.skip o.take o.orderBy t).map
    PrismaProductQueryRepository.querySelect
  key := ProductListKey.getProductListKey keyHost
  key_version := ProductListKey.key_version keyHost

abbrev ListRequests := ℕ → ListRequest

abbrev ListStore := Store ℕ ProductsTable String ℕ (List RawProduct)

section Run

variable (host : ProductHost) (keyHost : KeyHost) (database : ListQueries)
  (requests : ListRequests)

def perform : ListStore → Action ℕ String → ListStore :=
  step (queries database keyHost) fun i => (requests i).request host

def FreshAfterWrite (s : ListStore) (w n : ℕ) (run : List (Action ℕ String)) : Prop :=
  Throughout (perform host keyHost database requests)
    (fun t => ∀ i, (perform host keyHost database requests s (.incr w)).phase i = .idle →
      ∀ listing, t.phase i = .gives listing →
        n ≤ listing.total.stamp ∧ n ≤ listing.rows.stamp)
    (perform host keyHost database requests s (.incr w)) run

end Run

def sampleQueries : ListQueries where
  count _ t := (t.rows.filter fun row => row.status != "DELETED").length
  findMany _ _ _ _ t := t.rows.filter fun row => row.status != "DELETED"

def sampleOptions : FindAllProductsQueryOptions :=
  { ProductListKey.gradeOptions "" with attributes := none }

def sampleRequests : ListRequests
  | 0 => .save { Product.sample with tilePerBox := .fin 6 }
  | _ => .findAllProducts sampleOptions

end KeramikStore.ListCache
