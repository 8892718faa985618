import KeramikStore.Products.ProductRepository

/-!
# The answers for a cached product

Either repository leaves the entry of a product that the other reads. The mapper of the
aggregate takes the price as a text or as a decimal, and makes its dates anew, so a copy
gives the product of the row. The detail read asks the text for its number and throws.
-/

set_option autoImplicit false

namespace KeramikStore.CachedProduct
open Library Library.ReadThrough PrismaProductQueryRepository

inductive Writer where
  | findById
  | getProductDetailById
deriving DecidableEq

variable (host : ProductHost) (productId : String) (s : ProductStore)

def Writer.fill : Writer → ProductStore
  | findById => (PrismaProductRepository.findById host productId s).2
  | getProductDetailById => (PrismaProductQueryRepository.getProductDetailById productId s).2

def Writer.copy (row : RawProduct) : Writer → RawProduct
  | findById => row
  | getProductDetailById => querySelect row

structure AnswersAlike : Prop where
  detail : ∀ w : Writer, ∃ result,
    (getProductDetailById productId s).1 = .ok (some result) ∧
      (getProductDetailById productId (w.fill host productId s)).1 = .ok (some result)
  product : ∀ w : Writer,
    (PrismaProductRepository.findById host productId (w.fill host productId s)).1 =
      (PrismaProductRepository.findById host productId s).1

variable {productId s} {row : RawProduct}

section Rows

variable (found : s.table.findById productId = some row) (live : row.status ≠ "DELETED")
  (cold : s.cached (ProductCache.getProductByIdKey productId) = none)

include found live

theorem found_detail :
    (s.table.findDetailById productId).map querySelect = some (querySelect row) := by
  have shown : (row.status != "DELETED") = true := bne_iff_ne.mpr live
  unfold ProductsTable.findDetailById
  rw [found, Option.filter_some, if_pos shown, Option.map_some]

include cold

theorem filled (w : Writer) : (w.fill host productId s).cached
    (ProductCache.getProductByIdKey productId) = some (w.copy row) := by
  cases w with
  | findById =>
    change (wrap _ (s.table.findById productId) s).2.cached _ = _
    rw [wrap_miss _ _ s cold, found]
    exact Function.update_self ..
  | getProductDetailById =>
    change (readDetail productId s).2.cached _ = _
    unfold readDetail
    rw [wrap_miss _ _ s cold, found_detail found live]
    exact Function.update_self ..

theorem detail_throws (w : Writer) :
    (getProductDetailById productId (w.fill host productId s)).1 =
      .error (.failure "raw.price.toNumber is not a function") := by
  change mapFound (readDetail productId (w.fill host productId s)).1 = _
  unfold readDetail
  rw [wrap_hit _ _ _ _ (filled host found live cold w)]
  exact hit_throws _

/-- A copy of a row without the date of a deletion gives the product of the row. -/
theorem product_alike (kept : row.deletedAt = none) (w : Writer) :
    (PrismaProductRepository.findById host productId (w.fill host productId s)).1 =
      (PrismaProductRepository.findById host productId s).1 := by
  have same : w.copy row = row := by
    cases w with
    | findById => rfl
    | getProductDetailById =>
      obtain ⟨⟩ := row
      obtain rfl := kept
      rfl
  have hit := filled host found live cold w
  rw [same] at hit
  unfold PrismaProductRepository.findById
  rw [wrap_hit _ _ _ _ hit, wrap_miss _ _ s cold, found]
  rfl

/-- No product that is not deleted is answered alike from the cache and the database:
whichever read has left the entry, the detail read throws on it. -/
theorem cached_detail_fails : ¬ AnswersAlike host productId s := by
  intro alike
  obtain ⟨result, -, hit⟩ := alike.detail .findById
  rw [detail_throws host found live cold] at hit
  cases hit

end Rows

section Samples

def coldStore : ProductStore := ⟨ProductOperation.sampleTable, fun _ => none⟩

theorem sample_detail_fails : ¬ AnswersAlike .sample RawProduct.sample.id coldStore :=
  cached_detail_fails .sample (by decide +kernel : _ = some RawProduct.sample)
    (by decide +kernel) rfl

/-- The detail of a tile is read from the database, and then not from the cache. -/
theorem second_detail_throws :
    RawProduct.sample.status = "ACTIVE" ∧
      coldStore.table.findById RawProduct.sample.id = some RawProduct.sample ∧
      (getProductDetailById RawProduct.sample.id coldStore).1.isOk = true ∧
      (getProductDetailById RawProduct.sample.id
          (getProductDetailById RawProduct.sample.id coldStore).2).1 =
        .error (.failure "raw.price.toNumber is not a function") ∧
      ¬ AnswersAlike .sample RawProduct.sample.id coldStore := by
  have found : coldStore.table.findById RawProduct.sample.id = some RawProduct.sample := by
    decide +kernel
  have live : RawProduct.sample.status ≠ "DELETED" := by decide +kernel
  have throws := detail_throws .sample found live rfl .getProductDetailById
  refine ⟨by decide +kernel, found, by decide +kernel, throws, fun alike => ?_⟩
  obtain ⟨result, -, hit⟩ := alike.detail .getProductDetailById
  exact absurd (throws.symm.trans hit) nofun

end Samples

end KeramikStore.CachedProduct
