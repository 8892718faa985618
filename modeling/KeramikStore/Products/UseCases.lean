import KeramikStore.Products.ProductMapper

/-!
# Updating and deleting a product

What the two use cases do to the product that they have loaded. An update builds
its value objects first, fills the absent parts of the size and of the attributes
with those of the product, and sets the price last; a deletion loads the row once
more from the database.
-/

set_option autoImplicit false

namespace KeramikStore
open Library

structure UpdateSize where
  width : Option JsNumber
  height : Option JsNumber
  thickness : Option JsNumber
  unit : Option String
deriving DecidableEq

structure UpdateAttributes where
  grade : Option String
  finishing : Option String
  applicationAreas : Option (List String)
  antiSlipRating : Option String
  waterAbsorption : Option String
  color : Option String
  pattern : Option String
  isOutdoor : Option Bool
  frostResistant : Option Bool
  peiRating : Option JsNumber
deriving DecidableEq

structure UpdateProductCommand where
  name : Option String
  description : Option String
  brand : Option String
  imageUrl : Option String
  price : Option JsNumber
  currency : Option String
  tilePerBox : Option JsNumber
  size : Option UpdateSize
  attributes : Option UpdateAttributes
deriving DecidableEq

inductive ProductFailure where
  | domain (e : ProductError)
  | productNotFound (message : String)
  /-- An exception of a built-in or of the database client. -/
  | failure (message : String)
deriving DecidableEq, Repr

def productNotFoundError (productId : String) : ProductFailure :=
  .productNotFound ("Product with id " ++ productId ++ " not found")

namespace PrismaProductRepository

def load (host : ProductHost) (raw : RawProduct) : Except ProductError (Option Product) := do
  let product ← PrismaProductMapper.toDomain host raw
  return if product.isDeleted then none else some product

theorem load_some_iff (host : ProductHost) (raw : RawProduct) (p : Product) :
    load host raw = .ok (some p) ↔
      PrismaProductMapper.toDomain host raw = .ok p ∧ p.isDeleted = false := by
  unfold load
  cases PrismaProductMapper.toDomain host raw with
  | error e => exact ⟨nofun, nofun⟩
  | ok q =>
    change Except.ok (if q.isDeleted then none else some q) = .ok (some p) ↔ _
    cases hq : q.isDeleted with
    | true =>
      constructor
      · exact nofun
      · rintro ⟨same, live⟩
        rw [Except.ok.inj same, live] at hq
        cases hq
    | false =>
      constructor
      · intro h
        obtain rfl := Option.some.inj (Except.ok.inj h)
        exact ⟨rfl, hq⟩
      · rintro ⟨same, -⟩
        rw [Except.ok.inj same]
        rfl

theorem load_deleted (host : ProductHost) (raw : RawProduct) (p : Product)
    (deleted : raw.status = "DELETED") : load host raw ≠ .ok (some p) := by
  intro h
  obtain ⟨hp, live⟩ := (load_some_iff host raw p).mp h
  have status := (PrismaProductMapper.toDomain_columns host raw p hp).2.2.1
  have same := ProductStatus.getValue_injective p.status .deleted (status.trans deleted)
  rw [Product.isDeleted, same] at live
  cases live

end PrismaProductRepository

namespace UpdateProductUseCase

def mergedSize (host : ProductHost) (size : Option UpdateSize) (current : ProductSize) :
    Except ProductError ProductSize := do
  let dimensionUnit ← DimensionUnit.fromString host
    ((size.bind UpdateSize.unit).getD current.dimensionUnit.getValue)
  ProductSize.create
    { width := (size.bind UpdateSize.width).getD current.width
      height := (size.bind UpdateSize.height).getD current.height
      thickness := (size.bind UpdateSize.thickness).or current.thickness
      dimensionUnit := dimensionUnit }

def mergedAttributes (newSize : ProductSize) (given : Option UpdateAttributes)
    (current : TileAttributes) : TileAttributes where
  size := newSize
  grade := (given.bind UpdateAttributes.grade).or current.grade
  finishing := (given.bind UpdateAttributes.finishing).or current.finishing
  applicationAreas := (given.bind UpdateAttributes.applicationAreas).or current.applicationAreas
  antiSlipRating := (given.bind UpdateAttributes.antiSlipRating).or current.antiSlipRating
  waterAbsorption := (given.bind UpdateAttributes.waterAbsorption).or current.waterAbsorption
  color := (given.bind UpdateAttributes.color).or current.color
  pattern := (given.bind UpdateAttributes.pattern).or current.pattern
  isOutdoor := (given.bind UpdateAttributes.isOutdoor).or current.isOutdoor
  frostResistant := (given.bind UpdateAttributes.frostResistant).or current.frostResistant
  peiRating := (given.bind UpdateAttributes.peiRating).or current.peiRating

def updateParams (host : ProductHost) (command : UpdateProductCommand) (product : Product) :
    Except ProductError UpdateProductParams := do
  let name ← command.name.mapM ProductName.create
  let attributes ←
    if command.size.isSome || command.attributes.isSome then do
      let newSize ← mergedSize host command.size product.attributes.getSize
      some <$> ProductAttributes.create
        (mergedAttributes newSize command.attributes product.attributes.getAttributes)
    else pure none
  return { name := name
           description := command.description
           brand := command.brand
           imageUrl := command.imageUrl
           tilePerBox := command.tilePerBox
           attributes := attributes }

def fieldsUpdated (command : UpdateProductCommand) : List String :=
  (if command.name.isSome then ["name"] else []) ++
  (if command.description.isSome then ["description"] else []) ++
  (if command.brand.isSome then ["brand"] else []) ++
  (if command.imageUrl.isSome then ["imageUrl"] else []) ++
  (if command.tilePerBox.isSome then ["tilePerBox"] else []) ++
  (if command.size.isSome then ["size"] else []) ++
  (if command.attributes.isSome then ["attributes"] else []) ++
  (if command.price.isSome then ["price"] else [])

def isEmpty (params : UpdateProductParams) : Bool :=
  params.name.isNone && params.description.isNone && params.brand.isNone &&
    params.imageUrl.isNone && params.tilePerBox.isNone && params.attributes.isNone

def run (host : ProductHost) (command : UpdateProductCommand) (clk : Clock) (product : Product) :
    Except ProductError Product := do
  let params ← updateParams host command product
  let informed ←
    if isEmpty params then .ok product
    else (product.updateInfo params (clk.read 0)).toExcept
  match command.price with
  | none => return informed
  | some price =>
    (informed.updatePrice host price (command.currency.getD informed.price.getCurrency)
      (clk.read 1)).toExcept

def written (host : ProductHost) (command : UpdateProductCommand) (clk : Clock) (raw : RawProduct) :
    Except ProductFailure RawProduct := do
  match ← (PrismaProductRepository.load host raw).mapError .domain with
  | none => .error (productNotFoundError raw.id)
  | some product =>
    let updated ← (run host command clk product).mapError .domain
    return PrismaProductMapper.toPersistence updated

theorem written_deleted (host : ProductHost) (command : UpdateProductCommand) (clk : Clock)
    (raw row : RawProduct) (deleted : raw.status = "DELETED") :
    written host command clk raw ≠ .ok row := by
  unfold written
  cases h : PrismaProductRepository.load host raw with
  | error e => exact nofun
  | ok found =>
    cases found with
    | none => exact nofun
    | some p => exact absurd h (PrismaProductRepository.load_deleted host raw p deleted)

end UpdateProductUseCase

namespace DeleteProductUseCase

def finds (host : ProductHost) (raw : RawProduct) : Bool :=
  match PrismaProductRepository.load host raw with
  | .ok (some _) => true
  | _ => false

def written (host : ProductHost) (clk : Clock) (raw : RawProduct) :
    Except ProductError RawProduct := do
  let product ← PrismaProductMapper.toDomain host raw
  let deleted ← (product.delete clk).toExcept
  return PrismaProductMapper.toPersistence deleted

theorem written_ok (host : ProductHost) (clk : Clock) (raw row : RawProduct)
    (h : written host clk raw = .ok row) :
    ∃ p q, PrismaProductMapper.toDomain host raw = .ok p ∧ (p.delete clk).toExcept = .ok q ∧
      PrismaProductMapper.toPersistence q = row := by
  simp only [written, bind_ok_iff] at h
  obtain ⟨p, hp, q, hq, hr⟩ := h
  exact ⟨p, q, hp, hq, Except.ok.inj hr⟩

theorem written_is_deleted (host : ProductHost) (clk : Clock) (raw row : RawProduct)
    (h : written host clk raw = .ok row) :
    row.status = "DELETED" ∧ row.deletedAt ≠ none := by
  obtain ⟨p, q, -, hq, rfl⟩ := written_ok host clk raw row h
  obtain ⟨status, date, -⟩ := Product.delete_returns clk p q hq
  constructor
  · change q.status.getValue = "DELETED"
    rw [status]
    rfl
  · change q.deletedAt ≠ none
    rw [date]
    exact Option.some_ne_none _

end DeleteProductUseCase

end KeramikStore
