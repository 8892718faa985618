import KeramikStore.Products.ProductRepository

/-!
# Creating a product

The use case checks the article number before it builds anything else, so a number that
is taken comes before every other complaint. The check asks the repository, which looks
under the article number in its cache first. The class of the exception for a number that
is taken is imported from a module that does not export it, so the use case fails with a
`TypeError` where it means to throw that exception.
-/

set_option autoImplicit false

namespace KeramikStore
open Library Library.ReadThrough

structure CreateProductSize where
  width : JsNumber
  height : JsNumber
  thickness : JsNumber
  unit : String
deriving DecidableEq

structure CreateProductCommand where
  sku : String
  name : String
  description : Option String
  brand : Option String
  imageUrl : Option String
  price : JsNumber
  currency : Option String
  tilePerBox : JsNumber
  size : CreateProductSize
  /-- The attributes are typed as in an update. -/
  attributes : UpdateAttributes
deriving DecidableEq

structure CreateProductResult where
  id : String
  name : String
  sku : String
deriving DecidableEq

inductive CreateProductFailure where
  | productAlreadyExists (message : String)
  -- the text of this one names the class as the compiled module does
  | typeError
  | other (e : ProductFailure)
deriving DecidableEq

def productAlreadyExistsError : CreateProductFailure :=
  -- the domain has no such export, and `new` of what is undefined throws by itself
  .typeError

namespace PrismaProductRepository

def existsBySKU (host : ProductHost) (query : SkuQuery) (sku : SKU) (s : ProductStore) :
    Except ProductFailure Bool × ProductStore :=
  (findBySKU host query sku s).map (Except.map fun product => product.any (!·.isDeleted)) id

end PrismaProductRepository

namespace CreateProductUseCase

variable (host : ProductHost) (query : PrismaProductRepository.SkuQuery)
  (generated : ProductId) (clk : Clock) (command : CreateProductCommand)

def tileAttributes (size : ProductSize) (a : UpdateAttributes) : TileAttributes where
  size := size
  grade := a.grade
  finishing := a.finishing
  applicationAreas := a.applicationAreas
  antiSlipRating := a.antiSlipRating
  waterAbsorption := a.waterAbsorption
  color := a.color
  pattern := a.pattern
  isOutdoor := a.isOutdoor
  frostResistant := a.frostResistant
  peiRating := a.peiRating

def build (sku : SKU) : Except ProductError Product := do
  let name ← ProductName.create command.name
  let price ← Price.create host command.price ((command.currency.filter (· != "")).getD "IDR")
  let dimensionUnit ← DimensionUnit.fromString host command.size.unit
  let tileSize ← ProductSize.create
    { width := command.size.width
      height := command.size.height
      thickness := some command.size.thickness
      dimensionUnit := dimensionUnit }
  let attributes ← ProductAttributes.create (tileAttributes tileSize command.attributes)
  Product.create host generated
    { sku := sku
      name := name
      description := command.description
      brand := command.brand
      imageUrl := command.imageUrl
      price := price
      tilePerBox := command.tilePerBox
      attributes := attributes } clk

def store (sku : SKU) (s : ProductStore) :
    Except CreateProductFailure CreateProductResult × ProductStore :=
  match build host generated clk command sku with
  | .error e => (.error (.other (.domain e)), s)
  | .ok product =>
    match PrismaProductRepository.save host product s with
    | .error e => (.error (.other e), s)
    | .ok saved => (.ok ⟨product.id.getValue, product.name.getValue, product.sku.getValue⟩, saved)

def execute (s : ProductStore) :
    Except CreateProductFailure CreateProductResult × ProductStore :=
  match SKU.create host command.sku with
  | .error e => (.error (.other (.domain e)), s)
  | .ok sku =>
    match PrismaProductRepository.existsBySKU host query sku s with
    | (.error e, checked) => (.error (.other e), checked)
    | (.ok true, checked) => (.error productAlreadyExistsError, checked)
    | (.ok false, checked) => store host generated clk command sku checked

def FailsAsExisting (s : ProductStore) : Prop :=
  ∃ message, (execute host query generated clk command s).1 =
    .error (.productAlreadyExists message)

def Stops (s : ProductStore) : Prop :=
  (execute host query generated clk command s).1 = .error productAlreadyExistsError

theorem store_other (sku : SKU) (s : ProductStore) (e : CreateProductFailure)
    (h : (store host generated clk command sku s).1 = .error e) : ∃ e', e = .other e' := by
  unfold store at h
  split at h
  · exact ⟨_, (Except.error.inj h).symm⟩
  · split at h
    · exact ⟨_, (Except.error.inj h).symm⟩
    · cases h

theorem invalid_sku (e : ProductError) (h : SKU.create host command.sku = .error e)
    (s : ProductStore) : execute host query generated clk command s =
      (.error (.other (.domain e)), s) := by
  unfold execute
  rw [h]

/-- The exception that the use case means to throw is never thrown. -/
theorem never_failsAsExisting (s : ProductStore) :
    ¬ FailsAsExisting host query generated clk command s := by
  rintro ⟨message, failed⟩
  unfold execute at failed
  cases made : SKU.create host command.sku with
  | error e =>
    rw [made] at failed
    cases failed
  | ok sku =>
    rw [made] at failed
    dsimp only at failed
    generalize PrismaProductRepository.existsBySKU host query sku s = answer at failed
    obtain ⟨existing, checked⟩ := answer
    cases existing with
    | error e => cases failed
    | ok found =>
      cases found with
      | true => cases failed
      | false =>
        obtain ⟨e, same⟩ := store_other host generated clk command sku checked _ failed
        cases same

theorem stops_iff (sku : SKU) (h : SKU.create host command.sku = .ok sku)
    (s : ProductStore) : Stops host query generated clk command s ↔
      (PrismaProductRepository.existsBySKU host query sku s).1 = .ok true := by
  unfold Stops execute
  rw [h]
  dsimp only
  obtain ⟨existing, checked⟩ := PrismaProductRepository.existsBySKU host query sku s
  cases existing with
  | error e => exact ⟨nofun, nofun⟩
  | ok found =>
    cases found with
    | true => exact ⟨fun _ => rfl, fun _ => rfl⟩
    | false =>
      refine ⟨fun failed => ?_, nofun⟩
      obtain ⟨e, same⟩ := store_other host generated clk command sku checked _ failed
      cases same

/-- The row of the product that is built can be loaded. -/
theorem build_loads (keeps : host.KeepsCapitals) (sku : SKU) (product : Product)
    (h : build host generated clk command sku = .ok product) :
    (∃ p, PrismaProductMapper.toDomain host (PrismaProductMapper.toPersistence product) = .ok p) ∧
      product.id = generated ∧ product.sku = sku ∧ product.status = .active ∧
      product.deletedAt = none := by
  simp only [build, bind_ok_iff] at h
  obtain ⟨name, -, price, hprice, unit, -, size, -, attributes, -, created⟩ := h
  obtain ⟨valid, id, number, same, status, date⟩ :=
    Product.create_ok host generated _ clk product created
  dsimp only at same number
  obtain ⟨again, accepted⟩ := Price.create_again host _ _ price hprice
  rw [← same] at accepted
  exact ⟨⟨_, PrismaProductMapper.toDomain_toPersistence host keeps product valid again accepted⟩,
    id, number, status, date⟩

theorem execute_store (sku : SKU) (h : SKU.create host command.sku = .ok sku)
    (s : ProductStore) (P : ProductStore → Prop)
    (checked : P (PrismaProductRepository.existsBySKU host query sku s).2)
    (saved : ∀ product t, build host generated clk command sku = .ok product →
      PrismaProductRepository.save host product
        (PrismaProductRepository.existsBySKU host query sku s).2 = .ok t → P t) :
    P (execute host query generated clk command s).2 := by
  unfold execute
  rw [h]
  dsimp only
  generalize PrismaProductRepository.existsBySKU host query sku s = answer at checked saved ⊢
  obtain ⟨existing, after⟩ := answer
  cases existing with
  | error e => exact checked
  | ok found =>
    cases found with
    | true => exact checked
    | false =>
      dsimp only
      unfold store
      cases built : build host generated clk command sku with
      | error e => exact checked
      | ok product =>
        dsimp only
        cases written : PrismaProductRepository.save host product after with
        | error e => exact checked
        | ok t => exact saved product t built written

end CreateProductUseCase

end KeramikStore
