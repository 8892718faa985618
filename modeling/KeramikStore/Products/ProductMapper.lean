import KeramikStore.Products.Product

/-!
# Rows of the catalogue

The columns of a product with the two directions of the mapper. The attributes are
one JSON column with the size among them. Absent fields of the column are filled
with defaults, of which the width and the height are refused by the size.
-/

set_option autoImplicit false

namespace KeramikStore
open Library

structure RawProductAttributes where
  width : Option JsNumber
  height : Option JsNumber
  thickness : Option JsNumber
  unit : Option String
  grade : Option String
  finishing : Option String
  applicationAreas : Option (List String)
  antiSlipRating : Option String
  waterAbsorption : Option String
  color : Option String
  pattern : Option String
  isOutdoor : Option Bool
  frostResistant : Option Bool
  peiRating : Option JsNumber
deriving DecidableEq

/-- The decimal column is kept by the number that it denotes. -/
structure RawProduct where
  id : String
  sku : String
  name : String
  description : Option String
  brand : Option String
  imageUrl : Option String
  price : JsNumber
  tilePerBox : JsNumber
  currency : String
  attributes : Option RawProductAttributes
  status : String
  createdAt : Date
  updatedAt : Date
  deletedAt : Option Date
deriving DecidableEq

namespace RawProductAttributes

def empty : RawProductAttributes where
  width := none
  height := none
  thickness := none
  unit := none
  grade := none
  finishing := none
  applicationAreas := none
  antiSlipRating := none
  waterAbsorption := none
  color := none
  pattern := none
  isOutdoor := none
  frostResistant := none
  peiRating := none

def toDomain (raw : RawProductAttributes) : Except ProductError ProductAttributes := do
  let dimensionUnit ← DimensionUnit.create (raw.unit.getD DimensionUnit.centimeter.getValue)
  let size ← ProductSize.create
    { width := raw.width.getD (.fin 0)
      height := raw.height.getD (.fin 0)
      thickness := raw.thickness
      dimensionUnit := dimensionUnit }
  ProductAttributes.create
    { size := size
      grade := raw.grade
      finishing := raw.finishing
      applicationAreas := raw.applicationAreas
      antiSlipRating := raw.antiSlipRating
      waterAbsorption := raw.waterAbsorption
      color := raw.color
      pattern := raw.pattern
      isOutdoor := raw.isOutdoor
      frostResistant := raw.frostResistant
      peiRating := raw.peiRating }

def toPersistence (a : ProductAttributes) : RawProductAttributes where
  width := a.getSize.width
  height := a.getSize.height
  thickness := a.getSize.thickness
  unit := a.getSize.dimensionUnit.getValue
  grade := a.getAttributes.grade
  finishing := a.getAttributes.finishing
  applicationAreas := a.getAttributes.applicationAreas
  antiSlipRating := a.getAttributes.antiSlipRating
  waterAbsorption := a.getAttributes.waterAbsorption
  color := a.getAttributes.color
  pattern := a.getAttributes.pattern
  isOutdoor := a.getAttributes.isOutdoor
  frostResistant := a.getAttributes.frostResistant
  peiRating := a.getAttributes.peiRating

theorem toDomain_toPersistence (a : ProductAttributes) : (toPersistence a).toDomain = .ok a := by
  unfold toDomain
  refine (bind_ok_iff _ _ _).mpr ⟨_, DimensionUnit.create_getValue a.getSize.dimensionUnit, ?_⟩
  refine (bind_ok_iff _ _ _).mpr ⟨_, ProductSize.create_self a.getSize, ?_⟩
  exact ProductAttributes.create_self a

end RawProductAttributes

namespace PrismaProductMapper

def toDomain (host : ProductHost) (raw : RawProduct) : Except ProductError Product := do
  let attributes ← (raw.attributes.getD .empty).toDomain
  let sku ← SKU.create host raw.sku
  let name ← ProductName.create raw.name
  let price ← Price.create host raw.price raw.currency
  let status ← ProductStatus.create raw.status
  Product.reconstruct host raw.id
    { sku := sku
      name := name
      description := raw.description
      brand := raw.brand
      imageUrl := raw.imageUrl
      price := price
      tilePerBox := raw.tilePerBox
      attributes := attributes
      status := status
      createdAt := raw.createdAt
      updatedAt := raw.updatedAt
      deletedAt := raw.deletedAt }

def toPersistence (p : Product) : RawProduct where
  id := p.id.getValue
  sku := p.sku.getValue
  name := p.name.getValue
  description := p.description
  brand := p.brand
  imageUrl := p.imageUrl
  price := p.price.getAmount
  tilePerBox := p.tilePerBox
  currency := p.price.getCurrency
  attributes := some (.toPersistence p.attributes)
  status := p.status.getValue
  createdAt := p.createdAt
  updatedAt := p.updatedAt
  deletedAt := p.deletedAt

theorem toDomain_columns (host : ProductHost) (raw : RawProduct) (p : Product)
    (h : toDomain host raw = .ok p) :
    p.id.getValue = raw.id ∧ p.sku.getValue = SKU.sanitize host raw.sku ∧
      p.status.getValue = raw.status ∧ p.deletedAt = raw.deletedAt := by
  simp only [toDomain, Product.reconstruct, bind_ok_iff] at h
  obtain ⟨_, -, sku, hsku, _, -, _, -, status, hs, id, hid, -, -, hp⟩ := h
  obtain rfl := Except.ok.inj hp
  exact ⟨(UniqueIdentifier.fromString_ok_iff _ _ _).mp hid, (SKU.create_ok_iff _ _ _).mp hsku,
    (ProductStatus.create_ok_iff _ _).mp hs, rfl⟩

/-- A product that the constructor accepts is loaded back with its price made again. -/
theorem toDomain_toPersistence (host : ProductHost) (keeps : host.KeepsCapitals) (p : Product)
    (valid : Product.validate host p.toProductProps = .ok ()) (price : Price)
    (again : Price.create host p.price.getAmount p.price.getCurrency = .ok price) :
    toDomain host (toPersistence p) = .ok { p with price := price, domainEvents := [] } := by
  simp only [toDomain, Product.reconstruct, bind_ok_iff]
  exact ⟨p.attributes, RawProductAttributes.toDomain_toPersistence p.attributes, p.sku,
    SKU.create_getValue host keeps p.sku, p.name, ProductName.create_getValue p.name, price,
    again, p.status, (ProductStatus.create_ok_iff _ _).mpr rfl, p.id,
    UniqueIdentifier.fromString_getValue invalidProductIdError p.id, (), valid, rfl⟩

/-- It is the product that was stored just when the constructor accepts it and rounding
keeps its price. -/
theorem toDomain_toPersistence_iff (host : ProductHost) (keeps : host.KeepsCapitals)
    (p : Product) : toDomain host (toPersistence p) = .ok { p with domainEvents := [] } ↔
      Product.validate host p.toProductProps = .ok () ∧
        Money.rounded p.price.getAmount = p.price.getAmount := by
  constructor
  · intro h
    simp only [toDomain, Product.reconstruct, bind_ok_iff] at h
    obtain ⟨a, -, sku, -, name, -, price, hprice, status, -, id, -, u, valid, hp⟩ := h
    have same := Except.ok.inj hp
    obtain rfl : price = p.price := congrArg (·.price) same
    have props := congrArg (·.toProductProps) same
    dsimp only at props
    rw [props] at valid
    exact ⟨valid, (Price.create_getAmount_iff host p.price).mp hprice⟩
  · rintro ⟨valid, stable⟩
    exact toDomain_toPersistence host keeps p valid p.price
      ((Price.create_getAmount_iff host p.price).mpr stable)

end PrismaProductMapper

def RawProduct.sample : RawProduct := PrismaProductMapper.toPersistence .sample

def RawProduct.sampleDeleted : RawProduct :=
  { RawProduct.sample with status := "DELETED", updatedAt := 1, deletedAt := some 1 }

end KeramikStore
