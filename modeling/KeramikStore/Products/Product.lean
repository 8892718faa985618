import KeramikStore.Products.ValueObjects

/-!
# The product aggregate

A product is validated when it is built and not again when a command changes it.
The commands differ in their guards: the first three refuse a discontinued or
deleted product, the changes of status go by the table of the status, and some of
them return early. A command that throws keeps what it had assigned.
-/

set_option autoImplicit false

namespace KeramikStore
open Library Library.Text

inductive ProductEvent where
  | productCreated (productId sku name : String) (price : JsNumber) (currency : String)
      (brand : Option String) (status : String)
  | productImageUpdated (productId sku : String) (oldImageUrl newImageUrl : Option String)
  | productPriceChanged (productId sku : String) (oldPrice newPrice : JsNumber) (currency : String)
  | productActivated (productId sku previousStatus : String)
  | productBackInStock (productId sku name : String)
  | productDeactivated (productId sku previousStatus : String) (reason : Option String)
  | productOutOfStock (productId sku name previousStatus : String)
  | productDiscontinued (productId sku name previousStatus : String) (reason : Option String)
  | productDeleted (productId sku name : String)
deriving DecidableEq

structure ProductProps where
  sku : SKU
  name : ProductName
  description : Option String
  brand : Option String
  imageUrl : Option String
  price : Price
  tilePerBox : JsNumber
  attributes : ProductAttributes
  status : ProductStatus
  createdAt : Date
  updatedAt : Date
  deletedAt : Option Date
deriving DecidableEq

structure Product extends ProductProps where
  id : ProductId
  domainEvents : List ProductEvent
deriving DecidableEq

structure CreateProductParams where
  sku : SKU
  name : ProductName
  description : Option String
  brand : Option String
  imageUrl : Option String
  price : Price
  tilePerBox : JsNumber
  attributes : ProductAttributes

structure UpdateProductParams where
  name : Option ProductName
  description : Option String
  brand : Option String
  imageUrl : Option String
  tilePerBox : Option JsNumber
  attributes : Option ProductAttributes
deriving DecidableEq

namespace Product

/-- Both dates of a row are dates, so only their order is left to check. -/
def validate (host : ProductHost) (p : ProductProps) : Except ProductError Unit :=
  raise [
    (!p.tilePerBox.isInteger, productStateConflictError "Tile per box must be an integer"),
    (p.tilePerBox.le (.fin 0), productStateConflictError "Tile per box must be greater than 0"),
    (p.description.any fun d => units (trim d) == 0,
      productStateConflictError "Product description cannot be an empty string"),
    (p.brand.any fun b => units (trim b) == 0,
      productStateConflictError "Product brand cannot be an empty string"),
    (p.imageUrl.any fun u => units (trim u) == 0,
      productStateConflictError "Product image URL cannot be an empty string"),
    (p.imageUrl.any fun u => !host.parsesUrl u,
      productStateConflictError "Product image URL must be a valid URL"),
    (p.updatedAt < p.createdAt,
      productStateConflictError "Updated date cannot be before created date")]

def addDomainEvent (e : ProductEvent) (p : Product) : Product :=
  { p with domainEvents := p.domainEvents ++ [e] }

def create (host : ProductHost) (generated : ProductId) (params : CreateProductParams)
    (clk : Clock) : Except ProductError Product := do
  let props : ProductProps :=
    { sku := params.sku
      name := params.name
      description := params.description.filter (· != "")
      brand := params.brand.filter (· != "")
      imageUrl := params.imageUrl.filter (· != "")
      price := params.price
      tilePerBox := params.tilePerBox
      attributes := params.attributes
      status := .active
      createdAt := clk.read 0
      updatedAt := clk.read 1
      deletedAt := none }
  validate host props
  let p : Product := { props with id := generated, domainEvents := [] }
  return p.addDomainEvent (.productCreated generated.getValue params.sku.getValue
    params.name.getValue params.price.getAmount params.price.getCurrency params.brand
    props.status.getValue)

theorem create_ok (host : ProductHost) (generated : ProductId) (params : CreateProductParams)
    (clk : Clock) (p : Product) (h : create host generated params clk = .ok p) :
    validate host p.toProductProps = .ok () ∧ p.id = generated ∧ p.sku = params.sku ∧
      p.price = params.price ∧ p.status = .active ∧ p.deletedAt = none := by
  obtain ⟨u, valid, h⟩ := (bind_ok_iff _ _ _).mp h
  obtain rfl := Except.ok.inj h
  exact ⟨valid, rfl, rfl, rfl, rfl, rfl⟩

def reconstruct (host : ProductHost) (id : String) (props : ProductProps) :
    Except ProductError Product := do
  let id ← UniqueIdentifier.fromString invalidProductIdError id
  validate host props
  return { props with id := id, domainEvents := [] }

def isDeleted (p : Product) : Bool := p.status.isDeleted

def ensureNotDiscontinued (p : Product) : Except ProductError Unit :=
  raise [(p.status.isDiscontinued, productIsDiscontinuedError p.id.getValue)]

def ensureNotDeleted (p : Product) : Except ProductError Unit :=
  raise [(p.status.isDeleted, productIsDeletedError p.id.getValue)]

def ensureCanBeModified (p : Product) : Except ProductError Unit := do
  p.ensureNotDiscontinued
  p.ensureNotDeleted

abbrev Call := Outcome ProductError Product

def guarded (checks : Except ProductError Unit) (body : Product → Call) (p : Product) : Call :=
  match checks with
  | .error e => .threw e p
  | .ok () => body p

def applyChange (now : Date) (p : Product) : Product := { p with updatedAt := now }

def differ (a b : JsNumber) : Bool := a == .nan || b == .nan || a != b

def updateTexts (params : UpdateProductParams) (p : Product) : Product × Bool :=
  let name := params.name.filter fun n => !n.equals p.name
  let description := params.description.filter fun d => some d != p.description
  let brand := params.brand.filter fun b => some b != p.brand
  let imageUrl := params.imageUrl.filter fun u => some u != p.imageUrl
  let assigned : Product :=
    { p with name := name.getD p.name
             description := description.or p.description
             brand := brand.or p.brand
             imageUrl := imageUrl.or p.imageUrl }
  let announced := match imageUrl with
    | some u => assigned.addDomainEvent (.productImageUpdated p.id.getValue p.sku.getValue
        (p.imageUrl.filter (· != "")) (some u |>.filter (· != "")))
    | none => assigned
  (announced, name.isSome || description.isSome || brand.isSome || imageUrl.isSome)

def updateAttributes (attributes : Option ProductAttributes) (p : Product) : Product × Bool :=
  match attributes.filter fun a => !a.equals p.attributes with
  | some a => ({ p with attributes := a }, true)
  | none => (p, false)

def updateInfo (params : UpdateProductParams) (now : Date) (p : Product) : Call :=
  p.guarded p.ensureCanBeModified fun p =>
    let (texts, changed) := p.updateTexts params
    let tilePerBox := params.tilePerBox.filter fun n => differ n p.tilePerBox
    if tilePerBox.any (·.le (.fin 0)) then
      .threw (productStateConflictError "Tile per box must be greater than 0") texts
    else
      let tiles := { texts with tilePerBox := tilePerBox.getD texts.tilePerBox }
      let (updated, replaced) := tiles.updateAttributes params.attributes
      .done (if changed || tilePerBox.isSome || replaced then updated.applyChange now else updated)

def updatePrice (host : ProductHost) (newPrice : JsNumber) (currency : Option String) (now : Date)
    (p : Product) : Call :=
  p.guarded p.ensureCanBeModified fun p =>
    let currency := (currency.filter (· != "")).getD p.price.getCurrency
    match Price.create host newPrice currency with
    | .error e => .threw e p
    | .ok price =>
      if price.equals p.price then .done p
      else .done <| ({ p with price := price }.applyChange now).addDomainEvent
        (.productPriceChanged p.id.getValue p.sku.getValue p.price.getAmount price.getAmount
          price.getCurrency)

def updateImage (imageUrl : Option String) (now : Date) (p : Product) : Call :=
  p.guarded p.ensureCanBeModified fun p =>
    if imageUrl = p.imageUrl then .done p
    else .done <| ({ p with imageUrl := imageUrl }.applyChange now).addDomainEvent
      (.productImageUpdated p.id.getValue p.sku.getValue (p.imageUrl.filter (· != ""))
        (imageUrl.filter (· != "")))

def changeStatus (newStatus : ProductStatus) (p : Product) : Call :=
  if p.status.canTransitionTo newStatus then .done { p with status := newStatus }
  else .threw (invalidStatusTransitionError p.status.getValue newStatus.getValue) p

def activate (now : Date) (p : Product) : Call :=
  if p.status.isActive then .done p
  else (p.changeStatus .active).andThen fun q =>
    let activated := (q.applyChange now).addDomainEvent
      (.productActivated p.id.getValue p.sku.getValue p.status.getValue)
    .done (if p.status.isOutOfStock then
      activated.addDomainEvent
        (.productBackInStock p.id.getValue p.sku.getValue p.name.getValue)
    else activated)

def deactivate (reason : Option String) (now : Date) (p : Product) : Call :=
  if p.status.isInactive then .done p
  else p.guarded p.ensureNotDiscontinued fun p => (p.changeStatus .inactive).andThen fun q =>
    .done <| (q.applyChange now).addDomainEvent
      (.productDeactivated p.id.getValue p.sku.getValue p.status.getValue reason)

def markAsOutOfStock (now : Date) (p : Product) : Call :=
  if p.status.isOutOfStock then .done p
  else p.guarded p.ensureNotDiscontinued fun p => (p.changeStatus .outOfStock).andThen fun q =>
    .done <| (q.applyChange now).addDomainEvent
      (.productOutOfStock p.id.getValue p.sku.getValue p.name.getValue p.status.getValue)

def discontinue (reason : Option String) (now : Date) (p : Product) : Call :=
  if p.status.isDiscontinued then .done p
  else (p.changeStatus .discontinued).andThen fun q =>
    .done <| (q.applyChange now).addDomainEvent
      (.productDiscontinued p.id.getValue p.sku.getValue p.name.getValue p.status.getValue reason)

def delete (clk : Clock) (p : Product) : Call :=
  p.guarded p.ensureNotDeleted fun p => (p.changeStatus .deleted).andThen fun q =>
    .done <| ({ q with deletedAt := some (clk.read 0) }.applyChange (clk.read 1)).addDomainEvent
      (.productDeleted p.id.getValue p.sku.getValue p.name.getValue)

theorem delete_returns (clk : Clock) (p q : Product) (h : (p.delete clk).toExcept = .ok q) :
    q.status = .deleted ∧ q.deletedAt = some (clk.read 0) ∧ p.status.isDeleted = false ∧
      q.id = p.id ∧ q.sku = p.sku := by
  unfold delete guarded ensureNotDeleted at h
  cases hd : p.status.isDeleted with
  | true => simp [raise, hd, Outcome.toExcept, Outcome.threw] at h
  | false =>
    simp only [hd, raise, Bool.false_eq_true, if_false, changeStatus] at h
    split at h
    · obtain rfl := Except.ok.inj h
      exact ⟨rfl, rfl, rfl, rfl, rfl⟩
    · cases h

def sample : Product where
  id := UniqueIdentifier.sample
  sku := ⟨"TILE-1", by decide⟩
  name := .sample
  description := none
  brand := none
  imageUrl := none
  price := ⟨10, "IDR", by decide, Money.idr_valid⟩
  tilePerBox := .fin 4
  attributes := .sample
  status := .active
  createdAt := 0
  updatedAt := 0
  deletedAt := none
  domainEvents := []

end Product

end KeramikStore
