import KeramikStore.Library.Runs
import KeramikStore.Products.Product

/-!
# What the commands of a product do

Eight commands with different guards come to six effects. An edit of the texts keeps
what it has assigned even when it throws at the number of tiles; everything else that
throws leaves the product as it was. A change of the status is the only one that
announces anything about the stock.
-/

set_option autoImplicit false

namespace KeramikStore

inductive ProductCommand where
  | updateInfo (params : UpdateProductParams)
  | updatePrice (newPrice : Library.JsNumber) (currency : Option String)
  | updateImage (imageUrl : Option String)
  | activate
  | deactivate (reason : Option String)
  | markAsOutOfStock
  | discontinue (reason : Option String)
  | delete
deriving DecidableEq

def ProductCommand.exec (host : ProductHost) (clk : Clock) : ProductCommand → Product → Product.Call
  | updateInfo params => Product.updateInfo params (clk.read 0)
  | updatePrice newPrice currency => Product.updatePrice host newPrice currency (clk.read 0)
  | updateImage imageUrl => Product.updateImage imageUrl (clk.read 0)
  | activate => Product.activate (clk.read 0)
  | deactivate reason => Product.deactivate reason (clk.read 0)
  | markAsOutOfStock => Product.markAsOutOfStock (clk.read 0)
  | discontinue reason => Product.discontinue reason (clk.read 0)
  | delete => Product.delete clk

namespace ProductCommands
open Library Library.Runs

abbrev Step := ProductCommand × Clock

variable (host : ProductHost)

def step (p : Product) (a : Step) : Product := (a.1.exec host a.2 p).state

def concernsStock : ProductEvent → Bool
  | .productOutOfStock .. | .productBackInStock .. => true
  | _ => false

def takesTiles (n : JsNumber) : Bool := !n.le (.fin 0)

structure Updated (params : UpdateProductParams) (now : Date) (p q : Product) : Prop where
  id : q.id = p.id
  sku : q.sku = p.sku
  name : q.name = params.name.getD p.name
  description : q.description = params.description.or p.description
  brand : q.brand = params.brand.or p.brand
  imageUrl : q.imageUrl = params.imageUrl.or p.imageUrl
  price : q.price = p.price
  tilePerBox : q.tilePerBox = (params.tilePerBox.filter takesTiles).getD p.tilePerBox
  status : q.status = p.status
  createdAt : q.createdAt = p.createdAt
  updatedAt : q.updatedAt = p.updatedAt ∨ q.updatedAt = now
  deletedAt : q.deletedAt = p.deletedAt
  events : ∃ es, q.domainEvents = p.domainEvents ++ es ∧ ∀ e ∈ es, concernsStock e = false

def announcement (p : Product) (reason : Option String) : ProductStatus → List ProductEvent
  | .active =>
    .productActivated p.id.getValue p.sku.getValue p.status.getValue ::
      if p.status.isOutOfStock then
        [.productBackInStock p.id.getValue p.sku.getValue p.name.getValue]
      else []
  | .inactive => [.productDeactivated p.id.getValue p.sku.getValue p.status.getValue reason]
  | .outOfStock =>
    [.productOutOfStock p.id.getValue p.sku.getValue p.name.getValue p.status.getValue]
  | .discontinued =>
    [.productDiscontinued p.id.getValue p.sku.getValue p.name.getValue p.status.getValue reason]
  | .deleted => [.productDeleted p.id.getValue p.sku.getValue p.name.getValue]

def moved (p : Product) (t : ProductStatus) (reason : Option String) (clk : Clock) : Product :=
  { p with
    status := t
    updatedAt := clk.read (if t = .deleted then 1 else 0)
    deletedAt := if t = .deleted then some (clk.read 0) else p.deletedAt
    domainEvents := p.domainEvents ++ announcement p reason t }

def priced (p : Product) (price : Price) (now : Date) : Product :=
  ({ p with price := price }.applyChange now).addDomainEvent
    (.productPriceChanged p.id.getValue p.sku.getValue p.price.getAmount price.getAmount
      price.getCurrency)

def depicted (p : Product) (imageUrl : Option String) (now : Date) : Product :=
  ({ p with imageUrl := imageUrl }.applyChange now).addDomainEvent
    (.productImageUpdated p.id.getValue p.sku.getValue (p.imageUrl.filter (· != ""))
      (imageUrl.filter (· != "")))

inductive Effect (p : Product) (clk : Clock) : ProductCommand → Product.Call → Prop where
  | threw (c : ProductCommand) (e : ProductError) : Effect p clk c (.threw e p)
  | kept (c : ProductCommand) : Effect p clk c (.done p)
  | updated (params : UpdateProductParams) (o : Product.Call)
      (modifiable : p.ensureCanBeModified = .ok ())
      (h : Updated params (clk.read 0) p o.state) : Effect p clk (.updateInfo params) o
  | priced (newPrice : JsNumber) (currency : Option String) (price : Price)
      (modifiable : p.ensureCanBeModified = .ok ())
      (accepted : Price.create host newPrice
        ((currency.filter (· != "")).getD p.price.getCurrency) = .ok price) :
      Effect p clk (.updatePrice newPrice currency) (.done (priced p price (clk.read 0)))
  | depicted (imageUrl : Option String) (modifiable : p.ensureCanBeModified = .ok ()) :
      Effect p clk (.updateImage imageUrl) (.done (depicted p imageUrl (clk.read 0)))
  | moved (c : ProductCommand) (t : ProductStatus) (reason : Option String)
      (different : p.status ≠ t) (allowed : p.status.canTransitionTo t = true) :
      Effect p clk c (.done (moved p t reason clk))

section Edits

variable (p : Product)

theorem guarded_effect (clk : Clock) (c : ProductCommand) (checks : Except ProductError Unit)
    (body : Product → Product.Call) (h : checks = .ok () → Effect host p clk c (body p)) :
    Effect host p clk c (p.guarded checks body) := by
  cases checks with
  | error e => exact .threw c e
  | ok u => exact h rfl

theorem or_filter {α : Type} [DecidableEq α] (given old : Option α) :
    (given.filter fun a => some a != old).or old = given.or old := by
  cases given with
  | none => rfl
  | some a =>
    by_cases same : some a = old
    · simp [Option.filter, ← same]
    · simp [Option.filter, same]

theorem name_filter (given : Option ProductName) (old : ProductName) :
    (given.filter fun n => !n.equals old).getD old = given.getD old := by
  cases given with
  | none => rfl
  | some n =>
    by_cases same : n.value = old.value
    · have equal : n = old := by
        cases n
        cases old
        cases same
        rfl
      simp [Option.filter, ProductName.equals, equal]
    · simp [Option.filter, ProductName.equals, same]

/-- The texts are assigned as in an update that gives no number of tiles. -/
theorem updateTexts_updated (params : UpdateProductParams) (now : Date) :
    Updated { params with tilePerBox := none } now p (p.updateTexts params).1 := by
  unfold Product.updateTexts
  cases h : params.imageUrl.filter fun u => some u != p.imageUrl with
  | some u =>
    refine ⟨rfl, rfl, name_filter _ _, or_filter _ _, or_filter _ _, ?_, rfl, rfl, rfl,
      rfl, .inl rfl, rfl, _, rfl, fun e mem => ?_⟩
    · rw [← or_filter, h]
      rfl
    · obtain rfl := List.mem_singleton.mp mem
      rfl
  | none =>
    refine ⟨rfl, rfl, name_filter _ _, or_filter _ _, or_filter _ _, ?_, rfl, rfl, rfl,
      rfl, .inl rfl, rfl, [], (List.append_nil _).symm, nofun⟩
    rw [← or_filter, h]

theorem refused_tiles (given : Option JsNumber) (old : JsNumber)
    (h : (given.filter fun n => Product.differ n old).any (·.le (.fin 0)) = true) :
    (given.filter takesTiles).getD old = old := by
  cases given with
  | none => rfl
  | some n =>
    by_cases different : Product.differ n old = true
    · have low : n.le (.fin 0) = true := by simpa [Option.filter, different] using h
      simp [Option.filter, takesTiles, low]
    · simp [Option.filter, different] at h

theorem eq_of_not_differ (n old : JsNumber) (h : ¬ Product.differ n old = true) : n = old := by
  simp only [Product.differ, Bool.or_eq_true, not_or, bne_iff_ne, not_not] at h
  exact h.2

theorem taken_tiles (given : Option JsNumber) (old : JsNumber)
    (h : ¬ (given.filter fun n => Product.differ n old).any (·.le (.fin 0)) = true) :
    (given.filter takesTiles).getD old = (given.filter fun n => Product.differ n old).getD old := by
  cases given with
  | none => rfl
  | some n =>
    by_cases different : Product.differ n old = true
    · have high : n.le (.fin 0) = false := by simpa [Option.filter, different] using h
      simp [Option.filter, takesTiles, high, different]
    · rw [eq_of_not_differ n old different]
      cases ht : takesTiles old <;> cases hd : Product.differ old old <;>
        simp [Option.filter, ht, hd]

theorem Updated.assigned (params : UpdateProductParams) (now : Date) (q : Product)
    (texts : Updated { params with tilePerBox := none } now p q) (n : JsNumber)
    (tiles : n = (params.tilePerBox.filter takesTiles).getD p.tilePerBox)
    (attributes : ProductAttributes) (t : Date) (time : t = q.updatedAt ∨ t = now) :
    Updated params now p
      { q with tilePerBox := n, attributes := attributes, updatedAt := t } :=
  { texts with
    tilePerBox := tiles
    updatedAt := time.elim (fun e => e ▸ texts.updatedAt) .inr }

theorem updateInfo_updated (now : Date) (params : UpdateProductParams)
    (modifiable : p.ensureCanBeModified = .ok ()) :
    Updated params now p (p.updateInfo params now).state := by
  have texts := updateTexts_updated p params now
  unfold Product.updateInfo Product.guarded
  rw [modifiable]
  dsimp only
  split
  next low =>
    exact { texts with
      tilePerBox := texts.tilePerBox.trans (refused_tiles _ _ low).symm }
  next high =>
    have old : (p.updateTexts params).1.tilePerBox = p.tilePerBox := texts.tilePerBox
    have tiles : (params.tilePerBox.filter fun n => Product.differ n p.tilePerBox).getD
        (p.updateTexts params).1.tilePerBox =
        (params.tilePerBox.filter takesTiles).getD p.tilePerBox := by
      rw [old]
      exact (taken_tiles params.tilePerBox p.tilePerBox high).symm
    unfold Product.updateAttributes
    cases params.attributes.filter _ with
    | none =>
      dsimp only
      split
      · exact Updated.assigned p params _ _ texts _ tiles _ _ (.inr rfl)
      · exact Updated.assigned p params _ _ texts _ tiles _ _ (.inl rfl)
    | some a =>
      dsimp only
      split
      · exact Updated.assigned p params _ _ texts _ tiles a _ (.inr rfl)
      · exact Updated.assigned p params _ _ texts _ tiles a _ (.inl rfl)

theorem guarded_refused (checks : Except ProductError Unit) (body : Product → Product.Call)
    (h : checks ≠ .ok ()) : ∃ e, p.guarded checks body = .threw e p := by
  cases checks with
  | error e => exact ⟨e, rfl⟩
  | ok u => exact absurd rfl h

theorem updateInfo_effect (clk : Clock) (params : UpdateProductParams) :
    Effect host p clk (.updateInfo params) (p.updateInfo params (clk.read 0)) := by
  by_cases modifiable : p.ensureCanBeModified = .ok ()
  · exact .updated params _ modifiable (updateInfo_updated p (clk.read 0) params modifiable)
  · obtain ⟨e, refused⟩ := guarded_refused p p.ensureCanBeModified _ modifiable
    unfold Product.updateInfo
    rw [refused]
    exact .threw _ e

theorem updatePrice_effect (clk : Clock) (newPrice : JsNumber) (currency : Option String) :
    Effect host p clk (.updatePrice newPrice currency)
      (p.updatePrice host newPrice currency (clk.read 0)) := by
  apply guarded_effect
  intro checked
  dsimp only
  cases accepted : Price.create host newPrice
    ((currency.filter (· != "")).getD p.price.getCurrency) with
  | error e => exact .threw _ e
  | ok price =>
    dsimp only
    split
    · exact .kept _
    · exact .priced newPrice currency price checked accepted

theorem updateImage_effect (clk : Clock) (imageUrl : Option String) :
    Effect host p clk (.updateImage imageUrl) (p.updateImage imageUrl (clk.read 0)) := by
  apply guarded_effect
  intro checked
  split
  · exact .kept _
  · exact .depicted imageUrl checked

end Edits

section Moves

variable (p : Product) (clk : Clock) (c : ProductCommand)

/-- A change of the status goes by the table and is announced when it was allowed. -/
theorem changeStatus_effect (t : ProductStatus) (reason : Option String) (different : p.status ≠ t)
    (body : Product → Product)
    (h : body { p with status := t } = moved p t reason clk) :
    Effect host p clk c ((p.changeStatus t).andThen fun q => .done (body q)) := by
  unfold Product.changeStatus
  split
  next allowed =>
    rw [Outcome.done_andThen, h]
    exact .moved c t reason different allowed
  · exact .threw c _

theorem activate_effect : Effect host p clk c (p.activate (clk.read 0)) := by
  unfold Product.activate
  split
  · exact .kept c
  next inactive =>
    have different : p.status ≠ .active := fun e => inactive (by rw [e]; rfl)
    apply changeStatus_effect host p clk c .active none different
    by_cases out : p.status.isOutOfStock = true
    · simp [moved, announcement, out, Product.addDomainEvent, Product.applyChange]
    · simp [moved, announcement, out, Product.addDomainEvent, Product.applyChange]

theorem deactivate_effect (reason : Option String) :
    Effect host p clk c (p.deactivate reason (clk.read 0)) := by
  unfold Product.deactivate
  split
  · exact .kept c
  next other =>
    apply guarded_effect
    intro _
    have different : p.status ≠ .inactive := fun e => other (by rw [e]; rfl)
    exact changeStatus_effect host p clk c .inactive reason different _ rfl

theorem markAsOutOfStock_effect : Effect host p clk c (p.markAsOutOfStock (clk.read 0)) := by
  unfold Product.markAsOutOfStock
  split
  · exact .kept c
  next other =>
    apply guarded_effect
    intro _
    have different : p.status ≠ .outOfStock := fun e => other (by rw [e]; rfl)
    exact changeStatus_effect host p clk c .outOfStock none different _ rfl

theorem discontinue_effect (reason : Option String) :
    Effect host p clk c (p.discontinue reason (clk.read 0)) := by
  unfold Product.discontinue
  split
  · exact .kept c
  next other =>
    have different : p.status ≠ .discontinued := fun e => other (by rw [e]; rfl)
    exact changeStatus_effect host p clk c .discontinued reason different _ rfl

theorem delete_effect : Effect host p clk c (p.delete clk) := by
  apply guarded_effect
  intro checked
  have different : p.status ≠ .deleted := by
    intro e
    rw [Product.ensureNotDeleted, e] at checked
    cases checked
  exact changeStatus_effect host p clk c .deleted none different _ rfl

end Moves

theorem exec_effect (p : Product) (clk : Clock) (c : ProductCommand) :
    Effect host p clk c (c.exec host clk p) := by
  cases c with
  | updateInfo params => exact updateInfo_effect host p clk params
  | updatePrice newPrice currency => exact updatePrice_effect host p clk newPrice currency
  | updateImage imageUrl => exact updateImage_effect host p clk imageUrl
  | activate => exact activate_effect host p clk _
  | deactivate reason => exact deactivate_effect host p clk _ reason
  | markAsOutOfStock => exact markAsOutOfStock_effect host p clk _
  | discontinue reason => exact discontinue_effect host p clk _ reason
  | delete => exact delete_effect host p clk _

section Samples

def sampleParams : CreateProductParams where
  sku := Product.sample.sku
  name := .sample
  description := some ""
  brand := none
  imageUrl := none
  price := Product.sample.price
  tilePerBox := .fin 4
  attributes := .sample

def sample : Product :=
  { Product.sample with
    domainEvents := [.productCreated UserId.sample.value "TILE-1" "Tile" (.fin 10) "IDR" none
      "ACTIVE"] }

theorem sample_created : Product.create .sample .sample sampleParams (.still 0) = .ok sample := by
  decide +kernel

end Samples

end ProductCommands

end KeramikStore
