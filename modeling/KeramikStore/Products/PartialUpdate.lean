import KeramikStore.Products.UseCases
import KeramikStore.Products.UpdateAtomicity

/-!
# Partial updates of a product

An update that returns has assigned every text, the number of tiles and the price that
are given, and has kept the others. Two of its inputs can be lost. The currency is read
only with a price, and only if it is not empty. The attributes are assigned together, and
only if JSON writes them differently from those held, which it does not for two numbers
that are not finite.
-/

set_option autoImplicit false

namespace KeramikStore.PartialUpdate
open Library ProductCommands ProductUpdates UpdateProductUseCase

section Statement

variable (host : ProductHost)

def Takes {α β : Type} (read : α → Except ProductError β) (given : Option α) (old new : β) : Prop :=
  given.elim (new = old) fun a => read a = .ok new

structure Asks (size : Option UpdateSize) (attributes : Option UpdateAttributes)
    (held asked : TileAttributes) : Prop where
  width : asked.size.width = (size.bind UpdateSize.width).getD held.size.width
  height : asked.size.height = (size.bind UpdateSize.height).getD held.size.height
  thickness : asked.size.thickness = (size.bind UpdateSize.thickness).or held.size.thickness
  unit : Takes (DimensionUnit.fromString host) (size.bind UpdateSize.unit)
    held.size.dimensionUnit asked.size.dimensionUnit
  grade : asked.grade = (attributes.bind UpdateAttributes.grade).or held.grade
  finishing : asked.finishing = (attributes.bind UpdateAttributes.finishing).or held.finishing
  applicationAreas : asked.applicationAreas =
    (attributes.bind UpdateAttributes.applicationAreas).or held.applicationAreas
  antiSlipRating : asked.antiSlipRating =
    (attributes.bind UpdateAttributes.antiSlipRating).or held.antiSlipRating
  waterAbsorption : asked.waterAbsorption =
    (attributes.bind UpdateAttributes.waterAbsorption).or held.waterAbsorption
  color : asked.color = (attributes.bind UpdateAttributes.color).or held.color
  pattern : asked.pattern = (attributes.bind UpdateAttributes.pattern).or held.pattern
  isOutdoor : asked.isOutdoor = (attributes.bind UpdateAttributes.isOutdoor).or held.isOutdoor
  frostResistant : asked.frostResistant =
    (attributes.bind UpdateAttributes.frostResistant).or held.frostResistant
  peiRating : asked.peiRating = (attributes.bind UpdateAttributes.peiRating).or held.peiRating

inductive FieldGroup where
  | name | description | brand | imageUrl | tilePerBox | size | attributes | price
deriving DecidableEq

namespace FieldGroup

def all : List FieldGroup :=
  [name, description, brand, imageUrl, tilePerBox, size, attributes, price]

def text : FieldGroup → String
  | name => "name"
  | description => "description"
  | brand => "brand"
  | imageUrl => "imageUrl"
  | tilePerBox => "tilePerBox"
  | size => "size"
  | attributes => "attributes"
  | price => "price"

def isPresent (command : UpdateProductCommand) : FieldGroup → Bool
  | name => command.name.isSome
  | description => command.description.isSome
  | brand => command.brand.isSome
  | imageUrl => command.imageUrl.isSome
  | tilePerBox => command.tilePerBox.isSome
  | size => command.size.isSome
  | attributes => command.attributes.isSome
  | price => command.price.isSome || command.currency.isSome

end FieldGroup

variable (command : UpdateProductCommand) (p q : Product)

structure UpdatesExactly : Prop where
  name : Takes ProductName.create command.name p.name q.name
  description : q.description = command.description.or p.description
  brand : q.brand = command.brand.or p.brand
  imageUrl : q.imageUrl = command.imageUrl.or p.imageUrl
  tilePerBox : q.tilePerBox = command.tilePerBox.getD p.tilePerBox
  price : q.price.getAmount = (command.price.map Money.rounded).getD p.price.getAmount
  currency : q.price.getCurrency = command.currency.getD p.price.getCurrency
  attributes : Asks host command.size command.attributes p.attributes.getAttributes
    q.attributes.getAttributes
  reported : fieldsUpdated command =
    (FieldGroup.all.filter (FieldGroup.isPresent command)).map FieldGroup.text

def PricedCurrency : Prop :=
  command.currency.isSome → command.price.isSome ∧ command.currency ≠ some ""

def ToldApart : Prop :=
  ∀ asked, Asks host command.size command.attributes p.attributes.getAttributes asked →
    ProductAttributes.jsonImage asked = ProductAttributes.jsonImage p.attributes.getAttributes →
      asked = p.attributes.getAttributes

end Statement

section Attributes

variable {host : ProductHost} {size : Option UpdateSize} {attributes : Option UpdateAttributes}
  {held asked other : TileAttributes}

theorem Takes.unique {α β : Type} {read : α → Except ProductError β} {given : Option α}
    {old new new' : β} (h : Takes read given old new) (h' : Takes read given old new') :
    new = new' := by
  cases given with
  | none => exact h.trans h'.symm
  | some a => exact Except.ok.inj (h.symm.trans h')

theorem Asks.unique (h : Asks host size attributes held asked)
    (h' : Asks host size attributes held other) : asked = other := by
  have unit := h.unit.unique h'.unit
  have width := h.width.trans h'.width.symm
  have height := h.height.trans h'.height.symm
  have thickness := h.thickness.trans h'.thickness.symm
  have grade := h.grade.trans h'.grade.symm
  have finishing := h.finishing.trans h'.finishing.symm
  have applicationAreas := h.applicationAreas.trans h'.applicationAreas.symm
  have antiSlipRating := h.antiSlipRating.trans h'.antiSlipRating.symm
  have waterAbsorption := h.waterAbsorption.trans h'.waterAbsorption.symm
  have color := h.color.trans h'.color.symm
  have pattern := h.pattern.trans h'.pattern.symm
  have isOutdoor := h.isOutdoor.trans h'.isOutdoor.symm
  have frostResistant := h.frostResistant.trans h'.frostResistant.symm
  have peiRating := h.peiRating.trans h'.peiRating.symm
  obtain ⟨⟨⟨_, _, _, _⟩, _⟩, _⟩ := asked
  obtain ⟨⟨⟨_, _, _, _⟩, _⟩, _⟩ := other
  dsimp only at *
  subst_vars
  rfl

/-- The attributes that the use case merges are the ones that are asked for. -/
theorem merged_asks (capitals : host.CapitalisesBasic) (newSize : ProductSize)
    (h : mergedSize host size held.size = .ok newSize) :
    Asks host size attributes held (mergedAttributes newSize attributes held) := by
  obtain ⟨dimensionUnit, hunit, h⟩ := (bind_ok_iff _ _ _).mp h
  have unit : Takes (DimensionUnit.fromString host) (size.bind UpdateSize.unit)
      held.size.dimensionUnit dimensionUnit := by
    cases given : size.bind UpdateSize.unit with
    | none =>
      rw [given] at hunit
      exact Except.ok.inj (hunit.symm.trans (DimensionUnit.fromString_getValue host capitals _))
    | some u =>
      rw [given] at hunit
      exact hunit
  unfold ProductSize.create at h
  split at h
  · obtain rfl := Except.ok.inj h
    exact ⟨rfl, rfl, rfl, unit, rfl, rfl, rfl, rfl, rfl, rfl, rfl, rfl, rfl, rfl⟩
  · cases h

/-- A command without a size and without attributes asks for those held. -/
theorem held_asks : Asks host none none held held :=
  ⟨rfl, rfl, rfl, rfl, rfl, rfl, rfl, rfl, rfl, rfl, rfl, rfl, rfl, rfl⟩

end Attributes

section Steps

variable {host : ProductHost} {command : UpdateProductCommand} {p q : Product}
  {params : UpdateProductParams}

structure Prepared (host : ProductHost) (command : UpdateProductCommand) (p : Product)
    (params : UpdateProductParams) : Prop where
  name : Takes ProductName.create command.name p.name (params.name.getD p.name)
  description : params.description = command.description
  brand : params.brand = command.brand
  imageUrl : params.imageUrl = command.imageUrl
  tilePerBox : params.tilePerBox = command.tilePerBox
  attributes : Asks host command.size command.attributes p.attributes.getAttributes
    (params.attributes.getD p.attributes).getAttributes

theorem name_taken (given : Option String) (old : ProductName) (name : Option ProductName)
    (h : given.mapM ProductName.create = .ok name) :
    Takes ProductName.create given old (name.getD old) := by
  cases given with
  | none =>
    obtain rfl := Except.ok.inj h
    rfl
  | some text =>
    rw [option_mapM_some] at h
    obtain ⟨n, created, h⟩ := (bind_ok_iff _ _ _).mp h
    obtain rfl := Except.ok.inj h
    exact created

theorem created_attributes (merged : TileAttributes) (given : Option ProductAttributes)
    (h : (some <$> ProductAttributes.create merged) = .ok given) :
    ∃ a, given = some a ∧ a.attributes = merged := by
  cases created : ProductAttributes.create merged with
  | error e =>
    rw [created] at h
    cases h
  | ok a =>
    rw [created] at h
    exact ⟨a, (Except.ok.inj h).symm, ProductAttributes.create_ok merged a created⟩

theorem updateParams_prepared (capitals : host.CapitalisesBasic)
    (h : updateParams host command p = .ok params) : Prepared host command p params := by
  obtain ⟨name, hname, h⟩ := (bind_ok_iff _ _ _).mp h
  dsimp only at h
  split at h
  · obtain ⟨newSize, merged, h⟩ := (bind_ok_iff _ _ _).mp h
    obtain ⟨given, created, h⟩ := (bind_ok_iff _ _ _).mp h
    obtain ⟨a, rfl, hcreated⟩ := created_attributes _ _ created
    obtain rfl := Except.ok.inj h
    refine ⟨name_taken _ _ _ hname, rfl, rfl, rfl, rfl, ?_⟩
    change Asks _ _ _ _ a.attributes
    rw [hcreated]
    exact merged_asks capitals newSize merged
  next absent =>
    obtain rfl := Except.ok.inj h
    obtain ⟨size, attributes⟩ : command.size = none ∧ command.attributes = none := by
      simpa using absent
    refine ⟨name_taken _ _ _ hname, rfl, rfl, rfl, rfl, ?_⟩
    rw [size, attributes]
    exact held_asks

structure Informed (params : UpdateProductParams) (p r : Product) : Prop where
  name : r.name = params.name.getD p.name
  description : r.description = params.description.or p.description
  brand : r.brand = params.brand.or p.brand
  imageUrl : r.imageUrl = params.imageUrl.or p.imageUrl
  tilePerBox : r.tilePerBox = params.tilePerBox.getD p.tilePerBox
  price : r.price = p.price
  attributes : r.attributes =
    (params.attributes.filter fun a => !a.equals p.attributes).getD p.attributes

theorem tiles_given (given : Option JsNumber) (old : JsNumber) :
    (given.filter fun n => Product.differ n old).getD old = given.getD old := by
  cases given with
  | none => rfl
  | some n =>
    by_cases different : Product.differ n old = true
    · simp [Option.filter, different]
    · rw [eq_of_not_differ n old different]
      cases hd : Product.differ old old <;> simp [Option.filter, hd]

theorem updateTexts_attributes (params : UpdateProductParams) (p : Product) :
    (p.updateTexts params).1.attributes = p.attributes := by
  unfold Product.updateTexts
  cases params.imageUrl.filter fun u => some u != p.imageUrl <;> rfl

variable (now : Date)

theorem updateInfo_returns (returned : (p.updateInfo params now).Returns) :
    p.ensureCanBeModified = .ok () ∧ ¬ refusesTiles params p = true := by
  by_cases modifiable : p.ensureCanBeModified = .ok ()
  · unfold Product.updateInfo Product.guarded at returned
    rw [modifiable] at returned
    dsimp only at returned
    split at returned
    · exact absurd returned (Outcome.not_returns_threw _ _)
    next taken => exact ⟨modifiable, taken⟩
  · obtain ⟨e, call⟩ := guarded_refused p p.ensureCanBeModified _ modifiable
    unfold Product.updateInfo at returned
    rw [call] at returned
    exact absurd returned (Outcome.not_returns_threw _ _)

theorem updateInfo_attributes (modifiable : p.ensureCanBeModified = .ok ())
    (taken : ¬ refusesTiles params p = true) : (p.updateInfo params now).state.attributes =
      (params.attributes.filter fun a => !a.equals p.attributes).getD p.attributes := by
  have kept := updateTexts_attributes params p
  unfold Product.updateInfo Product.guarded
  rw [modifiable]
  unfold refusesTiles at taken
  dsimp only
  rw [if_neg taken, Outcome.state_done]
  unfold Product.updateAttributes
  dsimp only
  rw [kept]
  cases params.attributes.filter fun a => !a.equals p.attributes with
  | none =>
    dsimp only
    split <;> rfl
  | some a =>
    dsimp only
    split <;> rfl

theorem updateInfo_informed (h : (p.updateInfo params now).toExcept = .ok q) :
    Informed params p q := by
  obtain ⟨returned, rfl⟩ := (Outcome.toExcept_ok_iff _ _).mp h
  obtain ⟨modifiable, taken⟩ := updateInfo_returns now returned
  have updated := updateInfo_updated p now params modifiable
  exact {
    name := updated.name
    description := updated.description
    brand := updated.brand
    imageUrl := updated.imageUrl
    tilePerBox := updated.tilePerBox.trans <|
      (taken_tiles params.tilePerBox p.tilePerBox taken).trans (tiles_given _ _)
    price := updated.price
    attributes := updateInfo_attributes now modifiable taken }

/-- An update that is not made because nothing is given does what one would do. -/
theorem empty_informed (empty : isEmpty params = true) : Informed params p p := by
  obtain ⟨name, description, brand, imageUrl, tilePerBox, attributes⟩ := params
  simp only [isEmpty, Bool.and_eq_true, Option.isNone_iff_eq_none] at empty
  obtain ⟨⟨⟨⟨⟨rfl, rfl⟩, rfl⟩, rfl⟩, rfl⟩, rfl⟩ := empty
  exact ⟨rfl, rfl, rfl, rfl, rfl, rfl, rfl⟩

structure Priced (host : ProductHost) (newPrice : JsNumber) (currency : String) (p q : Product) :
    Prop where
  price : Price.create host newPrice
    (((some currency).filter (· != "")).getD p.price.getCurrency) = .ok q.price
  others : q = { p with price := q.price, updatedAt := q.updatedAt, domainEvents := q.domainEvents }

theorem updatePrice_priced (newPrice : JsNumber) (currency : String)
    (h : (p.updatePrice host newPrice currency now).toExcept = .ok q) :
    Priced host newPrice currency p q := by
  unfold Product.updatePrice Product.guarded at h
  split at h
  · cases h
  dsimp only at h
  split at h
  · cases h
  next price made =>
    split at h
    next same =>
      obtain rfl := Except.ok.inj h
      rw [Price.eq_of_equals price p.price same] at made
      exact ⟨made, rfl⟩
    next other =>
      obtain rfl := Except.ok.inj h
      exact ⟨made, rfl⟩

def PriceStep (host : ProductHost) (command : UpdateProductCommand) (r q : Product) : Prop :=
  command.price.elim (q = r) fun price =>
    Priced host price (command.currency.getD r.price.getCurrency) r q

theorem run_steps (clk : Clock) (capitals : host.CapitalisesBasic)
    (returned : run host command clk p = .ok q) :
    ∃ params r, Prepared host command p params ∧ Informed params p r ∧
      PriceStep host command r q := by
  obtain ⟨params, prepared, h⟩ := (bind_ok_iff _ _ _).mp returned
  have prepared := updateParams_prepared capitals prepared
  unfold PriceStep
  cases hp : command.price with
  | none =>
    rw [hp] at h
    dsimp only at h
    split at h
    next empty =>
      obtain rfl := Except.ok.inj h
      exact ⟨params, p, prepared, empty_informed empty, rfl⟩
    · obtain ⟨r, informed, h⟩ := (bind_ok_iff _ _ _).mp h
      obtain rfl := Except.ok.inj h
      exact ⟨params, r, prepared, updateInfo_informed _ informed, rfl⟩
  | some price =>
    rw [hp] at h
    dsimp only at h
    split at h
    next empty =>
      exact ⟨params, p, prepared, empty_informed empty, updatePrice_priced _ price _ h⟩
    · obtain ⟨r, informed, h⟩ := (bind_ok_iff _ _ _).mp h
      exact ⟨params, r, prepared, updateInfo_informed _ informed, updatePrice_priced _ price _ h⟩

structure PriceOnly (r q : Product) : Prop where
  name : q.name = r.name
  description : q.description = r.description
  brand : q.brand = r.brand
  imageUrl : q.imageUrl = r.imageUrl
  tilePerBox : q.tilePerBox = r.tilePerBox
  attributes : q.attributes = r.attributes

theorem PriceStep.only (step : PriceStep host command p q) : PriceOnly p q := by
  unfold PriceStep at step
  cases hp : command.price with
  | none =>
    rw [hp] at step
    obtain rfl : q = p := step
    exact ⟨rfl, rfl, rfl, rfl, rfl, rfl⟩
  | some price =>
    rw [hp] at step
    rw [step.others]
    exact ⟨rfl, rfl, rfl, rfl, rfl, rfl⟩

theorem PriceStep.amount (step : PriceStep host command p q) :
    q.price.getAmount = (command.price.map Money.rounded).getD p.price.getAmount := by
  unfold PriceStep at step
  cases hp : command.price with
  | none =>
    rw [hp] at step
    obtain rfl : q = p := step
    rfl
  | some price =>
    rw [hp] at step
    exact (Price.create_ok _ _ _ _ step.price).1

theorem currency_ne_empty (price : Price) : price.getCurrency ≠ "" := by
  intro empty
  have valid := price.valid
  change price.currency = "" at empty
  rw [empty] at valid
  exact absurd valid (by decide)

/-- The currency is the one that is given or held, unless it is given without a price or
empty. -/
theorem PriceStep.currency_iff (step : PriceStep host command p q) :
    (q.price.getCurrency = command.currency.getD p.price.getCurrency ∧
      (command.currency.isSome → command.price.isSome)) ↔ PricedCurrency command := by
  unfold PriceStep at step
  unfold PricedCurrency
  cases hp : command.price with
  | none =>
    rw [hp] at step
    obtain rfl : q = p := step
    cases hc : command.currency with
    | none => simp
    | some c => simp
  | some price =>
    rw [hp] at step
    have currency := (Price.create_ok _ _ _ _ step.price).2
    cases hc : command.currency with
    | none =>
      rw [hc] at currency
      simp [currency, Option.filter, currency_ne_empty]
    | some c =>
      rw [hc] at currency
      by_cases empty : c = ""
      · have filled := currency_ne_empty q.price
        simp [empty, filled]
      · simp [currency, Option.filter, empty]

end Steps

section Reports

theorem filter_map_flatMap {α β : Type} (f : α → β) (keep : α → Bool) (l : List α) :
    (l.filter keep).map f = l.flatMap fun a => if keep a then [f a] else [] := by
  induction l with
  | nil => rfl
  | cons a l ih => cases h : keep a <;> simp [h, ih]

theorem reported_iff (command : UpdateProductCommand) :
    fieldsUpdated command =
      (FieldGroup.all.filter (FieldGroup.isPresent command)).map FieldGroup.text ↔
        (command.currency.isSome → command.price.isSome) := by
  rw [filter_map_flatMap]
  simp only [fieldsUpdated, FieldGroup.all, List.flatMap_cons, List.flatMap_nil,
    List.append_assoc, List.append_nil]
  iterate 7 refine (List.append_right_inj _).trans ?_
  change (if command.price.isSome then ["price"] else []) =
    (if command.price.isSome || command.currency.isSome then ["price"] else []) ↔ _
  cases command.price <;> cases command.currency <;> simp

end Reports

section Updates

variable {host : ProductHost} {command : UpdateProductCommand} {p q : Product}
  {params : UpdateProductParams}

theorem equals_iff (a b : ProductAttributes) : a.equals b = true ↔
    ProductAttributes.jsonImage a.getAttributes = ProductAttributes.jsonImage b.getAttributes :=
  beq_iff_eq

/-- The attributes that are asked for are held after the update unless JSON took them to
be the held ones. -/
theorem attributes_iff (prepared : Prepared host command p params)
    (assigned : q.attributes =
      (params.attributes.filter fun a => !a.equals p.attributes).getD p.attributes) :
    Asks host command.size command.attributes p.attributes.getAttributes
        q.attributes.getAttributes ↔ ToldApart host command p := by
  cases given : params.attributes with
  | none =>
    have asked := prepared.attributes
    rw [given] at asked assigned
    rw [assigned]
    exact iff_of_true asked fun other asks _ => asks.unique asked
  | some a =>
    have asked : Asks host command.size command.attributes p.attributes.getAttributes
        a.getAttributes := by simpa [given] using prepared.attributes
    rw [given] at assigned
    by_cases same : a.equals p.attributes = true
    · have kept : q.attributes = p.attributes := by simpa [Option.filter, same] using assigned
      rw [kept]
      constructor
      · exact fun held other asks _ => asks.unique held
      · intro apart
        have held := apart _ asked ((equals_iff _ _).mp same)
        rw [held] at asked
        exact asked
    · have replaced : q.attributes = a := by simpa [Option.filter, same] using assigned
      rw [replaced]
      refine iff_of_true asked fun other asks image => ?_
      rw [asks.unique asked] at image
      exact absurd ((equals_iff _ _).mpr image) same

/-- An update that returns is exact just when its currency comes with a price and is not
empty, and JSON tells the attributes that it asks for from those held. -/
theorem partial_update_iff (clk : Clock) (capitals : host.CapitalisesBasic)
    (returned : run host command clk p = .ok q) :
    UpdatesExactly host command p q ↔ PricedCurrency command ∧ ToldApart host command p := by
  obtain ⟨params, r, prepared, informed, step⟩ := run_steps clk capitals returned
  have only := step.only
  have attributes := attributes_iff prepared (only.attributes.trans informed.attributes)
  have currency := step.currency_iff
  rw [informed.price] at currency
  constructor
  · intro exact
    exact ⟨currency.mp ⟨exact.currency, (reported_iff command).mp exact.reported⟩,
      attributes.mp exact.attributes⟩
  · rintro ⟨priced, apart⟩
    obtain ⟨taken, reported⟩ := currency.mpr priced
    exact {
      name := by
        rw [only.name, informed.name]
        exact prepared.name
      description := by rw [only.description, informed.description, prepared.description]
      brand := by rw [only.brand, informed.brand, prepared.brand]
      imageUrl := by rw [only.imageUrl, informed.imageUrl, prepared.imageUrl]
      tilePerBox := by rw [only.tilePerBox, informed.tilePerBox, prepared.tilePerBox]
      price := by rw [step.amount, informed.price]
      currency := taken
      attributes := attributes.mpr apart
      reported := (reported_iff command).mpr reported }

end Updates

section Finite

variable {host : ProductHost} {command : UpdateProductCommand} {p : Product}

structure GivesFinite (command : UpdateProductCommand) : Prop where
  width : ∀ n ∈ command.size.bind UpdateSize.width, ∃ r, n = .fin r
  height : ∀ n ∈ command.size.bind UpdateSize.height, ∃ r, n = .fin r
  thickness : ∀ n ∈ command.size.bind UpdateSize.thickness, ∃ r, n = .fin r
  peiRating : ∀ n ∈ command.attributes.bind UpdateAttributes.peiRating, ∃ r, n = .fin r

theorem jsonNumber_fin (n : JsNumber) (r : ℚ)
    (h : ProductAttributes.jsonNumber (.fin r) = ProductAttributes.jsonNumber n) : n = .fin r := by
  cases n with
  | fin s => exact congrArg JsNumber.fin (Option.some.inj h).symm
  | _ => cases h

theorem given_number (given : Option JsNumber) (held : JsNumber)
    (finite : ∀ n ∈ given, ∃ r, n = .fin r)
    (image : ProductAttributes.jsonNumber (given.getD held) = ProductAttributes.jsonNumber held) :
    given.getD held = held := by
  cases given with
  | none => rfl
  | some n =>
    obtain ⟨r, rfl⟩ := finite n rfl
    exact (jsonNumber_fin held r image).symm

theorem given_optional (given held : Option JsNumber) (finite : ∀ n ∈ given, ∃ r, n = .fin r)
    (image : (given.or held).bind ProductAttributes.jsonNumber =
      held.bind ProductAttributes.jsonNumber) : given.or held = held := by
  cases given with
  | none => rfl
  | some n =>
    obtain ⟨r, rfl⟩ := finite n rfl
    cases held with
    | none => cases image
    | some m => exact congrArg some (jsonNumber_fin m r image).symm

theorem given_rating (given held : Option JsNumber) (finite : ∀ n ∈ given, ∃ r, n = .fin r)
    (image : (given.or held).map ProductAttributes.jsonNumber =
      held.map ProductAttributes.jsonNumber) : given.or held = held := by
  apply given_optional given held finite
  simpa only [Option.bind_map, Function.id_comp] using congrArg (Option.bind · id) image

/-- JSON tells finite numbers apart: what it takes to be held is held. -/
theorem toldApart_of_finite (finite : GivesFinite command) : ToldApart host command p := by
  intro asked asks image
  simp only [ProductAttributes.jsonImage, Prod.mk.injEq] at image
  obtain ⟨⟨width, height, thickness, unit⟩, ⟨grade, finishing, areas, slip, water, color⟩,
    pattern, outdoor, frost, rating⟩ := image
  rw [asks.width] at width
  rw [asks.height] at height
  rw [asks.thickness] at thickness
  rw [asks.peiRating] at rating
  apply asks.unique
  exact {
    width := (given_number _ _ finite.width width).symm
    height := (given_number _ _ finite.height height).symm
    thickness := (given_optional _ _ finite.thickness thickness).symm
    unit := unit ▸ asks.unit
    grade := grade ▸ asks.grade
    finishing := finishing ▸ asks.finishing
    applicationAreas := areas ▸ asks.applicationAreas
    antiSlipRating := slip ▸ asks.antiSlipRating
    waterAbsorption := water ▸ asks.waterAbsorption
    color := color ▸ asks.color
    pattern := pattern ▸ asks.pattern
    isOutdoor := outdoor ▸ asks.isOutdoor
    frostResistant := frost ▸ asks.frostResistant
    peiRating := (given_rating _ _ finite.peiRating rating).symm }

end Finite

section Samples

def nothing : UpdateProductCommand where
  name := none
  description := none
  brand := none
  imageUrl := none
  price := none
  currency := none
  tilePerBox := none
  size := none
  attributes := none

def resized : UpdateProductCommand :=
  { nothing with
    name := some " Slab "
    price := some (.fin 12)
    currency := some "USD"
    size := some ⟨none, some (.fin 20), none, some "inch"⟩ }

def resizedSample : Product :=
  { Product.sample with
    name := ⟨"Slab", by decide, by decide⟩
    price := ⟨12, "USD", by decide, by decide⟩
    attributes :=
      ⟨{ ProductAttributes.sample.attributes with
          size := ⟨⟨.fin 40, .fin 20, none, .inch⟩, by decide⟩ }, by decide⟩
    updatedAt := 7
    domainEvents := [.productPriceChanged UserId.sample.value "TILE-1" (.fin 10) (.fin 12) "USD"] }

theorem resized_exactly :
    run .sample resized (.still 7) .sample = .ok resizedSample ∧
      UpdatesExactly .sample resized .sample resizedSample := by
  have returned : run .sample resized (.still 7) .sample = .ok resizedSample := by
    decide +kernel
  have finite : GivesFinite resized := by
    refine ⟨nofun, ?_, nofun, nofun⟩
    rintro n ⟨⟩
    exact ⟨20, rfl⟩
  exact ⟨returned, (partial_update_iff (.still 7) (fun _ _ => rfl) returned).mpr
    ⟨fun _ => ⟨rfl, by decide⟩, toldApart_of_finite finite⟩⟩

/-- A currency alone is taken without a word: the update returns, reports nothing and keeps
the currency. -/
theorem currency_alone_lost :
    Product.sample.ensureCanBeModified = .ok () ∧
      PrismaProductRepository.load .sample .sample = .ok (some .sample) ∧
      run .sample { nothing with currency := some "USD" } (.still 7) .sample = .ok .sample ∧
      Product.sample.price.getCurrency = "IDR" ∧
      fieldsUpdated { nothing with currency := some "USD" } = [] ∧
      ¬ UpdatesExactly .sample { nothing with currency := some "USD" } .sample .sample := by
  refine ⟨by decide, by decide +kernel, by decide +kernel, rfl, rfl, fun exact => ?_⟩
  have currency := exact.currency
  exact absurd currency (by decide)

end Samples

end KeramikStore.PartialUpdate
