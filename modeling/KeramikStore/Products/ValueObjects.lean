import KeramikStore.Library.Binary64
import KeramikStore.Shared.Money
import KeramikStore.Shared.UniqueIdentifier

/-!
# Value objects of the catalogue

The article number, the name, the price, the status and the attributes of a tile.
Attributes come from a JSON column and are checked when they are built, so the
enumerations among them are compared by their texts. What the host provides is
supplied: its address parser, its capital letters and its printing of numbers.
-/

set_option autoImplicit false

namespace KeramikStore
open Library Library.Text

structure ProductHost where
  /-- `new URL(text)` returns. -/
  parsesUrl : String → Bool
  toUpperCase : String → String
  numberText : JsNumber → String

def ProductHost.KeepsCapitals (host : ProductHost) : Prop :=
  ∀ s : String, (∀ c ∈ s.toList, c.toNat < 128 ∧ between 'a' 'z' c = false) →
    host.toUpperCase s = s

def ProductHost.CapitalisesBasic (host : ProductHost) : Prop :=
  ∀ s : String, (∀ c ∈ s.toList, c.toNat < 128) →
    host.toUpperCase s = String.ofList (s.toList.map Char.toUpper)

inductive ProductErrorCode where
  | invalidProductId | invalidSKU | invalidPrice | invalidName | invalidAttributes | invalidStatus
  | stateConflict | invalidStatusTransition | productIsDiscontinued | productIsDeleted
  | invalidProductSize | invalidDimensionUnit
deriving DecidableEq, Repr

structure ProductError where
  code : ProductErrorCode
  message : String
deriving DecidableEq, Repr

def invalidProductIdError (productId : String) : ProductError :=
  ⟨.invalidProductId, "Invalid product ID: " ++ productId⟩

def invalidSKUError (sku reason : String) : ProductError :=
  ⟨.invalidSKU, "Invalid SKU: " ++ sku ++ ". " ++ reason⟩

def invalidProductNameError (name reason : String) : ProductError :=
  ⟨.invalidName, "Invalid product name: " ++ name ++ ". " ++ reason⟩

def invalidPriceError (host : ProductHost) (price : JsNumber) (reason : String) : ProductError :=
  ⟨.invalidPrice, "Invalid price: " ++ host.numberText price ++ ". " ++ reason⟩

def invalidProductStatusError (status : String) : ProductError :=
  ⟨.invalidStatus, "Invalid product status: " ++ status⟩

def invalidStatusTransitionError (currentStatus newStatus : String) : ProductError :=
  ⟨.invalidStatusTransition,
    "Invalid status transition from " ++ currentStatus ++ " to " ++ newStatus⟩

def invalidProductSizeError (message : String) : ProductError :=
  ⟨.invalidProductSize, "Invalid product size: " ++ message⟩

def invalidDimensionUnitError (unit message : String) : ProductError :=
  ⟨.invalidDimensionUnit, "Invalid dimension unit: " ++ unit ++ ". " ++ message⟩

def invalidProductAttributesError (reason : String) : ProductError :=
  ⟨.invalidAttributes, "Invalid product attributes: " ++ reason⟩

def productStateConflictError (message : String) : ProductError := ⟨.stateConflict, message⟩

def productIsDiscontinuedError (productId : String) : ProductError :=
  ⟨.productIsDiscontinued, "Product is discontinued and cannot be modified: " ++ productId⟩

def productIsDeletedError (productId : String) : ProductError :=
  ⟨.productIsDeleted, "Product is deleted and cannot be modified: " ++ productId⟩

abbrev ProductId := UniqueIdentifier

namespace SKU

def regex : Regex :=
  .atLeast 1 (.cls fun c => between 'A' 'Z' c || between '0' '9' c || c == '_' || c == '-')

def sanitize (host : ProductHost) (sku : String) : String := host.toUpperCase (trim sku)

def validate (value : String) : Except ProductError Unit :=
  raise [
    (units value == 0, invalidSKUError value "SKU cannot be empty"),
    (100 < units value, invalidSKUError value "SKU cannot exceed 100 characters"),
    (!regex.test value, invalidSKUError value
      "SKU can only contain alphanumeric characters, hyphens, and underscores")]

end SKU

structure SKU where
  value : String
  valid : SKU.validate value = .ok ()
deriving DecidableEq

namespace SKU

def create (host : ProductHost) (sku : String) : Except ProductError SKU :=
  match h : validate (sanitize host sku) with
  | .ok () => .ok ⟨sanitize host sku, h⟩
  | .error e => .error e

def getValue (s : SKU) : String := s.value

theorem create_ok_iff (host : ProductHost) (raw : String) (s : SKU) :
    create host raw = .ok s ↔ s.value = sanitize host raw := by
  unfold create
  split
  · rw [Except.ok.injEq, SKU.mk.injEq, eq_comm]
  · next e h =>
    constructor
    · exact nofun
    · intro hs
      have valid := s.valid
      rw [hs, h] at valid
      cases valid

theorem getValue_ranges (s : SKU) (c : Char) (mem : c ∈ s.value.toList) :
    (65 ≤ c.toNat ∧ c.toNat ≤ 90) ∨ (48 ≤ c.toNat ∧ c.toNat ≤ 57) ∨
      c.toNat = 95 ∨ c.toNat = 45 := by
  have checks := (raise_ok_iff _).mp s.valid
  simp only [List.mem_cons, forall_eq_or_imp] at checks
  obtain ⟨-, -, unmatched, -⟩ := checks
  have matched : regex.test s.value = true := by simpa using unmatched
  have plain := Regex.test_atLeast_one _ s.value matched c mem
  simp only [between, Bool.or_eq_true, Bool.and_eq_true, decide_eq_true_eq, beq_iff_eq] at plain
  rcases plain with ((capital | digit) | rfl) | rfl
  · exact .inl capital
  · exact .inr (.inl digit)
  · exact .inr (.inr (.inl rfl))
  · exact .inr (.inr (.inr rfl))

theorem toUpperCase_getValue (host : ProductHost) (keeps : host.KeepsCapitals) (s : SKU) :
    host.toUpperCase s.getValue = s.getValue := by
  apply keeps
  intro c mem
  have ranges := getValue_ranges s c mem
  simp only [between, Bool.and_eq_false_imp, decide_eq_true_eq, decide_eq_false_iff_not]
  change c.toNat < 128 ∧ (97 ≤ c.toNat → ¬ c.toNat ≤ 122)
  omega

theorem trim_getValue (s : SKU) : trim s.getValue = s.getValue := by
  have unspaced : ∀ c ∈ s.value.toList, isSpace c = false := by
    intro c mem
    have ranges := getValue_ranges s c mem
    simp only [isSpace, Bool.or_eq_false_iff, Bool.and_eq_false_imp, decide_eq_true_eq,
      decide_eq_false_iff_not, beq_eq_false_iff_ne, ne_eq]
    omega
  rw [trim, getValue, trimList_eq_self _ unspaced, String.ofList_toList]

/-- An article number has none of the characters that `sanitize` changes. -/
theorem sanitize_getValue (host : ProductHost) (keeps : host.KeepsCapitals) (s : SKU) :
    sanitize host s.getValue = s.getValue := by
  rw [sanitize, trim_getValue, toUpperCase_getValue host keeps]

theorem getValue_ne_empty (s : SKU) : s.getValue ≠ "" := by
  intro empty
  have checks := (raise_ok_iff _).mp s.valid
  simp only [List.mem_cons, forall_eq_or_imp] at checks
  obtain ⟨filled, -⟩ := checks
  change s.value = "" at empty
  rw [empty] at filled
  cases filled

theorem create_getValue (host : ProductHost) (keeps : host.KeepsCapitals) (s : SKU) :
    create host s.getValue = .ok s :=
  (create_ok_iff host s.getValue s).mpr (sanitize_getValue host keeps s).symm

end SKU

namespace ProductName

def validate (value : String) : Except ProductError Unit :=
  raise [
    (units value == 0, invalidProductNameError value "Product name cannot be empty"),
    (500 < units value, invalidProductNameError value
      "Product name cannot exceed 500 characters")]

end ProductName

structure ProductName where
  value : String
  trimmed : trim value = value
  valid : ProductName.validate value = .ok ()
deriving DecidableEq

namespace ProductName

def create (name : String) : Except ProductError ProductName :=
  match h : validate (trim name) with
  | .ok () => .ok ⟨trim name, trim_trim name, h⟩
  | .error e => .error e

def getValue (n : ProductName) : String := n.value
def equals (n other : ProductName) : Bool := n.value == other.value

theorem create_getValue (n : ProductName) : create n.getValue = .ok n := by
  have kept : trim n.getValue = n.value := n.trimmed
  unfold create
  split
  · congr
  next e h =>
    rw [kept, n.valid] at h
    cases h

def sample : ProductName := ⟨"Tile", by decide, by decide⟩

end ProductName

@[ext] structure Price where
  amount : ℚ
  currency : String
  nonneg : 0 ≤ amount
  valid : currency ∈ Money.validCurrencies

namespace Price

instance : DecidableEq Price := fun a b =>
  decidable_of_iff (a.amount = b.amount ∧ a.currency = b.currency) Price.ext_iff.symm

def create (host : ProductHost) (amount : JsNumber) (currency : String) :
    Except ProductError Price :=
  let rounded := Money.rounded amount
  match rounded with
  | .fin q =>
    if nonneg : 0 ≤ q then
      if valid : currency ∈ Money.validCurrencies then .ok ⟨q, currency, nonneg, valid⟩
      else .error (invalidPriceError host rounded ("Invalid currency code: " ++ currency))
    else .error (invalidPriceError host rounded "Price cannot be negative")
  | .negInf => .error (invalidPriceError host rounded "Price cannot be negative")
  | _ => .error (invalidPriceError host rounded "Price must be a valid number")

def getAmount (p : Price) : JsNumber := .fin p.amount
def getCurrency (p : Price) : String := p.currency
def equals (p other : Price) : Bool := p.amount == other.amount && p.currency == other.currency

theorem eq_of_equals (p other : Price) (h : p.equals other = true) : p = other := by
  simp only [equals, Bool.and_eq_true, beq_iff_eq] at h
  exact Price.ext h.1 h.2

theorem create_ok (host : ProductHost) (raw : JsNumber) (currency : String) (p : Price)
    (h : create host raw currency = .ok p) :
    p.getAmount = Money.rounded raw ∧ p.getCurrency = currency := by
  unfold create at h
  dsimp only at h
  split at h
  next q rounded =>
    split_ifs at h
    rw [rounded, ← Except.ok.inj h]
    exact ⟨rfl, rfl⟩
  all_goals cases h

/-- From the amount of a price a price can be made again. -/
theorem create_again (host : ProductHost) (raw : JsNumber) (currency : String) (p : Price)
    (h : create host raw currency = .ok p) :
    ∃ again, create host p.getAmount p.getCurrency = .ok again := by
  have made : Money.rounded raw = .fin p.amount := (create_ok host raw currency p h).1.symm
  obtain ⟨q, nonneg, rounded⟩ := Money.rounded_again raw p.amount made p.nonneg
  refine ⟨⟨q, p.currency, nonneg, p.valid⟩, ?_⟩
  unfold create getAmount
  rw [rounded]
  exact (dif_pos nonneg).trans (dif_pos p.valid)

/-- A price is made again from its amount just when rounding keeps the amount. -/
theorem create_getAmount_iff (host : ProductHost) (p : Price) :
    create host p.getAmount p.getCurrency = .ok p ↔
      Money.rounded p.getAmount = p.getAmount := by
  unfold create
  dsimp only
  constructor
  · intro h
    split at h
    next q rounded =>
      split_ifs at h
      rw [rounded, ← Except.ok.inj h]
      rfl
    all_goals cases h
  · intro stable
    rw [stable]
    exact (dif_pos p.nonneg).trans (dif_pos p.valid)

end Price

inductive ProductStatus where
  | active | inactive | discontinued | outOfStock | deleted
deriving DecidableEq, Repr

namespace ProductStatus

def getValue : ProductStatus → String
  | active => "ACTIVE"
  | inactive => "INACTIVE"
  | discontinued => "DISCONTINUED"
  | outOfStock => "OUT_OF_STOCK"
  | deleted => "DELETED"

def all : List ProductStatus := [active, inactive, discontinued, outOfStock, deleted]

def create (value : String) : Except ProductError ProductStatus :=
  match all.find? fun s => s.getValue == value with
  | some s => .ok s
  | none => .error (invalidProductStatusError value)

def isActive (s : ProductStatus) : Bool := s == active
def isInactive (s : ProductStatus) : Bool := s == inactive
def isDiscontinued (s : ProductStatus) : Bool := s == discontinued
def isOutOfStock (s : ProductStatus) : Bool := s == outOfStock
def isDeleted (s : ProductStatus) : Bool := s == deleted

def canTransitionTo (s newStatus : ProductStatus) : Bool :=
  if s == newStatus then true
  else if s.isDiscontinued then false
  else if s.isOutOfStock then newStatus.isActive || newStatus.isDiscontinued
  else if s.isActive then true
  else if s.isInactive then newStatus.isActive || newStatus.isDiscontinued
  else false

theorem all_complete (s : ProductStatus) : s ∈ all := by
  cases s <;> decide

theorem getValue_injective (s t : ProductStatus) (h : s.getValue = t.getValue) : s = t := by
  cases s <;> cases t <;> first | rfl | exact absurd h (by decide)

theorem create_ok_iff (value : String) (s : ProductStatus) :
    create value = .ok s ↔ s.getValue = value := by
  unfold create
  cases h : all.find? fun s => s.getValue == value with
  | some t =>
    have ht : t.getValue = value := by simpa using List.find?_some h
    rw [Except.ok.injEq]
    constructor
    · rintro rfl
      exact ht
    · intro hs
      exact getValue_injective t s (ht.trans hs.symm)
  | none =>
    constructor
    · exact nofun
    · intro hs
      have none_of_all := List.find?_eq_none.mp h s (all_complete s)
      exact absurd hs (by simpa using none_of_all)

end ProductStatus

inductive DimensionUnit where
  | millimeter | centimeter | meter | inch | foot
deriving DecidableEq, Repr

namespace DimensionUnit

def all : List DimensionUnit := [millimeter, centimeter, meter, inch, foot]

def getValue : DimensionUnit → String
  | millimeter => "millimeter"
  | centimeter => "centimeter"
  | meter => "meter"
  | inch => "inch"
  | foot => "foot"

def key : DimensionUnit → String
  | millimeter => "MILLIMETER"
  | centimeter => "CENTIMETER"
  | meter => "METER"
  | inch => "INCH"
  | foot => "FOOT"

def create (unit : String) : Except ProductError DimensionUnit :=
  match all.find? fun u => u.getValue == unit with
  | some u => .ok u
  | none => .error (invalidDimensionUnitError unit ("Invalid dimension unit: " ++ unit))

theorem create_getValue (u : DimensionUnit) : create u.getValue = .ok u := by
  cases u <;> rfl

def fromString (host : ProductHost) (unitStr : String) : Except ProductError DimensionUnit :=
  match all.find? fun u => u.key == host.toUpperCase (trim unitStr) with
  | some u => .ok u
  | none =>
    .error (invalidDimensionUnitError unitStr ("Invalid dimension unit string: " ++ unitStr))

theorem fromString_getValue (host : ProductHost) (capitals : host.CapitalisesBasic)
    (u : DimensionUnit) : fromString host u.getValue = .ok u := by
  have capital : host.toUpperCase (trim u.getValue) = u.key := by
    have trimmed : trim u.getValue = u.getValue := by cases u <;> decide
    have basic : (u.getValue.toList.all fun c => decide (c.toNat < 128)) = true := by
      cases u <;> decide
    rw [trimmed, capitals u.getValue fun c mem => of_decide_eq_true (List.all_eq_true.mp basic c mem)]
    cases u <;> decide
  unfold fromString
  rw [capital]
  cases u <;> rfl

end DimensionUnit

structure ProductSizeProps where
  width : JsNumber
  height : JsNumber
  thickness : Option JsNumber
  dimensionUnit : DimensionUnit
deriving DecidableEq

namespace ProductSizeProps

/-- A comparison with a value that is not a number lets it through. -/
def validate (p : ProductSizeProps) : Except ProductError Unit :=
  raise [
    (p.width.le (.fin 0), invalidProductSizeError "Width must be greater than 0"),
    (p.height.le (.fin 0), invalidProductSizeError "Height must be greater than 0"),
    (p.thickness.any (·.le (.fin 0)),
      invalidProductSizeError "Thickness must be greater than 0 if provided")]

end ProductSizeProps

structure ProductSize extends ProductSizeProps where
  valid : toProductSizeProps.validate = .ok ()
deriving DecidableEq

def ProductSize.create (p : ProductSizeProps) : Except ProductError ProductSize :=
  match h : p.validate with
  | .ok () => .ok ⟨p, h⟩
  | .error e => .error e

theorem ProductSize.create_self (s : ProductSize) : create s.toProductSizeProps = .ok s := by
  unfold create
  split
  · rfl
  next e h =>
    rw [s.valid] at h
    cases h

structure TileAttributes where
  size : ProductSize
  grade : Option String
  finishing : Option String
  applicationAreas : Option (List String)
  antiSlipRating : Option String
  waterAbsorption : Option String
  color : Option String
  pattern : Option String
  isOutdoor : Option Bool
  frostResistant : Option Bool
  peiRating : Option JsNumber
deriving DecidableEq

namespace ProductAttributes

def grades : List String := ["PREMIUM", "GRADE_A", "GRADE_B", "GRADE_C"]

def finishingTypes : List String :=
  ["GLOSSY", "MATTE", "POLISHED", "RUSTIC", "TEXTURED", "SEMI_POLISHED", "NATURAL"]

def applicationAreas : List String :=
  ["FLOOR", "WALL", "OUTDOOR", "BATHROOM", "KITCHEN", "COMMERCIAL", "RESIDENTIAL", "POOL",
    "FACADE"]

def validRatings : List String := ["R9", "R10", "R11", "R12", "R13"]

def validate (a : TileAttributes) : Except ProductError Unit :=
  raise <|
    [(a.antiSlipRating.any fun r => r != "" && !validRatings.contains r,
        invalidProductAttributesError
          ("Invalid anti-slip rating. Must be one of: " ++ ", ".intercalate validRatings)),
      (a.peiRating.any fun r => r.lt (.fin 1) || JsNumber.lt (.fin 5) r,
        invalidProductAttributesError "PEI rating must be between 1 and 5"),
      (a.grade.any fun g => !grades.contains g,
        invalidProductAttributesError ("Invalid grade: " ++ a.grade.getD "")),
      (a.finishing.any fun f => !finishingTypes.contains f,
        invalidProductAttributesError ("Invalid finishing type: " ++ a.finishing.getD ""))] ++
    (a.applicationAreas.getD []).map fun area => (!applicationAreas.contains area,
      invalidProductAttributesError ("Invalid application area: " ++ area))

end ProductAttributes

structure ProductAttributes where
  attributes : TileAttributes
  valid : ProductAttributes.validate attributes = .ok ()
deriving DecidableEq

namespace ProductAttributes

def create (a : TileAttributes) : Except ProductError ProductAttributes :=
  match h : validate a with
  | .ok () => .ok ⟨a, h⟩
  | .error e => .error e

theorem create_self (a : ProductAttributes) : create a.attributes = .ok a := by
  unfold create
  split
  · rfl
  next e h =>
    rw [a.valid] at h
    cases h

theorem create_ok (a : TileAttributes) (created : ProductAttributes)
    (h : create a = .ok created) : created.attributes = a := by
  unfold create at h
  split at h
  · rw [← Except.ok.inj h]
  · cases h

def getAttributes (a : ProductAttributes) : TileAttributes := a.attributes
def getSize (a : ProductAttributes) : ProductSize := a.attributes.size

def jsonNumber : JsNumber → Option ℚ
  | .fin q => some q
  | _ => none

/-- What the JSON text of the attributes depends on, the order of its keys apart: attributes
that are spelled in another order count as the same here. An absent field is left out. -/
def jsonImage (a : TileAttributes) :=
  ((jsonNumber a.size.width, jsonNumber a.size.height, a.size.thickness.bind jsonNumber,
      a.size.dimensionUnit),
    (a.grade, a.finishing, a.applicationAreas, a.antiSlipRating, a.waterAbsorption, a.color),
    (a.pattern, a.isOutdoor, a.frostResistant, a.peiRating.map jsonNumber))

def equals (a other : ProductAttributes) : Bool :=
  jsonImage a.attributes == jsonImage other.attributes

end ProductAttributes

/-! Sample values for concrete runs. -/

def ProductHost.sample : ProductHost where
  parsesUrl _ := true
  toUpperCase s := String.ofList (s.toList.map Char.toUpper)
  numberText _ := ""

theorem toUpper_eq_self (c : Char) (h : between 'a' 'z' c = false) : c.toUpper = c := by
  apply dif_neg
  rintro ⟨low, high⟩
  have small : between 'a' 'z' c = true :=
    Bool.and_eq_true_iff.mpr ⟨decide_eq_true low, decide_eq_true high⟩
  rw [h] at small
  cases small

theorem ProductHost.sample_keeps : ProductHost.sample.KeepsCapitals := by
  intro s basic
  have kept : s.toList.map Char.toUpper = s.toList := by
    calc s.toList.map Char.toUpper = s.toList.map id :=
          List.map_congr_left fun c mem => toUpper_eq_self c (basic c mem).2
      _ = s.toList := List.map_id _
  change String.ofList (s.toList.map Char.toUpper) = s
  rw [kept, String.ofList_toList]

def ProductAttributes.sample : ProductAttributes where
  attributes :=
    { size := ⟨⟨.fin 40, .fin 40, none, .centimeter⟩, by decide⟩
      grade := none
      finishing := none
      applicationAreas := none
      antiSlipRating := none
      waterAbsorption := none
      color := none
      pattern := none
      isOutdoor := none
      frostResistant := none
      peiRating := none }
  valid := by decide

end KeramikStore
