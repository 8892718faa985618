import KeramikStore.Shared.Money
import KeramikStore.Shared.UniqueIdentifier

/-!
# Value objects of a discount

The code, the value, the period and the status of a discount. The value is a
percentage or an amount, whatever other text its type is. What the host provides is
supplied: how it represents an exact result, its capital letters and its printing
of an amount.
-/

set_option autoImplicit false

namespace KeramikStore
open Library Library.Text

structure DiscountHost where
  represent : ℚ → JsNumber
  toUpperCase : String → String
  /-- `amount.toFixed(2)`. -/
  fixedText : ℚ → String

inductive DiscountErrorCode where
  | invalidDiscountId | invalidDiscountCode | invalidDiscountValue | invalidDiscountStatus
  | invalidDiscountPeriod | stateConflict | discountExpired | discountInactive
  | discountUsageLimitReached | discountNotApplicable | invalidStatusTransition | invalidMoney
deriving DecidableEq, Repr

structure DiscountError where
  code : DiscountErrorCode
  message : String
deriving DecidableEq, Repr

def DiscountError.ofMoney (e : InvalidMoneyError) : DiscountError := ⟨.invalidMoney, e.message⟩

def invalidDiscountCodeError (discountCode reason : String) : DiscountError :=
  ⟨.invalidDiscountCode, "Invalid discount code: " ++ discountCode ++ ". " ++ reason⟩

def invalidDiscountValueError (reason : String) : DiscountError :=
  ⟨.invalidDiscountValue, "Invalid discount value: " ++ reason⟩

def invalidDiscountPeriodError (reason : String) : DiscountError :=
  ⟨.invalidDiscountPeriod, "Invalid discount period: " ++ reason⟩

def discountStateConflictError (message : String) : DiscountError := ⟨.stateConflict, message⟩

abbrev DiscountId := UniqueIdentifier

structure DiscountCode where
  value : String
deriving DecidableEq, Repr

namespace DiscountCode

def regex : Regex :=
  .atLeast 1 (.cls fun c => between 'A' 'Z' c || between '0' '9' c || c == '_' || c == '-')

def validate (value : String) : Except DiscountError Unit :=
  raise [
    (units value == 0, invalidDiscountCodeError value "Discount code cannot be empty"),
    (100 < units value, invalidDiscountCodeError value
      "Discount code cannot exceed 100 characters"),
    (!regex.test value, invalidDiscountCodeError value
      "Discount code can only contain letters, numbers, hyphens, and underscores")]

def create (host : DiscountHost) (code : String) : Except DiscountError DiscountCode := do
  validate (host.toUpperCase (trim code))
  return ⟨host.toUpperCase (trim code)⟩

def getValue (c : DiscountCode) : String := c.value

end DiscountCode

def mathMin : JsNumber → JsNumber → JsNumber
  | .nan, _ | _, .nan => .nan
  | a, b => if a.lt b then a else b

structure DiscountValue where
  type : String
  value : ℚ
  maxDiscount : Option ℚ
  positive : 0 < value
  capped : ∀ cap ∈ maxDiscount, 0 < cap
deriving DecidableEq

namespace DiscountValue

structure Props where
  type : String
  value : JsNumber
  maxDiscount : Option JsNumber

def cap (host : DiscountHost) : Option JsNumber → Option JsNumber
  | none | some .nan => none
  | some x => if x = .ofNat 0 then none else some (Money.roundedBy host.represent x)

def create (host : DiscountHost) (props : Props) : Except DiscountError DiscountValue :=
  match Money.roundedBy host.represent props.value with
  | .fin value =>
    if positive : 0 < value then
      if props.type = "PERCENTAGE" ∧ 100 < value then
        .error (invalidDiscountValueError "Percentage discount cannot exceed 100%")
      else match cap host props.maxDiscount with
        | none => .ok ⟨props.type, value, none, positive, nofun⟩
        | some (.fin max) =>
          if capped : 0 < max then
            .ok ⟨props.type, value, some max, positive, fun _ h => Option.some.inj h ▸ capped⟩
          else .error (invalidDiscountValueError "Max discount must be greater than 0")
        | some _ => .error (invalidDiscountValueError "Max discount must be a valid number")
    else .error (invalidDiscountValueError "Value must be greater than 0")
  | _ => .error (invalidDiscountValueError "Value must be a valid number")

def percentageOf (host : DiscountHost) (purchaseAmount : JsNumber) (v : DiscountValue) :
    JsNumber :=
  let discount := (purchaseAmount.apply host.represent (· * v.value)).apply host.represent
    (· * (1 / 100))
  match v.maxDiscount with
  | none => discount
  | some max => if (JsNumber.fin max).lt discount then .fin max else discount

def calculateDiscount (host : DiscountHost) (purchaseAmount : JsNumber) (v : DiscountValue) :
    JsNumber :=
  let discount :=
    if v.type = "PERCENTAGE" then v.percentageOf host purchaseAmount else .fin v.value
  mathMin (Money.roundedBy host.represent discount) purchaseAmount

end DiscountValue

structure DiscountPeriod where
  startDate : Date
  endDate : Date
  ordered : startDate < endDate
deriving DecidableEq

namespace DiscountPeriod

def create (startDate endDate : Option Date) : Except DiscountError DiscountPeriod :=
  match startDate, endDate with
  | none, _ => .error (invalidDiscountPeriodError "Start date is invalid")
  | some _, none => .error (invalidDiscountPeriodError "End date is invalid")
  | some s, some e =>
    if ordered : s < e then .ok ⟨s, e, ordered⟩
    else .error (invalidDiscountPeriodError "End date must be after start date")

def isCurrentlyValid (now : Option Date) (p : DiscountPeriod) : Bool :=
  now.any fun t => p.startDate ≤ t && t ≤ p.endDate

def hasExpired (now : Option Date) (p : DiscountPeriod) : Bool := now.any fun t => p.endDate < t

end DiscountPeriod

inductive DiscountStatus where
  | active | inactive | expired
deriving DecidableEq, Repr

namespace DiscountStatus

def getValue : DiscountStatus → String
  | active => "ACTIVE"
  | inactive => "INACTIVE"
  | expired => "EXPIRED"

def validTransitions : DiscountStatus → List DiscountStatus
  | active => [inactive, expired]
  | inactive => [active]
  | expired => []

def transitionTo (s newStatus : DiscountStatus) : Except DiscountError DiscountStatus :=
  if s.validTransitions.contains newStatus then .ok newStatus
  else .error ⟨.invalidStatusTransition, "Invalid discount status transition from '" ++
    s.getValue ++ "' to '" ++ newStatus.getValue ++ "'"⟩

end DiscountStatus

inductive DiscountApplicability where
  | allProducts | specificProducts | minimumPurchase
deriving DecidableEq, Repr

end KeramikStore
