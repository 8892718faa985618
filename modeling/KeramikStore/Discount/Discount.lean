import KeramikStore.Discount.ValueObjects

/-!
# The discount aggregate

A discount counts its uses. An application is checked before anything is assigned.
An update assigns field after field and may throw between them, so each of its edits
is a step of its own.
-/

set_option autoImplicit false

namespace KeramikStore
open Library

inductive DiscountEvent where
  | discountCreated (discountId code name type : String) (value : JsNumber)
      (applicability : DiscountApplicability) (startDate endDate : Date) (status : DiscountStatus)
  | discountUpdated (discountId code : String) (changes : List String) (updatedAt : Date)
  | discountActivated (discountId code : String) (previousStatus : DiscountStatus)
  | discountDeactivated (discountId code : String) (previousStatus : DiscountStatus)
      (reason : Option String)
  | discountExpired (discountId code : String) (endDate : Date)
  | discountApplied (discountId code orderId : String) (discountAmount : JsNumber)
      (currency : String) (usageCount : ℕ)
deriving DecidableEq

structure Discount where
  id : DiscountId
  code : DiscountCode
  name : String
  description : Option String
  discountValue : DiscountValue
  applicability : DiscountApplicability
  minPurchase : Option Money
  period : DiscountPeriod
  status : DiscountStatus
  usageLimit : Option JsNumber
  usageCount : ℕ
  perUserLimit : Option JsNumber
  productIds : List String
  createdAt : Date
  updatedAt : Date
  domainEvents : List DiscountEvent
deriving DecidableEq

structure CreateDiscountProps where
  code : String
  name : String
  description : Option String
  type : String
  value : JsNumber
  maxDiscount : Option JsNumber
  applicability : Option DiscountApplicability
  minPurchase : Option JsNumber
  currency : Option String
  startDate : Option Date
  endDate : Option Date
  usageLimit : Option JsNumber
  perUserLimit : Option JsNumber
  productIds : Option (List String)

/-- The input of an update. The outer option of a field that may be null, or a date
that may not be valid, is whether the field is given. -/
structure UpdateDiscountInput where
  name : Option String
  description : Option (Option String)
  type : Option String
  value : Option JsNumber
  maxDiscount : Option (Option JsNumber)
  applicability : Option DiscountApplicability
  minPurchase : Option (Option JsNumber)
  currency : Option String
  startDate : Option (Option Date)
  endDate : Option (Option Date)
  usageLimit : Option (Option JsNumber)
  perUserLimit : Option (Option JsNumber)
  productIds : Option (List String)

namespace Discount

def minimum (host : DiscountHost) (minPurchase : Option JsNumber) (currency : String) :
    Except DiscountError (Option Money) :=
  match minPurchase with
  | none => .ok none
  | some amount =>
    match Money.createBy host.represent amount currency with
    | .ok m => .ok (some m)
    | .error e => .error (.ofMoney e)

def create (host : DiscountHost) (generated : DiscountId) (input : CreateDiscountProps)
    (clk : Clock) : Except DiscountError Discount := do
  let code ← DiscountCode.create host input.code
  let discountValue ← DiscountValue.create host ⟨input.type, input.value, input.maxDiscount⟩
  let period ← DiscountPeriod.create input.startDate input.endDate
  let applicability := input.applicability.getD .allProducts
  let minPurchase ← minimum host input.minPurchase (input.currency.getD "IDR")
  return { id := generated
           code := code
           name := input.name
           description := input.description
           discountValue := discountValue
           applicability := applicability
           minPurchase := minPurchase
           period := period
           status := .active
           usageLimit := input.usageLimit
           usageCount := 0
           perUserLimit := input.perUserLimit
           productIds := input.productIds.getD []
           createdAt := clk.read 0
           updatedAt := clk.read 1
           domainEvents := [.discountCreated generated.getValue code.getValue input.name
             discountValue.type (.fin discountValue.value) applicability period.startDate
             period.endDate .active] }

def isUsageLimitReached (d : Discount) : Bool :=
  d.usageLimit.any fun limit => (JsNumber.ofNat d.usageCount).ge limit

def canBeApplied (now : Option Date) (d : Discount) : Bool :=
  decide (d.status = .active) && d.period.isCurrentlyValid now && !d.isUsageLimitReached

def meetsPurchaseMinimum (purchaseAmount : Money) (d : Discount) :
    Except InvalidMoneyError Bool := do
  match d.minPurchase with
  | none => return true
  | some min => return (← purchaseAmount.isGreaterThanOrEqual min) || purchaseAmount.equals min

def calculateDiscount (host : DiscountHost) (purchaseAmount : JsNumber) (d : Discount) :
    JsNumber :=
  d.discountValue.calculateDiscount host purchaseAmount

abbrev Call := Outcome DiscountError Discount

def applyChange (now : Date) (d : Discount) : Discount := { d with updatedAt := now }

def addDomainEvent (e : DiscountEvent) (d : Discount) : Discount :=
  { d with domainEvents := d.domainEvents ++ [e] }

/-- The common shape of the commands that go by the table of the status. -/
def transition (newStatus : DiscountStatus) (announcement : DiscountEvent) (now : Date)
    (d : Discount) : Call :=
  match d.status.transitionTo newStatus with
  | .error e => .threw e d
  | .ok status => .done ((applyChange now { d with status := status }).addDomainEvent announcement)

def activate (now : Date) (d : Discount) : Call :=
  d.transition .active (.discountActivated d.id.getValue d.code.getValue d.status) now

def deactivate (reason : Option String) (now : Date) (d : Discount) : Call :=
  d.transition .inactive (.discountDeactivated d.id.getValue d.code.getValue d.status reason) now

def markAsExpired (now : Date) (d : Discount) : Call :=
  if d.status = .expired then .done d
  else d.transition .expired
    (.discountExpired d.id.getValue d.code.getValue d.period.endDate) now

def checkMinimum (host : DiscountHost) (purchaseAmount : JsNumber) (currency : String)
    (d : Discount) : Except DiscountError Unit :=
  match d.minPurchase with
  | none => .ok ()
  | some min => do
    let amount ← (Money.createBy host.represent purchaseAmount currency).mapError .ofMoney
    let meets ← (d.meetsPurchaseMinimum amount).mapError .ofMoney
    if !meets then
      throw ⟨.discountNotApplicable, "Discount not applicable: Minimum purchase of " ++
        min.currency ++ " " ++ host.fixedText min.amount ++ " required"⟩

def checkApplicable (host : DiscountHost) (purchaseAmount : JsNumber) (currency : String)
    (now : Option Date) (d : Discount) : Except DiscountError Unit :=
  if d.status ≠ .active then
    .error ⟨.discountInactive, "Discount is inactive: " ++ d.code.getValue⟩
  else if !d.period.isCurrentlyValid now then
    if d.period.hasExpired now then
      .error ⟨.discountExpired, "Discount has expired: " ++ d.code.getValue⟩
    else .error (discountStateConflictError
      ("Discount \"" ++ d.code.getValue ++ "\" has not started yet"))
  else if d.isUsageLimitReached then
    .error ⟨.discountUsageLimitReached, "Discount usage limit reached: " ++ d.code.getValue⟩
  else d.checkMinimum host purchaseAmount currency

/-- The amount of the discount, and the discount with one more use. The argument `now`
is the time that the caller gives, `changed` the time of the change. -/
def applyToOrder (host : DiscountHost) (orderId : String) (purchaseAmount : JsNumber)
    (currency : String) (now : Option Date) (changed : Date) (d : Discount) :
    Except DiscountError (JsNumber × Discount) := do
  d.checkApplicable host purchaseAmount currency now
  let discountAmount := d.calculateDiscount host purchaseAmount
  let used := applyChange changed { d with usageCount := d.usageCount + 1 }
  return (discountAmount, used.addDomainEvent
    (.discountApplied d.id.getValue d.code.getValue orderId discountAmount currency
      used.usageCount))

def reverseUsage (now : Date) (d : Discount) : Call :=
  if d.usageCount ≤ 0 then
    .threw (discountStateConflictError "Cannot reverse usage: usage count is already 0") d
  else .done (applyChange now { d with usageCount := d.usageCount - 1 })

structure Editing where
  discount : Discount
  changes : List String

def edit (given : Bool) (field : String) (assigned : Except DiscountError Discount)
    (e : Editing) : Outcome DiscountError Editing :=
  if given then
    match assigned with
    | .error error => .threw error e
    | .ok d => .done ⟨d, e.changes ++ [field]⟩
  else .done e

section UpdateInfo

variable (host : DiscountHost) (input : UpdateDiscountInput)

def editName (e : Editing) : Outcome DiscountError Editing :=
  edit (input.name.any (· ≠ e.discount.name)) "name"
    (.ok { e.discount with name := input.name.getD e.discount.name }) e

def editDescription (e : Editing) : Outcome DiscountError Editing :=
  edit (input.description.any (· ≠ e.discount.description)) "description"
    (.ok { e.discount with description := input.description.getD e.discount.description }) e

def editDiscountValue (e : Editing) : Outcome DiscountError Editing :=
  let old := e.discount.discountValue
  let props : DiscountValue.Props :=
    { type := input.type.getD old.type
      value := input.value.getD (.fin old.value)
      maxDiscount := input.maxDiscount.getD (old.maxDiscount.map .fin) }
  edit (input.type.isSome || input.value.isSome || input.maxDiscount.isSome) "discountValue"
    ((DiscountValue.create host props).map fun v => { e.discount with discountValue := v }) e

def editApplicability (e : Editing) : Outcome DiscountError Editing :=
  edit (input.applicability.any (· ≠ e.discount.applicability)) "applicability"
    (.ok { e.discount with applicability := input.applicability.getD e.discount.applicability }) e

def editMinPurchase (e : Editing) : Outcome DiscountError Editing :=
  edit input.minPurchase.isSome "minPurchase"
    ((minimum host (input.minPurchase.getD none) (input.currency.getD "IDR")).map
      fun m => { e.discount with minPurchase := m }) e

def editPeriod (e : Editing) : Outcome DiscountError Editing :=
  edit (input.startDate.isSome || input.endDate.isSome) "period"
    ((DiscountPeriod.create (input.startDate.getD (some e.discount.period.startDate))
      (input.endDate.getD (some e.discount.period.endDate))).map
        fun p => { e.discount with period := p }) e

def editUsageLimit (e : Editing) : Outcome DiscountError Editing :=
  edit input.usageLimit.isSome "usageLimit"
    (.ok { e.discount with usageLimit := input.usageLimit.getD e.discount.usageLimit }) e

def editPerUserLimit (e : Editing) : Outcome DiscountError Editing :=
  edit input.perUserLimit.isSome "perUserLimit"
    (.ok { e.discount with perUserLimit := input.perUserLimit.getD e.discount.perUserLimit }) e

def editProductIds (e : Editing) : Outcome DiscountError Editing :=
  edit input.productIds.isSome "productIds"
    (.ok { e.discount with productIds := input.productIds.getD e.discount.productIds }) e

def edits : List (Editing → Outcome DiscountError Editing) :=
  [editName input, editDescription input, editDiscountValue host input, editApplicability input,
    editMinPurchase host input, editPeriod input, editUsageLimit input, editPerUserLimit input,
    editProductIds input]

def runEdits : List (Editing → Outcome DiscountError Editing) → Editing →
    Outcome DiscountError Editing
  | [], e => .done e
  | f :: rest, e => (f e).andThen (runEdits rest)

def finish (now : Date) (e : Editing) : Discount :=
  if e.changes.isEmpty then e.discount
  else (applyChange now e.discount).addDomainEvent
    (.discountUpdated e.discount.id.getValue e.discount.code.getValue e.changes now)

def updateInfo (now : Date) (d : Discount) : Call :=
  if d.status = .expired then
    .threw (discountStateConflictError "Cannot update an expired discount") d
  else
    let edited := runEdits (edits host input) ⟨d, []⟩
    match edited.thrown with
    | some error => .threw error edited.state.discount
    | none => .done (finish now edited.state)

end UpdateInfo

end Discount

inductive DiscountCommand where
  | activate
  | deactivate (reason : Option String)
  | markAsExpired
  | applyToOrder (orderId : String) (purchaseAmount : JsNumber) (currency : String)
      (now : Option Date)
  | reverseUsage
  | updateInfo (input : UpdateDiscountInput)

def DiscountCommand.exec (host : DiscountHost) (now : Date) :
    DiscountCommand → Discount → Discount.Call
  | activate => Discount.activate now
  | deactivate reason => Discount.deactivate reason now
  | markAsExpired => Discount.markAsExpired now
  | applyToOrder orderId purchaseAmount currency time => fun d =>
    match d.applyToOrder host orderId purchaseAmount currency time now with
    | .error e => .threw e d
    | .ok (_, used) => .done used
  | reverseUsage => Discount.reverseUsage now
  | updateInfo input => Discount.updateInfo host input now

end KeramikStore
