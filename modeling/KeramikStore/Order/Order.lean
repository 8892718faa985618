import KeramikStore.Shared.Money
import KeramikStore.Shared.UniqueIdentifier

/-!
# The order aggregate

An order stores its amounts and its total. The commands that change the status go
by the table of the status, all but the cancellation, which has a check of its own.
The commands that change the discount assign it before the amounts are checked. The
function by which the host represents an exact result is supplied.
-/

set_option autoImplicit false

namespace KeramikStore
open Library Library.Text

inductive OrderErrorCode where
  | invalidOrderId | stateConflict | invalidStatusTransition | orderIsEmpty
  | orderCannotBeCancelled | invalidMoney
  /-- The plain `Error` of the order item. -/
  | error
deriving DecidableEq, Repr

structure OrderError where
  code : OrderErrorCode
  message : String
deriving DecidableEq, Repr

def OrderError.ofMoney (e : InvalidMoneyError) : OrderError := ⟨.invalidMoney, e.message⟩

def orderStateConflict (message : String) : OrderError := ⟨.stateConflict, message⟩

inductive OrderStatus where
  | draft | pendingPayment | paid | fulfillment | completed | cancelled
deriving DecidableEq, Repr

namespace OrderStatus

def getValue : OrderStatus → String
  | draft => "DRAFT"
  | pendingPayment => "PENDING_PAYMENT"
  | paid => "PAID"
  | fulfillment => "FULFILLMENT"
  | completed => "COMPLETED"
  | cancelled => "CANCELLED"

def validTransitions : OrderStatus → List OrderStatus
  | draft => [pendingPayment]
  | pendingPayment => [paid, cancelled]
  | paid => [fulfillment, cancelled]
  | fulfillment => [completed]
  | completed | cancelled => []

def canTransitionTo (s newStatus : OrderStatus) : Bool := s.validTransitions.contains newStatus

def isTerminal (s : OrderStatus) : Bool := s == completed || s == cancelled

/-- The terminal statuses are those without a transition. -/
theorem isTerminal_eq (s : OrderStatus) : s.isTerminal = s.validTransitions.isEmpty := by
  cases s <;> rfl

end OrderStatus

abbrev OrderId := UniqueIdentifier
abbrev OrderItemId := UniqueIdentifier

structure OrderNumber where
  value : String
deriving DecidableEq, Repr

def OrderNumber.getValue (n : OrderNumber) : String := n.value

structure OrderItem where
  id : OrderItemId
  productId : String
  /-- `validate` lets nothing but a positive integer in. -/
  quantity : ℕ
  unitPrice : Money
  originalPrice : Money
  createdAt : Date
  updatedAt : Date
deriving DecidableEq

inductive OrderEvent where
  | orderCreated (orderId orderNumber userId : String) (status : OrderStatus)
      (subtotal tax shippingCost discountAmount total : JsNumber) (currency : String)
      (itemCount : ℕ)
  | statusChanged (orderId orderNumber : String) (previousStatus newStatus : OrderStatus)
  | paid (orderId orderNumber userId : String) (total : JsNumber) (currency : String)
  | completed (orderId orderNumber userId : String) (total : JsNumber) (currency : String)
  | cancelled (orderId orderNumber userId : String) (previousStatus : OrderStatus)
      (reason : Option String)
deriving DecidableEq

structure OrderProps where
  orderNumber : OrderNumber
  userId : String
  status : OrderStatus
  items : List OrderItem
  subtotal : Money
  tax : Money
  shippingCost : Money
  discountAmount : Money
  total : Money
  currency : String
  discountId : Option String
  notes : Option String
  createdAt : Date
  updatedAt : Date
deriving DecidableEq

structure Order extends OrderProps where
  id : OrderId
  domainEvents : List OrderEvent
deriving DecidableEq

structure CreateOrderItemInput where
  productId : String
  quantity : JsNumber
  unitPrice : JsNumber
  originalPrice : JsNumber

structure CreateOrderParams where
  userId : String
  items : List CreateOrderItemInput
  tax : Option JsNumber
  shippingCost : Option JsNumber
  discountAmount : Option JsNumber
  discountId : Option String
  notes : Option String
  currency : Option String

def textOrNull (text : Option String) : Option String := text.filter (· ≠ "")

def amountOrZero : Option JsNumber → JsNumber
  | none | some .nan => .ofNat 0
  | some x => x

section Arithmetic

variable (host : ℚ → JsNumber)

namespace OrderItem

def create (generated : OrderItemId) (params : CreateOrderItemInput) (currency : String)
    (clk : Clock) : Except OrderError OrderItem := do
  let unitPrice ← (Money.createBy host params.unitPrice currency).mapError .ofMoney
  let originalPrice ← (Money.createBy host params.originalPrice currency).mapError .ofMoney
  if trim params.productId = "" then
    .error ⟨.error, "Order item must have a valid product ID"⟩
  else if !params.quantity.isInteger || params.quantity.le (.ofNat 0) then
    .error ⟨.error, "Order item quantity must be a positive integer"⟩
  else
    .ok ⟨generated, params.productId, params.quantity.position.getD 0, unitPrice, originalPrice,
      clk.read 0, clk.read 1⟩

def getSubtotal (item : OrderItem) : Except InvalidMoneyError Money :=
  item.unitPrice.multiply host (.ofNat item.quantity)

end OrderItem

namespace Order

def construct (id : OrderId) (props : OrderProps) : Except OrderError Order :=
  if trim props.userId = "" then
    .error (orderStateConflict "Order must have a valid user ID")
  else if props.updatedAt < props.createdAt then
    .error (orderStateConflict "Updated date cannot be before created date")
  else if props.notes.any fun notes => trim notes == "" then
    .error (orderStateConflict "Order notes cannot be an empty string")
  else .ok { props with id := id, domainEvents := [] }

def createItems (generated : ℕ → OrderItemId) (currency : String) (clk : Clock) :
    ℕ → List CreateOrderItemInput → Except OrderError (List OrderItem)
  | _, [] => .ok []
  | k, params :: rest => do
    let item ← OrderItem.create host (generated k) params currency (clk.skip (2 * k))
    let items ← createItems generated currency clk (k + 1) rest
    return item :: items

def addSubtotals : Money → List OrderItem → Except InvalidMoneyError Money
  | sum, [] => .ok sum
  | sum, item :: items => do
    let subtotal ← item.getSubtotal host
    let next ← sum.add host subtotal
    addSubtotals next items

def totalOf (subtotal tax shippingCost discountAmount : Money) :
    Except InvalidMoneyError Money := do
  let taxed ← subtotal.add host tax
  let shipped ← taxed.add host shippingCost
  shipped.subtract host discountAmount

structure Generated where
  orderId : OrderId
  orderNumber : OrderNumber
  itemIds : ℕ → OrderItemId

def create (generated : Generated) (params : CreateOrderParams) (clk : Clock) :
    Except OrderError Order := do
  let currency := (textOrNull params.currency).getD "IDR"
  let items ← createItems host generated.itemIds currency clk 0 params.items
  if items.isEmpty then
    throw ⟨.orderIsEmpty, "Order has no items: " ++ generated.orderId.getValue⟩
  let zero ← (Money.zero currency).mapError .ofMoney
  let subtotal ← (addSubtotals host zero items).mapError .ofMoney
  let tax ← (Money.createBy host (amountOrZero params.tax) currency).mapError .ofMoney
  let shippingCost ←
    (Money.createBy host (amountOrZero params.shippingCost) currency).mapError .ofMoney
  let discountAmount ←
    (Money.createBy host (amountOrZero params.discountAmount) currency).mapError .ofMoney
  let total ← (totalOf host subtotal tax shippingCost discountAmount).mapError .ofMoney
  let order ← construct generated.orderId
    { orderNumber := generated.orderNumber
      userId := params.userId
      status := .pendingPayment
      items := items
      subtotal := subtotal
      tax := tax
      shippingCost := shippingCost
      discountAmount := discountAmount
      total := total
      currency := currency
      discountId := textOrNull params.discountId
      notes := textOrNull params.notes
      createdAt := clk.read (2 * params.items.length)
      updatedAt := clk.read (2 * params.items.length + 1) }
  return { order with domainEvents := order.domainEvents ++
    [.orderCreated generated.orderId.getValue generated.orderNumber.getValue params.userId
      order.status subtotal.getAmount tax.getAmount shippingCost.getAmount
      discountAmount.getAmount total.getAmount currency items.length] }

def reconstruct (id : String) (props : OrderProps) : Except OrderError Order := do
  let orderId ← UniqueIdentifier.fromString
    (fun value => ⟨.invalidOrderId, "Invalid order ID: " ++ value⟩) id
  construct orderId props

def isTerminal (o : Order) : Bool := o.status.isTerminal
def canBeCancelled (o : Order) : Bool := o.status == .pendingPayment || o.status == .paid

abbrev Call := Outcome OrderError Order

def applyChange (now : Date) (o : Order) : Order := { o with updatedAt := now }

def addDomainEvent (e : OrderEvent) (o : Order) : Order :=
  { o with domainEvents := o.domainEvents ++ [e] }

def ensureNotTerminal (o : Order) (rest : Call) : Call :=
  if o.isTerminal then
    .threw (orderStateConflict ("Order " ++ o.id.getValue ++ " is in terminal status: " ++
      o.status.getValue)) o
  else rest

def changeStatus (newStatus : OrderStatus) (o : Order) : Call :=
  if o.status.canTransitionTo newStatus then .done { o with status := newStatus }
  else .threw ⟨.invalidStatusTransition, "Invalid order status transition from '" ++
    o.status.getValue ++ "' to '" ++ newStatus.getValue ++ "'"⟩ o

def statusChanged (previousStatus : OrderStatus) (o : Order) : OrderEvent :=
  .statusChanged o.id.getValue o.orderNumber.getValue previousStatus o.status

/-- The common shape of the commands that go by the table: nothing where the status
is already the new one, else the change and its events. -/
def moveTo (newStatus : OrderStatus) (announcement : Order → List OrderEvent) (now : Date)
    (o : Order) : Call :=
  if o.status = newStatus then .done o
  else (o.changeStatus newStatus).andThen fun p =>
    let moved := applyChange now p
    .done { moved with domainEvents :=
      moved.domainEvents ++ announcement moved ++ [statusChanged o.status moved] }

def markAsPaid : Date → Order → Call :=
  moveTo .paid fun o =>
    [.paid o.id.getValue o.orderNumber.getValue o.userId o.total.getAmount o.currency]

def startFulfillment : Date → Order → Call := moveTo .fulfillment fun _ => []

def complete : Date → Order → Call :=
  moveTo .completed fun o =>
    [.completed o.id.getValue o.orderNumber.getValue o.userId o.total.getAmount o.currency]

def cancel (reason : Option String) (now : Date) (o : Order) : Call :=
  if o.status = .cancelled then .done o
  else if !o.canBeCancelled then
    .threw ⟨.orderCannotBeCancelled, "Order " ++ o.id.getValue ++
      " cannot be cancelled in status '" ++ o.status.getValue ++ "'"⟩ o
  else
    let moved := applyChange now { o with status := .cancelled }
    .done <| (moved.addDomainEvent (.cancelled o.id.getValue o.orderNumber.getValue o.userId
      o.status reason)).addDomainEvent (statusChanged o.status moved)

def updateNotes (notes : Option String) (now : Date) (o : Order) : Call :=
  o.ensureNotTerminal <|
    if notes ≠ o.notes then .done (applyChange now { o with notes := notes }) else .done o

def recalculateTotal (o : Order) : Call :=
  match totalOf host o.subtotal o.tax o.shippingCost o.discountAmount with
  | .error e => .threw (.ofMoney e) o
  | .ok total => .done { o with total := total }

/-- The common shape of the commands that change the discount: the identifier is
assigned before the amount is made, and both before the total is. -/
def setDiscount (discountId : Option String) (amount : Except InvalidMoneyError Money)
    (now : Date) (o : Order) : Call :=
  o.ensureNotTerminal <|
    match amount with
    | .error e => .threw (.ofMoney e) { o with discountId := discountId }
    | .ok discountAmount =>
      (recalculateTotal host
        { o with discountId := discountId, discountAmount := discountAmount }).andThen
          fun p => .done (applyChange now p)

def applyDiscount (discountId : String) (discountAmount : JsNumber) (now : Date) (o : Order) :
    Call :=
  setDiscount host (some discountId) (Money.createBy host discountAmount o.currency) now o

def removeDiscount (now : Date) (o : Order) : Call :=
  setDiscount host none (Money.zero o.currency) now o

end Order

inductive OrderCommand where
  | markAsPaid
  | startFulfillment
  | complete
  | cancel (reason : Option String)
  | updateNotes (notes : Option String)
  | applyDiscount (discountId : String) (discountAmount : JsNumber)
  | removeDiscount
deriving DecidableEq

def OrderCommand.exec (now : Date) : OrderCommand → Order → Order.Call
  | markAsPaid => Order.markAsPaid now
  | startFulfillment => Order.startFulfillment now
  | complete => Order.complete now
  | cancel reason => Order.cancel reason now
  | updateNotes notes => Order.updateNotes notes now
  | applyDiscount discountId discountAmount =>
    Order.applyDiscount host discountId discountAmount now
  | removeDiscount => Order.removeDiscount host now

end Arithmetic

end KeramikStore
