import KeramikStore.Library.Binary64
import KeramikStore.Shared.UniqueIdentifier

/-!
# The inventory aggregate

An inventory counts the units of one product in stock and those of them that are
reserved. A command that throws leaves the object as it was at the throw, so the
order of its checks and assignments is kept.
-/

set_option autoImplicit false

namespace KeramikStore
open Library Library.Text

inductive InventoryError where
  | invalidInventoryId (inventoryId : String)
  | invalidStockQuantity (quantity : JsNumber) (reason : String)
  | stateConflict (message : String)
  | insufficientStock (productId : String) (requested available : JsNumber)
  | invalidReservation (reason : String)
  /-- An invalid reservation whose text names two numbers. -/
  | overReservation (action : String) (quantity reserved : JsNumber)
  | belowReserved (quantity reserved : JsNumber)
deriving DecidableEq

def InventoryError.message (numberText : JsNumber → String) : InventoryError → String
  | invalidInventoryId id => "Invalid inventory ID: " ++ id
  | invalidStockQuantity q reason => "Invalid stock quantity: " ++ numberText q ++ ". " ++ reason
  | stateConflict message => message
  | insufficientStock productId requested available =>
    "Insufficient stock for product " ++ productId ++ ": requested " ++ numberText requested ++
      ", available " ++ numberText available
  | invalidReservation reason => "Invalid reservation: " ++ reason
  | overReservation action q reserved =>
    "Invalid reservation: Cannot " ++ action ++ " " ++ numberText q ++ " units: only " ++
      numberText reserved ++ " units are reserved"
  | belowReserved q reserved =>
    "Cannot set stock to " ++ numberText q ++ ": " ++ numberText reserved ++
      " units are currently reserved"

/-- A quantity is a whole number that is not negative: `validate` lets no other in. -/
structure StockQuantity where
  value : ℕ
deriving DecidableEq

namespace StockQuantity

def create (quantity : JsNumber) : Except InventoryError StockQuantity :=
  if !quantity.isInteger then
    .error (.invalidStockQuantity quantity "Stock quantity must be an integer")
  else if quantity.lt (.ofNat 0) then
    .error (.invalidStockQuantity quantity "Stock quantity cannot be negative")
  else .ok ⟨quantity.position.getD 0⟩

def zero : StockQuantity := ⟨0⟩
def getValue (s : StockQuantity) : JsNumber := .ofNat s.value

def add (s : StockQuantity) (amount : JsNumber) : Except InventoryError StockQuantity :=
  create (s.getValue.add amount)

def subtract (s : StockQuantity) (amount : JsNumber) : Except InventoryError StockQuantity :=
  create (s.getValue.sub amount)

theorem create_ok_iff (quantity : JsNumber) (s : StockQuantity) :
    create quantity = .ok s ↔ quantity = s.getValue := by
  constructor
  · intro h
    cases quantity with
    | fin q =>
      by_cases integral : q.den = 1
      · by_cases neg : q < 0
        · simp [create, JsNumber.isInteger, JsNumber.lt, JsNumber.ofNat, integral, neg] at h
        · have nonneg : 0 ≤ q.num := Rat.num_nonneg.mpr (not_lt.mp neg)
          simp only [create, JsNumber.isInteger, JsNumber.lt, JsNumber.ofNat, JsNumber.position,
            integral, nonneg, Nat.cast_zero, neg, decide_true, decide_false, Bool.not_true,
            Bool.false_eq_true, and_self, if_true, if_false, Option.getD_some] at h
          obtain rfl := Except.ok.inj h
          unfold getValue JsNumber.ofNat
          rw [← Int.cast_natCast, Int.toNat_of_nonneg nonneg, Rat.coe_int_num_of_den_eq_one integral]
      · simp [create, JsNumber.isInteger, integral] at h
    | _ => cases h
  · rintro rfl
    simp [create, getValue, JsNumber.ofNat, JsNumber.isInteger, JsNumber.lt, JsNumber.position]

theorem create_succeeds_iff (quantity : JsNumber) : (∃ s, create quantity = .ok s) ↔
    quantity.isInteger = true ∧ quantity.lt (.ofNat 0) = false := by
  cases integral : quantity.isInteger <;> cases neg : quantity.lt (.ofNat 0) <;>
    simp [create, integral, neg]

@[simp] theorem create_getValue (s : StockQuantity) : create s.getValue = .ok s :=
  (create_ok_iff _ s).mpr rfl

end StockQuantity

inductive InventoryEvent where
  | inventoryCreated (inventoryId productId : String) (initialStock : JsNumber)
  | stockAdjusted (inventoryId productId : String) (previousStock newStock adjustment : JsNumber)
      (reason : String)
  | stockReserved (inventoryId productId : String)
      (quantity totalReserved availableStock : JsNumber)
  | stockReleased (inventoryId productId : String)
      (quantity totalReserved availableStock : JsNumber)
  | stockDepleted (inventoryId productId : String)
deriving DecidableEq

abbrev InventoryId := UniqueIdentifier

/-- What `reconstruct` is given. A date that is not valid is `none`. -/
structure InventoryProps where
  productId : String
  stock : StockQuantity
  reserved : StockQuantity
  createdAt : Option Date
  updatedAt : Option Date

structure Inventory where
  id : InventoryId
  productId : String
  stock : StockQuantity
  reserved : StockQuantity
  createdAt : Date
  updatedAt : Date
  domainEvents : List InventoryEvent
deriving DecidableEq

namespace Inventory

def construct (id : InventoryId) (props : InventoryProps) : Except InventoryError Inventory :=
  if trim props.productId = "" then
    .error (.stateConflict "Inventory must have a valid product ID")
  else if props.stock.getValue.lt props.reserved.getValue then
    .error (.stateConflict "Reserved quantity cannot exceed total stock")
  else match props.createdAt, props.updatedAt with
    | none, _ => .error (.stateConflict "Inventory created date is invalid")
    | some _, none => .error (.stateConflict "Inventory updated date is invalid")
    | some createdAt, some updatedAt =>
      .ok ⟨id, props.productId, props.stock, props.reserved, createdAt, updatedAt, []⟩

def create (generated : InventoryId) (productId : String) (initialStock : Option JsNumber)
    (clk : Clock) : Except InventoryError Inventory := do
  let stock ← StockQuantity.create (initialStock.getD (.ofNat 0))
  let i ← construct generated
    ⟨productId, stock, .zero, some (clk.read 0), some (clk.read 1)⟩
  return { i with domainEvents := i.domainEvents ++
    [.inventoryCreated generated.getValue productId (initialStock.getD (.ofNat 0))] }

def reconstruct (id : String) (props : InventoryProps) : Except InventoryError Inventory := do
  construct (← UniqueIdentifier.fromString .invalidInventoryId id) props

def getAvailableStock (i : Inventory) : JsNumber := i.stock.getValue.sub i.reserved.getValue

def hasAvailableStock (quantity : JsNumber) (i : Inventory) : Bool :=
  i.getAvailableStock.ge quantity

def isDepleted (i : Inventory) : Bool := i.getAvailableStock.le (.ofNat 0)

def addDomainEvent (e : InventoryEvent) (i : Inventory) : Inventory :=
  { i with domainEvents := i.domainEvents ++ [e] }

def applyChange (now : Date) (i : Inventory) : Inventory := { i with updatedAt := now }

def reasonOr (fallback : String) (reason : Option String) : String :=
  match reason with
  | some r => if r = "" then fallback else r
  | none => fallback

def adjusted (previousStock newStock adjustment : JsNumber) (reason : String) (i : Inventory) :
    Inventory :=
  i.addDomainEvent
    (.stockAdjusted i.id.getValue i.productId previousStock newStock adjustment reason)

def announceDepletion (i : Inventory) : Inventory :=
  if i.isDepleted then i.addDomainEvent (.stockDepleted i.id.getValue i.productId) else i

abbrev Call := Outcome InventoryError Inventory

def addStock (quantity : JsNumber) (reason : Option String) (now : Date) (i : Inventory) : Call :=
  if quantity.le (.ofNat 0) then
    .threw (.stateConflict "Stock addition quantity must be positive") i
  else match i.stock.add quantity with
    | .error e => .threw e i
    | .ok stock =>
      .done <| (applyChange now { i with stock := stock }).adjusted i.stock.getValue
        stock.getValue quantity (reasonOr "Stock added" reason)

def removeStock (quantity : JsNumber) (reason : Option String) (now : Date) (i : Inventory) :
    Call :=
  if quantity.le (.ofNat 0) then
    .threw (.stateConflict "Stock removal quantity must be positive") i
  else if !i.hasAvailableStock quantity then
    .threw (.insufficientStock i.productId quantity i.getAvailableStock) i
  else match i.stock.subtract quantity with
    | .error e => .threw e i
    | .ok stock =>
      .done <| announceDepletion <| (applyChange now { i with stock := stock }).adjusted
        i.stock.getValue stock.getValue quantity.neg (reasonOr "Stock removed" reason)

def setStock (quantity : JsNumber) (reason : Option String) (now : Date) (i : Inventory) : Call :=
  match StockQuantity.create quantity with
  | .error e => .threw e i
  | .ok newStock =>
    if quantity.lt i.reserved.getValue then
      .threw (.belowReserved quantity i.reserved.getValue) i
    else
      .done <| announceDepletion <| (applyChange now { i with stock := newStock }).adjusted
        i.stock.getValue quantity (quantity.sub i.stock.getValue)
        (reasonOr "Stock set manually" reason)

def reserve (quantity : JsNumber) (now : Date) (i : Inventory) : Call :=
  if quantity.le (.ofNat 0) then
    .threw (.invalidReservation "Reservation quantity must be positive") i
  else if !i.hasAvailableStock quantity then
    .threw (.insufficientStock i.productId quantity i.getAvailableStock) i
  else match i.reserved.add quantity with
    | .error e => .threw e i
    | .ok reserved =>
      let j := applyChange now { i with reserved := reserved }
      .done <| j.addDomainEvent <| .stockReserved i.id.getValue i.productId quantity
        reserved.getValue j.getAvailableStock

def release (quantity : JsNumber) (now : Date) (i : Inventory) : Call :=
  if quantity.le (.ofNat 0) then
    .threw (.invalidReservation "Release quantity must be positive") i
  else if i.reserved.getValue.lt quantity then
    .threw (.overReservation "release" quantity i.reserved.getValue) i
  else match i.reserved.subtract quantity with
    | .error e => .threw e i
    | .ok reserved =>
      let j := applyChange now { i with reserved := reserved }
      .done <| j.addDomainEvent <| .stockReleased i.id.getValue i.productId quantity
        reserved.getValue j.getAvailableStock

def confirmReservation (quantity : JsNumber) (now : Date) (i : Inventory) : Call :=
  if quantity.le (.ofNat 0) then
    .threw (.invalidReservation "Confirmation quantity must be positive") i
  else if i.reserved.getValue.lt quantity then
    .threw (.overReservation "confirm" quantity i.reserved.getValue) i
  else match i.stock.subtract quantity with
    | .error e => .threw e i
    | .ok stock =>
      let j := { i with stock := stock }
      match j.reserved.subtract quantity with
      | .error e => .threw e j
      | .ok reserved =>
        .done <| announceDepletion <| (applyChange now { j with reserved := reserved }).adjusted
          (stock.getValue.add quantity) stock.getValue quantity.neg
          "Reservation confirmed (order fulfilled)"

end Inventory

inductive InventoryCommand where
  | addStock (quantity : JsNumber) (reason : Option String)
  | removeStock (quantity : JsNumber) (reason : Option String)
  | setStock (quantity : JsNumber) (reason : Option String)
  | reserve (quantity : JsNumber)
  | release (quantity : JsNumber)
  | confirmReservation (quantity : JsNumber)

def InventoryCommand.exec (now : Date) : InventoryCommand → Inventory → Inventory.Call
  | addStock quantity reason => Inventory.addStock quantity reason now
  | removeStock quantity reason => Inventory.removeStock quantity reason now
  | setStock quantity reason => Inventory.setStock quantity reason now
  | reserve quantity => Inventory.reserve quantity now
  | release quantity => Inventory.release quantity now
  | confirmReservation quantity => Inventory.confirmReservation quantity now

end KeramikStore
