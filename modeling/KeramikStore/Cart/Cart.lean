import KeramikStore.Library.Binary64
import KeramikStore.Library.ObjectList
import KeramikStore.Library.Outcome
import KeramikStore.Shared.UniqueIdentifier

/-!
# The cart aggregate

A cart lists its items. Adding a product that is in the cart increases its item in
place, any other product is appended. An item is looked up by its identifier or by its
product, and its new quantity is checked after the look-up and before any assignment.
-/

set_option autoImplicit false

namespace KeramikStore
open Library Library.Text Library.ObjectList

inductive CartError where
  | invalidCartId (cartId : String)
  | invalidQuantity (quantity : JsNumber) (reason : String)
  | cartItemNotFound (identifier : String)
  | stateConflict (message : String)
deriving DecidableEq

def CartError.message (numberText : JsNumber → String) : CartError → String
  | invalidCartId cartId => "Invalid cart ID: " ++ cartId
  | invalidQuantity q reason => "Invalid quantity: " ++ numberText q ++ ". " ++ reason
  | cartItemNotFound identifier => "Cart item not found: " ++ identifier
  | stateConflict message => message

abbrev CartId := UniqueIdentifier
abbrev CartItemId := UniqueIdentifier

structure Quantity where
  value : ℕ
  positive : 0 < value
  bounded : value ≤ 9999
deriving DecidableEq

namespace Quantity

/-- The checks of `validate` leave a positive integer of at most four digits. -/
theorem position_bounds (quantity : JsNumber) (integral : ¬ (!quantity.isInteger) = true)
    (positive : ¬ quantity.le (.ofNat 0) = true)
    (bounded : ¬ (JsNumber.ofNat 9999).lt quantity = true) :
    0 < quantity.position.getD 0 ∧ quantity.position.getD 0 ≤ 9999 ∧
      quantity = .ofNat (quantity.position.getD 0) := by
  cases quantity with
  | fin q =>
    have whole : q.den = 1 := by simpa [JsNumber.isInteger] using integral
    have pos : 0 < q := by
      simpa [JsNumber.le, JsNumber.ge, JsNumber.lt, JsNumber.ofNat] using positive
    have most : q ≤ 9999 := by simpa [JsNumber.lt, JsNumber.ofNat] using bounded
    have nonneg : 0 ≤ q.num := Rat.num_nonneg.mpr pos.le
    have value : q = (q.num.toNat : ℚ) := by
      rw [← Int.cast_natCast, Int.toNat_of_nonneg nonneg, Rat.coe_int_num_of_den_eq_one whole]
    have found : (JsNumber.fin q).position = some q.num.toNat := if_pos ⟨whole, nonneg⟩
    rw [found, Option.getD_some]
    refine ⟨?_, ?_, congrArg JsNumber.fin value⟩
    · rw [value] at pos
      exact_mod_cast pos
    · rw [value] at most
      exact_mod_cast most
  | _ => exact absurd rfl integral

def create (quantity : JsNumber) : Except CartError Quantity :=
  if integral : !quantity.isInteger then
    .error (.invalidQuantity quantity "Quantity must be an integer")
  else if positive : quantity.le (.ofNat 0) then
    .error (.invalidQuantity quantity "Quantity must be greater than 0")
  else if bounded : (JsNumber.ofNat 9999).lt quantity then
    .error (.invalidQuantity quantity "Quantity cannot exceed 9999")
  else
    have bounds := position_bounds quantity integral positive bounded
    .ok ⟨quantity.position.getD 0, bounds.1, bounds.2.1⟩

def getValue (q : Quantity) : JsNumber := .ofNat q.value

def add (q : Quantity) (amount : JsNumber) : Except CartError Quantity :=
  create (q.getValue.add amount)

theorem create_ok (quantity : JsNumber) (q : Quantity) (h : create quantity = .ok q) :
    quantity = q.getValue := by
  unfold create at h
  split at h
  · cases h
  split at h
  · cases h
  split at h
  · cases h
  next integral positive bounded =>
    obtain rfl := Except.ok.inj h
    exact (position_bounds quantity integral positive bounded).2.2

end Quantity

structure CartItem where
  id : CartItemId
  productId : String
  quantity : Quantity
  createdAt : Date
  updatedAt : Date
deriving DecidableEq

namespace CartItem

def create (generated : CartItemId) (productId : String) (quantity : JsNumber) (clk : Clock) :
    Except CartError CartItem := do
  let q ← Quantity.create quantity
  return ⟨generated, productId, q, clk.read 0, clk.read 1⟩

def updateQuantity (newQuantity : JsNumber) (now : Date) (i : CartItem) :
    Except CartError CartItem := do
  let q ← Quantity.create newQuantity
  return { i with quantity := q, updatedAt := now }

def increaseQuantity (amount : JsNumber) (now : Date) (i : CartItem) :
    Except CartError CartItem := do
  let q ← i.quantity.add amount
  return { i with quantity := q, updatedAt := now }

def isForProduct (productId : String) (i : CartItem) : Bool := i.productId == productId
def hasId (cartItemId : String) (i : CartItem) : Bool := i.id.getValue == cartItemId

end CartItem

inductive CartEvent where
  | cartCreated (cartId userId : String)
  | itemAdded (cartId cartItemId productId : String) (quantity : JsNumber)
  | itemRemoved (cartId cartItemId productId : String)
  | quantityUpdated (cartId cartItemId productId : String) (oldQuantity newQuantity : JsNumber)
  | cleared (cartId userId : String) (itemCount : ℕ)
deriving DecidableEq

structure Cart where
  id : CartId
  userId : String
  items : List CartItem
  createdAt : Date
  updatedAt : Date
  domainEvents : List CartEvent
deriving DecidableEq

namespace Cart

/-- The constructor with its `validate`. The dates that it gets are dates. -/
def construct (id : CartId) (userId : String) (items : List CartItem)
    (createdAt updatedAt : Date) : Except CartError Cart :=
  if trim userId = "" then .error (.stateConflict "Cart must have a valid user ID")
  else .ok ⟨id, userId, items, createdAt, updatedAt, []⟩

def create (generated : CartId) (userId : String) (clk : Clock) : Except CartError Cart := do
  let cart ← construct generated userId [] (clk.read 0) (clk.read 1)
  return { cart with domainEvents := [.cartCreated generated.getValue userId] }

def reconstruct (id userId : String) (items : List CartItem) (createdAt updatedAt : Date) :
    Except CartError Cart := do
  construct (← UniqueIdentifier.fromString .invalidCartId id) userId items createdAt updatedAt

def getTotalQuantity (c : Cart) : ℕ := (c.items.map (·.quantity.value)).sum

def findItemByProductId (productId : String) (c : Cart) : Option CartItem :=
  c.items.find? (·.isForProduct productId)

def findItemById (cartItemId : String) (c : Cart) : Option CartItem :=
  c.items.find? (·.hasId cartItemId)

abbrev Call := Outcome CartError Cart

def applyChange (now : Date) (c : Cart) : Cart := { c with updatedAt := now }

def addDomainEvent (e : CartEvent) (c : Cart) : Cart :=
  { c with domainEvents := c.domainEvents ++ [e] }

def addItem (generated : CartItemId) (productId : String) (quantity : JsNumber) (clk : Clock)
    (c : Cart) : Call :=
  match c.findItemByProductId productId with
  | some existingItem =>
    match existingItem.increaseQuantity quantity (clk.read 0) with
    | .error e => .threw e c
    | .ok increased =>
      let items := replaceFirst (·.isForProduct productId) increased c.items
      .done <| (applyChange (clk.read 1) { c with items := items }).addDomainEvent
        (.quantityUpdated c.id.getValue increased.id.getValue productId
          existingItem.quantity.getValue increased.quantity.getValue)
  | none =>
    match CartItem.create generated productId quantity clk with
    | .error e => .threw e c
    | .ok cartItem =>
      .done <| (applyChange (clk.read 2) { c with items := c.items ++ [cartItem] }).addDomainEvent
        (.itemAdded c.id.getValue cartItem.id.getValue productId quantity)

def removeItem (cartItemId : String) (clk : Clock) (c : Cart) : Call :=
  match c.findItemById cartItemId with
  | none => .threw (.cartItemNotFound cartItemId) c
  | some removedItem =>
    .done <| (applyChange (clk.read 0)
      { c with items := c.items.eraseP (·.hasId cartItemId) }).addDomainEvent
        (.itemRemoved c.id.getValue removedItem.id.getValue removedItem.productId)

def removeItemByProductId (productId : String) (clk : Clock) (c : Cart) : Call :=
  match c.findItemByProductId productId with
  | none => .threw (.cartItemNotFound productId) c
  | some item => c.removeItem item.id.getValue clk

def updateItemQuantity (cartItemId : String) (newQuantity : JsNumber) (clk : Clock) (c : Cart) :
    Call :=
  match c.findItemById cartItemId with
  | none => .threw (.cartItemNotFound cartItemId) c
  | some item =>
    match item.updateQuantity newQuantity (clk.read 0) with
    | .error e => .threw e c
    | .ok updated =>
      let items := replaceFirst (·.hasId cartItemId) updated c.items
      .done <| (applyChange (clk.read 1) { c with items := items }).addDomainEvent
        (.quantityUpdated c.id.getValue item.id.getValue item.productId item.quantity.getValue
          newQuantity)

def clear (clk : Clock) (c : Cart) : Call :=
  if c.items.isEmpty then .done c
  else .done <| (applyChange (clk.read 0) { c with items := [] }).addDomainEvent
    (.cleared c.id.getValue c.userId c.items.length)

end Cart

inductive CartCommand where
  | addItem (generated : CartItemId) (productId : String) (quantity : JsNumber)
  | removeItem (cartItemId : String)
  | removeItemByProductId (productId : String)
  | updateItemQuantity (cartItemId : String) (newQuantity : JsNumber)
  | clear
deriving DecidableEq

def CartCommand.exec (clk : Clock) : CartCommand → Cart → Cart.Call
  | addItem generated productId quantity => Cart.addItem generated productId quantity clk
  | removeItem cartItemId => Cart.removeItem cartItemId clk
  | removeItemByProductId productId => Cart.removeItemByProductId productId clk
  | updateItemQuantity cartItemId newQuantity =>
    Cart.updateItemQuantity cartItemId newQuantity clk
  | clear => Cart.clear clk

end KeramikStore
