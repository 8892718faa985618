import KeramikStore.Shared.Money
import KeramikStore.Shared.UniqueIdentifier

/-!
# The payment aggregate

A payment follows the status table of the provider. Each command that changes the
status announces the change and, for most statuses, a second event. A webhook is
recorded before its status is looked at.
-/

set_option autoImplicit false

namespace KeramikStore
open Library Library.Text

inductive PaymentErrorCode where
  | invalidPaymentId | invalidProviderRef | invalidPaymentStatus | invalidPaymentStatusTransition
  | paymentStateConflict | invalidMoney
deriving DecidableEq, Repr

structure PaymentError where
  code : PaymentErrorCode
  message : String
deriving DecidableEq, Repr

inductive PaymentStatus where
  | initiated | pending | settlement | cancel | expire | deny | refund | failed
deriving DecidableEq, Repr

namespace PaymentStatus

def getValue : PaymentStatus → String
  | initiated => "INITIATED"
  | pending => "PENDING"
  | settlement => "SETTLEMENT"
  | cancel => "CANCEL"
  | expire => "EXPIRE"
  | deny => "DENY"
  | refund => "REFUND"
  | failed => "FAILED"

def all : List PaymentStatus :=
  [initiated, pending, settlement, cancel, expire, deny, refund, failed]

def create (value : String) : Except PaymentError PaymentStatus :=
  match all.find? fun s => s.getValue == value with
  | some s => .ok s
  | none => .error ⟨.invalidPaymentStatus, "Invalid payment status: \"" ++ value ++ "\""⟩

def validTransitions : PaymentStatus → List PaymentStatus
  | initiated => [pending, failed]
  | pending => [settlement, cancel, expire, deny, failed]
  | settlement => [refund]
  | cancel | expire | deny | refund | failed => []

def canTransitionTo (s newStatus : PaymentStatus) : Bool := s.validTransitions.contains newStatus

def transitionTo (s newStatus : PaymentStatus) : Except PaymentError PaymentStatus :=
  if s.canTransitionTo newStatus then .ok newStatus
  else .error ⟨.invalidPaymentStatusTransition, "Cannot transition payment status from \"" ++
    s.getValue ++ "\" to \"" ++ newStatus.getValue ++ "\""⟩

def isTerminal (s : PaymentStatus) : Bool := [cancel, expire, deny, refund, failed].contains s
def isSuccessful (s : PaymentStatus) : Bool := s == settlement

theorem create_getValue (s : PaymentStatus) : create s.getValue = .ok s := by
  cases s <;> decide

/-- The list of terminal statuses is that of the statuses without a transition. -/
theorem isTerminal_eq (s : PaymentStatus) : s.isTerminal = s.validTransitions.isEmpty := by
  cases s <;> rfl

theorem terminal_stays (s t : PaymentStatus) (h : s.isTerminal = true) :
    s.canTransitionTo t = false := by
  rw [isTerminal_eq, List.isEmpty_iff] at h
  simp [canTransitionTo, h]

end PaymentStatus

abbrev PaymentId := UniqueIdentifier

structure ProviderRef where
  value : String
deriving DecidableEq, Repr

namespace ProviderRef

def create (raw : String) : Except PaymentError ProviderRef :=
  if units (trim raw) = 0 then
    .error ⟨.invalidProviderRef, "Provider reference cannot be empty"⟩
  else if 255 < units (trim raw) then
    .error ⟨.invalidProviderRef, "Provider reference cannot exceed 255 characters"⟩
  else .ok ⟨trim raw⟩

def getValue (r : ProviderRef) : String := r.value

end ProviderRef

/-- The body of a webhook. It is stored and compared, never read. -/
structure Payload where
  json : String
deriving DecidableEq, Repr

inductive PaymentEvent where
  | paymentCreated (paymentId orderId provider providerRef : String) (amount : JsNumber)
      (currency : String) (status : PaymentStatus)
  | statusChanged (paymentId orderId providerRef : String) (previousStatus newStatus : PaymentStatus)
  | settled (paymentId orderId providerRef : String) (amount : JsNumber) (currency : String)
  | cancelled (paymentId orderId providerRef : String)
  | expired (paymentId orderId providerRef : String)
  | denied (paymentId orderId providerRef : String)
  | refunded (paymentId orderId providerRef : String) (amount : JsNumber) (currency : String)
  | failed (paymentId orderId providerRef : String) (reason : Option String)
  | webhookReceived (paymentId orderId providerRef provider : String) (rawPayload : Payload)
deriving DecidableEq

structure Payment where
  id : PaymentId
  orderId : String
  provider : String
  providerRef : ProviderRef
  status : PaymentStatus
  amount : Money
  currency : String
  rawWebhookPayload : Option Payload
  createdAt : Date
  updatedAt : Date
  domainEvents : List PaymentEvent
deriving DecidableEq

def invalidPaymentId (id : String) : PaymentError :=
  ⟨.invalidPaymentId, "Invalid payment ID: \"" ++ id ++ "\""⟩

def invalidMoney (e : InvalidMoneyError) : PaymentError := ⟨.invalidMoney, e.message⟩

def stateConflict (message : String) : PaymentError := ⟨.paymentStateConflict, message⟩

namespace Payment

def addDomainEvent (e : PaymentEvent) (p : Payment) : Payment :=
  { p with domainEvents := p.domainEvents ++ [e] }

structure CreatePaymentProps where
  orderId : String
  providerRef : String
  amount : JsNumber
  currency : Option String
  provider : Option String

def create (generated : PaymentId) (input : CreatePaymentProps) (clk : Clock) :
    Except PaymentError Payment := do
  let providerRef ← ProviderRef.create input.providerRef
  let currency := input.currency.getD "IDR"
  let provider := input.provider.getD "MIDTRANS"
  let amount ← (Money.create input.amount currency).mapError invalidMoney
  let p : Payment :=
    { id := generated
      orderId := input.orderId
      provider := provider
      providerRef := providerRef
      status := .initiated
      amount := amount
      currency := currency
      rawWebhookPayload := none
      createdAt := clk.read 0
      updatedAt := clk.read 1
      domainEvents := [] }
  return p.addDomainEvent (.paymentCreated generated.getValue input.orderId provider
    providerRef.getValue amount.getAmount currency .initiated)

structure ReconstructPaymentProps where
  id : String
  orderId : String
  provider : String
  providerRef : String
  status : String
  amount : JsNumber
  currency : String
  rawWebhookPayload : Option Payload
  createdAt : Date
  updatedAt : Date

def reconstruct (input : ReconstructPaymentProps) : Except PaymentError Payment := do
  let id ← UniqueIdentifier.fromString invalidPaymentId input.id
  let providerRef ← ProviderRef.create input.providerRef
  let status ← PaymentStatus.create input.status
  let amount ← (Money.create input.amount input.currency).mapError invalidMoney
  return { id := id
           orderId := input.orderId
           provider := input.provider
           providerRef := providerRef
           status := status
           amount := amount
           currency := input.currency
           rawWebhookPayload := input.rawWebhookPayload
           createdAt := input.createdAt
           updatedAt := input.updatedAt
           domainEvents := [] }

abbrev Call := Outcome PaymentError Payment

def applyChange (now : Date) (p : Payment) : Payment := { p with updatedAt := now }

def transitionStatus (newStatus : PaymentStatus) (now : Date) (p : Payment) : Call :=
  match p.status.transitionTo newStatus with
  | .error e => .threw e p
  | .ok status =>
    .done <| (applyChange now { p with status := status }).addDomainEvent <|
      .statusChanged p.id.getValue p.orderId p.providerRef.getValue p.status newStatus

/-- The common shape of the commands: nothing where the status is already the
new one, else the change, the payload if there is one, and the last event. -/
def markAs (newStatus : PaymentStatus) (webhookPayload : Option Payload)
    (announcement : Payment → List PaymentEvent) (now : Date) (p : Payment) : Call :=
  if p.status = newStatus then .done p
  else (p.transitionStatus newStatus now).andThen fun q =>
    .done { q with rawWebhookPayload := webhookPayload.or q.rawWebhookPayload
                   domainEvents := q.domainEvents ++ announcement q }

def markAsPending : Date → Payment → Call := markAs .pending none fun _ => []

def markAsSettled (webhookPayload : Option Payload) : Date → Payment → Call :=
  markAs .settlement webhookPayload fun p =>
    [.settled p.id.getValue p.orderId p.providerRef.getValue p.amount.getAmount p.currency]

def markAsCancelled (webhookPayload : Option Payload) : Date → Payment → Call :=
  markAs .cancel webhookPayload fun p =>
    [.cancelled p.id.getValue p.orderId p.providerRef.getValue]

def markAsExpired (webhookPayload : Option Payload) : Date → Payment → Call :=
  markAs .expire webhookPayload fun p => [.expired p.id.getValue p.orderId p.providerRef.getValue]

def markAsDenied (webhookPayload : Option Payload) : Date → Payment → Call :=
  markAs .deny webhookPayload fun p => [.denied p.id.getValue p.orderId p.providerRef.getValue]

def markAsRefunded (webhookPayload : Option Payload) : Date → Payment → Call :=
  markAs .refund webhookPayload fun p =>
    [.refunded p.id.getValue p.orderId p.providerRef.getValue p.amount.getAmount p.currency]

def markAsFailed (reason : Option String) (webhookPayload : Option Payload) :
    Date → Payment → Call :=
  markAs .failed webhookPayload fun p =>
    [.failed p.id.getValue p.orderId p.providerRef.getValue reason]

/-- What a look-up in an object literal gives: a status of the table, a property
that every object inherits, or nothing. -/
inductive Mapped where
  | status (s : PaymentStatus)
  | inherited
deriving DecidableEq

def inheritedProperties : List String :=
  ["constructor", "__defineGetter__", "__defineSetter__", "hasOwnProperty", "__lookupGetter__",
    "__lookupSetter__", "isPrototypeOf", "propertyIsEnumerable", "toString", "valueOf",
    "__proto__", "toLocaleString"]

def statusMap : List (String × PaymentStatus) :=
  [("pending", .pending), ("capture", .settlement), ("settlement", .settlement),
    ("cancel", .cancel), ("expire", .expire), ("deny", .deny), ("refund", .refund),
    ("partial_refund", .refund), ("failure", .failed), ("PENDING", .pending),
    ("SETTLEMENT", .settlement), ("CANCEL", .cancel), ("EXPIRE", .expire), ("DENY", .deny),
    ("REFUND", .refund), ("FAILED", .failed)]

def mapProviderStatus (providerStatus : String) : Except PaymentError Mapped :=
  match statusMap.lookup providerStatus with
  | some s => .ok (.status s)
  | none =>
    if inheritedProperties.contains providerStatus then .ok .inherited
    else .error (stateConflict
      ("Cannot map provider status \"" ++ providerStatus ++ "\" to domain status"))

def applyMapped (newStatus : String) (rawPayload : Payload) (now : Date) (p : Payment) :
    Mapped → Call
  | .status .pending => markAsPending now p
  | .status .settlement => markAsSettled rawPayload now p
  | .status .cancel => markAsCancelled rawPayload now p
  | .status .expire => markAsExpired rawPayload now p
  | .status .deny => markAsDenied rawPayload now p
  | .status .refund => markAsRefunded rawPayload now p
  | .status .failed => markAsFailed "Webhook reported failure" rawPayload now p
  | .status .initiated | .inherited =>
    .threw (stateConflict ("Unknown provider status: \"" ++ newStatus ++ "\"")) p

def processWebhook (newStatus : String) (rawPayload : Payload) (now : Date) (p : Payment) : Call :=
  let recorded := p.addDomainEvent <|
    .webhookReceived p.id.getValue p.orderId p.providerRef.getValue p.provider rawPayload
  let stored := { recorded with rawWebhookPayload := some rawPayload }
  match mapProviderStatus newStatus with
  | .error e => .threw e stored
  | .ok mapped => applyMapped newStatus rawPayload now stored mapped

def isTerminal (p : Payment) : Bool := p.status.isTerminal

end Payment

inductive PaymentCommand where
  | markAsPending
  | markAsSettled (webhookPayload : Option Payload)
  | markAsCancelled (webhookPayload : Option Payload)
  | markAsExpired (webhookPayload : Option Payload)
  | markAsDenied (webhookPayload : Option Payload)
  | markAsRefunded (webhookPayload : Option Payload)
  | markAsFailed (reason : Option String) (webhookPayload : Option Payload)
  | processWebhook (newStatus : String) (rawPayload : Payload)
deriving DecidableEq

def PaymentCommand.exec (now : Date) : PaymentCommand → Payment → Payment.Call
  | markAsPending => Payment.markAsPending now
  | markAsSettled payload => Payment.markAsSettled payload now
  | markAsCancelled payload => Payment.markAsCancelled payload now
  | markAsExpired payload => Payment.markAsExpired payload now
  | markAsDenied payload => Payment.markAsDenied payload now
  | markAsRefunded payload => Payment.markAsRefunded payload now
  | markAsFailed reason payload => Payment.markAsFailed reason payload now
  | processWebhook newStatus payload => Payment.processWebhook newStatus payload now

end KeramikStore
