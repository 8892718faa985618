import KeramikStore.Library.Runs
import KeramikStore.Order.Order

/-!
# What the commands of an order do

A command returns or throws without a change, moves the order along the documented
state machine, or changes the notes or the discount of an order that is not in a
terminal status. A discount that is refused has already been assigned in part.
-/

set_option autoImplicit false

namespace KeramikStore.OrderEffects
open Library Library.Runs

inductive Next : OrderStatus → OrderStatus → Prop where
  | paid : Next .pendingPayment .paid
  | fulfillment : Next .paid .fulfillment
  | completed : Next .fulfillment .completed
  | cancelledUnpaid : Next .pendingPayment .cancelled
  | cancelledPaid : Next .paid .cancelled

/-- The table has these steps and the one from a draft. -/
theorem canTransitionTo_iff (s t : OrderStatus) :
    s.canTransitionTo t = true ↔ Next s t ∨ s = .draft ∧ t = .pendingPayment := by
  constructor
  · intro h
    cases s <;> cases t <;>
      first | exact absurd h (by decide) | exact .inl (by constructor) | exact .inr ⟨rfl, rfl⟩
  · rintro (h | ⟨rfl, rfl⟩)
    · cases h <;> rfl
    · rfl

theorem next_running (s t : OrderStatus) (h : Next s t) : s.isTerminal = false := by
  cases h <;> rfl

def announcement (o : Order) (reason : Option String) : OrderStatus → List OrderEvent
  | .paid =>
    [.paid o.id.getValue o.orderNumber.getValue o.userId o.total.getAmount o.currency]
  | .completed =>
    [.completed o.id.getValue o.orderNumber.getValue o.userId o.total.getAmount o.currency]
  | .cancelled =>
    [.cancelled o.id.getValue o.orderNumber.getValue o.userId o.status reason]
  | .draft | .pendingPayment | .fulfillment => []

def change (o : Order) (t : OrderStatus) : OrderEvent :=
  .statusChanged o.id.getValue o.orderNumber.getValue o.status t

def moved (o : Order) (reason : Option String) (t : OrderStatus) (now : Date) : Order :=
  { o with
    status := t
    updatedAt := now
    domainEvents := o.domainEvents ++ announcement o reason t ++ [change o t] }

section Discounts

variable (host : ℚ → JsNumber)

def discountOf (o : Order) :
    OrderCommand → Option (Option String × Except InvalidMoneyError Money)
  | .applyDiscount discountId amount =>
    some (some discountId, Money.createBy host amount o.currency)
  | .removeDiscount => some (none, Money.zero o.currency)
  | _ => none

def billed (o : Order) (discountAmount : Money) : Except InvalidMoneyError Money :=
  Order.totalOf host o.subtotal o.tax o.shippingCost discountAmount

inductive Effect (o : Order) (now : Date) : OrderCommand → Order.Call → Prop where
  | kept (c : OrderCommand) (plain : discountOf host o c = none) : Effect o now c (.done o)
  | refused (c : OrderCommand) (e : OrderError) (plain : discountOf host o c = none) :
      Effect o now c (.threw e o)
  | terminal (c : OrderCommand) (e : OrderError) (closed : o.isTerminal = true) :
      Effect o now c (.threw e o)
  | moved (c : OrderCommand) (reason : Option String) (t : OrderStatus)
      (plain : discountOf host o c = none) (next : Next o.status t) :
      Effect o now c (.done (moved o reason t now))
  | noted (notes : Option String) (running : o.isTerminal = false) :
      Effect o now (.updateNotes notes) (.done { o with notes := notes, updatedAt := now })
  | unpriced (c : OrderCommand) (id : Option String) (e : InvalidMoneyError)
      (running : o.isTerminal = false) (discount : discountOf host o c = some (id, .error e)) :
      Effect o now c (.threw (.ofMoney e) { o with discountId := id })
  | excessive (c : OrderCommand) (id : Option String) (amount : Money) (e : InvalidMoneyError)
      (running : o.isTerminal = false) (discount : discountOf host o c = some (id, .ok amount))
      (total : billed host o amount = .error e) :
      Effect o now c
        (.threw (.ofMoney e) { o with discountId := id, discountAmount := amount })
  | discounted (c : OrderCommand) (id : Option String) (amount t : Money)
      (running : o.isTerminal = false) (discount : discountOf host o c = some (id, .ok amount))
      (total : billed host o amount = .ok t) :
      Effect o now c <| .done
        { o with discountId := id, discountAmount := amount, total := t, updatedAt := now }

variable (o : Order) (now : Date)

/-- The commands that go by the table announce all but a cancellation. -/
theorem moveTo_effect (c : OrderCommand) (t : OrderStatus) (announce : Order → List OrderEvent)
    (plain : discountOf host o c = none) (open_status : t ≠ .cancelled ∧ t ≠ .pendingPayment)
    (h : ∀ q : Order, announce q = announcement q none t) :
    Effect host o now c (Order.moveTo t announce now o) := by
  unfold Order.moveTo
  by_cases same : o.status = t
  · rw [if_pos same]
    exact .kept c plain
  · rw [if_neg same, Order.changeStatus]
    by_cases permitted : o.status.canTransitionTo t = true
    · have next : Next o.status t := by
        rcases (canTransitionTo_iff _ _).mp permitted with next | ⟨-, pending⟩
        · exact next
        · exact absurd pending open_status.2
      rw [if_pos permitted, Outcome.done_andThen]
      dsimp only
      rw [h]
      have announced : announcement (Order.applyChange now { o with status := t }) none t =
          announcement o none t := by
        cases t with
        | cancelled => exact absurd rfl open_status.1
        | _ => rfl
      rw [announced]
      exact .moved c none t plain next
    · rw [if_neg permitted]
      exact .refused c _ plain

theorem cancel_effect (reason : Option String) :
    Effect host o now (.cancel reason) (Order.cancel reason now o) := by
  unfold Order.cancel
  by_cases same : o.status = .cancelled
  · rw [if_pos same]
    exact .kept _ rfl
  · rw [if_neg same]
    by_cases cancellable : o.canBeCancelled = true
    · have next : Next o.status .cancelled := by
        unfold Order.canBeCancelled at cancellable
        generalize o.status = s at cancellable
        cases s with
        | pendingPayment => exact .cancelledUnpaid
        | paid => exact .cancelledPaid
        | _ => cases cancellable
      rw [cancellable]
      have result : Order.addDomainEvent
          (Order.statusChanged o.status (Order.applyChange now { o with status := .cancelled }))
          (Order.addDomainEvent (.cancelled o.id.getValue o.orderNumber.getValue o.userId o.status
            reason) (Order.applyChange now { o with status := .cancelled })) =
          moved o reason .cancelled now := rfl
      simp only [Bool.not_true, Bool.false_eq_true, if_false, result]
      exact .moved _ reason .cancelled rfl next
    · rw [Bool.not_eq_true] at cancellable
      rw [cancellable]
      exact .refused _ _ rfl

theorem updateNotes_effect (notes : Option String) :
    Effect host o now (.updateNotes notes) (Order.updateNotes notes now o) := by
  unfold Order.updateNotes Order.ensureNotTerminal
  cases terminal : o.isTerminal with
  | true => exact .terminal _ _ terminal
  | false =>
    by_cases same : notes ≠ o.notes
    · simp only [Bool.false_eq_true, if_false, if_pos same]
      exact .noted notes terminal
    · simp only [Bool.false_eq_true, if_false, if_neg same]
      exact .kept _ rfl

theorem setDiscount_effect (c : OrderCommand) (id : Option String)
    (amount : Except InvalidMoneyError Money) (h : discountOf host o c = some (id, amount)) :
    Effect host o now c (Order.setDiscount host id amount now o) := by
  unfold Order.setDiscount Order.ensureNotTerminal
  cases terminal : o.isTerminal with
  | true => exact .terminal _ _ terminal
  | false =>
    simp only [Bool.false_eq_true, if_false]
    cases amount with
    | error e => exact .unpriced c id e terminal h
    | ok m =>
      dsimp only
      unfold Order.recalculateTotal
      cases total : billed host o m with
      | error e =>
        unfold billed at total
        dsimp only
        rw [total]
        exact .excessive c id m e terminal h total
      | ok t =>
        unfold billed at total
        dsimp only
        rw [total]
        exact .discounted c id m t terminal h total

theorem exec_effect (c : OrderCommand) : Effect host o now c (c.exec host now o) := by
  cases c with
  | markAsPaid =>
    exact moveTo_effect host o now _ .paid _ rfl (by decide) fun _ => rfl
  | startFulfillment =>
    exact moveTo_effect host o now _ .fulfillment _ rfl (by decide) fun _ => rfl
  | complete => exact moveTo_effect host o now _ .completed _ rfl (by decide) fun _ => rfl
  | cancel reason => exact cancel_effect host o now reason
  | updateNotes notes => exact updateNotes_effect host o now notes
  | applyDiscount id amount => exact setDiscount_effect host o now _ _ _ rfl
  | removeDiscount => exact setDiscount_effect host o now _ _ _ rfl

structure Created (generated : Order.Generated) (params : CreateOrderParams) (clk : Clock)
    (o : Order) : Prop where
  currency : o.currency = (textOrNull params.currency).getD "IDR"
  items : Order.createItems host generated.itemIds o.currency clk 0 params.items = .ok o.items
  nonempty : o.items ≠ []
  subtotal : ∃ zero, Money.zero o.currency = .ok zero ∧
    Order.addSubtotals host zero o.items = .ok o.subtotal
  tax : Money.createBy host (amountOrZero params.tax) o.currency = .ok o.tax
  shippingCost :
    Money.createBy host (amountOrZero params.shippingCost) o.currency = .ok o.shippingCost
  discountAmount :
    Money.createBy host (amountOrZero params.discountAmount) o.currency = .ok o.discountAmount
  total : billed host o o.discountAmount = .ok o.total
  discountId : o.discountId = textOrNull params.discountId
  status : o.status = .pendingPayment
  log : o.domainEvents = [.orderCreated o.id.getValue o.orderNumber.getValue o.userId o.status
    o.subtotal.getAmount o.tax.getAmount o.shippingCost.getAmount o.discountAmount.getAmount
    o.total.getAmount o.currency o.items.length]

theorem construct_ok (id : OrderId) (props : OrderProps)
    (h : Order.construct id props = .ok o) : o = { props with id := id, domainEvents := [] } := by
  unfold Order.construct at h
  split_ifs at h
  exact (Except.ok.inj h).symm

theorem create_created (generated : Order.Generated) (params : CreateOrderParams) (clk : Clock)
    (h : Order.create host generated params clk = .ok o) : Created host generated params clk o := by
  unfold Order.create at h
  obtain ⟨items, made, h⟩ := (bind_ok_iff _ _ _).mp h
  by_cases empty : items.isEmpty = true
  · rw [if_pos empty] at h
    cases h
  rw [if_neg empty] at h
  obtain ⟨zero, isZero, h⟩ := (bind_ok_iff _ _ _).mp h
  obtain ⟨subtotal, added, h⟩ := (bind_ok_iff _ _ _).mp h
  obtain ⟨tax, taxed, h⟩ := (bind_ok_iff _ _ _).mp h
  obtain ⟨shippingCost, shipped, h⟩ := (bind_ok_iff _ _ _).mp h
  obtain ⟨discountAmount, discounted, h⟩ := (bind_ok_iff _ _ _).mp h
  obtain ⟨total, summed, h⟩ := (bind_ok_iff _ _ _).mp h
  obtain ⟨order, built, h⟩ := (bind_ok_iff _ _ _).mp h
  obtain rfl := construct_ok order _ _ built
  obtain rfl := Except.ok.inj h
  rw [mapError_ok_iff] at isZero added taxed shipped discounted summed
  exact
    { currency := rfl
      items := made
      nonempty := fun e => empty (List.isEmpty_iff.mpr e)
      subtotal := ⟨zero, isZero, added⟩
      tax := taxed
      shippingCost := shipped
      discountAmount := discounted
      total := summed
      discountId := rfl
      status := rfl
      log := rfl }

abbrev Step := OrderCommand × Date

def step (o : Order) (a : Step) : Order := (a.1.exec host a.2 o).state

/-- A terminal status closes the order to every command. -/
theorem terminal_stays (a : Step) (h : o.isTerminal = true) : step host o a = o := by
  obtain ⟨c, now⟩ := a
  have effect := exec_effect host o now c
  unfold step
  generalize OrderCommand.exec host now c o = call at effect
  cases effect with
  | kept => rfl
  | refused => rfl
  | terminal => rfl
  | moved c reason t plain next =>
    rw [Order.isTerminal, next_running o.status t next] at h
    cases h
  | noted notes running => rw [h] at running; cases running
  | unpriced c id e running => rw [h] at running; cases running
  | excessive c id amount e running => rw [h] at running; cases running
  | discounted c id amount t running => rw [h] at running; cases running

end Discounts

section Samples

def sampleGenerated : Order.Generated := ⟨.sample, ⟨"ORD-20260105-A1B2C"⟩, fun _ => .sample⟩

def sampleParams : CreateOrderParams where
  userId := "u1"
  items := [⟨"p1", .ofNat 2, .ofNat 50, .ofNat 50⟩]
  tax := none
  shippingCost := some (.ofNat 20)
  discountAmount := none
  discountId := none
  notes := none
  currency := none

def rupiah (n : ℕ) : Money := ⟨n, "IDR", n.cast_nonneg, Money.idr_valid⟩

def sampleItem : OrderItem := ⟨.sample, "p1", 2, rupiah 50, rupiah 50, 5, 5⟩

def sample : Order where
  orderNumber := ⟨"ORD-20260105-A1B2C"⟩
  userId := "u1"
  status := .pendingPayment
  items := [sampleItem]
  subtotal := rupiah 100
  tax := rupiah 0
  shippingCost := rupiah 20
  discountAmount := rupiah 0
  total := rupiah 120
  currency := "IDR"
  discountId := none
  notes := none
  createdAt := 5
  updatedAt := 5
  id := .sample
  domainEvents := [.orderCreated UserId.sample.value "ORD-20260105-A1B2C" "u1" .pendingPayment
    (.ofNat 100) (.ofNat 0) (.ofNat 20) (.ofNat 0) (.ofNat 120) "IDR" 1]

theorem sample_created :
    Order.create .fin sampleGenerated sampleParams (.still 5) = .ok sample := by
  decide +kernel

end Samples

end KeramikStore.OrderEffects
