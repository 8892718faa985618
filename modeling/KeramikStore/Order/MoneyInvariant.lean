import KeramikStore.Order.Effects
import KeramikStore.Shared.Decimals

/-!
# The money of an order

In exact decimals the stored total is the sum of the stored amounts less the stored
discount, and the discount is the one last accepted, as long as no discount is
refused after it has been assigned: one that exceeds the sum, or one whose amount is
no amount, unless it names the discount that the order already has.
-/

set_option autoImplicit false

namespace KeramikStore.OrderMoney
open Library Library.Runs OrderEffects Money

def lineTotal (item : OrderItem) : ℚ := item.unitPrice.amount * item.quantity

def gross (o : Order) : ℚ := o.subtotal.amount + o.tax.amount + o.shippingCost.amount

structure Proper (currency : String) (m : Money) : Prop where
  hundredths : Hundredths m.amount
  currency : m.currency = currency

structure Priced (o : Order) : Prop where
  subtotal : Proper o.currency o.subtotal
  tax : Proper o.currency o.tax
  shippingCost : Proper o.currency o.shippingCost
  items : ∀ item ∈ o.items,
    item.unitPrice.currency = o.currency ∧ item.originalPrice.currency = o.currency
  sum : o.subtotal.amount = (o.items.map lineTotal).sum

theorem createBy_proper (amount : JsNumber) (currency : String) (m : Money)
    (h : createBy .fin amount currency = .ok m) : Proper currency m := by
  obtain ⟨hundredths, same⟩ := createBy_hundredths amount currency m h
  exact ⟨hundredths, same⟩

theorem plus_proper (currency : String) (m n : Money) (hm : Proper currency m)
    (hn : Proper currency n) : Proper currency (m.plus n) :=
  ⟨hundredths_add _ _ hm.hundredths hn.hundredths, hm.currency⟩

theorem add_proper (currency : String) (m n : Money) (hm : Proper currency m)
    (hn : Proper currency n) : m.add .fin n = .ok (m.plus n) :=
  add_eq_plus m n hm.hundredths hn.hundredths (hm.currency.trans hn.currency.symm)

theorem totalOf_ok_iff (currency : String) (subtotal tax shippingCost discount total : Money)
    (hs : Proper currency subtotal) (ht : Proper currency tax)
    (hc : Proper currency shippingCost) (hd : Proper currency discount) :
    Order.totalOf .fin subtotal tax shippingCost discount = .ok total ↔
      total.amount = subtotal.amount + tax.amount + shippingCost.amount - discount.amount ∧
        total.currency = currency := by
  have taxed := plus_proper currency subtotal tax hs ht
  have shipped := plus_proper currency _ shippingCost taxed hc
  unfold Order.totalOf
  rw [add_proper currency subtotal tax hs ht]
  change (do
    let sum ← (subtotal.plus tax).add .fin shippingCost
    sum.subtract .fin discount) = _ ↔ _
  rw [add_proper currency _ shippingCost taxed hc]
  change Money.subtract .fin _ discount = _ ↔ _
  rw [subtract_ok_iff _ discount total shipped.hundredths hd.hundredths
    (shipped.currency.trans hd.currency.symm), shipped.currency]
  rfl

theorem billed_ok_iff (o : Order) (discount total : Money) (h : Priced o)
    (hd : Proper o.currency discount) :
    billed .fin o discount = .ok total ↔
      total.amount = gross o - discount.amount ∧ total.currency = o.currency :=
  totalOf_ok_iff o.currency _ _ _ _ _ h.subtotal h.tax h.shippingCost hd

/-- A discount is refused just when it exceeds what it is taken from. -/
theorem billed_error (o : Order) (discount : Money) (e : InvalidMoneyError) (h : Priced o)
    (hd : Proper o.currency discount) (refused : billed .fin o discount = .error e) :
    gross o < discount.amount := by
  by_contra enough
  have nonneg : 0 ≤ gross o - discount.amount := sub_nonneg.mpr (not_lt.mp enough)
  have valid : o.currency ∈ validCurrencies := by
    rw [← h.subtotal.currency]
    exact o.subtotal.valid
  have total := (billed_ok_iff o discount ⟨_, o.currency, nonneg, valid⟩ h hd).mpr ⟨rfl, rfl⟩
  rw [refused] at total
  cases total

structure Given where
  discountId : Option String
  amount : JsNumber

def amounts (o : Order) : List Money :=
  [o.subtotal, o.tax, o.shippingCost, o.discountAmount, o.total] ++
    o.items.flatMap fun item => [item.unitPrice, item.originalPrice]

structure MoneyLaw (given : Given) (o : Order) : Prop where
  total : o.total.amount =
    o.subtotal.amount + o.tax.amount + o.shippingCost.amount - o.discountAmount.amount
  subtotal : o.subtotal.amount = (o.items.map lineTotal).sum
  nonneg : ∀ m ∈ amounts o, 0 ≤ m.amount
  currency : ∀ m ∈ amounts o, m.currency = o.currency
  discountId : o.discountId = given.discountId
  discountAmount : createBy .fin given.amount o.currency = .ok o.discountAmount

/-- With what no command changes, three facts make the law. -/
theorem moneyLaw_of_priced (given : Given) (o : Order) (h : Priced o)
    (total : o.total.amount = gross o - o.discountAmount.amount)
    (currency : o.total.currency = o.currency) (discountId : o.discountId = given.discountId)
    (discountAmount : createBy .fin given.amount o.currency = .ok o.discountAmount) :
    MoneyLaw given o := by
  refine ⟨total, h.sum, fun m _ => m.nonneg, fun m mem => ?_, discountId, discountAmount⟩
  rcases List.mem_append.mp mem with mem | mem
  · simp only [List.mem_cons, List.not_mem_nil, or_false] at mem
    rcases mem with rfl | rfl | rfl | rfl | rfl
    · exact h.subtotal.currency
    · exact h.tax.currency
    · exact h.shippingCost.currency
    · exact (createBy_proper _ _ _ discountAmount).currency
    · exact currency
  · obtain ⟨item, member, mem⟩ := List.mem_flatMap.mp mem
    simp only [List.mem_cons, List.not_mem_nil, or_false] at mem
    rcases mem with rfl | rfl
    · exact (h.items item member).1
    · exact (h.items item member).2

def givenBy (given : Given) : OrderCommand → Given
  | .applyDiscount discountId amount => ⟨some discountId, amount⟩
  | .removeDiscount => ⟨none, .ofNat 0⟩
  | _ => given

theorem givenBy_plain (host : ℚ → JsNumber) (o : Order) (given : Given) (c : OrderCommand)
    (plain : discountOf host o c = none) : givenBy given c = given := by
  cases c with
  | applyDiscount => cases plain
  | removeDiscount => cases plain
  | _ => rfl

theorem givenBy_discount (o : Order) (given : Given) (c : OrderCommand) (id : Option String)
    (amount : Except InvalidMoneyError Money)
    (discount : discountOf .fin o c = some (id, amount)) :
    (givenBy given c).discountId = id ∧
      createBy .fin (givenBy given c).amount o.currency = amount := by
  cases c with
  | applyDiscount => cases discount; exact ⟨rfl, rfl⟩
  | removeDiscount => cases discount; exact ⟨rfl, (zero_eq o.currency).symm⟩
  | _ => cases discount

structure Watched where
  order : Order
  given : Given

def watch (w : Watched) (a : Step) : Watched :=
  ⟨step .fin w.order a,
    if (a.1.exec .fin a.2 w.order).Returns then givenBy w.given a.1 else w.given⟩

def Accepts (w : Watched) (a : Step) : Prop :=
  ∀ id amount, a.1 = .applyDiscount id amount → w.order.isTerminal = false →
    (∀ m, createBy .fin amount w.order.currency = .ok m → m.amount ≤ gross w.order) ∧
      ((∀ m, createBy .fin amount w.order.currency ≠ .ok m) → w.order.discountId = some id)

theorem accepts_of_plain (w : Watched) (a : Step) (plain : discountOf .fin w.order a.1 = none) :
    Accepts w a := by
  intro id amount e
  rw [e] at plain
  cases plain

def Lawful (w : Watched) : Prop := MoneyLaw w.given w.order

/-- Nothing but the discount, the total, the notes, the status, the date of change and
the log is changed. -/
theorem step_priced (o : Order) (a : Step) (h : Priced o) : Priced (step .fin o a) := by
  obtain ⟨c, now⟩ := a
  have effect := exec_effect .fin o now c
  unfold step
  generalize OrderCommand.exec .fin now c o = call at effect
  obtain ⟨subtotal, tax, shippingCost, items, sum⟩ := h
  cases effect <;> exact ⟨subtotal, tax, shippingCost, items, sum⟩

theorem removal_accepted (o : Order) (h : Priced o) :
    ∃ m, Money.zero o.currency = .ok m ∧ m.amount = 0 := by
  have valid : o.currency ∈ validCurrencies := by
    rw [← h.subtotal.currency]
    exact o.subtotal.valid
  exact ⟨⟨0, o.currency, le_rfl, valid⟩,
    (construct_ok_iff _ _ _).mpr ⟨congrArg JsNumber.fin Nat.cast_zero, rfl⟩, rfl⟩

theorem gross_nonneg (o : Order) : 0 ≤ gross o :=
  add_nonneg (add_nonneg o.subtotal.nonneg o.tax.nonneg) o.shippingCost.nonneg

theorem discount_proper (o : Order) (c : OrderCommand) (id : Option String) (m : Money)
    (discount : discountOf .fin o c = some (id, .ok m)) : Proper o.currency m := by
  obtain ⟨-, amount⟩ := givenBy_discount o ⟨none, .nan⟩ c id _ discount
  exact createBy_proper _ _ _ amount

theorem accepts_le (o : Order) (given : Given) (c : OrderCommand) (now : Date)
    (id : Option String) (m : Money) (priced : Priced o) (running : o.isTerminal = false)
    (discount : discountOf .fin o c = some (id, .ok m)) (h : Accepts ⟨o, given⟩ (c, now)) :
    m.amount ≤ gross o := by
  cases c with
  | applyDiscount discountId amount =>
    obtain ⟨-, made⟩ := Prod.mk.inj (Option.some.inj discount)
    exact (h discountId amount rfl running).1 m made
  | removeDiscount =>
    obtain ⟨zero, made, none⟩ := removal_accepted o priced
    obtain ⟨-, same⟩ := Prod.mk.inj (Option.some.inj discount)
    obtain rfl := Except.ok.inj (made.symm.trans same)
    rw [none]
    exact gross_nonneg o
  | _ => cases discount

theorem le_accepts (o : Order) (given : Given) (c : OrderCommand) (now : Date)
    (id : Option String) (m : Money) (discount : discountOf .fin o c = some (id, .ok m))
    (h : m.amount ≤ gross o) : Accepts ⟨o, given⟩ (c, now) := by
  intro discountId amount e _
  obtain rfl : c = .applyDiscount discountId amount := e
  obtain ⟨-, made⟩ := Prod.mk.inj (Option.some.inj discount)
  constructor
  · intro n other
    obtain rfl := Except.ok.inj (made.symm.trans other)
    exact h
  · intro refused
    exact absurd made (refused m)

/-- A command keeps the law just when its discount, if it assigns one, is accepted. -/
theorem step_lawful_iff (w : Watched) (a : Step) (priced : Priced w.order) (h : Lawful w) :
    Lawful (watch w a) ↔ Accepts w a := by
  obtain ⟨o, given⟩ := w
  obtain ⟨c, now⟩ := a
  have effect := exec_effect .fin o now c
  unfold Lawful watch step
  dsimp only at priced ⊢
  unfold Lawful at h
  dsimp only at h
  generalize OrderCommand.exec .fin now c o = call at effect
  cases effect with
  | kept c plain =>
    rw [if_pos (Outcome.returns_done o), givenBy_plain .fin o given c plain]
    exact iff_of_true h (accepts_of_plain _ _ plain)
  | refused c e plain =>
    rw [if_neg (Outcome.not_returns_threw e o)]
    exact iff_of_true h (accepts_of_plain _ _ plain)
  | terminal c e closed =>
    rw [if_neg (Outcome.not_returns_threw e o)]
    refine iff_of_true h fun id amount _ running => ?_
    rw [closed] at running
    cases running
  | moved c reason t plain next =>
    rw [if_pos (Outcome.returns_done _), givenBy_plain .fin o given c plain]
    exact iff_of_true ⟨h.total, h.subtotal, h.nonneg, h.currency, h.discountId, h.discountAmount⟩
      (accepts_of_plain _ _ plain)
  | noted notes running =>
    exact iff_of_true ⟨h.total, h.subtotal, h.nonneg, h.currency, h.discountId, h.discountAmount⟩
      (accepts_of_plain _ _ rfl)
  | unpriced c id e running discount =>
    rw [if_neg (Outcome.not_returns_threw _ _)]
    cases c with
    | applyDiscount discountId amount =>
      obtain ⟨rfl, refused⟩ := Prod.mk.inj (Option.some.inj discount)
      constructor
      · intro after id' amount' e' _
        obtain ⟨rfl, rfl⟩ := OrderCommand.applyDiscount.inj e'
        refine ⟨fun m made => ?_, fun _ => h.discountId.trans after.discountId.symm⟩
        rw [refused] at made
        cases made
      · intro accepts
        have named := (accepts _ _ rfl running).2 fun m made => by rw [refused] at made; cases made
        exact ⟨h.total, h.subtotal, h.nonneg, h.currency, named.symm.trans h.discountId,
          h.discountAmount⟩
    | removeDiscount =>
      obtain ⟨m, made, -⟩ := removal_accepted o priced
      obtain ⟨-, refused⟩ := Prod.mk.inj (Option.some.inj discount)
      rw [made] at refused
      cases refused
    | _ => cases discount
  | excessive c id m e running discount total =>
    rw [if_neg (Outcome.not_returns_threw _ _)]
    have proper := discount_proper o c id m discount
    have exceeds := billed_error o m e priced proper total
    apply iff_of_false
    · intro after
      have sum : o.total.amount = gross o - m.amount := after.total
      have nonneg := o.total.nonneg
      linarith
    · intro accepts
      exact absurd (accepts_le o given c now id m priced running discount accepts)
        (not_le.mpr exceeds)
  | discounted c id m t running discount total =>
    rw [if_pos (Outcome.returns_done _)]
    have proper := discount_proper o c id m discount
    obtain ⟨sum, currency⟩ := (billed_ok_iff o m t priced proper).mp total
    obtain ⟨identifier, amount⟩ := givenBy_discount o given c id _ discount
    have nonneg := t.nonneg
    apply iff_of_true
    · exact moneyLaw_of_priced _ _
        ⟨priced.subtotal, priced.tax, priced.shippingCost, priced.items, priced.sum⟩ sum currency
        identifier.symm amount
    · exact le_accepts o given c now id m discount (by linarith)

/-- A command keeps the law of the money in every state of a run just when the discounts
that it is given are accepted. -/
theorem run_lawful_iff (w : Watched) (run : List Step) (priced : Priced w.order) (h : Lawful w) :
    Throughout watch Lawful w run ↔ Along watch Accepts w run := by
  rw [throughout_exact watch (fun v => Priced v.order) Lawful (fun _ _ => True) Accepts
    (fun v a p _ => step_priced v.order a p) (fun v a p _ l => step_lawful_iff v a p l) w run
    priced (along_of_forall watch _ (fun _ _ => trivial) w run)]
  exact and_iff_right h

section Created

structure ProperItem (currency : String) (item : OrderItem) : Prop where
  unitPrice : Proper currency item.unitPrice
  originalPrice : Proper currency item.originalPrice

theorem item_proper (generated : OrderItemId) (params : CreateOrderItemInput) (currency : String)
    (clk : Clock) (item : OrderItem)
    (h : OrderItem.create .fin generated params currency clk = .ok item) :
    ProperItem currency item := by
  unfold OrderItem.create at h
  obtain ⟨unitPrice, unit, h⟩ := (bind_ok_iff _ _ _).mp h
  obtain ⟨originalPrice, original, h⟩ := (bind_ok_iff _ _ _).mp h
  rw [mapError_ok_iff] at unit original
  split_ifs at h
  obtain rfl := Except.ok.inj h
  exact ⟨createBy_proper _ _ _ unit, createBy_proper _ _ _ original⟩

theorem items_proper (generated : ℕ → OrderItemId) (currency : String) (clk : Clock) (k : ℕ)
    (inputs : List CreateOrderItemInput) (items : List OrderItem)
    (h : Order.createItems .fin generated currency clk k inputs = .ok items) :
    ∀ item ∈ items, ProperItem currency item := by
  induction inputs generalizing k items with
  | nil =>
    obtain rfl := Except.ok.inj h
    exact fun _ mem => absurd mem List.not_mem_nil
  | cons input inputs ih =>
    unfold Order.createItems at h
    obtain ⟨first, made, h⟩ := (bind_ok_iff _ _ _).mp h
    obtain ⟨rest, others, h⟩ := (bind_ok_iff _ _ _).mp h
    obtain rfl := Except.ok.inj h
    intro item mem
    rcases List.mem_cons.mp mem with rfl | mem
    · exact item_proper _ _ _ _ item made
    · exact ih (k + 1) rest others item mem

theorem addSubtotals_sum (currency : String) (items : List OrderItem) (sum total : Money)
    (hs : Proper currency sum) (hi : ∀ item ∈ items, ProperItem currency item)
    (h : Order.addSubtotals .fin sum items = .ok total) :
    total.amount = sum.amount + (items.map lineTotal).sum ∧ Proper currency total := by
  induction items generalizing sum with
  | nil =>
    obtain rfl := Except.ok.inj h
    exact ⟨(add_zero _).symm, hs⟩
  | cons item items ih =>
    unfold Order.addSubtotals at h
    obtain ⟨subtotal, line, h⟩ := (bind_ok_iff _ _ _).mp h
    obtain ⟨next, added, h⟩ := (bind_ok_iff _ _ _).mp h
    have price := (hi item List.mem_cons_self).unitPrice
    obtain ⟨amount, same⟩ := (multiply_ok_iff _ _ item.quantity price.hundredths).mp line
    have proper : Proper currency subtotal := by
      refine ⟨?_, same.trans price.currency⟩
      rw [amount]
      exact hundredths_mul _ _ price.hundredths
    rw [add_proper currency sum subtotal hs proper] at added
    obtain rfl := Except.ok.inj added
    obtain ⟨rest, result⟩ := ih _ (plus_proper currency sum subtotal hs proper)
      (fun other mem => hi other (List.mem_cons_of_mem _ mem)) h
    refine ⟨?_, result⟩
    have line_total : subtotal.amount = lineTotal item := amount
    have next : (sum.plus subtotal).amount = sum.amount + subtotal.amount := rfl
    rw [rest, List.map_cons, List.sum_cons, next, line_total, add_assoc]

variable (generated : Order.Generated) (params : CreateOrderParams) (clk : Clock) (o : Order)

theorem created_priced (h : Order.create .fin generated params clk = .ok o) : Priced o := by
  have created := create_created .fin o generated params clk h
  have items := items_proper _ _ _ _ _ _ created.items
  obtain ⟨zero, isZero, added⟩ := created.subtotal
  rw [zero_eq] at isZero
  have start := createBy_proper _ _ _ isZero
  have nothing : zero.amount = 0 := by
    have value := (createBy_ok_iff _ _ zero (by rw [Nat.cast_zero]; exact hundredths_zero)).mp isZero
    rw [value.1, Nat.cast_zero]
  obtain ⟨sum, subtotal⟩ := addSubtotals_sum o.currency o.items zero o.subtotal start items added
  rw [nothing, zero_add] at sum
  exact ⟨subtotal, createBy_proper _ _ _ created.tax, createBy_proper _ _ _ created.shippingCost,
    fun item mem => ⟨(items item mem).unitPrice.currency, (items item mem).originalPrice.currency⟩,
    sum⟩

def givenTo (params : CreateOrderParams) : Given :=
  ⟨textOrNull params.discountId, amountOrZero params.discountAmount⟩

theorem created_lawful (h : Order.create .fin generated params clk = .ok o) :
    MoneyLaw (givenTo params) o := by
  have created := create_created .fin o generated params clk h
  have priced := created_priced generated params clk o h
  obtain ⟨total, currency⟩ := (billed_ok_iff o _ _ priced
    (createBy_proper _ _ _ created.discountAmount)).mp created.total
  exact moneyLaw_of_priced _ o priced total currency created.discountId created.discountAmount

/-- From `create` on, the law of the money holds in every state of a run just when every
discount that is applied before a terminal status is at most the sum of the amounts, or
is no amount and names the discount that the order has. -/
theorem money_invariant_iff (created : Order.create .fin generated params clk = .ok o)
    (run : List Step) :
    Throughout watch Lawful ⟨o, givenTo params⟩ run ↔
      Along watch Accepts ⟨o, givenTo params⟩ run :=
  run_lawful_iff _ run (created_priced generated params clk o created)
    (created_lawful generated params clk o created)

end Created

section Samples

/-- A discount of 20 on an order of 120, the payment, and the removal of the discount. -/
theorem sample_money_invariant :
    Throughout watch Lawful ⟨sample, givenTo sampleParams⟩
      [(.applyDiscount "d1" (.ofNat 20), 6), (.markAsPaid, 7), (.removeDiscount, 8)] := by
  refine (money_invariant_iff sampleGenerated sampleParams (.still 5) sample sample_created
    _).mpr ⟨?_, nofun, nofun, trivial⟩
  rintro id amount ⟨⟩ -
  have made : createBy .fin (.ofNat 20) sample.currency =
      .ok ⟨20, "IDR", by norm_num, by decide⟩ := by decide +kernel
  constructor
  · intro m same
    obtain rfl := Except.ok.inj (made.symm.trans same)
    decide +kernel
  · exact fun none => absurd made (none _)

/-- A discount of 150 on an order of 120 is refused, and stays stored with the total of
120. -/
theorem refused_discount_stays :
    Order.create .fin sampleGenerated sampleParams (.still 5) = .ok sample ∧
      ¬ (Order.applyDiscount .fin "d1" (.ofNat 150) 6 sample).Returns ∧
      ¬ Throughout watch Lawful ⟨sample, givenTo sampleParams⟩
        [(.applyDiscount "d1" (.ofNat 150), 6)] := by
  refine ⟨sample_created, by decide +kernel, fun h => ?_⟩
  have total := h.2.total
  revert total
  decide +kernel

end Samples

end KeramikStore.OrderMoney
