import KeramikStore.Discount.Usage
import KeramikStore.Order.MoneyInvariant

/-!
# Discounts on orders

In exact decimals a discount on a subtotal is a number of hundredths between zero and
the subtotal, so an order that is not in a terminal status accepts it, and is left
with at least its tax and its shipping cost.
-/

set_option autoImplicit false

namespace KeramikStore.DiscountOnOrder
open Library Library.Runs Money OrderEffects OrderMoney

theorem mathMin_fin (p q : ℚ) : mathMin (.fin p) (.fin q) = .fin (min p q) := by
  unfold mathMin
  by_cases less : p < q
  · rw [min_eq_left less.le]
    simp [JsNumber.lt, less]
  · rw [min_eq_right (not_lt.mp less)]
    simp [JsNumber.lt, less]

def cents (x : ℚ) : ℚ := ⌊x * 100 + 1 / 2⌋ * (1 / 100)

theorem rounded_nonneg (x : ℚ) (h : 0 ≤ x) : 0 ≤ cents x := by
  have cents : (0 : ℤ) ≤ ⌊x * 100 + 1 / 2⌋ := Int.floor_nonneg.mpr (by linarith)
  exact mul_nonneg (Int.cast_nonneg cents) (by norm_num)

section Amounts

variable (toUpperCase : String → String) (fixedText : ℚ → String)

/-- A host with exact results. -/
def exactHost : DiscountHost := ⟨.fin, toUpperCase, fixedText⟩

def share (v : DiscountValue) (p : ℚ) : ℚ :=
  if v.type = "PERCENTAGE" then
    match v.maxDiscount with
    | none => p * v.value * (1 / 100)
    | some max => min max (p * v.value * (1 / 100))
  else v.value

variable (v : DiscountValue)

theorem percentageOf_eq (p : ℚ) (percentage : v.type = "PERCENTAGE") :
    v.percentageOf (exactHost toUpperCase fixedText) (.fin p) = .fin (share v p) := by
  unfold DiscountValue.percentageOf share
  rw [if_pos percentage]
  cases v.maxDiscount with
  | none => rfl
  | some max =>
    change (if decide (max < p * v.value * (1 / 100)) = true then JsNumber.fin max
      else .fin (p * v.value * (1 / 100))) = .fin (min max (p * v.value * (1 / 100)))
    rw [min_def_lt, apply_ite JsNumber.fin]
    simp only [decide_eq_true_eq]

theorem calculateDiscount_eq (p : ℚ) :
    v.calculateDiscount (exactHost toUpperCase fixedText) (.fin p) =
      .fin (min (cents (share v p)) p) := by
  unfold DiscountValue.calculateDiscount
  split
  next percentage =>
    rw [percentageOf_eq toUpperCase fixedText v p percentage]
    exact mathMin_fin _ _
  next fixed =>
    have amount : share v p = v.value := if_neg fixed
    rw [amount]
    exact mathMin_fin _ _

theorem share_nonneg (p : ℚ) (h : 0 ≤ p) : 0 ≤ share v p := by
  have part : 0 ≤ p * v.value * (1 / 100) :=
    mul_nonneg (mul_nonneg h v.positive.le) (by norm_num)
  unfold share
  split
  · split
    · exact part
    next max limit => exact le_min (v.capped max limit).le part
  · exact v.positive.le

/-- A discount is a number of hundredths, not negative and not above the purchase. -/
theorem calculateDiscount_bounds (purchase : ℚ) (h : 0 ≤ purchase)
    (hundredths : Hundredths purchase) :
    ∃ q, v.calculateDiscount (exactHost toUpperCase fixedText) (.fin purchase) = .fin q ∧
      Hundredths q ∧ 0 ≤ q ∧ q ≤ purchase := by
  refine ⟨_, calculateDiscount_eq toUpperCase fixedText v purchase, ?_,
    le_min (rounded_nonneg _ (share_nonneg v purchase h)) h, min_le_right _ _⟩
  rcases min_choice (cents (share v purchase)) purchase with least | least
  · rw [least]
    exact ⟨_, rfl⟩
  · rw [least]
    exact hundredths

end Amounts

theorem setDiscount_done (host : ℚ → JsNumber) (id : Option String) (m t : Money) (now : Date)
    (o : Order) (running : o.isTerminal = false) (total : billed host o m = .ok t) :
    Order.setDiscount host id (.ok m) now o = .done
      { o with discountId := id, discountAmount := m, total := t, updatedAt := now } := by
  unfold billed at total
  unfold Order.setDiscount Order.ensureNotTerminal Order.recalculateTotal
  rw [running]
  dsimp only
  rw [total]
  rfl

/-- What a discount of some hundredths, not above the subtotal, leaves of an order. -/
theorem applyDiscount_done (id : String) (q : ℚ) (now : Date) (o : Order)
    (running : o.isTerminal = false) (priced : Priced o) (hundredths : Hundredths q)
    (nonneg : 0 ≤ q) (within : q ≤ o.subtotal.amount) :
    ∃ t : Money, t.amount = gross o - q ∧
      Order.applyDiscount .fin id (.fin q) now o = .done
        { o with
          discountId := some id
          discountAmount := ⟨q, o.currency, nonneg, priced.subtotal.currency ▸ o.subtotal.valid⟩
          total := t
          updatedAt := now } := by
  have valid : o.currency ∈ validCurrencies := priced.subtotal.currency ▸ o.subtotal.valid
  have made : createBy .fin (.fin q) o.currency = .ok ⟨q, o.currency, nonneg, valid⟩ :=
    (createBy_ok_iff q o.currency _ hundredths).mpr ⟨rfl, rfl⟩
  have rest : 0 ≤ gross o - q := by
    have tax := o.tax.nonneg
    have shippingCost := o.shippingCost.nonneg
    unfold gross
    linarith
  have total := (billed_ok_iff o ⟨q, o.currency, nonneg, valid⟩ ⟨_, o.currency, rest, valid⟩ priced
    ⟨hundredths, rfl⟩).mpr ⟨rfl, rfl⟩
  refine ⟨⟨gross o - q, o.currency, rest, valid⟩, rfl, ?_⟩
  unfold Order.applyDiscount
  rw [made]
  exact setDiscount_done .fin (some id) _ _ now o running total

/-- The discount that is computed on the subtotal of an order in any state before its
terminal one is accepted by it, and leaves the tax and the shipping cost. -/
theorem discount_fits_order (toUpperCase : String → String) (fixedText : ℚ → String)
    (generated : Order.Generated) (params : CreateOrderParams) (clk : Clock) (first o : Order)
    (created : Order.create .fin generated params clk = .ok first) (run : List Step)
    (reached : after (step .fin) first run = o) (running : o.isTerminal = false)
    (d used : Discount) (orderId : String) (time : Option Date) (changed now : Date)
    (amount : JsNumber)
    (applied : d.applyToOrder (exactHost toUpperCase fixedText) orderId o.subtotal.getAmount
      o.currency time changed = .ok (amount, used)) :
    ∃ q, amount = .fin q ∧
      (Order.applyDiscount .fin d.id.getValue amount now o).Returns ∧
      (Order.applyDiscount .fin d.id.getValue amount now o).state.total.amount =
        o.subtotal.amount + o.tax.amount + o.shippingCost.amount - q ∧
      o.tax.amount + o.shippingCost.amount ≤
        (Order.applyDiscount .fin d.id.getValue amount now o).state.total.amount ∧
      (Order.applyDiscount .fin d.id.getValue amount now o).state.total.amount ≤
        o.subtotal.amount + o.tax.amount + o.shippingCost.amount := by
  have priced : Priced o := by
    rw [← reached]
    exact throughout_end (step .fin) Priced first run <|
      throughout_of_keep (step .fin) Priced (fun p a h => step_priced p a h) first run
        (created_priced generated params clk first created)
  obtain ⟨-, -, result⟩ := (bind_ok_iff _ _ _).mp applied
  obtain ⟨rfl, -⟩ := Prod.mk.inj (Except.ok.inj result)
  obtain ⟨q, value, hundredths, nonneg, within⟩ := calculateDiscount_bounds toUpperCase fixedText
    d.discountValue o.subtotal.amount o.subtotal.nonneg priced.subtotal.hundredths
  have given : d.calculateDiscount (exactHost toUpperCase fixedText) o.subtotal.getAmount =
      .fin q := value
  obtain ⟨t, total, done⟩ := applyDiscount_done d.id.getValue q now o running priced hundredths
    nonneg within
  rw [given, done]
  unfold gross at total
  refine ⟨q, rfl, Outcome.returns_done _, total, ?_, ?_⟩
  · rw [Outcome.state_done, total]
    linarith
  · rw [Outcome.state_done, total]
    linarith

section Samples

theorem sample_applied :
    (DiscountUsage.sampleDiscount none).applyToOrder (exactHost id fun _ => "") "o1"
        sample.subtotal.getAmount sample.currency (some 50) 51 =
      .ok (.fin 10, DiscountUsage.used (exactHost id fun _ => "")
        (DiscountUsage.sampleDiscount none) "o1" sample.subtotal.getAmount sample.currency 51) := by
  decide +kernel

theorem sample_discount_fits_order :
    ∃ q, JsNumber.fin 10 = .fin q ∧
      (Order.applyDiscount .fin UserId.sample.value (.fin 10) 52 sample).Returns ∧
      (Order.applyDiscount .fin UserId.sample.value (.fin 10) 52 sample).state.total.amount =
        sample.subtotal.amount + sample.tax.amount + sample.shippingCost.amount - q ∧
      sample.tax.amount + sample.shippingCost.amount ≤
        (Order.applyDiscount .fin UserId.sample.value (.fin 10) 52 sample).state.total.amount ∧
      (Order.applyDiscount .fin UserId.sample.value (.fin 10) 52 sample).state.total.amount ≤
        sample.subtotal.amount + sample.tax.amount + sample.shippingCost.amount :=
  discount_fits_order id (fun _ => "") sampleGenerated sampleParams (.still 5) sample sample
    sample_created [] rfl rfl (DiscountUsage.sampleDiscount none) _ "o1" (some 50) 51 52 (.fin 10)
    sample_applied

end Samples

end KeramikStore.DiscountOnOrder
