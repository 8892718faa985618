import KeramikStore.Discount.OnOrders
import KeramikStore.Discount.Updates

/-!
# Discounts in exact decimals

The share of a purchase, or the fixed amount, is cut to the cap, rounded to hundredths
and cut to the purchase. Each of the three steps is monotone. A cap of zero is taken for
no cap before the constructor can refuse it.
-/

set_option autoImplicit false

namespace KeramikStore.DiscountAmounts
open Library DiscountOnOrder DiscountUpdates

section Rounding

theorem cents_mono (x y : ℚ) (h : x ≤ y) : cents x ≤ cents y := by
  have floors : ⌊x * 100 + 1 / 2⌋ ≤ ⌊y * 100 + 1 / 2⌋ := Int.floor_mono (by linarith)
  unfold cents
  gcongr

theorem cents_hundredths (x : ℚ) (h : Money.Hundredths x) : cents x = x :=
  JsNumber.fin.inj (Money.roundedBy_hundredths x h)

theorem hundredths_cents (x : ℚ) : Money.Hundredths (cents x) := ⟨_, rfl⟩

theorem cents_pos (x : ℚ) (h : Money.Hundredths x) (positive : 0 < x) : 0 < cents x :=
  (cents_hundredths x h).symm ▸ positive

end Rounding

section Amounts

variable (v : DiscountValue)

theorem share_mono (p p' : ℚ) (h : p ≤ p') : share v p ≤ share v p' := by
  have part : p * v.value * (1 / 100) ≤ p' * v.value * (1 / 100) := by
    have scaled := mul_le_mul_of_nonneg_right h v.positive.le
    linarith
  unfold share
  split
  · split
    · exact part
    next max _ => exact min_le_min_left max part
  · exact le_rfl

theorem share_le_cap (p max : ℚ) (percentage : v.type = "PERCENTAGE")
    (limit : v.maxDiscount = some max) : share v p ≤ max := by
  unfold share
  rw [if_pos percentage, limit]
  exact min_le_left _ _

end Amounts

section Created

variable (toUpperCase : String → String) (fixedText : ℚ → String) (props : DiscountValue.Props)
  (v : DiscountValue)

structure Bounded : Prop where
  within : ∀ p, 0 ≤ p → ∃ q,
    v.calculateDiscount (exactHost toUpperCase fixedText) (.fin p) = .fin q ∧ 0 ≤ q ∧ q ≤ p
  monotone : ∀ p p', 0 ≤ p → p ≤ p' →
    (v.calculateDiscount (exactHost toUpperCase fixedText) (.fin p)).le
      (v.calculateDiscount (exactHost toUpperCase fixedText) (.fin p')) = true
  capped : props.type = "PERCENTAGE" → ∀ max, props.maxDiscount = some (.fin max) → ∀ p, 0 ≤ p →
    (v.calculateDiscount (exactHost toUpperCase fixedText) (.fin p)).le
      (Money.roundedBy .fin (.fin max)) = true

theorem le_fin_iff (p q : ℚ) : (JsNumber.fin p).le (.fin q) = true ↔ p ≤ q := by
  simp [JsNumber.le, JsNumber.ge, JsNumber.lt]

theorem calculateDiscount_within (p : ℚ) (h : 0 ≤ p) : ∃ q,
    v.calculateDiscount (exactHost toUpperCase fixedText) (.fin p) = .fin q ∧ 0 ≤ q ∧ q ≤ p := by
  rw [calculateDiscount_eq]
  exact ⟨_, rfl, le_min (rounded_nonneg _ (share_nonneg v p h)) h, min_le_right _ _⟩

theorem calculateDiscount_mono (p p' : ℚ) (h : p ≤ p') :
    (v.calculateDiscount (exactHost toUpperCase fixedText) (.fin p)).le
      (v.calculateDiscount (exactHost toUpperCase fixedText) (.fin p')) = true := by
  rw [calculateDiscount_eq, calculateDiscount_eq, le_fin_iff]
  exact min_le_min (cents_mono _ _ (share_mono v p p' h)) h

section Accepted

variable {toUpperCase fixedText props v}
  (accepted : DiscountValue.create (exactHost toUpperCase fixedText) props = .ok v)

include accepted

/-- A cap other than zero is rounded and then holds. -/
theorem calculateDiscount_capped (p max : ℚ) (percentage : props.type = "PERCENTAGE")
    (given : props.maxDiscount = some (.fin max)) (numeric : max ≠ 0) :
    (v.calculateDiscount (exactHost toUpperCase fixedText) (.fin p)).le
      (Money.roundedBy .fin (.fin max)) = true := by
  obtain ⟨type, -, limit⟩ := create_fields _ props v accepted
  have nonzero : JsNumber.fin max ≠ .ofNat 0 := fun zero =>
    numeric ((JsNumber.fin.inj zero).trans Nat.cast_zero)
  have kept : DiscountValue.cap (exactHost toUpperCase fixedText) (some (.fin max)) =
      some (.fin (cents max)) := if_neg nonzero
  rw [given, kept] at limit
  obtain ⟨held, cap, same⟩ := Option.map_eq_some_iff.mp limit
  obtain rfl := JsNumber.fin.inj same
  have below := cents_mono _ _ (share_le_cap v p _ (type.trans percentage) cap)
  rw [cents_hundredths _ (hundredths_cents max)] at below
  rw [calculateDiscount_eq]
  exact (le_fin_iff _ _).mpr ((min_le_left _ _).trans below)

/-- A discount that was made with a cap of zero takes something off a purchase of 100. -/
theorem calculateDiscount_uncapped (percentage : props.type = "PERCENTAGE")
    (given : props.maxDiscount = some (.ofNat 0)) :
    (v.calculateDiscount (exactHost toUpperCase fixedText) (.fin 100)).le
      (Money.roundedBy .fin (.ofNat 0)) = false := by
  obtain ⟨type, value, limit⟩ := create_fields _ props v accepted
  have none_held : v.maxDiscount = none := by
    rw [given] at limit
    exact Option.map_eq_none_iff.mp limit
  have whole : share v 100 = v.value := by
    unfold share
    rw [if_pos (type.trans percentage), none_held]
    ring
  have hundredths : Money.Hundredths v.value := by
    cases number : props.value with
    | fin q =>
      rw [number] at value
      exact ⟨_, JsNumber.fin.inj value⟩
    | _ =>
      rw [number] at value
      cases value
  have positive : 0 < min (cents v.value) 100 :=
    lt_min (cents_pos _ hundredths v.positive) (by norm_num)
  have zero : Money.roundedBy .fin (.ofNat 0) = .fin 0 := by decide +kernel
  rw [calculateDiscount_eq, whole, zero, ← Bool.not_eq_true, le_fin_iff]
  exact not_le.mpr positive

end Accepted

/-- A discount is between zero and the purchase, grows with it and keeps to the cap that was
supplied, unless it is a percentage whose cap was supplied as zero. -/
theorem discount_bounded_iff
    (accepted : DiscountValue.create (exactHost toUpperCase fixedText) props = .ok v) :
    Bounded toUpperCase fixedText props v ↔
      ¬ (props.type = "PERCENTAGE" ∧ props.maxDiscount = some (.ofNat 0)) := by
  constructor
  · rintro bounded ⟨percentage, given⟩
    have most := bounded.capped percentage 0 given 100 (by norm_num)
    rw [show JsNumber.fin 0 = .ofNat 0 from congrArg _ Nat.cast_zero.symm,
      calculateDiscount_uncapped accepted percentage given] at most
    cases most
  · intro numeric
    refine ⟨calculateDiscount_within toUpperCase fixedText v,
      fun p p' _ h => calculateDiscount_mono toUpperCase fixedText v p p' h, ?_⟩
    intro percentage max given p _
    refine calculateDiscount_capped accepted p max percentage given fun zero => ?_
    subst zero
    exact numeric ⟨percentage, given⟩

end Created

section Samples

theorem five_positive : ∀ cap ∈ (some 5 : Option ℚ), 0 < cap := by
  intro cap h
  obtain rfl := Option.some.inj h
  norm_num

def tenPercent (cap : Option ℚ) (capped : ∀ c ∈ cap, 0 < c) : DiscountValue :=
  ⟨"PERCENTAGE", 10, cap, DiscountUsage.sample_positive, capped⟩

theorem capped_bounded :
    Bounded id (fun _ => "") ⟨"PERCENTAGE", .ofNat 10, some (.ofNat 5)⟩
      (tenPercent (some 5) five_positive) :=
  (discount_bounded_iff id (fun _ => "") ⟨"PERCENTAGE", .ofNat 10, some (.ofNat 5)⟩ _
    (by decide +kernel)).mpr (by decide +kernel)

/-- Ten percent that are made with a cap of zero take 10 off a purchase of 100. -/
theorem zero_cap_exceeded :
    DiscountValue.create (exactHost id fun _ => "")
        ⟨"PERCENTAGE", .ofNat 10, some (.ofNat 0)⟩ =
      .ok (tenPercent none DiscountUsage.sample_uncapped) ∧
    (tenPercent none DiscountUsage.sample_uncapped).calculateDiscount
        (exactHost id fun _ => "") (.ofNat 100) = .ofNat 10 ∧
    Money.roundedBy .fin (.ofNat 0) = .ofNat 0 ∧
    ¬ Bounded id (fun _ => "") ⟨"PERCENTAGE", .ofNat 10, some (.ofNat 0)⟩
      (tenPercent none DiscountUsage.sample_uncapped) := by
  have taken : (tenPercent none DiscountUsage.sample_uncapped).calculateDiscount
      (exactHost id fun _ => "") (.ofNat 100) = .ofNat 10 := by
    decide +kernel
  refine ⟨by decide +kernel, taken, by decide +kernel, fun bounded => ?_⟩
  exact absurd (bounded.capped rfl 0 (by decide +kernel) 100 (by norm_num)) (by decide +kernel)

end Samples

end KeramikStore.DiscountAmounts
