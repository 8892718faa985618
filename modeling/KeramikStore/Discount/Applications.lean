import KeramikStore.Discount.Usage

/-!
# Applications of a discount

An application repeats the checks of the preview and then looks at the minimum. It
returns just where the preview allows it and the purchase meets the minimum, and it
assigns only after its last check.
-/

set_option autoImplicit false

namespace KeramikStore.DiscountApplications
open Library DiscountUsage

section Checks

def MeetsMinimum (host : DiscountHost) (purchaseAmount : JsNumber) (currency : String)
    (d : Discount) : Prop :=
  d.minPurchase = none ∨ ∃ min amount : Money, d.minPurchase = some min ∧
    Money.createBy host.represent purchaseAmount currency = .ok amount ∧
    amount.currency = min.currency ∧ min.amount ≤ amount.amount

variable (host : DiscountHost) (purchaseAmount : JsNumber) (currency : String)
  (now : Option Date) (d : Discount)

theorem isGreaterThanOrEqual_ok_iff (m other : Money) (b : Bool) :
    m.isGreaterThanOrEqual other = .ok b ↔
      m.currency = other.currency ∧ decide (other.amount ≤ m.amount) = b := by
  unfold Money.isGreaterThanOrEqual Money.ensureSameCurrency
  split
  next same =>
    refine Iff.trans ?_ (and_iff_right same).symm
    exact ⟨Except.ok.inj, congrArg _⟩
  next differs => exact ⟨nofun, fun h => absurd h.1 differs⟩

theorem meetsPurchaseMinimum_iff (min amount : Money) (given : d.minPurchase = some min) :
    d.meetsPurchaseMinimum amount = .ok true ↔
      amount.currency = min.currency ∧ min.amount ≤ amount.amount := by
  unfold Discount.meetsPurchaseMinimum
  rw [given]
  dsimp only
  constructor
  · intro h
    obtain ⟨b, compared, h⟩ := (bind_ok_iff _ _ _).mp h
    obtain ⟨same, rfl⟩ := (isGreaterThanOrEqual_ok_iff amount min b).mp compared
    have either : decide (min.amount ≤ amount.amount) = true ∨ amount.equals min = true :=
      (Bool.or_eq_true _ _).mp (Except.ok.inj h)
    refine ⟨same, either.elim of_decide_eq_true fun equal => ?_⟩
    have amounts : amount.amount = min.amount ∧ amount.currency = min.currency := by
      simpa [Money.equals] using equal
    exact amounts.1.ge
  · rintro ⟨same, least⟩
    refine (bind_ok_iff _ _ _).mpr ⟨true, ?_, rfl⟩
    exact (isGreaterThanOrEqual_ok_iff amount min true).mpr ⟨same, decide_eq_true least⟩

theorem checkMinimum_ok_iff :
    d.checkMinimum host purchaseAmount currency = .ok () ↔
      MeetsMinimum host purchaseAmount currency d := by
  unfold Discount.checkMinimum MeetsMinimum
  cases given : d.minPurchase with
  | none => exact iff_of_true rfl (.inl rfl)
  | some min =>
    constructor
    · intro h
      obtain ⟨amount, made, h⟩ := (bind_ok_iff _ _ _).mp h
      obtain ⟨meets, compared, h⟩ := (bind_ok_iff _ _ _).mp h
      obtain rfl : meets = true := by
        cases meets with
        | true => rfl
        | false => cases h
      obtain ⟨same, least⟩ := (meetsPurchaseMinimum_iff d min amount given).mp
        ((mapError_ok_iff _ _ _).mp compared)
      exact .inr ⟨min, amount, rfl, (mapError_ok_iff _ _ _).mp made, same, least⟩
    · rintro (absent | ⟨_, amount, there, made, same, least⟩)
      · cases absent
      obtain rfl := Option.some.inj there
      have compared := (meetsPurchaseMinimum_iff d min amount given).mpr ⟨same, least⟩
      refine (bind_ok_iff _ _ _).mpr ⟨amount, (mapError_ok_iff _ _ _).mpr made, ?_⟩
      exact (bind_ok_iff _ _ _).mpr ⟨true, (mapError_ok_iff _ _ _).mpr compared, rfl⟩

/-- The checks are those of the preview and that of the minimum. -/
theorem checkApplicable_ok_iff :
    d.checkApplicable host purchaseAmount currency now = .ok () ↔
      d.canBeApplied now = true ∧ MeetsMinimum host purchaseAmount currency d := by
  rw [← checkMinimum_ok_iff]
  unfold Discount.checkApplicable Discount.canBeApplied
  by_cases active : d.status = .active
  · rw [if_neg (not_not.mpr active), decide_eq_true active, Bool.true_and]
    cases valid : d.period.isCurrentlyValid now with
    | false =>
      refine ⟨fun h => ?_, nofun⟩
      change (if d.period.hasExpired now = true then _ else _) = Except.ok () at h
      split at h <;> cases h
    | true =>
      cases reached : d.isUsageLimitReached with
      | true => exact ⟨nofun, nofun⟩
      | false => exact (and_iff_right rfl).symm
  · rw [if_pos active, decide_eq_false active]
    exact ⟨nofun, nofun⟩

end Checks

section Applications

variable (host : DiscountHost) (d : Discount) (orderId : String) (purchaseAmount : JsNumber)
  (currency : String) (now : Option Date) (changed : Date)

structure Applied (result : JsNumber × Discount) : Prop where
  amount : result.1 = d.discountValue.calculateDiscount host purchaseAmount
  count : result.2.usageCount = d.usageCount + 1
  event : result.2.domainEvents = d.domainEvents ++
    [.discountApplied d.id.getValue d.code.getValue orderId result.1 currency
      result.2.usageCount]

theorem returns_iff :
    (∃ result, d.applyToOrder host orderId purchaseAmount currency now changed = .ok result) ↔
      d.checkApplicable host purchaseAmount currency now = .ok () := by
  cases checked : d.checkApplicable host purchaseAmount currency now with
  | error e =>
    rw [applyToOrder_error host d orderId purchaseAmount currency now changed e checked]
    constructor
    · rintro ⟨result, h⟩
      cases h
    · intro h
      cases h
  | ok =>
    rw [applyToOrder_ok host d orderId purchaseAmount currency now changed checked]
    exact iff_of_true ⟨_, rfl⟩ rfl

theorem returned_applied (result : JsNumber × Discount)
    (h : d.applyToOrder host orderId purchaseAmount currency now changed = .ok result) :
    Applied host d orderId purchaseAmount currency result := by
  have checked := (returns_iff host d orderId purchaseAmount currency now changed).mp ⟨result, h⟩
  rw [applyToOrder_ok host d orderId purchaseAmount currency now changed checked] at h
  obtain rfl := Except.ok.inj h
  exact ⟨rfl, rfl, rfl⟩

theorem thrown_unchanged :
    let call := (DiscountCommand.applyToOrder orderId purchaseAmount currency now).exec host
      changed d
    ¬ call.Returns → call.state = d := by
  dsimp only [DiscountCommand.exec]
  cases d.applyToOrder host orderId purchaseAmount currency now changed with
  | error e => exact Outcome.clean_threw e d
  | ok result => exact Outcome.clean_done d result.2

/-- Whatever the state, the purchase and the time, an application returns just where the
preview allows it and the purchase meets the minimum. It then counts one use and emits
one event, with the amount it returns. Where it throws, nothing has changed. -/
theorem applyToOrder_as_previewed :
    ((∃ result,
        d.applyToOrder host orderId purchaseAmount currency now changed = .ok result) ↔
      d.canBeApplied now = true ∧ MeetsMinimum host purchaseAmount currency d) ∧
    (∀ result, d.applyToOrder host orderId purchaseAmount currency now changed = .ok result →
      Applied host d orderId purchaseAmount currency result) ∧
    (let call := (DiscountCommand.applyToOrder orderId purchaseAmount currency now).exec host
      changed d
    ¬ call.Returns → call.state = d) := by
  refine ⟨?_, returned_applied host d orderId purchaseAmount currency now changed,
    thrown_unchanged host d orderId purchaseAmount currency now changed⟩
  rw [returns_iff]
  exact checkApplicable_ok_iff host purchaseAmount currency now d

end Applications

end KeramikStore.DiscountApplications
