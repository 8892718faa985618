import KeramikStore.Library.Binary64
import KeramikStore.Library.Outcome

/-!
# Money

An amount is rounded to hundredths and stored with its currency. The exceptions
of the constructor are kept by their texts. The operations take the function by
which the host represents an exact result: `Binary64.represent`, or `JsNumber.fin`
where amounts are taken for exact decimals.
-/

set_option autoImplicit false

namespace KeramikStore
open Library

structure InvalidMoneyError where
  message : String
deriving DecidableEq, Repr

namespace Money

def validCurrencies : List String := ["IDR", "USD", "EUR", "SGD", "MYR"]

theorem idr_valid : "IDR" ∈ validCurrencies := by decide

end Money

structure Money where
  amount : ℚ
  currency : String
  nonneg : 0 ≤ amount
  valid : currency ∈ Money.validCurrencies
deriving DecidableEq

namespace Money

def rounded (amount : JsNumber) : JsNumber := (amount.scaled 100).mathRound.scaled (1 / 100)

theorem round_near (n : ℕ) (q : ℚ) (few : (n : ℚ) < 100 * 2 ^ 45) (amount : 0 ≤ q)
    (near : |q - n / 100| ≤ 1 / 512) : ((JsNumber.fin q).scaled 100).mathRound = .fin n := by
  obtain ⟨low, high⟩ := abs_le.mp near
  have nonneg : 0 ≤ q * 100 := by positivity
  have bound : q * 100 < 2 ^ 52 := by
    calc q * 100 ≤ (n / 100 + 1 / 512) * 100 := by linarith
      _ < 2 ^ 52 := by linarith
  have represented : Binary64.represent (q * 100) = .fin (Binary64.nearest (q * 100)) := by
    apply Binary64.represent_of_le _ (2 ^ 52) (by decide) nonneg
    exact_mod_cast bound.le
  have rounding : |Binary64.nearest (q * 100) - q * 100| ≤ 1 / 4 := by
    have := Binary64.abs_nearest_sub_le_of_lt (q * 100) 52 (by decide)
      (by rwa [abs_of_nonneg nonneg])
    norm_num at this ⊢
    exact this
  obtain ⟨below, above⟩ := abs_le.mp rounding
  have whole : ⌊Binary64.nearest (q * 100) + 1 / 2⌋ = (n : ℤ) := by
    apply Int.floor_eq_iff.mpr
    rw [Int.cast_natCast]
    constructor <;> linarith
  rw [JsNumber.scaled, represented, JsNumber.mathRound, whole, Int.cast_natCast]

/-- Rounding keeps what it has made of fewer than `100 * 2 ^ 45` hundredths. -/
theorem rounded_hundredths (n : ℕ) (h : n < 100 * 2 ^ 45) :
    rounded (.fin (Binary64.nearest (n / 100))) = .fin (Binary64.nearest (n / 100)) := by
  have few : (n : ℚ) < 100 * 2 ^ 45 := by exact_mod_cast h
  have nonneg : (0 : ℚ) ≤ n / 100 := by positivity
  have small : (n : ℚ) / 100 < 2 ^ 45 := by linarith
  have near : |Binary64.nearest (n / 100) - n / 100| ≤ 1 / 512 := by
    have := Binary64.abs_nearest_sub_le_of_lt (n / 100) 45 (by decide)
      (by rwa [abs_of_nonneg nonneg])
    norm_num at this ⊢
    exact this
  have represented : Binary64.represent (n / 100) = .fin (Binary64.nearest (n / 100)) := by
    apply Binary64.represent_of_le _ (2 ^ 45) (by decide) nonneg
    exact_mod_cast small.le
  rw [rounded, round_near n _ few (Binary64.nearest_nonneg _ nonneg) near, JsNumber.scaled,
    mul_one_div, represented]

/-- An amount is an integer, not above the greatest number, divided by a hundred. -/
theorem rounded_hundredth (a : JsNumber) (q : ℚ) (h : rounded a = .fin q) :
    ∃ n : ℤ, (n : ℚ) ≤ Binary64.largest ∧ q = Binary64.nearest (n * (1 / 100)) := by
  unfold rounded at h
  cases scaled : a.scaled 100 with
  | fin y =>
    rw [scaled] at h
    refine ⟨⌊y + 1 / 2⌋, ?_, Binary64.represent_eq_fin _ _ h⟩
    have bound : y ≤ Binary64.largest := by
      cases a with
      | fin r => exact Binary64.represent_le_largest _ _ scaled
      | _ => cases scaled
    have whole : ⌊Binary64.largest + 1 / 2⌋ = 2 ^ 1024 - 2 ^ 971 := by decide +kernel
    have floors : ⌊y + 1 / 2⌋ ≤ 2 ^ 1024 - 2 ^ 971 := by
      rw [← whole]
      exact Int.floor_mono (by linarith)
    calc (⌊y + 1 / 2⌋ : ℚ) ≤ ((2 ^ 1024 - 2 ^ 971 : ℤ) : ℚ) := Int.cast_le.mpr floors
      _ = Binary64.largest := by decide +kernel
  | _ => rw [scaled] at h; cases h

theorem hundredth_finite (y : ℚ) (nonneg : 0 ≤ y) (finite : y < Binary64.overflow) :
    ∃ q, 0 ≤ q ∧ (JsNumber.fin y).mathRound.scaled (1 / 100) = .fin q := by
  have floors : (0 : ℚ) ≤ ⌊y + 1 / 2⌋ :=
    Int.cast_nonneg (Int.floor_nonneg.mpr (by linarith))
  have quotient : (0 : ℚ) ≤ ⌊y + 1 / 2⌋ * (1 / 100) := by linarith
  have bound : (⌊y + 1 / 2⌋ : ℚ) * (1 / 100) ≤ Binary64.overflow / 64 := by
    have floor := Int.floor_le (y + 1 / 2)
    have room : (Binary64.overflow + 1 / 2) * (1 / 100) ≤ Binary64.overflow / 64 := by
      decide +kernel
    linarith
  have small := (Binary64.nearest_mono _ _ quotient bound).trans_lt
    (by decide +kernel : Binary64.nearest (Binary64.overflow / 64) < Binary64.overflow)
  refine ⟨_, Binary64.nearest_nonneg _ quotient, ?_⟩
  rw [JsNumber.mathRound, JsNumber.scaled, Binary64.represent_of_lt _ quotient small]

/-- What rounding has made can be rounded again. -/
theorem rounded_again (a : JsNumber) (q : ℚ) (h : rounded a = .fin q) (nonneg : 0 ≤ q) :
    ∃ q', 0 ≤ q' ∧ rounded (.fin q) = .fin q' := by
  obtain ⟨n, bound, value⟩ := rounded_hundredth a q h
  have most : q ≤ Binary64.nearest (Binary64.largest * (1 / 100)) := by
    rw [value]
    rcases le_total (n : ℚ) 0 with neg | pos
    · have below : Binary64.nearest (n * (1 / 100)) ≤ 0 :=
        Binary64.nearest_nonpos _ (by linarith)
      exact below.trans (by decide +kernel)
    · exact Binary64.nearest_mono _ _ (by linarith) (by linarith)
  have product : 0 ≤ q * 100 := by linarith
  have times : Binary64.nearest (q * 100) < Binary64.overflow := by
    have mono := Binary64.nearest_mono (q * 100)
      (Binary64.nearest (Binary64.largest * (1 / 100)) * 100) product (by linarith)
    exact mono.trans_lt (by decide +kernel)
  rw [rounded, JsNumber.scaled, Binary64.represent_of_lt _ product times]
  exact hundredth_finite _ (Binary64.nearest_nonneg _ product) times

def create (amount : JsNumber) (currency : String) : Except InvalidMoneyError Money :=
  match rounded amount with
  | .fin q =>
    if nonneg : 0 ≤ q then
      if valid : currency ∈ validCurrencies then .ok ⟨q, currency, nonneg, valid⟩
      else .error ⟨"Invalid currency code: " ++ currency⟩
    else .error ⟨"Amount cannot be negative"⟩
  | _ => .error ⟨"Amount must be a valid number"⟩

def construct (amount : JsNumber) (currency : String) : Except InvalidMoneyError Money :=
  match amount with
  | .fin q =>
    if nonneg : 0 ≤ q then
      if valid : currency ∈ validCurrencies then .ok ⟨q, currency, nonneg, valid⟩
      else .error ⟨"Invalid currency code: " ++ currency⟩
    else .error ⟨"Amount cannot be negative"⟩
  | _ => .error ⟨"Amount must be a valid number"⟩

theorem construct_ok_iff (amount : JsNumber) (currency : String) (m : Money) :
    construct amount currency = .ok m ↔ amount = .fin m.amount ∧ m.currency = currency := by
  constructor
  · intro h
    unfold construct at h
    split at h
    · split_ifs at h
      obtain rfl := Except.ok.inj h
      exact ⟨rfl, rfl⟩
    · cases h
  · rintro ⟨rfl, rfl⟩
    unfold construct
    exact (dif_pos m.nonneg).trans (dif_pos m.valid)

def getAmount (m : Money) : JsNumber := .fin m.amount
def getCurrency (m : Money) : String := m.currency

def zero (currency : String) : Except InvalidMoneyError Money := construct (.ofNat 0) currency

def ensureSameCurrency (m other : Money) : Except InvalidMoneyError Unit :=
  if m.currency = other.currency then .ok ()
  else .error
    ⟨"Cannot operate on different currencies: " ++ m.currency ++ " vs " ++ other.currency⟩

def equals (m other : Money) : Bool := m.amount == other.amount && m.currency == other.currency

def isGreaterThanOrEqual (m other : Money) : Except InvalidMoneyError Bool := do
  m.ensureSameCurrency other
  return other.amount ≤ m.amount

section Arithmetic

variable (host : ℚ → JsNumber)

def roundedBy (amount : JsNumber) : JsNumber :=
  ((amount.apply host (· * 100)).mathRound).apply host (· * (1 / 100))

def createBy (amount : JsNumber) (currency : String) : Except InvalidMoneyError Money :=
  construct (roundedBy host amount) currency

def add (m other : Money) : Except InvalidMoneyError Money := do
  m.ensureSameCurrency other
  createBy host (host (m.amount + other.amount)) m.currency

def subtract (m other : Money) : Except InvalidMoneyError Money := do
  m.ensureSameCurrency other
  createBy host (host (m.amount - other.amount)) m.currency

def multiply (m : Money) (multiplier : JsNumber) : Except InvalidMoneyError Money :=
  match multiplier with
  | .fin r => createBy host (host (m.amount * r)) m.currency
  | _ => .error ⟨"Multiplier must be a valid number"⟩

end Arithmetic

end Money

end KeramikStore
