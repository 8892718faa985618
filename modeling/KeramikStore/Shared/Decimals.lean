import Mathlib.Data.Rat.Floor
import Mathlib.Tactic.Ring
import KeramikStore.Shared.Money

/-!
# Money in exact decimals

Where the host's results are exact, an amount is a number of hundredths, and so are
sums, differences and multiples of amounts: the rounding changes none of them. An
operation then fails only on different currencies or where its result is negative.
-/

set_option autoImplicit false

namespace KeramikStore
open Library

namespace Money

def Hundredths (q : ℚ) : Prop := ∃ n : ℤ, q = n * (1 / 100)

theorem hundredths_zero : Hundredths 0 := ⟨0, by norm_num⟩

theorem hundredths_add (p q : ℚ) (hp : Hundredths p) (hq : Hundredths q) : Hundredths (p + q) := by
  obtain ⟨m, rfl⟩ := hp
  obtain ⟨n, rfl⟩ := hq
  exact ⟨m + n, by push_cast; ring⟩

theorem hundredths_sub (p q : ℚ) (hp : Hundredths p) (hq : Hundredths q) : Hundredths (p - q) := by
  obtain ⟨m, rfl⟩ := hp
  obtain ⟨n, rfl⟩ := hq
  exact ⟨m - n, by push_cast; ring⟩

theorem hundredths_mul (q : ℚ) (k : ℕ) (h : Hundredths q) : Hundredths (q * k) := by
  obtain ⟨n, rfl⟩ := h
  exact ⟨n * k, by push_cast; ring⟩

theorem roundedBy_fin (q : ℚ) :
    roundedBy .fin (.fin q) = .fin (⌊q * 100 + 1 / 2⌋ * (1 / 100)) := rfl

theorem roundedBy_hundredths (q : ℚ) (h : Hundredths q) : roundedBy .fin (.fin q) = .fin q := by
  obtain ⟨n, rfl⟩ := h
  have cents : (n : ℚ) * (1 / 100) * 100 + 1 / 2 = n + 1 / 2 := by ring
  have half : ⌊(1 / 2 : ℚ)⌋ = 0 := by norm_num
  rw [roundedBy_fin, cents, Int.floor_intCast_add, half, add_zero]

theorem createBy_hundredths (amount : JsNumber) (currency : String) (m : Money)
    (h : createBy .fin amount currency = .ok m) :
    Hundredths m.amount ∧ m.currency = currency := by
  obtain ⟨value, same⟩ := (construct_ok_iff _ _ _).mp h
  cases amount with
  | fin q =>
    rw [roundedBy_fin] at value
    exact ⟨⟨_, (JsNumber.fin.inj value).symm⟩, same⟩
  | _ => cases value

theorem createBy_ok_iff (q : ℚ) (currency : String) (m : Money) (h : Hundredths q) :
    createBy .fin (.fin q) currency = .ok m ↔ m.amount = q ∧ m.currency = currency := by
  unfold createBy
  rw [construct_ok_iff, roundedBy_hundredths q h, JsNumber.fin.injEq, eq_comm]

theorem zero_eq (currency : String) : zero currency = createBy .fin (.ofNat 0) currency := by
  have rounded : roundedBy .fin (.ofNat 0) = .ofNat 0 :=
    roundedBy_hundredths _ (by rw [Nat.cast_zero]; exact hundredths_zero)
  rw [createBy, rounded, zero]

section Operations

variable (m n s : Money)

theorem ensureSameCurrency_ok (h : m.currency = n.currency) :
    m.ensureSameCurrency n = .ok () := if_pos h

theorem add_ok_iff (hm : Hundredths m.amount) (hn : Hundredths n.amount)
    (same : m.currency = n.currency) :
    m.add .fin n = .ok s ↔ s.amount = m.amount + n.amount ∧ s.currency = m.currency := by
  unfold add
  rw [ensureSameCurrency_ok m n same]
  exact createBy_ok_iff _ _ s (hundredths_add _ _ hm hn)

theorem subtract_ok_iff (hm : Hundredths m.amount) (hn : Hundredths n.amount)
    (same : m.currency = n.currency) :
    m.subtract .fin n = .ok s ↔ s.amount = m.amount - n.amount ∧ s.currency = m.currency := by
  unfold subtract
  rw [ensureSameCurrency_ok m n same]
  exact createBy_ok_iff _ _ s (hundredths_sub _ _ hm hn)

theorem multiply_ok_iff (k : ℕ) (hm : Hundredths m.amount) :
    m.multiply .fin (.ofNat k) = .ok s ↔
      s.amount = m.amount * k ∧ s.currency = m.currency :=
  createBy_ok_iff _ _ s (hundredths_mul _ k hm)

def plus (m n : Money) : Money :=
  ⟨m.amount + n.amount, m.currency, add_nonneg m.nonneg n.nonneg, m.valid⟩

theorem add_eq_plus (hm : Hundredths m.amount) (hn : Hundredths n.amount)
    (same : m.currency = n.currency) : m.add .fin n = .ok (m.plus n) :=
  (add_ok_iff m n _ hm hn same).mpr ⟨rfl, rfl⟩

end Operations

end Money

end KeramikStore
