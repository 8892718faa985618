import KeramikStore.Library.Binary64

/-!
# Arithmetic of counts

Differences and products of counts are exact while they have 53 bits. A quotient is
rounded before it is raised to the next integer. That of two counts is an integer or
lies above the last one by at least one part of its divisor, and rounding moves it by
less than that, so it is raised to the same integer as the exact quotient.
-/

set_option autoImplicit false

namespace Library.Binary64

theorem half_lastPlace_lt (a n : ℕ) (some : 0 < a) (ha : a < 2 ^ 53) (hn : 0 < n)
    (finite : (n : ℚ) < overflow) : (2 : ℚ) ^ lastPlace (a / n) / 2 < 1 / n := by
  have divisor : (0 : ℚ) < n := Nat.cast_pos.mpr hn
  have quotient : (0 : ℚ) < a / n := div_pos (Nat.cast_pos.mpr some) divisor
  have bits : (a : ℚ) < 2 ^ 53 := by exact_mod_cast ha
  have log : (2 : ℚ) ^ Int.log 2 ((a : ℚ) / n) ≤ a / n := Int.zpow_log_le_self one_lt_two quotient
  unfold lastPlace
  rw [abs_of_pos quotient]
  by_cases normal : -1022 ≤ Int.log 2 ((a : ℚ) / n)
  · -- the last place is that of 53 bits
    rw [max_eq_left normal, zpow_sub₀ two_ne_zero, div_div, div_lt_div_iff₀ (by positivity) divisor]
    rw [le_div_iff₀ divisor] at log
    norm_num
    linarith
  · -- the least place of all, which is below that of any divisor
    rw [max_eq_right (by omega), div_lt_div_iff₀ two_pos divisor]
    have power : overflow = 2 ^ (1024 : ℤ) := (zpow_natCast 2 1024).symm
    calc (2 : ℚ) ^ (-1022 - 52 : ℤ) * n < 2 ^ (-1022 - 52 : ℤ) * overflow :=
          mul_lt_mul_of_pos_left finite (two_zpow_pos _)
      _ = 2 ^ (-50 : ℤ) := by
          rw [power, ← zpow_add₀ two_ne_zero]
          rfl
      _ ≤ 1 * 2 := by norm_num

theorem abs_nearest_quotient_lt (a n : ℕ) (ha : a < 2 ^ 53) (hn : 0 < n)
    (finite : (n : ℚ) < overflow) : |nearest (a / n) - a / n| < 1 / n := by
  by_cases some : a = 0
  · have part : (0 : ℚ) < 1 / n := one_div_pos.mpr (Nat.cast_pos.mpr hn)
    simpa [some] using part
  · exact (abs_nearest_sub_le _).trans_lt
      (half_lastPlace_lt a n (Nat.pos_of_ne_zero some) ha hn finite)

/-- The quotient of two counts, raised to an integer. -/
theorem ceil_nearest_quotient (a n : ℕ) (ha : a < 2 ^ 53) (hn : 0 < n)
    (finite : (n : ℚ) < overflow) : ⌈nearest (a / n)⌉ = ((a + n - 1) / n : ℕ) := by
  have divisor : (0 : ℚ) < n := Nat.cast_pos.mpr hn
  have moved := (abs_lt.mp (abs_nearest_quotient_lt a n ha hn finite)).1
  obtain ⟨k, hk⟩ : ∃ k, (a + n - 1) / n = k := ⟨_, rfl⟩
  obtain ⟨low, high⟩ := (Nat.div_eq_iff hn).mp hk
  have above : (a : ℚ) / n ≤ k := by
    rw [div_le_iff₀ divisor]
    exact_mod_cast (by omega : a ≤ k * n)
  have below : (k : ℚ) - 1 ≤ a / n - 1 / n := by
    rw [div_sub_div_same, le_div_iff₀ divisor, sub_mul, one_mul]
    have : (k : ℚ) * n + 1 ≤ a + n := by exact_mod_cast (by omega : k * n + 1 ≤ a + n)
    linarith
  have bits : k < 2 ^ 53 := by
    have : k ≤ a := by
      rw [← hk, ← Nat.lt_succ_iff, Nat.div_lt_iff_lt_mul hn, Nat.succ_mul]
      have := Nat.le_mul_of_pos_right a hn
      omega
    omega
  rw [hk, Int.ceil_eq_iff, Int.cast_natCast]
  exact ⟨by linarith, nearest_le_natCast k _ bits (div_nonneg (Nat.cast_nonneg a) divisor.le) above⟩

end Library.Binary64

namespace Library.JsNumber
open Binary64

def div : JsNumber → JsNumber → JsNumber
  | nan, _ => nan
  | _, nan => nan
  | fin a, fin b =>
    if b ≠ 0 then represent (a / b) else if a = 0 then nan else if 0 < a then posInf else negInf
  | fin _, _ => fin 0
  | a, fin b => if b < 0 then a.neg else a
  | _, _ => nan

def mathCeil : JsNumber → JsNumber
  | fin q => fin ⌈q⌉
  | x => x

@[simp] theorem position_ofNat (n : ℕ) : (ofNat n).position = some n := by
  simp [ofNat, position]

@[simp] theorem ofNat_lt_ofNat (a b : ℕ) : (ofNat a).lt (ofNat b) = decide (a < b) := by
  simp [ofNat, lt]

theorem ofNat_eq_iff (a b : ℕ) : ofNat a = ofNat b ↔ a = b := by
  simp [ofNat]

theorem ofNat_succ_sub_one (n : ℕ) (h : n < 2 ^ 53) : (ofNat (n + 1)).sub (ofNat 1) = ofNat n := by
  show represent ((n + 1 : ℕ) + -(1 : ℕ)) = fin n
  rw [Nat.cast_add, add_neg_cancel_right, represent_natCast n h]

theorem ofNat_mul_ofNat (a b : ℕ) (exact : represent (a * b : ℕ) = fin (a * b : ℕ)) :
    (ofNat a).mul (ofNat b) = ofNat (a * b) := by
  show represent ((a : ℚ) * b) = fin (a * b : ℕ)
  rw [← exact, Nat.cast_mul]

/-- A quotient of counts is raised to the integer of the exact quotient. -/
theorem mathCeil_div_ofNat (a n : ℕ) (ha : a < 2 ^ 53) (hn : 0 < n)
    (finite : (n : ℚ) < overflow) :
    mathCeil (div (ofNat a) (ofNat n)) = ofNat ((a + n - 1) / n) := by
  have quotient : (a : ℚ) / n ≤ a := div_le_self (Nat.cast_nonneg a) (by exact_mod_cast hn)
  have nonneg : (0 : ℚ) ≤ a / n := div_nonneg (Nat.cast_nonneg a) (Nat.cast_nonneg n)
  have nonzero : (n : ℚ) ≠ 0 := Nat.cast_ne_zero.mpr hn.ne'
  rw [ofNat, ofNat, ofNat, div, if_pos nonzero, represent_of_le _ a ha nonneg quotient, mathCeil,
    ceil_nearest_quotient a n ha hn finite, Int.cast_natCast]

end Library.JsNumber
