import Mathlib.Data.Int.Log
import Mathlib.Tactic.Linarith
import Mathlib.Tactic.NormNum
import KeramikStore.Library.JsNumber

/-!
# Rounded arithmetic of double-precision numbers

An operation computes the exact result and rounds it to the nearest number with
53 significant bits, a tie going to the even last place. Rounding is monotone and
leaves the integers below `2 ^ 53` alone; between them it does not respect the
difference of an integer and a fraction. The two zeros are one number here.
-/

set_option autoImplicit false

namespace Library.Binary64

def roundEven (y : ℚ) : ℤ :=
  if y - ⌊y⌋ < 1 / 2 then ⌊y⌋
  else if 1 / 2 < y - ⌊y⌋ then ⌊y⌋ + 1
  else if ⌊y⌋ % 2 = 0 then ⌊y⌋ else ⌊y⌋ + 1

def lastPlace (x : ℚ) : ℤ := max (Int.log 2 |x|) (-1022) - 52

def nearest (x : ℚ) : ℚ := roundEven (x / 2 ^ lastPlace x) * 2 ^ lastPlace x

def overflow : ℚ := 2 ^ 1024

def represent (x : ℚ) : JsNumber :=
  if overflow ≤ nearest x then .posInf
  else if nearest x ≤ -overflow then .negInf
  else .fin (nearest x)

theorem floor_le_roundEven (y : ℚ) : ⌊y⌋ ≤ roundEven y := by
  unfold roundEven
  split_ifs <;> omega

theorem roundEven_le_floor (y : ℚ) : roundEven y ≤ ⌊y⌋ + 1 := by
  unfold roundEven
  split_ifs <;> omega

@[simp] theorem roundEven_intCast (n : ℤ) : roundEven n = n := by
  simp [roundEven]

theorem roundEven_mono (x y : ℚ) (h : x ≤ y) : roundEven x ≤ roundEven y := by
  rcases (Int.floor_mono h).lt_or_eq with floors | floors
  · exact (roundEven_le_floor x).trans (floors.trans_le (floor_le_roundEven y))
  · -- both lie in one unit interval, where only the distance to the floor counts
    unfold roundEven
    rw [floors]
    split_ifs
    all_goals first | omega | (exfalso; linarith)

theorem roundEven_le (y : ℚ) (n : ℤ) (h : y ≤ n) : roundEven y ≤ n := by
  rw [← roundEven_intCast n]
  exact roundEven_mono y n h

theorem le_roundEven (y : ℚ) (n : ℤ) (h : n ≤ y) : n ≤ roundEven y := by
  rw [← roundEven_intCast n]
  exact roundEven_mono n y h

theorem two_zpow_pos (e : ℤ) : (0 : ℚ) < 2 ^ e := zpow_pos two_pos e

theorem two_zpow_split (e k : ℤ) (h : e ≤ k) :
    (2 : ℚ) ^ k = ((2 ^ (k - e).toNat : ℤ) : ℚ) * 2 ^ e := by
  have gap : ((k - e).toNat : ℤ) = k - e := Int.toNat_of_nonneg (by omega)
  push_cast
  rw [← zpow_natCast, gap, ← zpow_add₀ two_ne_zero]
  congr 1
  omega

theorem nearest_le_two_zpow (x : ℚ) (k : ℤ) (hk : lastPlace x ≤ k) (h : x ≤ 2 ^ k) :
    nearest x ≤ 2 ^ k := by
  rw [two_zpow_split _ k hk] at h ⊢
  have place := two_zpow_pos (lastPlace x)
  have scaled : roundEven (x / 2 ^ lastPlace x) ≤ 2 ^ (k - lastPlace x).toNat :=
    roundEven_le _ _ ((div_le_iff₀ place).mpr h)
  exact mul_le_mul_of_nonneg_right (Int.cast_le.mpr scaled) place.le

theorem two_zpow_le_nearest (x : ℚ) (k : ℤ) (hk : lastPlace x ≤ k) (h : 2 ^ k ≤ x) :
    2 ^ k ≤ nearest x := by
  rw [two_zpow_split _ k hk] at h ⊢
  have place := two_zpow_pos (lastPlace x)
  have scaled : 2 ^ (k - lastPlace x).toNat ≤ roundEven (x / 2 ^ lastPlace x) :=
    le_roundEven _ _ ((le_div_iff₀ place).mpr h)
  exact mul_le_mul_of_nonneg_right (Int.cast_le.mpr scaled) place.le

@[simp] theorem nearest_zero : nearest 0 = 0 := by
  have zero : roundEven 0 = 0 := roundEven_intCast 0
  rw [nearest, zero_div, zero, Int.cast_zero, zero_mul]

theorem nearest_nonneg (x : ℚ) (h : 0 ≤ x) : 0 ≤ nearest x := by
  have place := two_zpow_pos (lastPlace x)
  have scaled : (0 : ℤ) ≤ roundEven (x / 2 ^ lastPlace x) :=
    le_roundEven _ 0 (by rw [Int.cast_zero]; exact div_nonneg h place.le)
  exact mul_nonneg (Int.cast_nonneg scaled) place.le

theorem nearest_nonpos (x : ℚ) (h : x ≤ 0) : nearest x ≤ 0 := by
  have place := two_zpow_pos (lastPlace x)
  have scaled : roundEven (x / 2 ^ lastPlace x) ≤ 0 :=
    roundEven_le _ 0 (by rw [Int.cast_zero]; exact div_nonpos_of_nonpos_of_nonneg h place.le)
  exact mul_nonpos_of_nonpos_of_nonneg (Int.cast_nonpos.mpr scaled) place.le

theorem lastPlace_mono (x y : ℚ) (hx : 0 < x) (h : x ≤ y) : lastPlace x ≤ lastPlace y := by
  have logs : Int.log 2 |x| ≤ Int.log 2 |y| := by
    rw [abs_of_pos hx, abs_of_pos (hx.trans_le h)]
    exact Int.log_mono_right hx h
  unfold lastPlace
  omega

/-- Rounding does not change the order of two numbers. -/
theorem nearest_mono (x y : ℚ) (hx : 0 ≤ x) (h : x ≤ y) : nearest x ≤ nearest y := by
  rcases hx.eq_or_lt with rfl | hx
  · rw [nearest_zero]
    exact nearest_nonneg y h
  rcases (lastPlace_mono x y hx h).eq_or_lt with places | places
  · have place := two_zpow_pos (lastPlace y)
    have scaled : roundEven (x / 2 ^ lastPlace y) ≤ roundEven (y / 2 ^ lastPlace y) :=
      roundEven_mono _ _ (div_le_div_of_nonneg_right h place.le)
    unfold nearest
    rw [places]
    exact mul_le_mul_of_nonneg_right (Int.cast_le.mpr scaled) place.le
  · -- a power of two lies between them, and rounding crosses none
    have hy := hx.trans_le h
    have powers : lastPlace y = Int.log 2 y - 52 ∧ Int.log 2 x < Int.log 2 y := by
      unfold lastPlace at places ⊢
      rw [abs_of_pos hx, abs_of_pos hy] at places
      rw [abs_of_pos hy]
      omega
    have low : (2 : ℚ) ^ Int.log 2 y ≤ y := Int.zpow_log_le_self one_lt_two hy
    have high : x ≤ (2 : ℚ) ^ Int.log 2 y :=
      ((Int.lt_zpow_iff_log_lt one_lt_two hx).mpr powers.2).le
    exact (nearest_le_two_zpow x _ (by omega) high).trans
      (two_zpow_le_nearest y _ (by omega) low)

theorem nearest_intCast (n : ℤ) (h : |n| < 2 ^ 53) : nearest n = n := by
  rcases eq_or_ne n 0 with rfl | nonzero
  · rw [Int.cast_zero, nearest_zero]
  have hn : (0 : ℚ) < |(n : ℚ)| := abs_pos.mpr (Int.cast_ne_zero.mpr nonzero)
  have place : lastPlace n ≤ 0 := by
    have small : |(n : ℚ)| < (2 : ℕ) ^ (53 : ℤ) := by exact_mod_cast h
    have := (Int.lt_zpow_iff_log_lt one_lt_two hn).mp small
    unfold lastPlace
    omega
  have whole := two_zpow_split _ 0 place
  rw [zpow_zero] at whole
  have scaled : (n : ℚ) / 2 ^ lastPlace (n : ℚ) =
      ((n * 2 ^ (0 - lastPlace (n : ℚ)).toNat : ℤ) : ℚ) := by
    rw [div_eq_iff (two_zpow_pos _).ne', Int.cast_mul, mul_assoc, ← whole]
    simp
  rw [nearest, scaled, roundEven_intCast, Int.cast_mul, mul_assoc, ← whole]
  simp

@[simp] theorem nearest_natCast (n : ℕ) (h : n < 2 ^ 53) : nearest n = n := by
  have small : |(n : ℤ)| < 2 ^ 53 := by
    rw [Nat.abs_cast]
    exact_mod_cast h
  exact_mod_cast nearest_intCast n small

theorem natCast_le_nearest (n : ℕ) (x : ℚ) (hn : n < 2 ^ 53) (h : n ≤ x) : n ≤ nearest x := by
  rw [← nearest_natCast n hn]
  exact nearest_mono _ _ (Nat.cast_nonneg n) h

theorem nearest_le_natCast (n : ℕ) (x : ℚ) (hn : n < 2 ^ 53) (h0 : 0 ≤ x) (h : x ≤ n) :
    nearest x ≤ n := by
  rw [← nearest_natCast n hn]
  exact nearest_mono _ _ h0 h

/-- A sum of integers that has too many bits is rounded to one that has too many. -/
theorem two_pow_le_nearest (x : ℚ) (h : 2 ^ 53 ≤ x) : 2 ^ 53 ≤ nearest x := by
  have log : Int.log 2 |(2 : ℚ) ^ (53 : ℤ)| = 53 := by
    rw [abs_of_pos (two_zpow_pos 53)]
    exact Int.log_zpow one_lt_two 53
  have place : lastPlace ((2 : ℚ) ^ (53 : ℤ)) ≤ 53 := by
    unfold lastPlace
    rw [log]
    omega
  calc (2 : ℚ) ^ 53 = 2 ^ (53 : ℤ) := by norm_num
    _ ≤ nearest (2 ^ (53 : ℤ)) := two_zpow_le_nearest _ 53 place le_rfl
    _ = nearest (2 ^ 53) := by norm_num
    _ ≤ nearest x := nearest_mono _ _ (by positivity) h

theorem abs_roundEven_sub_le (y : ℚ) : |roundEven y - y| ≤ 1 / 2 := by
  have low := Int.floor_le y
  have high := Int.lt_floor_add_one y
  unfold roundEven
  split_ifs
  all_goals
    push_cast
    rw [abs_le]
    constructor <;> linarith

/-- Rounding moves a number by at most half its last place. -/
theorem abs_nearest_sub_le (x : ℚ) : |nearest x - x| ≤ 2 ^ lastPlace x / 2 := by
  have place := two_zpow_pos (lastPlace x)
  have scaled : nearest x - x =
      (roundEven (x / 2 ^ lastPlace x) - x / 2 ^ lastPlace x) * 2 ^ lastPlace x := by
    rw [nearest, sub_mul, div_mul_cancel₀ _ place.ne']
  calc |nearest x - x|
      = |roundEven (x / 2 ^ lastPlace x) - x / 2 ^ lastPlace x| * 2 ^ lastPlace x := by
        rw [scaled, abs_mul, abs_of_pos place]
    _ ≤ 1 / 2 * 2 ^ lastPlace x :=
        mul_le_mul_of_nonneg_right (abs_roundEven_sub_le _) place.le
    _ = 2 ^ lastPlace x / 2 := by ring

theorem abs_nearest_sub_le_of_lt (x : ℚ) (k : ℕ) (hk : 0 < k) (h : |x| < 2 ^ k) :
    |nearest x - x| ≤ 2 ^ (k - 54 : ℤ) := by
  have place : lastPlace x ≤ k - 53 := by
    unfold lastPlace
    rcases eq_or_ne x 0 with rfl | nonzero
    · rw [abs_zero, Int.log_zero_right]
      omega
    · have small : |x| < (2 : ℕ) ^ (k : ℤ) := by exact_mod_cast h
      have := (Int.lt_zpow_iff_log_lt one_lt_two (abs_pos.mpr nonzero)).mp small
      omega
  calc |nearest x - x| ≤ 2 ^ lastPlace x / 2 := abs_nearest_sub_le x
    _ ≤ 2 ^ (k - 53 : ℤ) / 2 :=
        div_le_div_of_nonneg_right (zpow_le_zpow_right₀ one_lt_two.le place) two_pos.le
    _ = 2 ^ (k - 54 : ℤ) := by
        rw [show (k - 53 : ℤ) = k - 54 + 1 by ring, zpow_add_one₀ two_ne_zero]
        ring

theorem represent_eq_fin (x v : ℚ) (h : represent x = .fin v) : v = nearest x := by
  unfold represent at h
  split_ifs at h
  exact (JsNumber.fin.inj h).symm

theorem represent_of_lt (x : ℚ) (h0 : 0 ≤ x) (h : nearest x < overflow) :
    represent x = .fin (nearest x) := by
  have negative : -overflow < 0 := neg_lt_zero.mpr (pow_pos two_pos _)
  rw [represent, if_neg (not_le.mpr h),
    if_neg (not_le.mpr (negative.trans_le (nearest_nonneg x h0)))]

def largest : ℚ := overflow - 2 ^ 971

/-- Between the greatest number and the overflow there is none. -/
theorem nearest_le_largest (x : ℚ) (h : nearest x < overflow) : nearest x ≤ largest := by
  rcases le_or_gt x (2 ^ 1023) with small | big
  · rcases le_total x 0 with neg | nonneg
    · exact (nearest_nonpos x neg).trans (by decide +kernel)
    · exact (nearest_mono x _ nonneg small).trans (by decide +kernel)
  · -- the last place of such a number is that of the greatest one
    have pos : 0 < x := (pow_pos two_pos 1023).trans big
    have below : x < 2 ^ 1024 := by
      by_contra above
      have reached : nearest (2 ^ 1024) ≤ nearest x :=
        nearest_mono _ _ (pow_pos two_pos _).le (not_lt.mp above)
      exact absurd (reached.trans_lt h) (by decide +kernel)
    have place : lastPlace x = 971 := by
      have low : (2 : ℕ) ^ (1023 : ℤ) ≤ |x| := by
        rw [abs_of_pos pos]
        exact_mod_cast big.le
      have high : |x| < (2 : ℕ) ^ (1024 : ℤ) := by
        rw [abs_of_pos pos]
        exact_mod_cast below
      have from_below := (Int.zpow_le_iff_le_log one_lt_two (abs_pos.mpr pos.ne')).mp low
      have from_above := (Int.lt_zpow_iff_log_lt one_lt_two (abs_pos.mpr pos.ne')).mp high
      unfold lastPlace
      omega
    have unit : (0 : ℚ) < 2 ^ (971 : ℤ) := two_zpow_pos 971
    unfold nearest at h ⊢
    rw [place] at h ⊢
    have bound : overflow = (2 ^ 53 : ℤ) * 2 ^ (971 : ℤ) := by decide +kernel
    rw [bound, mul_lt_mul_iff_left₀ unit, Int.cast_lt] at h
    calc ((roundEven (x / 2 ^ (971 : ℤ)) : ℤ) : ℚ) * 2 ^ (971 : ℤ)
        ≤ ((2 ^ 53 - 1 : ℤ) : ℚ) * 2 ^ (971 : ℤ) :=
          mul_le_mul_of_nonneg_right (Int.cast_le.mpr (by omega)) unit.le
      _ = largest := by decide +kernel

theorem represent_le_largest (x v : ℚ) (h : represent x = .fin v) : v ≤ largest := by
  have value := represent_eq_fin x v h
  have finite : nearest x < overflow := by
    unfold represent at h
    split_ifs at h with beyond
    exact not_le.mp beyond
  exact value.trans_le (nearest_le_largest x finite)

theorem represent_of_le (x : ℚ) (n : ℕ) (hn : n < 2 ^ 53) (h0 : 0 ≤ x) (h : x ≤ n) :
    represent x = .fin (nearest x) := by
  have top : nearest x ≤ n := nearest_le_natCast n x hn h0 h
  have bottom := nearest_nonneg x h0
  have small : (n : ℚ) < 2 ^ 53 := by exact_mod_cast hn
  have bound : (n : ℚ) < overflow := small.trans (pow_lt_pow_right₀ one_lt_two (by decide))
  have negative : -overflow < 0 := neg_lt_zero.mpr (pow_pos two_pos _)
  rw [represent, if_neg (not_le.mpr (top.trans_lt bound)),
    if_neg (not_le.mpr (negative.trans_le bottom))]

theorem represent_natCast (n : ℕ) (h : n < 2 ^ 53) : represent n = .fin n := by
  rw [represent_of_le n n h (Nat.cast_nonneg n) le_rfl, nearest_natCast n h]

theorem represent_intCast (n : ℤ) (h : |n| < 2 ^ 53) : represent n = .fin n := by
  have value := nearest_intCast n h
  have small : |(n : ℚ)| < 2 ^ 53 := by exact_mod_cast h
  have bound : |(n : ℚ)| < overflow :=
    small.trans (pow_lt_pow_right₀ one_lt_two (by decide))
  obtain ⟨bottom, top⟩ := abs_lt.mp bound
  rw [represent, value, if_neg (not_le.mpr top), if_neg (not_le.mpr bottom)]

/-- The difference of two counts is exact. -/
theorem represent_sub_natCast (a b : ℕ) (ha : a < 2 ^ 53) (hb : b < 2 ^ 53) :
    represent ((a : ℚ) + -b) = .fin ((a - b : ℤ) : ℚ) := by
  have small : |(a : ℤ) - b| < 2 ^ 53 := by
    rw [abs_lt]
    omega
  have exact := represent_intCast _ small
  push_cast at exact ⊢
  rw [← sub_eq_add_neg, exact]

end Library.Binary64

namespace Library.JsNumber
open Binary64

def neg : JsNumber → JsNumber
  | nan => nan
  | negInf => posInf
  | posInf => negInf
  | fin q => fin (-q)

def add : JsNumber → JsNumber → JsNumber
  | nan, _ => nan
  | _, nan => nan
  | posInf, negInf => nan
  | negInf, posInf => nan
  | posInf, _ => posInf
  | _, posInf => posInf
  | negInf, _ => negInf
  | _, negInf => negInf
  | fin a, fin b => represent (a + b)

def sub (a b : JsNumber) : JsNumber := add a b.neg

def sign : JsNumber → ℤ
  | nan => 0
  | posInf => 1
  | negInf => -1
  | fin q => if q < 0 then -1 else if q = 0 then 0 else 1

def mul : JsNumber → JsNumber → JsNumber
  | nan, _ => nan
  | _, nan => nan
  | fin a, fin b => represent (a * b)
  | a, b =>
    -- an infinity times zero is not a number
    if a.sign * b.sign = 0 then nan else if 0 < a.sign * b.sign then posInf else negInf

def apply (host : ℚ → JsNumber) (f : ℚ → ℚ) : JsNumber → JsNumber
  | fin q => host (f q)
  | x => x

def scaled (r : ℚ) : JsNumber → JsNumber
  | fin q => represent (q * r)
  | x => x

def mathRound : JsNumber → JsNumber
  | fin q => fin ⌊q + 1 / 2⌋
  | x => x

def le (a b : JsNumber) : Bool := ge b a

def isInteger : JsNumber → Bool
  | fin q => q.den = 1
  | _ => false

end Library.JsNumber
