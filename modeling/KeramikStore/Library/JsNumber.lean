import Mathlib.Data.Rat.Floor

/-!
# Numbers of the hosting language, as array positions

A number is a rational, one of the infinities or not a number. Every comparison
with the last is false, so a bound check written as a disjunction of comparisons
lets it through; reading it as a position takes it for zero.
-/

set_option autoImplicit false

namespace Library

inductive JsNumber where
  | nan
  | negInf
  | posInf
  | fin (q : ℚ)
deriving DecidableEq

namespace JsNumber

def lt : JsNumber → JsNumber → Bool
  | nan, _ => false
  | _, nan => false
  | _, negInf => false
  | negInf, _ => true
  | posInf, _ => false
  | fin _, posInf => true
  | fin a, fin b => a < b

def ge : JsNumber → JsNumber → Bool
  | nan, _ => false
  | _, nan => false
  | a, b => !lt a b

def ofNat (n : ℕ) : JsNumber := fin n

/-- The element that `xs[i]` names, if the property is an array position at all. -/
def position : JsNumber → Option ℕ
  | fin q => if q.den = 1 ∧ 0 ≤ q.num then some q.num.toNat else none
  | _ => none

def spliceStart (length : ℕ) : JsNumber → ℕ
  | nan => 0
  | negInf => 0
  | posInf => length
  | fin q =>
    let k := if 0 ≤ q then ⌊q⌋ else ⌈q⌉
    if k < 0 then (length + k).toNat else min k.toNat length

end JsNumber

end Library
