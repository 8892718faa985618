import Mathlib.Data.List.Nodup

/-!
# Base 64 for addresses

Three bytes give four letters of an alphabet of 64, and one or two bytes at the end
give two or three. No padding is written. The code of a list of bytes determines
it, and the first letters of the code depend on the first bytes only.
-/

set_option autoImplicit false

namespace Library.Base64

def alphabet : List Char :=
  "ABCDEFGHIJKLMNOPQRSTUVWXYZabcdefghijklmnopqrstuvwxyz0123456789-_".toList

def letter (n : ℕ) : Char := alphabet.getD n 'A'

def encode : List UInt8 → List Char
  | a :: b :: c :: rest =>
    letter (a.toNat / 4) :: letter (a.toNat % 4 * 16 + b.toNat / 16) ::
      letter (b.toNat % 16 * 4 + c.toNat / 64) :: letter (c.toNat % 64) :: encode rest
  | [a, b] =>
    [letter (a.toNat / 4), letter (a.toNat % 4 * 16 + b.toNat / 16), letter (b.toNat % 16 * 4)]
  | [a] => [letter (a.toNat / 4), letter (a.toNat % 4 * 16)]
  | [] => []

theorem alphabet_length : alphabet.length = 64 := by decide

theorem alphabet_nodup : alphabet.Nodup := by decide

theorem letter_eq (n : ℕ) (h : n < alphabet.length) : letter n = alphabet[n] := by
  rw [letter, List.getD_eq_getElem?_getD, List.getElem?_eq_getElem h]
  rfl

theorem letter_mem (n : ℕ) (h : n < 64) : letter n ∈ alphabet := by
  rw [letter_eq n (alphabet_length ▸ h)]
  exact List.getElem_mem _

theorem letter_inj (n m : ℕ) (hn : n < 64) (hm : m < 64) (h : letter n = letter m) : n = m := by
  rw [letter_eq n (alphabet_length ▸ hn), letter_eq m (alphabet_length ▸ hm)] at h
  exact (alphabet_nodup.getElem_inj_iff).mp h

/-- The letters of one group determine its bytes. -/
theorem group_inj (a b c a' b' c' : UInt8) (h₁ : letter (a.toNat / 4) = letter (a'.toNat / 4))
    (h₂ : letter (a.toNat % 4 * 16 + b.toNat / 16) = letter (a'.toNat % 4 * 16 + b'.toNat / 16))
    (h₃ : letter (b.toNat % 16 * 4 + c.toNat / 64) = letter (b'.toNat % 16 * 4 + c'.toNat / 64))
    (h₄ : letter (c.toNat % 64) = letter (c'.toNat % 64)) : a = a' ∧ b = b' ∧ c = c' := by
  have ha := a.toNat_lt
  have hb := b.toNat_lt
  have hc := c.toNat_lt
  have ha' := a'.toNat_lt
  have hb' := b'.toNat_lt
  have hc' := c'.toNat_lt
  have e₁ := letter_inj _ _ (by omega) (by omega) h₁
  have e₂ := letter_inj _ _ (by omega) (by omega) h₂
  have e₃ := letter_inj _ _ (by omega) (by omega) h₃
  have e₄ := letter_inj _ _ (by omega) (by omega) h₄
  refine ⟨UInt8.toNat.inj ?_, UInt8.toNat.inj ?_, UInt8.toNat.inj ?_⟩
  all_goals omega

theorem encode_injective (as bs : List UInt8) (h : encode as = encode bs) : as = bs := by
  induction as using encode.induct generalizing bs with
  | case1 a b c rest ih =>
    match bs with
    | [] | [_] | [_, _] => simp [encode] at h
    | a' :: b' :: c' :: rest' =>
      simp only [encode, List.cons.injEq] at h
      obtain ⟨h₁, h₂, h₃, h₄, tail⟩ := h
      obtain ⟨rfl, rfl, rfl⟩ := group_inj a b c a' b' c' h₁ h₂ h₃ h₄
      rw [ih rest' tail]
  | case2 a b =>
    match bs with
    | [] | [_] | _ :: _ :: _ :: _ => simp [encode] at h
    | [a', b'] =>
      simp only [encode, List.cons.injEq] at h
      obtain ⟨h₁, h₂, h₃, -⟩ := h
      obtain ⟨rfl, rfl, -⟩ := group_inj a b 0 a' b' 0 h₁ h₂ (by simpa using h₃) rfl
      rfl
  | case3 a =>
    match bs with
    | [] | [_, _] | _ :: _ :: _ :: _ => simp [encode] at h
    | [a'] =>
      simp only [encode, List.cons.injEq] at h
      obtain ⟨h₁, h₂, -⟩ := h
      obtain ⟨rfl, -, -⟩ := group_inj a 0 0 a' 0 0 h₁ (by simpa using h₂) rfl rfl
      rfl
  | case4 =>
    match bs with
    | [] => rfl
    | [_] | [_, _] | _ :: _ :: _ :: _ => simp [encode] at h

theorem encode_mem (bs : List UInt8) (l : Char) (h : l ∈ encode bs) : l ∈ alphabet := by
  induction bs using encode.induct with
  | case1 a b c rest ih =>
    have ha := a.toNat_lt
    have hb := b.toNat_lt
    have hc := c.toNat_lt
    simp only [encode, List.mem_cons] at h
    rcases h with rfl | rfl | rfl | rfl | tail
    · exact letter_mem _ (by omega)
    · exact letter_mem _ (by omega)
    · exact letter_mem _ (by omega)
    · exact letter_mem _ (by omega)
    · exact ih tail
  | case2 a b =>
    have ha := a.toNat_lt
    have hb := b.toNat_lt
    simp only [encode, List.mem_cons, List.not_mem_nil, or_false] at h
    rcases h with rfl | rfl | rfl
    all_goals exact letter_mem _ (by omega)
  | case3 a =>
    have ha := a.toNat_lt
    simp only [encode, List.mem_cons, List.not_mem_nil, or_false] at h
    rcases h with rfl | rfl
    all_goals exact letter_mem _ (by omega)
  | case4 => cases h

/-- The first `4 * n` letters are the code of the first `3 * n` bytes. -/
theorem take_encode (n : ℕ) (bs : List UInt8) :
    (encode bs).take (4 * n) = encode (bs.take (3 * n)) := by
  induction n generalizing bs with
  | zero => rfl
  | succ n ih =>
    rw [show 4 * (n + 1) = 4 * n + 4 by omega, show 3 * (n + 1) = 3 * n + 3 by omega]
    match bs with
    | [] => rfl
    | [a] => simp [encode]
    | [a, b] => simp [encode]
    | a :: b :: c :: rest => simp [encode, ih rest]

theorem take_encode_inj (n : ℕ) (as bs : List UInt8) :
    (encode as).take (4 * n) = (encode bs).take (4 * n) ↔ as.take (3 * n) = bs.take (3 * n) := by
  rw [take_encode, take_encode]
  exact ⟨encode_injective _ _, congrArg encode⟩

end Library.Base64
