import Mathlib.Data.List.DropRight
import Mathlib.Data.List.SplitBy

/-!
# Text of the hosting language

White space, trimming, string length in UTF-16 units, the global replacements
of runs, and a small matcher for the anchored regular expressions of value
objects. A matcher consumes one character at a time by taking the derivative of
the expression, so every test is a computation on the character list.
-/

set_option autoImplicit false

namespace Library.Text

/-- The characters that both `trim` and the class `\s` take for white space. -/
def isSpace (c : Char) : Bool :=
  let n := c.toNat
  (0x09 ≤ n && n ≤ 0x0D) || n == 0x20 || n == 0xA0 || n == 0x1680 || (0x2000 ≤ n && n ≤ 0x200A) ||
    n == 0x2028 || n == 0x2029 || n == 0x202F || n == 0x205F || n == 0x3000 || n == 0xFEFF

def trimList (cs : List Char) : List Char :=
  ((cs.dropWhile isSpace).reverse.dropWhile isSpace).reverse

def trim (s : String) : String := String.ofList (trimList s.toList)

theorem trimList_eq_self (cs : List Char) (h : ∀ c ∈ cs, isSpace c = false) :
    trimList cs = cs := by
  have kept : ∀ ds : List Char, (∀ c ∈ ds, isSpace c = false) → ds.dropWhile isSpace = ds := by
    intro ds all
    cases ds with
    | nil => rfl
    | cons d ds =>
      rw [List.dropWhile_cons, if_neg (Bool.eq_false_iff.mp (all d List.mem_cons_self))]
  rw [trimList, kept cs h, kept _ (fun c mem => h c (List.mem_reverse.mp mem)),
    List.reverse_reverse]

theorem trimList_trimList (cs : List Char) : trimList (trimList cs) = trimList cs := by
  change (List.dropWhile isSpace (trimList cs)).rdropWhile isSpace = trimList cs
  have front : (trimList cs).dropWhile isSpace = trimList cs := by
    apply List.dropWhile_eq_self_iff.mpr
    intro nonempty
    -- what is left begins as the text does without its leading white space
    have before : trimList cs <+: cs.dropWhile isSpace := List.rdropWhile_prefix _ _
    rw [before.getElem nonempty]
    exact List.dropWhile_eq_self_iff.mp (List.dropWhile_idempotent isSpace cs) _
  rw [front]
  exact List.rdropWhile_idempotent isSpace _

theorem trim_trim (s : String) : trim (trim s) = trim s := by
  simp [trim, trimList_trimList]

/-- A code point above the basic plane takes two units. -/
def units (s : String) : ℕ :=
  s.toList.foldl (fun n c => n + if 0x10000 ≤ c.toNat then 2 else 1) 0

def between (a b c : Char) : Bool := a.toNat ≤ c.toNat && c.toNat ≤ b.toNat

def collapse (p : Char → Bool) (by_ : Char) (cs : List Char) : List Char :=
  (cs.splitBy fun a b => p a && p b).flatMap fun run => if 2 ≤ run.length then [by_] else run

def joinHyphens : List Char → List Char
  | a :: b :: cs =>
    if (isSpace a && b == '-') || (a == '-' && isSpace b) then '-' :: joinHyphens cs
    else a :: joinHyphens (b :: cs)
  | cs => cs

def Starts (c : Char) (cs : List Char) : Prop := ∀ d, cs.head? = some d → d = c

theorem starts_nil (c : Char) : Starts c [] := nofun

theorem starts_cons (c : Char) (cs : List Char) : Starts c (c :: cs) :=
  fun _ h => (Option.some.inj h).symm

/-- A text is read up to the first separator in one way only. -/
theorem upTo_inj (c : Char) (a b x y : List Char) (ha : c ∉ a) (hb : c ∉ b) (hx : Starts c x)
    (hy : Starts c y) (h : a ++ x = b ++ y) : a = b ∧ x = y := by
  induction a generalizing b with
  | nil =>
    cases b with
    | nil => exact ⟨rfl, h⟩
    | cons d b =>
      have head : d = c := hx d (by rw [List.nil_append] at h; rw [h]; rfl)
      exact absurd List.mem_cons_self (head ▸ hb)
  | cons d a ih =>
    cases b with
    | nil =>
      have head : d = c := hy d (by rw [List.nil_append] at h; rw [← h]; rfl)
      exact absurd List.mem_cons_self (head ▸ ha)
    | cons e b =>
      obtain ⟨rfl, tails⟩ := List.cons.inj h
      obtain ⟨rfl, rest⟩ := ih b (fun m => ha (List.mem_cons_of_mem _ m))
        (fun m => hb (List.mem_cons_of_mem _ m)) tails
      exact ⟨rfl, rest⟩

/-- A text is read back from its end to the last separator in one way only. -/
theorem fromLast_inj (c : Char) (a b x y : List Char) (hx : c ∉ x) (hy : c ∉ y)
    (h : a ++ c :: x = b ++ c :: y) : a = b ∧ x = y := by
  have reversed := congrArg List.reverse h
  simp only [List.reverse_append, List.reverse_cons, List.append_assoc, List.singleton_append]
    at reversed
  obtain ⟨last, before⟩ := upTo_inj c x.reverse y.reverse _ _ (by simpa using hx)
    (by simpa using hy) (starts_cons c _) (starts_cons c _) reversed
  exact ⟨List.reverse_injective (List.cons.inj before).2, List.reverse_injective last⟩

def digits (n : ℕ) : List Char := Nat.toDigits 10 n

theorem digits_injective (m n : ℕ) (h : digits m = digits n) : m = n := by
  rw [← Nat.ofDigitChars_toDigits (b := 10) (n := m) (by decide) (by decide),
    ← Nat.ofDigitChars_toDigits (b := 10) (n := n) (by decide) (by decide)]
  exact congrArg (Nat.ofDigitChars 10 · 0) h

theorem isDigit_of_mem_digits (n : ℕ) (c : Char) (h : c ∈ digits n) : c.isDigit = true :=
  Nat.isDigit_of_mem_toDigits (by decide) (by decide) h

inductive Regex where
  | never
  | empty
  | cls (p : Char → Bool)
  | seq (r q : Regex)
  | alt (r q : Regex)
  | star (r : Regex)

namespace Regex

def nullable : Regex → Bool
  | never => false
  | empty => true
  | cls _ => false
  | seq r q => r.nullable && q.nullable
  | alt r q => r.nullable || q.nullable
  | star _ => true

/-- Sequence and alternative with the trivial operands removed, so that a
derivative stays about as large as the expression it comes from. -/
def followedBy : Regex → Regex → Regex
  | never, _ => never
  | empty, q => q
  | r, q => seq r q

def orElse : Regex → Regex → Regex
  | never, q => q
  | r, never => r
  | r, q => alt r q

def derive : Regex → Char → Regex
  | never, _ => never
  | empty, _ => never
  | cls p, c => if p c then empty else never
  | seq r q, c =>
    if r.nullable then orElse (followedBy (r.derive c) q) (q.derive c)
    else followedBy (r.derive c) q
  | alt r q, c => orElse (r.derive c) (q.derive c)
  | star r, c => followedBy (r.derive c) (star r)

def test (r : Regex) (s : String) : Bool := (s.toList.foldl derive r).nullable

def literal (c : Char) : Regex := cls (· == c)

def times : ℕ → Regex → Regex
  | 0, _ => empty
  | n + 1, r => seq r (times n r)

def atLeast (n : ℕ) (r : Regex) : Regex := seq (times n r) (star r)

def upTo : ℕ → Regex → Regex
  | 0, _ => empty
  | n + 1, r => alt empty (seq r (upTo n r))

def optional (r : Regex) : Regex := alt empty r

def concat (rs : List Regex) : Regex := rs.foldr seq empty

theorem foldl_derive_never (cs : List Char) : cs.foldl derive never = never := by
  induction cs with
  | nil => rfl
  | cons c cs ih => exact ih

theorem foldl_derive_star (p : Char → Bool) (cs : List Char) :
    cs.foldl derive (star (cls p)) = if cs.all p then star (cls p) else never := by
  induction cs with
  | nil => rfl
  | cons c cs ih =>
    rw [List.foldl_cons, List.all_cons, derive, derive]
    cases p c with
    | false => exact foldl_derive_never cs
    | true => exact ih

theorem test_atLeast_one (p : Char → Bool) (s : String) (h : (atLeast 1 (cls p)).test s = true) :
    ∀ c ∈ s.toList, p c = true := by
  unfold test at h
  cases cs : s.toList with
  | nil => exact fun c mem => absurd mem List.not_mem_nil
  | cons c cs' =>
    rw [cs, List.foldl_cons] at h
    cases first : p c with
    | false =>
      have none : (atLeast 1 (cls p)).derive c = never := by
        simp [atLeast, times, derive, nullable, followedBy, first]
      rw [none, foldl_derive_never] at h
      cases h
    | true =>
      have rest : (atLeast 1 (cls p)).derive c = star (cls p) := by
        simp [atLeast, times, derive, nullable, followedBy, first]
      rw [rest, foldl_derive_star] at h
      have all : cs'.all p = true := by
        by_contra other
        rw [if_neg other] at h
        cases h
      intro d mem
      rcases List.mem_cons.mp mem with rfl | later
      · exact first
      · exact List.all_eq_true.mp all d later

end Regex

end Library.Text
