import KeramikStore.Library.Pages
import KeramikStore.Library.RoundedQuotients

/-!
# Listings that are asked for page by page

A listing leaves out the rows of the pages before, gives at most one page of the others,
and counts the pages, all in numbers of the host. For a page size that is a positive
integer these are the window and the count of exact arithmetic, as long as there are no
more rows than a table can hold. Each page may be sorted anew, so where pages never show a row
twice, no rows alike are cut by the end of a page.
-/

set_option autoImplicit false

namespace Library.JsNumber

def orElse (fallback : JsNumber) : Option JsNumber → JsNumber
  | none | some nan => fallback
  | some n => if n = fin 0 then fallback else n

def Given (n : JsNumber) : Prop := n ≠ nan ∧ n ≠ fin 0

theorem orElse_of_given (fallback n : JsNumber) (given : n.Given) :
    orElse fallback (some n) = n := by
  cases n with
  | nan => exact absurd rfl given.1
  | fin q => exact if_neg given.2
  | negInf | posInf => rfl

theorem given_ofNat_succ (q : ℕ) : (ofNat (q + 1)).Given := by
  have nonzero : ((q + 1 : ℕ) : ℚ) ≠ 0 := Nat.cast_ne_zero.mpr q.succ_ne_zero
  exact ⟨nofun, fun zero => nonzero (fin.inj zero)⟩

end Library.JsNumber

namespace Library.PagedListing
open Pages

section Numbers

variable (page limit : JsNumber)

def skip : JsNumber := (page.sub (.ofNat 1)).mul limit

def totalPages (total : JsNumber) : JsNumber := (total.div limit).mathCeil

end Numbers

/-- The rows that a query gives which is told how many to skip and to take. Below zero
they are taken from the end. Numbers that do not count rows are refused. -/
def window {α : Type} (skip take : JsNumber) (rows : List α) : Option (List α) :=
  match skip.position, take.position, take.neg.position with
  | some s, some k, _ => some ((rows.drop s).take k)
  | some s, none, some k => some ((rows.reverse.drop s).take k).reverse
  | _, _, _ => none

/-- Whether a window is refused depends on its numbers only. -/
theorem window_isSome {α : Type} (skip take : JsNumber) (rows rows' : List α) :
    (window skip take rows).isSome = (window skip take rows').isSome := by
  unfold window
  cases skip.position <;> cases take.position <;> cases take.neg.position <;> rfl

variable {n : ℕ} (one : 1 ≤ n) (number : Binary64.represent n = .fin n)

include one number

/-- The rows before a page are counted without rounding. -/
theorem represent_skipped (total q : ℕ) (held : total < 2 ^ 48) (reached : q ≤ pageCount n total) :
    Binary64.represent (q * n : ℕ) = .fin (q * n : ℕ) := by
  by_cases first : q ≤ 1
  · by_cases start : q = 0
    · rw [start, Nat.zero_mul]
      exact Binary64.represent_natCast 0 (by norm_num)
    · rw [show q = 1 by omega, Nat.one_mul]
      exact number
  · -- the page before is not empty, and neither is the first one
    obtain ⟨k, rfl⟩ : ∃ k, q = k + 1 := ⟨q - 1, by omega⟩
    have rows : k * n < total := (lt_pageCount_iff one k total).mp reached
    have size : n ≤ k * n := Nat.le_mul_of_pos_left n (by omega)
    apply Binary64.represent_natCast
    rw [Nat.succ_mul]
    omega

theorem skip_page (total q : ℕ) (held : total < 2 ^ 48) (reached : q ≤ pageCount n total) :
    skip (.ofNat (q + 1)) (.ofNat n) = .ofNat (q * n) := by
  have pages := pageCount_le one total
  unfold skip
  rw [JsNumber.ofNat_succ_sub_one q (by omega),
    JsNumber.ofNat_mul_ofNat q n (represent_skipped one number total q held reached)]

/-- The database is asked for the window of the page. -/
theorem window_page {α : Type} (arranged : List α) (q : ℕ) (held : arranged.length < 2 ^ 48)
    (reached : q ≤ pageCount n arranged.length) :
    window (skip (.ofNat (q + 1)) (.ofNat n)) (.ofNat n) arranged =
      some (page n q arranged) := by
  unfold window
  rw [skip_page one number arranged.length q held reached, JsNumber.position_ofNat,
    JsNumber.position_ofNat]
  rfl

theorem totalPages_count (total : ℕ) (held : total < 2 ^ 53) :
    totalPages (.ofNat n) (.ofNat total) = .ofNat (pageCount n total) := by
  have finite : (n : ℚ) < Binary64.overflow :=
    (Binary64.represent_le_largest n n number).trans_lt (sub_lt_self _ (by positivity))
  exact JsNumber.mathCeil_div_ofNat total n held one finite

omit number

/-- Pages that never show a row twice do not cut rows that are alike. -/
theorem uncut_of_nodup {α : Type} {le : α → α → Bool} {rows : List α} (order : Total le)
    (once : ∀ sort : ℕ → List α → List α, (∀ p rows, Arranges le rows (sort p rows)) →
      ((List.range (pageCount n rows.length)).flatMap fun p => page n p (sort p rows)).Nodup) :
    Uncut le n rows := by
  by_contra cut
  obtain ⟨sort, sorts, p, x, last, here, there⟩ := exists_repeating order one cut
  have nodup := once sort sorts
  rw [List.nodup_flatMap] at nodup
  have apart := List.pairwise_iff_getElem.mp nodup.2 p (p + 1)
    (by rw [List.length_range]; omega) (by rw [List.length_range]; omega) (Nat.lt_succ_self p)
  rw [List.getElem_range, List.getElem_range] at apart
  exact apart here there

end Library.PagedListing
