import Mathlib.Data.List.Perm.Basic
import Mathlib.Data.List.Nodup
import Mathlib.Order.Defs.Unbundled

/-!
# Pages of rows that are sorted again for each page

Each page is a window of its own arrangement of the same rows: the rows in some order
that the given comparison allows. Rows that compare alike in both directions may stand
in any order, and in another one in the next arrangement. The pages together hold each
row once, whatever the arrangements are, just when no such group of rows is cut by the
end of a page.
-/

set_option autoImplicit false

namespace Library.Pages

variable {α : Type} (le : α → α → Bool)

structure Arranges (rows arranged : List α) : Prop where
  perm : arranged.Perm rows
  sorted : arranged.Pairwise fun x y => le x y = true

def page (size p : ℕ) (arranged : List α) : List α := (arranged.drop (p * size)).take size

def pageCount (size total : ℕ) : ℕ := (total + size - 1) / size

def before (rows : List α) (x : α) : ℕ := rows.countP fun y => !le x y

def upTo (rows : List α) (x : α) : ℕ := rows.countP fun y => le y x

def Uncut (size : ℕ) (rows : List α) : Prop :=
  ∀ x ∈ rows, before le rows x / size = (upTo le rows x - 1) / size

instance (size : ℕ) (rows : List α) : Decidable (Uncut le size rows) :=
  inferInstanceAs (Decidable (∀ x ∈ rows, _ = _))

structure Total : Prop where
  total : ∀ x y, (le x y || le y x) = true
  trans : ∀ x y z, le x y = true → le y z = true → le x z = true

section Arrangement

variable {le} {rows arranged : List α}

theorem Total.refl (h : Total le) (x : α) : le x x = true := by
  simpa using h.total x x

theorem Arranges.length (h : Arranges le rows arranged) : arranged.length = rows.length :=
  h.perm.length_eq

theorem Arranges.le_of_le (order : Total le) (h : Arranges le rows arranged) (i j : ℕ)
    (hi : i < arranged.length) (hj : j < arranged.length) (hij : i ≤ j) :
    le arranged[i] arranged[j] = true := by
  rcases Nat.eq_or_lt_of_le hij with rfl | less
  · exact order.refl _
  · exact List.pairwise_iff_getElem.mp h.sorted i j hi hj less

theorem Arranges.before_eq (h : Arranges le rows arranged) (x : α) :
    before le rows x = before le arranged x := (h.perm.countP_eq _).symm

theorem Arranges.upTo_eq (h : Arranges le rows arranged) (x : α) :
    upTo le rows x = upTo le arranged x := (h.perm.countP_eq _).symm

end Arrangement

/-- What holds from a position on only holds of the rows before it. -/
theorem countP_le_of_drop (p : α → Bool) (xs : List α) (i : ℕ)
    (none : ∀ x ∈ xs.drop i, p x = false) : xs.countP p ≤ i := by
  have rest : (xs.drop i).countP p = 0 := List.countP_eq_zero.mpr fun x mem => by
    rw [none x mem]
    exact Bool.false_ne_true
  calc xs.countP p = (xs.take i).countP p + (xs.drop i).countP p := by
        rw [← List.countP_append, List.take_append_drop]
    _ ≤ i := by
        rw [rest, Nat.add_zero]
        exact Nat.le_trans List.countP_le_length (List.length_take_le i xs)

theorem le_countP_of_take (p : α → Bool) (xs : List α) (i : ℕ) (hi : i ≤ xs.length)
    (all : ∀ x ∈ xs.take i, p x = true) : i ≤ xs.countP p := by
  have front : (xs.take i).countP p = i := by
    rw [List.countP_eq_length.mpr all, List.length_take_of_le hi]
  calc i = (xs.take i).countP p := front.symm
    _ ≤ xs.countP p := (List.take_sublist i xs).countP_le

/-! Where a row can stand. -/

section Positions

variable {le} {rows arranged : List α} (order : Total le) (h : Arranges le rows arranged)
  (i : ℕ) (hi : i < arranged.length)
include order h

theorem mem_drop_le (x : α) (mem : x ∈ arranged.drop i) : le arranged[i] x = true := by
  obtain ⟨k, hk, rfl⟩ := List.mem_iff_getElem.mp mem
  rw [List.getElem_drop]
  exact h.le_of_le order i (i + k) hi _ (Nat.le_add_right i k)

theorem mem_take_le (x : α) (mem : x ∈ arranged.take (i + 1)) : le x arranged[i] = true := by
  obtain ⟨k, hk, rfl⟩ := List.mem_iff_getElem.mp mem
  rw [List.getElem_take]
  rw [List.length_take] at hk
  exact h.le_of_le order k i (by omega) hi (by omega)

theorem before_le : before le rows arranged[i] ≤ i := by
  rw [h.before_eq]
  refine countP_le_of_drop _ arranged i fun x mem => ?_
  rw [mem_drop_le order h i hi x mem]
  rfl

theorem lt_upTo : i < upTo le rows arranged[i] := by
  rw [h.upTo_eq]
  exact le_countP_of_take _ arranged (i + 1) hi fun x mem => mem_take_le order h i hi x mem

theorem alike (x : α) (low : before le rows x ≤ i) (high : i < upTo le rows x) :
    le x arranged[i] = true ∧ le arranged[i] x = true := by
  rw [h.before_eq] at low
  rw [h.upTo_eq] at high
  constructor
  · by_contra other
    rw [Bool.not_eq_true] at other
    have many : i + 1 ≤ before le arranged x := by
      refine le_countP_of_take _ arranged (i + 1) hi fun y mem => ?_
      rw [Bool.not_eq_true', Bool.eq_false_iff]
      intro above
      have := order.trans x y _ above (mem_take_le order h i hi y mem)
      exact Bool.false_ne_true (other.symm.trans this)
    omega
  · by_contra other
    rw [Bool.not_eq_true] at other
    have few : upTo le arranged x ≤ i := by
      refine countP_le_of_drop _ arranged i fun y mem => Bool.eq_false_iff.mpr fun below => ?_
      have := order.trans _ y x (mem_drop_le order h i hi y mem) below
      exact Bool.false_ne_true (other.symm.trans this)
    omega

end Positions

/-! Pages of rows that are not cut. -/

/-- A window is what a test keeps that holds of the positions inside it only. -/
theorem filter_window (q : α → Bool) (xs : List α) (i j : ℕ)
    (inside : ∀ k (hk : k < xs.length), q xs[k] = true ↔ i ≤ k ∧ k < i + j) :
    xs.filter q = (xs.drop i).take j := by
  have front : (xs.take i).filter q = [] := by
    refine List.filter_eq_nil_iff.mpr fun x mem => ?_
    obtain ⟨k, hk, rfl⟩ := List.mem_iff_getElem.mp mem
    rw [List.length_take] at hk
    rw [List.getElem_take, inside k (by omega)]
    omega
  have middle : ((xs.drop i).take j).filter q = (xs.drop i).take j := by
    refine List.filter_eq_self.mpr fun x mem => ?_
    obtain ⟨k, hk, rfl⟩ := List.mem_iff_getElem.mp mem
    rw [List.length_take, List.length_drop] at hk
    rw [List.getElem_take, List.getElem_drop, inside (i + k) (by omega)]
    omega
  have back : ((xs.drop i).drop j).filter q = [] := by
    refine List.filter_eq_nil_iff.mpr fun x mem => ?_
    obtain ⟨k, hk, rfl⟩ := List.mem_iff_getElem.mp mem
    rw [List.length_drop, List.length_drop] at hk
    rw [List.getElem_drop, List.getElem_drop, inside (i + (j + k)) (by omega)]
    omega
  calc xs.filter q
      = (xs.take i).filter q ++
          (((xs.drop i).take j).filter q ++ ((xs.drop i).drop j).filter q) := by
        rw [← List.filter_append, ← List.filter_append, List.take_append_drop,
          List.take_append_drop]
    _ = (xs.drop i).take j := by rw [front, middle, back, List.nil_append, List.append_nil]

variable {le} {rows : List α} {size : ℕ}

theorem div_eq_iff_window (some : 0 < size) (k p : ℕ) :
    k / size = p ↔ p * size ≤ k ∧ k < p * size + size := by
  rw [← Nat.le_div_iff_mul_le some, ← Nat.succ_mul, ← Nat.div_lt_iff_lt_mul some]
  omega

/-- Of rows that are not cut, each arrangement has the same ones on a page. -/
theorem page_eq_filter (order : Total le) (some : 0 < size) (uncut : Uncut le size rows)
    (arranged : List α) (h : Arranges le rows arranged) (p : ℕ) :
    page size p arranged = arranged.filter fun x => before le rows x / size == p := by
  refine (filter_window _ arranged (p * size) size fun k hk => ?_).symm
  have low := before_le order h k hk
  have high := lt_upTo order h k hk
  have same := uncut arranged[k] (h.perm.subset (List.getElem_mem hk))
  have here : before le rows arranged[k] / size = k / size := by
    refine Nat.le_antisymm (Nat.div_le_div_right low) ?_
    rw [same]
    exact Nat.div_le_div_right (by omega)
  rw [beq_iff_eq, here, div_eq_iff_window some]

/-- Rows that are grouped by a number below a bound are all there once. -/
theorem flatMap_filter_perm (f : α → ℕ) (n : ℕ) (rows : List α) :
    ((List.range n).flatMap fun p => rows.filter fun x => f x == p).Perm
      (rows.filter fun x => f x < n) := by
  induction n with
  | zero => simp
  | succ n ih =>
    rw [List.range_succ, List.flatMap_append, List.flatMap_singleton]
    refine (ih.append_right _).trans ?_
    have below : rows.filter (fun x => f x < n) =
        (rows.filter fun x => f x < n + 1).filter fun x => f x < n := by
      rw [List.filter_filter]
      exact List.filter_congr fun x _ => by rw [Bool.eq_iff_iff]; simp; omega
    have last : rows.filter (fun x => f x == n) =
        (rows.filter fun x => f x < n + 1).filter fun x => !decide (f x < n) := by
      rw [List.filter_filter]
      exact List.filter_congr fun x _ => by rw [Bool.eq_iff_iff]; simp; omega
    rw [below, last]
    exact List.filter_append_perm _ _

theorem lt_pageCount_iff (some : 0 < size) (p total : ℕ) :
    p < pageCount size total ↔ p * size < total := by
  unfold pageCount
  rw [← Nat.succ_le_iff, Nat.le_div_iff_mul_le some, Nat.succ_mul]
  omega

theorem pageCount_le (some : 0 < size) (total : ℕ) : pageCount size total ≤ total := by
  by_contra more
  have := (lt_pageCount_iff some total total).mp (Nat.lt_of_not_le more)
  have := Nat.le_mul_of_pos_right total some
  omega

theorem page_pageCount (some : 0 < size) (arranged : List α) :
    page size (pageCount size arranged.length) arranged = [] := by
  have past : arranged.length ≤ pageCount size arranged.length * size := by
    by_contra less
    exact Nat.lt_irrefl _ ((lt_pageCount_iff some _ _).mpr (Nat.lt_of_not_le less))
  rw [page, List.drop_eq_nil_of_le past, List.take_nil]

/-- Whatever the arrangement of each page is, the pages of rows that are not cut hold
each row once. -/
theorem pages_perm (order : Total le) (some : 0 < size) (uncut : Uncut le size rows)
    (arranged : ℕ → List α) (h : ∀ p, Arranges le rows (arranged p)) :
    ((List.range (pageCount size rows.length)).flatMap fun p => page size p (arranged p)).Perm
      rows := by
  have pages (p : ℕ) : (page size p (arranged p)).Perm
      (rows.filter fun x => before le rows x / size == p) := by
    rw [page_eq_filter order some uncut _ (h p)]
    exact (h p).perm.filter _
  have all :
      rows.filter (fun x => before le rows x / size < pageCount size rows.length) = rows := by
    refine List.filter_eq_self.mpr fun x mem => decide_eq_true ?_
    obtain ⟨k, hk, rfl⟩ := List.mem_iff_getElem.mp ((h 0).perm.symm.subset mem)
    have fewer := before_le order (h 0) k hk
    have length := (h 0).length
    rw [lt_pageCount_iff some]
    have := Nat.div_mul_le_self (before le rows (arranged 0)[k]) size
    omega
  refine (List.Perm.flatMap_left _ fun p _ => pages p).trans ?_
  refine (flatMap_filter_perm _ _ rows).trans ?_
  rw [all]

/-! Rows that are cut. -/

theorem getElem_mem_page (xs : List α) (p k : ℕ) (hk : k < xs.length)
    (inside : p * size ≤ k ∧ k < p * size + size) : xs[k] ∈ page size p xs := by
  have window : k - p * size < ((xs.drop (p * size)).take size).length := by
    rw [List.length_take, List.length_drop]
    omega
  have same : ((xs.drop (p * size)).take size)[k - p * size] = xs[k] := by
    rw [List.getElem_take, List.getElem_drop]
    congr 1
    omega
  rw [page, ← same]
  exact List.getElem_mem window

/-- Two neighbours that compare alike can stand in the other order. -/
theorem exists_swapped (arranged : List α) (h : Arranges le rows arranged) (m : ℕ)
    (hm : m + 1 < arranged.length) (alike : le arranged[m + 1] arranged[m] = true) :
    ∃ other, Arranges le rows other ∧ ∃ here : m + 1 < other.length,
      other[m + 1] = arranged[m] := by
  have split : arranged = arranged.take m ++
      arranged[m] :: arranged[m + 1] :: arranged.drop (m + 2) := by
    rw [← List.drop_eq_getElem_cons, ← List.drop_eq_getElem_cons, List.take_append_drop]
  have front : (arranged.take m).length = m := List.length_take_of_le (by omega)
  refine ⟨arranged.take m ++ arranged[m + 1] :: arranged[m] :: arranged.drop (m + 2), ⟨?_, ?_⟩,
    ?_, ?_⟩
  · refine List.Perm.trans ?_ h.perm
    conv_rhs => rw [split]
    exact List.Perm.append_left _ (List.Perm.swap _ _ _)
  · have sorted := h.sorted
    rw [split] at sorted
    simp only [List.pairwise_append, List.pairwise_cons, List.forall_mem_cons] at sorted ⊢
    obtain ⟨left, ⟨⟨-, first⟩, second, right⟩, between⟩ := sorted
    exact ⟨left, ⟨⟨alike, second⟩, first, right⟩,
      fun x mem => ⟨(between x mem).2.1, (between x mem).1, (between x mem).2.2⟩⟩
  · simp only [List.length_append, List.length_cons, front]
    omega
  · rw [List.getElem_append_right (by omega)]
    simp [front]

theorem arranges_mergeSort (order : Total le) (rows : List α) :
    Arranges le rows (rows.mergeSort le) :=
  ⟨List.mergeSort_perm rows le, List.pairwise_mergeSort order.trans order.total rows⟩

/-- Any arrangement of some rows can be what a way of sorting gives for them. -/
theorem exists_sort (order : Total le) (arranged : List α) (h : Arranges le rows arranged) :
    ∃ sort : List α → List α, (∀ xs, Arranges le xs (sort xs)) ∧ sort rows = arranged := by
  classical
  refine ⟨fun xs => if xs = rows then arranged else xs.mergeSort le, fun xs => ?_, if_pos rfl⟩
  show Arranges le xs (if xs = rows then arranged else xs.mergeSort le)
  by_cases same : xs = rows
  · rw [if_pos same, same]
    exact h
  · rw [if_neg same]
    exact arranges_mergeSort order xs

theorem exists_position (order : Total le) (x : α) (mem : x ∈ rows) :
    ∃ sorted, Arranges le rows sorted ∧ upTo le rows x ≤ sorted.length ∧
      ∃ k, ∃ hk : k < sorted.length, sorted[k] = x ∧ before le rows x ≤ k ∧ k < upTo le rows x := by
  have h := arranges_mergeSort order rows
  generalize rows.mergeSort le = sorted at h
  obtain ⟨k, hk, rfl⟩ := List.mem_iff_getElem.mp (h.perm.symm.subset mem)
  refine ⟨sorted, h, ?_, k, hk, rfl, before_le order h k hk, lt_upTo order h k hk⟩
  rw [h.length]
  exact List.countP_le_length

/-- Rows of which no two compare alike are not cut, however large the pages are. -/
theorem uncut_of_apart (order : Total le) (distinct : rows.Nodup)
    (apart : ∀ x ∈ rows, ∀ y ∈ rows, le x y = true → le y x = true → x = y) :
    Uncut le size rows := by
  intro x mem
  obtain ⟨sorted, h, fits, k, hk, here, low, high⟩ := exists_position order x mem
  have only (i : ℕ) (from_before : before le rows x ≤ i) (to_upTo : i < upTo le rows x) :
      i = k := by
    have hi : i < sorted.length := by omega
    obtain ⟨above, below⟩ := alike order h i hi x from_before to_upTo
    have same := apart x mem _ (h.perm.subset (List.getElem_mem hi)) above below
    have once := h.perm.nodup_iff.mpr distinct
    exact (once.getElem_inj_iff).mp (same.symm.trans here.symm)
  rw [only (before le rows x) (Nat.le_refl _) (by omega), only (upTo le rows x - 1) (by omega) (by omega)]

/-- Where a group of rows is cut, one of them can be on two pages. -/
theorem exists_twice (order : Total le) (some : 0 < size) (cut : ¬Uncut le size rows) :
    ∃ first second p x, Arranges le rows first ∧ Arranges le rows second ∧
      p + 1 < pageCount size rows.length ∧ x ∈ page size p first ∧
      x ∈ page size (p + 1) second := by
  simp only [Uncut, not_forall] at cut
  obtain ⟨x, mem, apart⟩ := cut
  obtain ⟨sorted, h, fits, k, hk, here, low, high⟩ := exists_position order x mem
  -- the page of the first row of the group ends inside the group
  obtain ⟨p, hp⟩ : ∃ p, before le rows x / size = p := ⟨_, rfl⟩
  obtain ⟨left, right⟩ := (div_eq_iff_window some _ p).mp hp
  have later : p + 1 ≤ (upTo le rows x - 1) / size := by
    refine Nat.lt_of_le_of_ne ?_ (hp ▸ apart)
    exact hp ▸ Nat.div_le_div_right (by omega)
  rw [Nat.le_div_iff_mul_le some, Nat.succ_mul] at later
  obtain ⟨m, hm⟩ : ∃ m, p * size + size = m + 1 := ⟨p * size + size - 1, by omega⟩
  have hlast : m + 1 < sorted.length := by omega
  have front := alike order h m (by omega) x (by omega) (by omega)
  have back := alike order h (m + 1) hlast x (by omega) (by omega)
  obtain ⟨other, arranges, here, swapped⟩ := exists_swapped sorted h m hlast
    (order.trans _ x _ back.2 front.1)
  refine ⟨sorted, other, p, sorted[m], h, arranges, ?_, ?_, ?_⟩
  · rw [lt_pageCount_iff some, Nat.succ_mul, ← h.length]
    omega
  · exact getElem_mem_page sorted p m (by omega) (by omega)
  · rw [← swapped]
    refine getElem_mem_page other (p + 1) (m + 1) here ?_
    rw [Nat.succ_mul]
    omega

/-- Rows that are cut can be sorted for each page so that one is on two pages. -/
theorem exists_repeating (order : Total le) (some : 0 < size) (cut : ¬Uncut le size rows) :
    ∃ sort : ℕ → List α → List α, (∀ p xs, Arranges le xs (sort p xs)) ∧
      ∃ p x, p + 1 < pageCount size rows.length ∧ x ∈ page size p (sort p rows) ∧
        x ∈ page size (p + 1) (sort (p + 1) rows) := by
  obtain ⟨first, second, p, x, hfirst, hsecond, last, inFirst, inSecond⟩ :=
    exists_twice order some cut
  obtain ⟨sort, sorts, here⟩ := exists_sort order first hfirst
  obtain ⟨sort', sorts', there⟩ := exists_sort order second hsecond
  refine ⟨fun q => if q = p then sort else sort', fun q xs => ?_, p, x, last, ?_, ?_⟩
  · show Arranges le xs ((if q = p then sort else sort') xs)
    by_cases same : q = p
    · rw [if_pos same]
      exact sorts xs
    · rw [if_neg same]
      exact sorts' xs
  · simpa only [if_pos, here] using inFirst
  · simpa only [if_neg p.succ_ne_self, there] using inSecond

end Library.Pages
