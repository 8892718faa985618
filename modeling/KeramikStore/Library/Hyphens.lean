import Mathlib.Data.List.Destutter
import KeramikStore.Library.Text

/-!
# Words and the hyphens between them

Two of the replacements of a text are followed word by word. A run of one character
becomes a single one, so the text keeps every character that does not repeat it. A
hyphen swallows one white space next to it, so two words are joined where one of them
has a hyphen at the space between them. What is left has two marks side by side just
when two words met hyphen to hyphen, or a word between two others was hyphens alone.
-/

set_option autoImplicit false

namespace Library.Text

theorem units_eq_length (s : String) (h : ∀ c ∈ s.toList, c.toNat < 0x10000) :
    units s = s.toList.length := by
  unfold units
  have counted (cs : List Char) (n : ℕ) (small : ∀ c ∈ cs, c.toNat < 0x10000) :
      cs.foldl (fun n c => n + if 0x10000 ≤ c.toNat then 2 else 1) n = n + cs.length := by
    induction cs generalizing n with
    | nil => rfl
    | cons c cs ih =>
      obtain ⟨here, rest⟩ := List.forall_mem_cons.mp small
      rw [List.foldl_cons, if_neg (by omega), ih _ rest, List.length_cons]
      omega
  rw [counted _ _ h, Nat.zero_add]

/-! Runs of one character. -/

def Single (x a b : Char) : Prop := ¬(a = x ∧ b = x)

instance (x : Char) : DecidableRel (Single x) := fun _ _ => inferInstanceAs (Decidable (¬_))

theorem collapse_append (p : Char → Bool) (x : Char) (a b : List Char)
    (apart : ∀ c ∈ a.getLast?, ∀ d ∈ b.head?, (p c && p d) = false) :
    collapse p x (a ++ b) = collapse p x a ++ collapse p x b := by
  rw [collapse, List.splitBy_append apart, List.flatMap_append]
  rfl

/-- A text without two such characters side by side stays as it is. -/
theorem collapse_of_isChain (p : Char → Bool) (x : Char) (cs : List Char)
    (h : cs.IsChain fun a b => (p a && p b) = false) : collapse p x cs = cs := by
  induction cs with
  | nil => rfl
  | cons c cs ih =>
    have alone : collapse p x [c] = [c] := rfl
    obtain ⟨head, rest⟩ := List.isChain_cons.mp h
    have split := collapse_append p x [c] cs (by simpa using head)
    rwa [alone, ih rest] at split

theorem collapse_run (x : Char) (cs : List Char) (some : cs ≠ []) (all : ∀ c ∈ cs, c = x) :
    collapse (· == x) x cs = [x] := by
  have run : cs.IsChain fun a b => ((a == x) && (b == x)) = true := by
    have pairs : cs.Pairwise fun a b => ((a == x) && (b == x)) = true :=
      List.pairwise_of_forall_mem_list fun a ha b hb => by simp [all a ha, all b hb]
    exact pairs.isChain
  rw [collapse, List.splitBy_of_isChain some run, List.flatMap_cons, List.flatMap_nil,
    List.append_nil]
  cases cs with
  | nil => exact absurd rfl some
  | cons c cs =>
    obtain rfl := all c List.mem_cons_self
    cases cs with
    | nil => rfl
    | cons d cs => rfl

theorem collapse_twice (x : Char) (cs : List Char) :
    collapse (· == x) x (x :: x :: cs) = collapse (· == x) x (x :: cs) := by
  have all : ∀ c ∈ cs.takeWhile (· == x), c = x := fun c mem => by
    simpa using List.mem_takeWhile_imp mem
  have rest : ∀ d ∈ (cs.dropWhile (· == x)).head?, (d == x) = false := by
    intro d mem
    have stopped := List.head?_dropWhile_not (· == x) cs
    rw [Option.mem_def.mp mem] at stopped
    simpa using stopped
  have run (front : List Char) (same : ∀ c ∈ front, c = x) (some : front ≠ []) :
      collapse (· == x) x (front ++ cs) = x :: collapse (· == x) x (cs.dropWhile (· == x)) := by
    have whole : front ++ cs = (front ++ cs.takeWhile (· == x)) ++ cs.dropWhile (· == x) := by
      rw [List.append_assoc, List.takeWhile_append_dropWhile]
    rw [whole, collapse_append _ _ _ _ fun c _ d mem => by rw [rest d mem, Bool.and_false],
      collapse_run x _ (by simp [some])]
    · rfl
    · exact fun c mem => (List.mem_append.mp mem).elim (same c) (all c)
  exact (run [x, x] (by simp) (by simp)).trans (run [x] (by simp) (by simp)).symm

/-- The replacement leaves out each character that repeats the one before it. -/
theorem collapse_eq_destutter (x : Char) (cs : List Char) :
    collapse (· == x) x cs = cs.destutter (Single x) := by
  cases cs with
  | nil => rfl
  | cons c cs =>
    rw [List.destutter_cons']
    induction cs generalizing c with
    | nil => rfl
    | cons d cs ih =>
      rw [List.destutter'_cons]
      split_ifs with single
      · rw [← ih d, ← List.singleton_append, collapse_append]
        · rfl
        · simpa [Single] using single
      · obtain ⟨rfl, rfl⟩ := not_not.mp single
        rw [collapse_twice, ih]

/-! Marks side by side. -/

def isMark (c : Char) : Bool := isSpace c || c == '-'

def Calm (cs : List Char) : Prop := cs.IsChain fun a b => (isMark a && isMark b) = false

theorem calm_append_iff (a b : List Char) :
    Calm (a ++ b) ↔ Calm a ∧ Calm b ∧
      ∀ c ∈ a.getLast?, ∀ d ∈ b.head?, (isMark c && isMark d) = false :=
  List.isChain_append

/-- The rewriting of hyphens and spaces leaves a text as it is only if it is calm. -/
theorem joinHyphens_length_le (cs : List Char) : (joinHyphens cs).length ≤ cs.length := by
  fun_induction joinHyphens cs with
  | case1 a b cs _ ih => simp only [List.length_cons]; omega
  | case2 a b cs _ ih => simp only [List.length_cons] at ih ⊢; omega
  | case3 cs _ => exact le_rfl

theorem isChain_of_joinHyphens_length (cs : List Char)
    (kept : (joinHyphens cs).length = cs.length) :
    cs.IsChain fun a b => (isSpace a && b == '-' || a == '-' && isSpace b) = false := by
  fun_induction joinHyphens cs with
  | case1 a b cs _ ih =>
    have := joinHyphens_length_le cs
    simp only [List.length_cons] at kept
    omega
  | case2 a b cs here ih =>
    refine List.isChain_cons_cons.mpr ⟨Bool.eq_false_iff.mpr here, ih ?_⟩
    simpa only [List.length_cons, Nat.add_right_cancel_iff] using kept
  | case3 cs short =>
    rcases cs with _ | ⟨a, _ | ⟨b, cs⟩⟩
    · exact List.isChain_nil
    · exact List.isChain_singleton a
    · exact absurd rfl (short a b cs)

/-- Without a hyphen next to white space nothing is joined. -/
theorem joinHyphens_of_isChain (cs : List Char)
    (h : cs.IsChain fun a b => (isSpace a && b == '-' || a == '-' && isSpace b) = false) :
    joinHyphens cs = cs := by
  fun_induction joinHyphens cs with
  | case1 a b cs here ih => exact absurd here (Bool.eq_false_iff.mp (List.isChain_cons_cons.mp h).1)
  | case2 a b cs _ ih => rw [ih (List.isChain_cons_cons.mp h).2]
  | case3 cs _ => rfl

theorem head_joinHyphens (c : Char) (cs : List Char) :
    ∃ d ds, joinHyphens (c :: cs) = d :: ds ∧ (d = c ∨ d = '-' ∧ isSpace c = true) := by
  cases cs with
  | nil => exact ⟨c, [], rfl, .inl rfl⟩
  | cons b cs =>
    rw [joinHyphens]
    split_ifs with joined
    · refine ⟨'-', _, rfl, ?_⟩
      rcases Bool.or_eq_true_iff.mp joined with h | h
      · exact .inr ⟨rfl, (Bool.and_eq_true_iff.mp h).1⟩
      · exact .inl (beq_iff_eq.mp (Bool.and_eq_true_iff.mp h).1).symm
    · exact ⟨c, _, rfl, .inl rfl⟩

def Spread (cs : List Char) : Prop := cs.IsChain fun a b => (isSpace a && isSpace b) = false

theorem spread_joinHyphens (cs : List Char) (h : Spread cs) : Spread (joinHyphens cs) := by
  fun_induction joinHyphens cs with
  | case1 a b cs _ ih =>
    have rest := ih (List.isChain_cons_cons.mp h).2.tail
    exact List.isChain_cons.mpr ⟨fun _ _ => rfl, rest⟩
  | case2 a b cs _ ih =>
    obtain ⟨apart, rest⟩ := List.isChain_cons_cons.mp h
    refine List.isChain_cons.mpr ⟨fun d mem => ?_, ih rest⟩
    obtain ⟨e, ds, made, kept⟩ := head_joinHyphens b cs
    rw [made] at mem
    obtain rfl := Option.some.inj mem
    rcases kept with rfl | ⟨rfl, -⟩
    · exact apart
    · exact Bool.and_false _
  | case3 cs _ => exact h

theorem collapse_spread (x : Char) (cs : List Char) (h : Spread cs) :
    collapse isSpace x cs = cs := collapse_of_isChain isSpace x cs h

/-! Words with one space between any two. -/

def spaced (words : List (List Char)) : List Char := [' '].intercalate words

@[simp] theorem spaced_singleton (w : List Char) : spaced [w] = w := List.intercalate_singleton

@[simp] theorem spaced_cons_cons (w u : List Char) (us : List (List Char)) :
    spaced (w :: u :: us) = w ++ ' ' :: spaced (u :: us) := by
  rw [spaced, List.intercalate_cons_cons, List.append_assoc]
  rfl

/-- Words are none, one, or one before others. -/
@[elab_as_elim]
theorem words_induction {motive : List (List Char) → Prop} (none : motive [])
    (one : ∀ w, motive [w]) (more : ∀ w u us, motive (u :: us) → motive (w :: u :: us))
    (words : List (List Char)) : motive words := by
  cases words with
  | nil => exact none
  | cons w ws =>
    induction ws generalizing w with
    | nil => exact one w
    | cons u us ih => exact more w u us (ih u)

theorem spaced_cons (w : List Char) (ws : List (List Char)) :
    spaced (w :: ws) = w ++ ws.flatMap (' ' :: ·) := by
  induction ws generalizing w with
  | nil => simp
  | cons u us ih => rw [spaced_cons_cons, ih, List.flatMap_cons, List.cons_append]

structure Word (w : List Char) : Prop where
  some : w ≠ []
  plain : ∀ c ∈ w, isSpace c = false
  single : w.IsChain (Single '-')

def ends (w : List Char) : Bool := w.getLast? == some '-'

def begins (w : List Char) : Bool := w.head? == some '-'

def touches (w u : List Char) : Bool := ends w || begins u

def apart : List (List Char) → Bool
  | w :: u :: us =>
    !(ends w && begins u) && (us.isEmpty || !u.all (· == '-')) && apart (u :: us)
  | _ => true

def firstPart : List (List Char) → List Char
  | w :: u :: us => if touches w u then w ++ firstPart (u :: us) else w
  | [w] => w
  | [] => []

theorem joinHyphens_spaced_word (w rest : List Char) (some : w ≠ [])
    (plain : ∀ c ∈ w, isSpace c = false) :
    joinHyphens (w ++ ' ' :: rest) =
      w ++ joinHyphens (if ends w then rest else ' ' :: rest) := by
  induction w with
  | nil => exact absurd rfl some
  | cons c w ih =>
    have hc := plain c List.mem_cons_self
    cases w with
    | nil =>
      have last : ends [c] = (c == '-') := rfl
      have space : isSpace ' ' = true := by decide
      rw [last, List.singleton_append, joinHyphens, hc, space, Bool.false_and, Bool.false_or,
        Bool.and_true]
      cases h : c == '-' with
      | false => rfl
      | true => rw [beq_iff_eq.mp h]; rfl
    | cons d w =>
      have hd := plain d (List.mem_cons_of_mem _ List.mem_cons_self)
      have last : ends (c :: d :: w) = ends (d :: w) := by simp [ends]
      rw [last, List.cons_append, List.cons_append, joinHyphens, hc, hd, Bool.false_and,
        Bool.and_false, Bool.or_false, if_neg Bool.false_ne_true, ← List.cons_append,
        ih (List.cons_ne_nil d w) fun e mem => plain e (List.mem_cons_of_mem _ mem)]
      rfl

/-- Two words are joined where a hyphen touches the space between them. -/
theorem joinHyphens_cons_cons (w u : List Char) (us : List (List Char)) (hw : Word w)
    (hu : Word u) (inner : us = [] ∨ u ≠ ['-']) :
    joinHyphens (spaced (w :: u :: us)) =
      w ++ if touches w u then joinHyphens (spaced (u :: us))
        else ' ' :: joinHyphens (spaced (u :: us)) := by
  rw [spaced_cons_cons, joinHyphens_spaced_word w _ hw.some hw.plain, touches]
  cases ends w with
  | true => rfl
  | false =>
    obtain ⟨c, cs, rfl⟩ := List.exists_cons_of_ne_nil hu.some
    have first : begins (c :: cs) = (c == '-') := rfl
    have hc := hu.plain c List.mem_cons_self
    have space : isSpace ' ' = true := by decide
    have other : (' ' == '-') = false := by decide
    rw [if_neg Bool.false_ne_true, spaced_cons, List.cons_append, joinHyphens, space, other, first,
      Bool.true_and, Bool.false_and, Bool.or_false, Bool.false_or]
    cases hyphen : c == '-' with
    | false => rfl
    | true =>
      obtain rfl := beq_iff_eq.mp hyphen
      rw [if_pos rfl, if_pos rfl]
      -- what follows the hyphen is no white space, so the hyphen joins nothing more
      have next : ∀ d ∈ (cs ++ us.flatMap (' ' :: ·)).head?, isSpace d = false := by
        intro d mem
        cases cs with
        | nil =>
          obtain rfl := inner.resolve_right fun other => other rfl
          cases mem
        | cons e cs =>
          obtain rfl := Option.some.inj mem
          exact hu.plain e (List.mem_cons_of_mem _ List.mem_cons_self)
      cases rest : cs ++ us.flatMap (' ' :: ·) with
      | nil => rfl
      | cons d ds =>
        rw [joinHyphens.eq_1 '-' d ds, next d (rest ▸ rfl), hc]
        rfl

theorem bare_iff (w : List Char) (hw : Word w) : w.all (· == '-') = true ↔ w = ['-'] := by
  refine ⟨fun all => ?_, fun h => by rw [h]; rfl⟩
  have same (c : Char) (mem : c ∈ w) : c = '-' := beq_iff_eq.mp (List.all_eq_true.mp all c mem)
  rcases w with _ | ⟨c, _ | ⟨d, w⟩⟩
  · exact absurd rfl hw.some
  · rw [same c List.mem_cons_self]
  · refine absurd ⟨same c List.mem_cons_self, ?_⟩ (List.isChain_cons_cons.mp hw.single).1
    exact same d (List.mem_cons_of_mem _ List.mem_cons_self)

theorem isMark_word (w : List Char) (hw : Word w) (c : Char) (mem : c ∈ w) :
    isMark c = (c == '-') := by
  rw [isMark, hw.plain c mem, Bool.false_or]

theorem calm_word (w : List Char) (hw : Word w) : Calm w := by
  refine List.IsChain.imp_of_mem_imp (fun a b ha hb single => ?_) hw.single
  rw [isMark_word w hw a ha, isMark_word w hw b hb]
  simpa [Single] using single

theorem joinHyphens_word (w : List Char) (hw : Word w) : joinHyphens w = w := by
  apply joinHyphens_of_isChain
  refine List.IsChain.imp_of_mem_imp (fun a b ha hb _ => ?_) hw.single
  rw [hw.plain a ha, hw.plain b hb, Bool.false_and, Bool.and_false, Bool.or_false]

theorem not_calm_append (a cs : List Char) (c d : Char) (last : a.getLast? = some c)
    (head : cs.head? = some d) (hc : isMark c = true) (hd : isMark d = true) :
    ¬Calm (a ++ cs) := by
  intro calm
  have := ((calm_append_iff a cs).mp calm).2.2 c last d head
  rw [hc, hd] at this
  cases this

theorem mark_joinHyphens (c : Char) (cs : List Char) (hc : isMark c = true) :
    ∃ d, (joinHyphens (c :: cs)).head? = some d ∧ isMark d = true := by
  obtain ⟨d, ds, made, rfl | ⟨rfl, -⟩⟩ := head_joinHyphens c cs
  · exact ⟨d, by rw [made]; rfl, hc⟩
  · exact ⟨'-', by rw [made]; rfl, rfl⟩

theorem head_joinHyphens_spaced (w : List Char) (ws : List (List Char)) (hw : Word w) :
    (joinHyphens (spaced (w :: ws))).head? = w.head? := by
  obtain ⟨c, cs, rfl⟩ := List.exists_cons_of_ne_nil hw.some
  obtain ⟨d, ds, made, rfl | ⟨-, space⟩⟩ := head_joinHyphens c (cs ++ ws.flatMap (' ' :: ·))
  · rw [spaced_cons, List.cons_append, made]
    rfl
  · exact absurd (space.symm.trans (hw.plain c List.mem_cons_self)) (by decide)

/-- Where two words meet hyphen to hyphen, two hyphens are left. -/
theorem not_calm_of_meets (w u : List Char) (us : List (List Char)) (hw : Word w) (hu : Word u)
    (meets : (ends w && begins u) = true) : ¬Calm (joinHyphens (spaced (w :: u :: us))) := by
  obtain ⟨left, right⟩ := Bool.and_eq_true_iff.mp meets
  rw [spaced_cons_cons, joinHyphens_spaced_word w _ hw.some hw.plain, if_pos left]
  refine not_calm_append w _ '-' '-' (beq_iff_eq.mp left) ?_ rfl rfl
  rw [head_joinHyphens_spaced u us hu]
  exact beq_iff_eq.mp right

/-- A hyphen between two spaces is left beside the second of them. -/
theorem not_calm_of_bare (w v : List Char) (vs : List (List Char)) (hw : Word w)
    (left : ends w = false) : ¬Calm (joinHyphens (spaced (w :: ['-'] :: v :: vs))) := by
  have joined : joinHyphens (' ' :: '-' :: ' ' :: spaced (v :: vs)) =
      '-' :: joinHyphens (' ' :: spaced (v :: vs)) := rfl
  obtain ⟨d, head, mark⟩ := mark_joinHyphens ' ' (spaced (v :: vs)) rfl
  rw [spaced_cons_cons, spaced_cons_cons, joinHyphens_spaced_word w _ hw.some hw.plain, left,
    if_neg Bool.false_ne_true, List.singleton_append, joined, ← List.singleton_append,
    ← List.append_assoc]
  exact not_calm_append _ _ '-' d (by simp) head rfl mark

/-- Joined or not, two words that do not meet hyphen to hyphen leave no marks side by
side between them. -/
theorem calm_between_iff (w u rest : List Char) (hw : Word w) (hu : Word u)
    (meets : (ends w && begins u) = false) (head : rest.head? = u.head?) :
    Calm (w ++ if touches w u then rest else ' ' :: rest) ↔ Calm rest := by
  obtain ⟨c, cs, rfl⟩ := List.exists_cons_of_ne_nil hu.some
  have first : isMark c = begins (c :: cs) := isMark_word _ hu c List.mem_cons_self
  have last : ∀ d ∈ w.getLast?, isMark d = ends w := fun d mem => by
    rw [isMark_word w hw d (List.mem_of_getLast? mem), ends, Option.mem_def.mp mem]
    rfl
  have space : isMark ' ' = true := by decide
  have only : ∀ d ∈ rest.head?, d = c := fun d mem => Option.some.inj (mem.symm.trans head)
  split_ifs with touch
  · rw [calm_append_iff, and_iff_right (calm_word w hw)]
    refine and_iff_left fun d hd e he => ?_
    rw [last d hd, only e he, first, meets]
  · obtain ⟨left, right⟩ := Bool.or_eq_false_iff.mp (Bool.eq_false_iff.mpr touch)
    rw [calm_append_iff, and_iff_right (calm_word w hw)]
    have after : Calm (' ' :: rest) ↔ Calm rest := by
      rw [Calm, List.isChain_cons]
      refine and_iff_right fun d hd => ?_
      rw [only d hd, first, right, Bool.and_false]
    rw [after]
    refine and_iff_left fun d hd e he => ?_
    rw [last d hd, left, Bool.false_and]

/-- Words that are apart are left without marks side by side, and only they. -/
theorem calm_joinHyphens_iff (words : List (List Char)) (h : ∀ w ∈ words, Word w) :
    Calm (joinHyphens (spaced words)) ↔ apart words = true := by
  induction words using words_induction with
  | none => exact iff_of_true List.isChain_nil rfl
  | one w =>
    have hw := h w List.mem_cons_self
    rw [spaced_singleton, joinHyphens_word w hw]
    exact iff_of_true (calm_word w hw) rfl
  | more w u us ih =>
    have hw := h w List.mem_cons_self
    have rest := fun v mem => h v (List.mem_cons_of_mem w mem)
    have hu := rest u List.mem_cons_self
    rw [apart]
    cases meets : ends w && begins u with
    | true => exact iff_of_false (not_calm_of_meets w u us hw hu meets) (by simp)
    | false =>
      by_cases inner : us = [] ∨ u ≠ ['-']
      · have open_ : (us.isEmpty || !u.all (· == '-')) = true := by
          rw [Bool.or_eq_true, List.isEmpty_iff, Bool.not_eq_true', Bool.eq_false_iff, ne_eq,
            bare_iff u hu]
          exact inner
        rw [joinHyphens_cons_cons w u us hw hu inner, calm_between_iff w u _ hw hu meets
          (head_joinHyphens_spaced u us hu), ih rest, open_]
        rfl
      · obtain ⟨more, bare⟩ := not_or.mp inner
        obtain rfl := not_not.mp bare
        obtain ⟨v, vs, rfl⟩ := List.exists_cons_of_ne_nil more
        have left : ends w = false := by simpa [begins] using meets
        exact iff_of_false (not_calm_of_bare w v vs hw left) (by simp)

theorem spread_plain (w : List Char) (plain : ∀ c ∈ w, isSpace c = false) : Spread w := by
  have pairs : w.Pairwise fun a b => (isSpace a && isSpace b) = false :=
    List.pairwise_of_forall_mem_list fun a ha b _ => by rw [plain a ha, Bool.false_and]
  exact pairs.isChain

theorem spread_spaced (words : List (List Char)) (some : ∀ w ∈ words, w ≠ [])
    (plain : ∀ w ∈ words, ∀ c ∈ w, isSpace c = false) : Spread (spaced words) := by
  induction words using words_induction with
  | none => exact List.isChain_nil
  | one w =>
    rw [spaced_singleton]
    exact spread_plain w (plain w List.mem_cons_self)
  | more w u us ih =>
    obtain ⟨hw, rest⟩ := List.forall_mem_cons.mp plain
    have tail := ih (List.forall_mem_cons.mp some).2 rest
    have later := (List.forall_mem_cons.mp some).2 u List.mem_cons_self
    obtain ⟨c, cs, rfl⟩ := List.exists_cons_of_ne_nil later
    have hc := rest _ List.mem_cons_self c List.mem_cons_self
    rw [spaced_cons_cons]
    refine List.isChain_append.mpr ⟨spread_plain w hw, List.isChain_cons.mpr ⟨?_, tail⟩, ?_⟩
    · intro d mem
      rw [spaced_cons, List.cons_append] at mem
      obtain rfl := Option.some.inj mem
      rw [hc, Bool.and_false]
    · intro d mem e _
      rw [hw d (List.mem_of_getLast? mem), Bool.false_and]

theorem mem_spaced (words : List (List Char)) (c : Char) (mem : c ∈ spaced words) :
    c = ' ' ∨ ∃ w ∈ words, c ∈ w := by
  cases words with
  | nil => exact absurd mem List.not_mem_nil
  | cons w ws =>
    rw [spaced_cons, List.mem_append, List.mem_flatMap] at mem
    rcases mem with here | ⟨u, hu, here⟩
    · exact .inr ⟨w, List.mem_cons_self, here⟩
    · rcases List.mem_cons.mp here with rfl | inside
      · exact .inl rfl
      · exact .inr ⟨u, List.mem_cons_of_mem _ hu, inside⟩

theorem last_spaced (words : List (List Char)) (some : ∀ w ∈ words, w ≠ []) :
    ∀ c ∈ (spaced words).getLast?, ∃ w ∈ words, c ∈ w := by
  induction words using words_induction with
  | none => rintro c ⟨⟩
  | one w =>
    intro c mem
    rw [spaced_singleton] at mem
    exact ⟨w, List.mem_cons_self, List.mem_of_getLast? mem⟩
  | more w u us ih =>
    obtain ⟨-, rest⟩ := List.forall_mem_cons.mp some
    intro c mem
    have filled : spaced (u :: us) ≠ [] := by
      rw [spaced_cons]
      exact List.append_ne_nil_of_left_ne_nil (rest u List.mem_cons_self) _
    rw [spaced_cons_cons, List.getLast?_append_of_ne_nil _ (List.cons_ne_nil _ _),
      List.getLast?_cons_of_ne_nil filled] at mem
    obtain ⟨v, hv, inside⟩ := ih rest c mem
    exact ⟨v, List.mem_cons_of_mem _ hv, inside⟩

theorem trimList_spaced (words : List (List Char)) (some : ∀ w ∈ words, w ≠ [])
    (plain : ∀ w ∈ words, ∀ c ∈ w, isSpace c = false) : trimList (spaced words) = spaced words := by
  have kept (cs : List Char) (head : ∀ c ∈ cs.head?, isSpace c = false) :
      cs.dropWhile isSpace = cs := by
    cases cs with
    | nil => rfl
    | cons c cs => rw [List.dropWhile_cons, head c rfl, if_neg Bool.false_ne_true]
  have front : ∀ c ∈ (spaced words).head?, isSpace c = false := by
    intro c mem
    cases words with
    | nil => cases mem
    | cons w ws =>
      obtain ⟨d, ds, rfl⟩ := List.exists_cons_of_ne_nil (some w List.mem_cons_self)
      rw [spaced_cons, List.cons_append] at mem
      obtain rfl := Option.some.inj mem
      exact plain _ List.mem_cons_self d List.mem_cons_self
  have back : ∀ c ∈ (spaced words).reverse.head?, isSpace c = false := by
    intro c mem
    rw [List.head?_reverse] at mem
    obtain ⟨w, hw, inside⟩ := last_spaced words some c mem
    exact plain w hw c inside
  rw [trimList, kept _ front, kept _ back, List.reverse_reverse]

/-! The words that are left. -/

def closed : List (List Char) → List (List Char)
  | w :: u :: us =>
    if touches w u then (closed (u :: us)).modifyHead (w ++ ·) else w :: closed (u :: us)
  | words => words

theorem closed_cons (w : List Char) (ws : List (List Char)) :
    ∃ rest, closed (w :: ws) = firstPart (w :: ws) :: rest := by
  induction ws generalizing w with
  | nil => exact ⟨[], rfl⟩
  | cons u us ih =>
    obtain ⟨rest, made⟩ := ih u
    unfold closed firstPart
    split_ifs
    · rw [made]
      exact ⟨rest, rfl⟩
    · exact ⟨closed (u :: us), rfl⟩

theorem spaced_modifyHead (w u : List Char) (us : List (List Char)) :
    spaced ((u :: us).modifyHead (w ++ ·)) = w ++ spaced (u :: us) := by
  rw [List.modifyHead_cons, spaced_cons, spaced_cons, List.append_assoc]

theorem inner_of_apart (w u : List Char) (us : List (List Char)) (hu : Word u)
    (h : apart (w :: u :: us) = true) : us = [] ∨ u ≠ ['-'] := by
  simp only [apart, Bool.and_eq_true, Bool.or_eq_true, List.isEmpty_iff, Bool.not_eq_true',
    Bool.eq_false_iff] at h
  exact h.1.2.imp_right fun open_ bare => open_ ((bare_iff u hu).mpr bare)

theorem apart_tail (w u : List Char) (us : List (List Char)) (h : apart (w :: u :: us) = true) :
    apart (u :: us) = true := (Bool.and_eq_true_iff.mp h).2

theorem joinHyphens_spaced (words : List (List Char)) (h : ∀ w ∈ words, Word w)
    (far : apart words = true) : joinHyphens (spaced words) = spaced (closed words) := by
  induction words using words_induction with
  | none => rfl
  | one w =>
    show joinHyphens (spaced [w]) = spaced [w]
    rw [spaced_singleton, joinHyphens_word w (h w List.mem_cons_self)]
  | more w u us ih =>
    have rest := fun v mem => h v (List.mem_cons_of_mem w mem)
    have hu := rest u List.mem_cons_self
    obtain ⟨others, made⟩ := closed_cons u us
    rw [joinHyphens_cons_cons w u us (h w List.mem_cons_self) hu (inner_of_apart w u us hu far),
      closed, ih rest (apart_tail w u us far), made]
    by_cases touch : touches w u = true
    · rw [if_pos touch, if_pos touch, spaced_modifyHead]
    · rw [if_neg touch, if_neg touch, spaced_cons_cons]

theorem forall_closed (P : List Char → Prop) (words : List (List Char))
    (append : ∀ a b, P a → P b → P (a ++ b)) (h : ∀ w ∈ words, P w) : ∀ w ∈ closed words, P w := by
  fun_induction closed words with
  | case1 w u us _ ih =>
    obtain ⟨hw, rest⟩ := List.forall_mem_cons.mp h
    obtain ⟨others, made⟩ := closed_cons u us
    have parts := ih rest
    rw [made] at parts ⊢
    obtain ⟨first, later⟩ := List.forall_mem_cons.mp parts
    exact List.forall_mem_cons.mpr ⟨append w _ hw first, later⟩
  | case2 w u us _ ih =>
    obtain ⟨hw, rest⟩ := List.forall_mem_cons.mp h
    exact List.forall_mem_cons.mpr ⟨hw, ih rest⟩
  | case3 words _ => exact h

/-! Runs of hyphens inside the words. -/

def squeeze (w : List Char) : List Char := collapse (· == '-') '-' w

def runs (w : List Char) : ℕ := (w.splitBy fun a b => a == '-' && b == '-').length

theorem length_squeeze (w : List Char) : (squeeze w).length = runs w := by
  rw [squeeze, collapse, List.length_flatMap, runs]
  have one : ∀ run ∈ w.splitBy (fun a b => a == '-' && b == '-'),
      (if 2 ≤ run.length then ['-'] else run).length = 1 := by
    intro run mem
    have := List.length_pos_of_ne_nil (List.ne_nil_of_mem_splitBy mem)
    split_ifs with long
    · rfl
    · omega
  rw [List.map_congr_left one, List.map_const']
  simp

theorem destutter'_ends (c : Char) (cs : List Char) :
    (cs.destutter' (Single '-') c).head? = some c ∧
      (cs.destutter' (Single '-') c).getLast? = (c :: cs).getLast? := by
  induction cs generalizing c with
  | nil => exact ⟨rfl, rfl⟩
  | cons d cs ih =>
    rw [List.destutter'_cons]
    split_ifs with single
    · refine ⟨rfl, ?_⟩
      rw [List.getLast?_cons_of_ne_nil (List.destutter'_ne_nil cs _), (ih d).2,
        List.getLast?_cons_cons]
    · obtain ⟨rfl, rfl⟩ := not_not.mp single
      rw [List.getLast?_cons_cons]
      exact ih '-'

theorem squeeze_ends (w : List Char) :
    (squeeze w).head? = w.head? ∧ (squeeze w).getLast? = w.getLast? := by
  rw [squeeze, collapse_eq_destutter]
  cases w with
  | nil => exact ⟨rfl, rfl⟩
  | cons c cs => exact destutter'_ends c cs

theorem begins_squeeze (w : List Char) : begins (squeeze w) = begins w := by
  rw [begins, begins, (squeeze_ends w).1]

theorem ends_squeeze (w : List Char) : ends (squeeze w) = ends w := by
  rw [ends, ends, (squeeze_ends w).2]

theorem touches_squeeze (w u : List Char) : touches (squeeze w) (squeeze u) = touches w u := by
  rw [touches, touches, ends_squeeze, begins_squeeze]

theorem mem_of_mem_squeeze (w : List Char) (c : Char) (mem : c ∈ squeeze w) : c ∈ w := by
  rw [squeeze, collapse_eq_destutter] at mem
  exact (List.destutter_sublist _ w).subset mem

theorem word_squeeze (w : List Char) (some : w ≠ []) (plain : ∀ c ∈ w, isSpace c = false) :
    Word (squeeze w) := by
  refine ⟨?_, fun c mem => plain c (mem_of_mem_squeeze w c mem), ?_⟩
  · rw [squeeze, collapse_eq_destutter, ne_eq, List.destutter_eq_nil]
    exact some
  · rw [squeeze, collapse_eq_destutter]
    exact List.isChain_destutter _ w

theorem all_squeeze (w : List Char) : (squeeze w).all (· == '-') = w.all (· == '-') := by
  rw [squeeze, collapse_eq_destutter]
  cases w with
  | nil => rfl
  | cons c cs =>
    rw [List.destutter_cons']
    induction cs generalizing c with
    | nil => rfl
    | cons d cs ih =>
      rw [List.destutter'_cons]
      split_ifs with single
      · rw [List.all_cons, ih d]
        rfl
      · obtain ⟨rfl, rfl⟩ := not_not.mp single
        rw [ih '-']
        rfl

theorem squeeze_append (a b : List Char) (meets : (ends a && begins b) = false) :
    squeeze (a ++ b) = squeeze a ++ squeeze b := by
  refine collapse_append _ _ a b fun c hc d hd => ?_
  rw [ends, begins, Option.mem_def.mp hc, Option.mem_def.mp hd] at meets
  exact meets

theorem squeeze_spaced (words : List (List Char)) :
    squeeze (spaced words) = spaced (words.map squeeze) := by
  induction words using words_induction with
  | none => rfl
  | one w => rw [List.map_singleton, spaced_singleton, spaced_singleton]
  | more w u us ih =>
    have space : begins (' ' :: spaced (u :: us)) = false := rfl
    have front : ends [' '] = false := rfl
    rw [spaced_cons_cons, squeeze_append _ _ (by rw [space, Bool.and_false]),
      ← List.singleton_append, squeeze_append _ _ (by rw [front, Bool.false_and]), ih,
      List.map_cons, List.map_cons, List.map_cons, spaced_cons_cons]
    rfl

theorem apart_squeeze (words : List (List Char)) : apart (words.map squeeze) = apart words := by
  induction words using words_induction with
  | none => rfl
  | one w => rfl
  | more w u us ih =>
    rw [List.map_cons] at ih
    rw [List.map_cons, List.map_cons, apart, apart, ih, ends_squeeze, begins_squeeze, all_squeeze,
      List.isEmpty_map]

theorem begins_firstPart (w : List Char) (ws : List (List Char)) (some : w ≠ []) :
    begins (firstPart (w :: ws)) = begins w := by
  obtain ⟨c, cs, rfl⟩ := List.exists_cons_of_ne_nil some
  cases ws with
  | nil => rfl
  | cons u us =>
    unfold firstPart
    split_ifs <;> rfl

theorem firstPart_squeeze (words : List (List Char)) (some : ∀ w ∈ words, w ≠ [])
    (far : apart words = true) : firstPart (words.map squeeze) = squeeze (firstPart words) := by
  fun_induction firstPart words with
  | case1 w u us touch ih =>
    have rest := (List.forall_mem_cons.mp some).2
    have meets : (ends w && begins (firstPart (u :: us))) = false := by
      rw [begins_firstPart u us (rest u List.mem_cons_self)]
      simp only [apart, Bool.and_eq_true, Bool.not_eq_true'] at far
      exact far.1.1
    rw [squeeze_append _ _ meets, ← ih rest (apart_tail w u us far), List.map_cons, List.map_cons,
      firstPart, touches_squeeze, if_pos touch]
  | case2 w u us touch =>
    rw [List.map_cons, List.map_cons, firstPart, touches_squeeze, if_neg touch]
  | case3 w => rfl
  | case4 => rfl

theorem joinHyphens_squeeze_iff (cs : List Char) :
    joinHyphens (squeeze cs) = cs ↔ cs.IsChain (Single '-') ∧
      cs.IsChain fun a b => (isSpace a && b == '-' || a == '-' && isSpace b) = false := by
  have shorter : (squeeze cs).length ≤ cs.length := by
    rw [squeeze, collapse_eq_destutter]
    exact (List.destutter_sublist _ cs).length_le
  have single : squeeze cs = cs ↔ cs.IsChain (Single '-') := by
    rw [squeeze, collapse_eq_destutter, List.destutter_eq_self_iff]
  constructor
  · intro fixed
    -- neither rewriting leaves out a character
    have joined := joinHyphens_length_le (squeeze cs)
    rw [fixed] at joined
    have whole : squeeze cs = cs := by
      rw [squeeze, collapse_eq_destutter] at joined ⊢
      exact (List.destutter_sublist _ cs).eq_of_length_le joined
    rw [whole] at fixed
    exact ⟨single.mp whole, isChain_of_joinHyphens_length cs (congrArg _ fixed)⟩
  · rintro ⟨runs, joints⟩
    rw [single.mpr runs, joinHyphens_of_isChain cs joints]

/-- A text with no white spaces side by side is left as it is just when it is calm. -/
theorem joinHyphens_squeeze_iff_calm (cs : List Char) (spread : Spread cs) :
    joinHyphens (squeeze cs) = cs ↔ Calm cs := by
  rw [joinHyphens_squeeze_iff]
  have pair (a b : Char) : (isMark a && isMark b) = false ↔ (Single '-' a b ∧
      (isSpace a && b == '-' || a == '-' && isSpace b) = false) ∧
        (isSpace a && isSpace b) = false := by
    unfold isMark Single
    cases isSpace a <;> cases isSpace b <;> simp +contextual
  simp only [Calm, Spread, List.isChain_iff_getElem, pair] at spread ⊢
  exact ⟨fun h i hi => ⟨⟨h.1 i hi, h.2 i hi⟩, spread i hi⟩,
    fun h => ⟨fun i hi => (h i hi).1.1, fun i hi => (h i hi).1.2⟩⟩

end Library.Text
