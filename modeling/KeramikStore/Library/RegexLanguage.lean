import Mathlib.Computability.Language
import KeramikStore.Library.Text

/-!
# The texts that an expression matches

The matcher is compared with the language of its expression, in which sequences are
products and repetitions are stars. What the expressions of value objects match is
read from the language: runs of a class, and words behind a separator.
-/

set_option autoImplicit false

open scoped Computability

namespace Library.Text.Regex

def language : Regex → Language Char
  | never => 0
  | empty => 1
  | cls p => {cs | ∃ c, p c = true ∧ cs = [c]}
  | seq r q => r.language * q.language
  | alt r q => r.language + q.language
  | star r => r.language∗

theorem mem_cls (p : Char → Bool) (cs : List Char) :
    cs ∈ (cls p).language ↔ ∃ c, p c = true ∧ cs = [c] := Iff.rfl

theorem mem_alt (r q : Regex) (cs : List Char) :
    cs ∈ (alt r q).language ↔ cs ∈ r.language ∨ cs ∈ q.language := Iff.rfl

theorem language_followedBy (r q : Regex) :
    (followedBy r q).language = r.language * q.language := by
  cases r with
  | never => exact (zero_mul _).symm
  | empty => exact (one_mul _).symm
  | _ => rfl

theorem language_orElse (r q : Regex) : (orElse r q).language = r.language + q.language := by
  cases r with
  | never => exact (zero_add _).symm
  | _ =>
    cases q with
    | never => exact (add_zero _).symm
    | _ => rfl

theorem nullable_iff (r : Regex) : r.nullable = true ↔ [] ∈ r.language := by
  induction r with
  | never => simp [nullable, language]
  | empty => simp [nullable, language]
  | cls p => simp [nullable, mem_cls]
  | seq r q hr hq =>
    simp only [nullable, Bool.and_eq_true, hr, hq, language, Language.mem_mul,
      List.append_eq_nil_iff]
    constructor
    · exact fun h => ⟨[], h.1, [], h.2, rfl, rfl⟩
    · rintro ⟨_, ha, _, hb, rfl, rfl⟩
      exact ⟨ha, hb⟩
  | alt r q hr hq => rw [nullable, Bool.or_eq_true, hr, hq, mem_alt]
  | star r _ => simp [nullable, language, Language.nil_mem_kstar]

theorem cons_mem_mul (l m : Language Char) (c : Char) (cs : List Char) :
    c :: cs ∈ l * m ↔
      (∃ a b, c :: a ∈ l ∧ b ∈ m ∧ a ++ b = cs) ∨ ([] ∈ l ∧ c :: cs ∈ m) := by
  rw [Language.mem_mul]
  constructor
  · rintro ⟨a, ha, b, hb, split⟩
    cases a with
    | nil =>
      rw [List.nil_append] at split
      exact .inr ⟨ha, split ▸ hb⟩
    | cons d a =>
      obtain ⟨rfl, rest⟩ := List.cons.inj split
      exact .inl ⟨a, b, ha, hb, rest⟩
  · rintro (⟨a, b, ha, hb, rfl⟩ | ⟨empty, hm⟩)
    · exact ⟨c :: a, ha, b, hb, rfl⟩
    · exact ⟨[], empty, c :: cs, hm, rfl⟩

theorem cons_mem_kstar (l : Language Char) (c : Char) (cs : List Char) :
    c :: cs ∈ l∗ ↔ ∃ a b, c :: a ∈ l ∧ b ∈ l∗ ∧ a ++ b = cs := by
  constructor
  · intro h
    obtain ⟨parts, whole, good⟩ := Language.mem_kstar_iff_exists_nonempty.mp h
    rcases parts with _ | ⟨_ | ⟨d, a⟩, parts⟩
    · cases whole
    · exact absurd rfl (good [] List.mem_cons_self).2
    · rw [List.flatten_cons, List.cons_append] at whole
      obtain ⟨rfl, rest⟩ := List.cons.inj whole
      refine ⟨a, parts.flatten, (good _ List.mem_cons_self).1, ?_, rest.symm⟩
      exact Language.join_mem_kstar fun y mem => (good y (List.mem_cons_of_mem _ mem)).1
  · rintro ⟨a, b, ha, hb, rfl⟩
    rw [← Language.one_add_self_mul_kstar_eq_kstar]
    exact .inr (Language.append_mem_mul ha hb)

/-- The derivative matches what is left of the texts that begin with the character. -/
theorem mem_language_derive (r : Regex) (c : Char) (cs : List Char) :
    cs ∈ (r.derive c).language ↔ c :: cs ∈ r.language := by
  induction r generalizing cs with
  | never => exact Iff.rfl
  | empty => simp [derive, language]
  | cls p =>
    rw [derive, mem_cls]
    cases h : p c <;> simp [language, h]
  | seq r q hr hq =>
    have first : cs ∈ (r.derive c).language * q.language ↔
        ∃ a b, c :: a ∈ r.language ∧ b ∈ q.language ∧ a ++ b = cs := by
      simp only [Language.mem_mul, hr, exists_and_left]
    rw [derive, language, cons_mem_mul, ← nullable_iff]
    cases r.nullable with
    | false => simp [language_followedBy, first]
    | true =>
      rw [if_pos rfl, language_orElse, Language.mem_add, language_followedBy, first, hq]
      exact or_congr_right (and_iff_right rfl).symm
  | alt r q hr hq => rw [derive, language_orElse, Language.mem_add, hr, hq, mem_alt]
  | star r hr =>
    simp only [derive, language_followedBy, language, Language.mem_mul, cons_mem_kstar, hr,
      exists_and_left]

/-- The anchored test decides the language of the expression. -/
theorem test_iff (r : Regex) (s : String) : r.test s = true ↔ s.toList ∈ r.language := by
  unfold test
  generalize s.toList = cs
  induction cs generalizing r with
  | nil => exact nullable_iff r
  | cons c cs ih => rw [List.foldl_cons, ih, mem_language_derive]

theorem mem_optional (r : Regex) (cs : List Char) :
    cs ∈ (optional r).language ↔ cs = [] ∨ cs ∈ r.language := Iff.rfl

theorem mem_times_cls (p : Char → Bool) (n : ℕ) (cs : List Char) :
    cs ∈ (times n (cls p)).language ↔ cs.length = n ∧ ∀ c ∈ cs, p c = true := by
  induction n generalizing cs with
  | zero =>
    rw [times, language, Language.mem_one, List.length_eq_zero_iff]
    exact ⟨by rintro rfl; simp, And.left⟩
  | succ n ih =>
    rw [times, language, Language.mem_mul]
    constructor
    · rintro ⟨_, ⟨c, hc, rfl⟩, b, hb, rfl⟩
      obtain ⟨length, all⟩ := (ih b).mp hb
      exact ⟨by simp [length], by simpa [hc] using all⟩
    · rintro ⟨length, all⟩
      obtain ⟨c, b, rfl⟩ := List.exists_cons_of_length_eq_add_one length
      refine ⟨[c], ⟨c, all c List.mem_cons_self, rfl⟩, b, (ih b).mpr ⟨?_, ?_⟩, rfl⟩
      · exact Nat.succ.inj length
      · exact fun d mem => all d (List.mem_cons_of_mem _ mem)

theorem mem_star_cls (p : Char → Bool) (cs : List Char) :
    cs ∈ (star (cls p)).language ↔ ∀ c ∈ cs, p c = true := by
  induction cs with
  | nil => exact ⟨fun _ _ mem => absurd mem List.not_mem_nil, fun _ => Language.nil_mem_kstar _⟩
  | cons c cs ih =>
    rw [language, cons_mem_kstar, List.forall_mem_cons, ← ih]
    constructor
    · rintro ⟨a, b, ⟨d, hd, one⟩, hb, rfl⟩
      obtain ⟨rfl, rfl⟩ := List.cons.inj one
      exact ⟨hd, hb⟩
    · rintro ⟨hc, hcs⟩
      exact ⟨[], cs, ⟨c, hc, rfl⟩, hcs, rfl⟩

theorem mem_atLeast_cls (p : Char → Bool) (n : ℕ) (cs : List Char) :
    cs ∈ (atLeast n (cls p)).language ↔ n ≤ cs.length ∧ ∀ c ∈ cs, p c = true := by
  rw [atLeast, language, Language.mem_mul]
  simp only [mem_times_cls, mem_star_cls]
  constructor
  · rintro ⟨a, ⟨rfl, ha⟩, b, hb, rfl⟩
    exact ⟨by simp, fun c mem => (List.mem_append.mp mem).elim (ha c) (hb c)⟩
  · rintro ⟨long, all⟩
    refine ⟨cs.take n, ⟨List.length_take_of_le long, ?_⟩, cs.drop n, ?_, List.take_append_drop n cs⟩
    · exact fun c mem => all c (List.mem_of_mem_take mem)
    · exact fun c mem => all c (List.mem_of_mem_drop mem)

/-- Words of a class, each behind the separator. -/
theorem mem_star_words (p : Char → Bool) (sep : Char) (cs : List Char) :
    cs ∈ (star (seq (literal sep) (atLeast 1 (cls p)))).language ↔
      ∃ ws : List (List Char), (∀ w ∈ ws, w ≠ [] ∧ ∀ c ∈ w, p c = true) ∧
        ws.flatMap (sep :: ·) = cs := by
  have word (a : List Char) : a ∈ (seq (literal sep) (atLeast 1 (cls p))).language ↔
      ∃ w, (w ≠ [] ∧ ∀ c ∈ w, p c = true) ∧ sep :: w = a := by
    rw [language, Language.mem_mul]
    simp only [literal, mem_cls, mem_atLeast_cls, Nat.one_le_iff_ne_zero, ne_eq,
      List.length_eq_zero_iff, beq_iff_eq]
    constructor
    · rintro ⟨_, ⟨c, rfl, rfl⟩, b, hb, rfl⟩
      exact ⟨b, hb, rfl⟩
    · rintro ⟨w, hw, rfl⟩
      exact ⟨[sep], ⟨sep, rfl, rfl⟩, w, hw, rfl⟩
  rw [language, Language.mem_kstar]
  constructor
  · rintro ⟨parts, rfl, good⟩
    induction parts with
    | nil => exact ⟨[], nofun, rfl⟩
    | cons a parts ih =>
      obtain ⟨ws, words, whole⟩ := ih fun y mem => good y (List.mem_cons_of_mem _ mem)
      obtain ⟨w, hw, rfl⟩ := (word a).mp (good a List.mem_cons_self)
      refine ⟨w :: ws, List.forall_mem_cons.mpr ⟨hw, words⟩, ?_⟩
      rw [List.flatMap_cons, whole, List.flatten_cons]
  · rintro ⟨ws, words, rfl⟩
    refine ⟨ws.map (sep :: ·), List.flatMap_def .., fun y mem => ?_⟩
    obtain ⟨w, hw, rfl⟩ := List.mem_map.mp mem
    exact (word _).mpr ⟨w, words w hw, rfl⟩

end Library.Text.Regex
