import KeramikStore.Library.Hyphens
import KeramikStore.Library.RegexLanguage
import KeramikStore.Users.UserMapper

/-!
# Names that survive being stored

A name is checked before it is cleaned, and what is stored is the cleaned text, which
is checked and cleaned again when it is loaded. The cleaning closes the space between
two words where a hyphen touches it, but only once and from left to right, and it
shortens runs of hyphens after the length of the first word has been checked. So the
exact condition under which a name is loaded again as itself is one on the words of
the text that it was made from.
-/

set_option autoImplicit false

namespace KeramikStore.Name
open Library Library.Text

def equals (a b : Name) : Bool := a.fullName == b.fullName

def words (text : String) : List (List Char) := text.toList.splitOn ' '

def LoadsAgain (n : Name) : Prop :=
  ∃ again, create n.getFullName = .ok again ∧ again.equals n = true

def KeptByAuthMapper (fullName : String) : Prop :=
  ∀ o clk raw u, PrismaAuthUserMapper.toDomain o clk raw = .ok u →
    ∃ v, PrismaAuthUserMapper.toDomain o clk { raw with fullName := fullName } = .ok v ∧
      (PrismaAuthUserMapper.toPersistence v).fullName = fullName

def KeptByUserMapper (fullName : String) : Prop :=
  ∀ host clk raw u, PrismaUserMapper.toDomain host clk raw = .ok u →
    ∃ v, PrismaUserMapper.toDomain host clk { raw with fullName := fullName } = .ok v ∧
      (PrismaUserMapper.toPersistence v).fullName = fullName

structure Survives (n : Name) : Prop where
  loadsAgain : n.LoadsAgain
  auth : KeptByAuthMapper n.getFullName
  profile : KeptByUserMapper n.getFullName

/-- No two words meet hyphen to hyphen, no word between two others is hyphens alone,
and the words up to the first space that no hyphen touches have three characters, a
run of hyphens counted as one. -/
structure Settled (text : String) : Prop where
  apart : apart (words text) = true
  first : 3 ≤ runs (firstPart (words text))

/-! The mappers. -/

theorem equals_iff (a b : Name) : a.equals b = true ↔ a = b := by
  rw [equals, beq_iff_eq, Name.ext_iff]

theorem loadsAgain_iff (n : Name) : n.LoadsAgain ↔ n.Stable := by
  rw [← create_getFullName_iff, LoadsAgain]
  simp only [equals_iff, exists_eq_right]

theorem kept_by_auth_mapper (n : Name) (stable : n.Stable) : KeptByAuthMapper n.getFullName := by
  intro o clk raw u loaded
  obtain ⟨name, email, id, -, he, hi, valid, -⟩ :=
    (PrismaAuthUserMapper.toDomain_ok_iff o clk raw u).mp loaded
  refine ⟨_, (PrismaAuthUserMapper.toDomain_ok_iff o clk _ _).mpr
    ⟨n, email, id, (create_getFullName_iff n).mpr stable, he, hi, ?_, rfl⟩, rfl⟩
  exact valid

theorem kept_by_user_mapper (n : Name) (stable : n.Stable) : KeptByUserMapper n.getFullName := by
  intro host clk raw u loaded
  simp only [PrismaUserMapper.toDomain, User.reconstruct, bind_ok_iff] at loaded ⊢
  obtain ⟨name, -, email, he, birth, hb, avatar, ha, phone, hp, addresses, hs, id, hi, _, valid,
    -⟩ := loaded
  exact ⟨_, ⟨n, (create_getFullName_iff n).mpr stable, email, he, birth, hb, avatar, ha, phone, hp,
    addresses, hs, id, hi, (), valid, rfl⟩, rfl⟩

theorem survives_iff_stable (n : Name) : n.Survives ↔ n.Stable := by
  refine ⟨fun h => (loadsAgain_iff n).mp h.loadsAgain, fun stable => ?_⟩
  exact ⟨(loadsAgain_iff n).mpr stable, kept_by_auth_mapper n stable,
    kept_by_user_mapper n stable⟩

/-! The expression, word by word. -/

structure Fits (ws : List (List Char)) : Prop where
  letters : ∀ w ∈ ws, w ≠ [] ∧ ∀ c ∈ w, isNameChar c = true
  first : ∃ w rest, ws = w :: rest ∧ 3 ≤ w.length

theorem nameChar_code (c : Char) (h : isNameChar c = true) :
    (0x21 ≤ c.toNat ∧ c.toNat ≤ 0x7E) ∨ (0xB4 ≤ c.toNat ∧ c.toNat ≤ 0x17E) := by
  have quote : (Char.ofNat 0x27).toNat = 0x27 := by decide
  have tick : (Char.ofNat 0x60).toNat = 0x60 := by decide
  simp only [isNameChar, between, Bool.or_eq_true, Bool.and_eq_true, decide_eq_true_eq,
    beq_iff_eq] at h
  have a := (by decide : 'a'.toNat = 0x61)
  have z := (by decide : 'z'.toNat = 0x7A)
  have capitalA := (by decide : 'A'.toNat = 0x41)
  have capitalZ := (by decide : 'Z'.toNat = 0x5A)
  have grave := (by decide : 'à'.toNat = 0xE0)
  have caron := (by decide : 'ž'.toNat = 0x17E)
  have capitalGrave := (by decide : 'À'.toNat = 0xC0)
  have capitalCaron := (by decide : 'Ž'.toNat = 0x17D)
  have acute := (by decide : '´'.toNat = 0xB4)
  have hyphen := (by decide : '-'.toNat = 0x2D)
  rcases h with ((((((h | h) | h) | h) | rfl) | rfl) | rfl) | rfl <;> omega

theorem nameChar_plain (c : Char) (h : isNameChar c = true) : isSpace c = false := by
  have code := nameChar_code c h
  simp only [isSpace, Bool.or_eq_false_iff, Bool.and_eq_false_iff, decide_eq_false_iff_not,
    beq_eq_false_iff_ne]
  omega

theorem Fits.plain {ws : List (List Char)} (h : Fits ws) :
    ∀ w ∈ ws, ∀ c ∈ w, isSpace c = false :=
  fun w mem c hc => nameChar_plain c ((h.letters w mem).2 c hc)

theorem Fits.some {ws : List (List Char)} (h : Fits ws) : ∀ w ∈ ws, w ≠ [] :=
  fun w mem => (h.letters w mem).1

theorem spaced_words (text : String) : spaced (words text) = text.toList :=
  List.intercalate_splitOn ' '

theorem words_spaced (ws : List (List Char)) (some : ws ≠ []) (plain : ∀ w ∈ ws, ' ' ∉ w) :
    words (String.ofList (spaced ws)) = ws := by
  rw [words, String.toList_ofList]
  exact List.splitOn_intercalate ' ' plain some

theorem Fits.spaceless {ws : List (List Char)} (h : Fits ws) : ∀ w ∈ ws, ' ' ∉ w :=
  fun w mem space => absurd (h.plain w mem ' ' space) (by decide)

theorem language_regex : regex.language = (Regex.atLeast 3 (.cls isNameChar)).language *
    (Regex.star (.seq (.literal ' ') (.atLeast 1 (.cls isNameChar)))).language :=
  congrArg _ (mul_one _)

theorem regex_iff (text : String) : regex.test text = true ↔ Fits (words text) := by
  rw [Regex.test_iff, language_regex, Language.mem_mul]
  simp only [Regex.mem_atLeast_cls, Regex.mem_star_words]
  constructor
  · rintro ⟨w, ⟨long, letters⟩, _, ⟨rest, others, rfl⟩, whole⟩
    have fits : Fits (w :: rest) := by
      refine ⟨List.forall_mem_cons.mpr ⟨⟨?_, letters⟩, others⟩, w, rest, rfl, long⟩
      exact List.ne_nil_of_length_pos (by omega)
    rwa [← words_spaced _ (List.cons_ne_nil w rest) fits.spaceless, spaced_cons, whole,
      String.ofList_toList] at fits
  · intro fits
    obtain ⟨w, rest, made, long⟩ := fits.first
    have letters := fits.letters
    rw [made] at letters
    obtain ⟨first, others⟩ := List.forall_mem_cons.mp letters
    refine ⟨w, ⟨long, first.2⟩, _, ⟨rest, others, rfl⟩, ?_⟩
    rw [← spaced_cons, ← made, spaced_words]

/-! What is checked besides, and what is cleaned. -/

theorem letters_fits (text : String) (h : Fits (words text)) (c : Char) (mem : c ∈ text.toList) :
    c = ' ' ∨ isNameChar c = true := by
  rw [← spaced_words] at mem
  exact (mem_spaced _ c mem).imp_right fun ⟨w, hw, inside⟩ => (h.letters w hw).2 c inside

theorem trimList_fits (text : String) (h : Fits (words text)) :
    trimList text.toList = text.toList := by
  rw [← spaced_words]
  exact trimList_spaced _ h.some h.plain

theorem units_fits (text : String) (h : Fits (words text)) : units text = text.toList.length := by
  refine units_eq_length text fun c mem => ?_
  rcases letters_fits text h c mem with rfl | letter
  · decide
  · have := nameChar_code c letter
    omega

theorem three_fits (text : String) (h : Fits (words text)) : 3 ≤ text.toList.length := by
  obtain ⟨w, rest, made, long⟩ := h.first
  rw [← spaced_words, made, spaced_cons, List.length_append]
  omega

theorem validate_ok_iff (text : String) :
    validate text = .ok () ↔ Fits (words text) ∧ text.toList.length ≤ 100 := by
  rw [validate, raise_ok_iff]
  simp only [List.forall_mem_cons, List.not_mem_nil, false_implies, implies_true, and_true,
    Bool.not_eq_false', regex_iff, beq_eq_false_iff_ne, decide_eq_false_iff_not, not_lt]
  constructor
  · rintro ⟨-, -, most, fits⟩
    rw [trim, trimList_fits text fits, String.ofList_toList, units_fits text fits] at most
    exact ⟨fits, most⟩
  · rintro ⟨fits, most⟩
    have least := three_fits text fits
    rw [trim, trimList_fits text fits, String.ofList_toList, units_fits text fits]
    exact ⟨by omega, least, most, fits⟩

theorem word_squeezed (ws : List (List Char)) (h : Fits ws) : ∀ w ∈ ws.map squeeze, Word w := by
  intro _ mem
  obtain ⟨w, hw, rfl⟩ := List.mem_map.mp mem
  exact word_squeeze w (h.some w hw) (h.plain w hw)

/-- Of an accepted text only runs of hyphens and spaces next to hyphens are cleaned. -/
theorem sanitaize_fits (text : String) (h : Fits (words text)) :
    sanitaize text = String.ofList (joinHyphens (squeeze text.toList)) := by
  have kept : text.toList.filter (fun c => isNameChar c || isSpace c) = text.toList := by
    refine List.filter_eq_self.mpr fun c mem => ?_
    rcases letters_fits text h c mem with rfl | letter
    · decide
    · rw [letter, Bool.true_or]
  have spread : Spread (squeeze text.toList) := by
    have words := word_squeezed _ h
    rw [← spaced_words, squeeze_spaced]
    exact spread_spaced _ (fun w mem => (words w mem).some) fun w mem => (words w mem).plain
  have single : collapse (· == ' ') ' ' (squeeze text.toList) = squeeze text.toList := by
    refine collapse_of_isChain _ _ _ (spread.imp fun a b apart => Bool.eq_false_iff.mpr ?_)
    intro both
    obtain ⟨ha, hb⟩ := Bool.and_eq_true_iff.mp both
    rw [beq_iff_eq.mp ha, beq_iff_eq.mp hb] at apart
    exact absurd apart (by decide)
  unfold sanitaize
  dsimp only
  rw [trimList_fits text h, kept, ← squeeze, single,
    collapse_spread _ _ (spread_joinHyphens _ spread)]

/-! The cleaned text is accepted again. -/

/-- The cleaning of an accepted text, word by word. -/
theorem sanitaize_words (text : String) (h : Fits (words text)) :
    (sanitaize text).toList = joinHyphens (spaced ((words text).map squeeze)) := by
  rw [sanitaize_fits text h, String.toList_ofList, ← squeeze_spaced, spaced_words]

theorem sanitaize_shorter (text : String) (h : Fits (words text)) :
    (sanitaize text).toList.length ≤ text.toList.length := by
  rw [sanitaize_fits text h, String.toList_ofList]
  refine (joinHyphens_length_le _).trans ?_
  rw [squeeze, collapse_eq_destutter]
  exact (List.destutter_sublist _ _).length_le

/-- An accepted text is left as it is just when no two marks stand side by side in it. -/
theorem sanitaize_eq_iff (text : String) (h : Fits (words text)) :
    sanitaize text = text ↔ Calm text.toList := by
  have spread : Spread text.toList := by
    rw [← spaced_words]
    exact spread_spaced _ h.some h.plain
  rw [← joinHyphens_squeeze_iff_calm _ spread, sanitaize_fits text h, ← String.toList_inj,
    String.toList_ofList]

/-- The words that are left of words that are apart are accepted just when the first
of them is long enough. -/
theorem fits_closed_iff (ws : List (List Char)) (h : Fits ws) (far : apart ws = true) :
    Fits (closed (ws.map squeeze)) ↔ 3 ≤ runs (firstPart ws) := by
  obtain ⟨w, rest, made, -⟩ := h.first
  obtain ⟨others, first⟩ := closed_cons (squeeze w) (rest.map squeeze)
  rw [← List.map_cons, ← made] at first
  rw [← length_squeeze, ← firstPart_squeeze ws h.some far]
  constructor
  · rintro ⟨-, v, vs, split, long⟩
    rw [first] at split
    rwa [(List.cons.inj split).1]
  · intro long
    refine ⟨?_, _, _, first, long⟩
    refine forall_closed (fun w => w ≠ [] ∧ ∀ c ∈ w, isNameChar c = true) _ ?_ ?_
    · rintro a b ⟨some, ha⟩ ⟨-, hb⟩
      refine ⟨List.append_ne_nil_of_left_ne_nil some b, fun c mem => ?_⟩
      exact (List.mem_append.mp mem).elim (ha c) (hb c)
    · intro _ mem
      obtain ⟨u, hu, rfl⟩ := List.mem_map.mp mem
      refine ⟨(word_squeezed ws h _ mem).some, fun c inside => ?_⟩
      exact (h.letters u hu).2 c (mem_of_mem_squeeze u c inside)

theorem words_closed (ws : List (List Char)) (h : Fits ws) :
    words (String.ofList (spaced (closed (ws.map squeeze)))) = closed (ws.map squeeze) := by
  apply words_spaced
  · obtain ⟨w, rest, made, -⟩ := h.first
    obtain ⟨others, first⟩ := closed_cons (squeeze w) (rest.map squeeze)
    rw [made, List.map_cons, first]
    exact List.cons_ne_nil _ _
  · refine forall_closed (fun w => ' ' ∉ w) _ ?_ ?_
    · exact fun a b ha hb mem => (List.mem_append.mp mem).elim ha hb
    · intro w mem space
      exact absurd ((word_squeezed ws h w mem).plain ' ' space) (by decide)

theorem stable_iff (raw : String) (n : Name) (created : create raw = .ok n) :
    n.Stable ↔ Settled raw := by
  obtain ⟨accepted, cleaned⟩ := (create_ok_iff raw n).mp created
  obtain ⟨fits, most⟩ := (validate_ok_iff raw).mp accepted
  have squeezed := word_squeezed _ fits
  have calm : Calm n.fullName.toList ↔ apart (words raw) = true := by
    rw [cleaned, sanitaize_words raw fits, calm_joinHyphens_iff _ squeezed, apart_squeeze]
  -- words that are apart are known one by one after the cleaning
  have left (far : apart (words raw) = true) :
      words n.fullName = closed ((words raw).map squeeze) := by
    rw [← words_closed _ fits, ← joinHyphens_spaced _ squeezed (by rw [apart_squeeze, far]),
      ← sanitaize_words raw fits, String.ofList_toList, cleaned]
  constructor
  · rintro ⟨again, fixed⟩
    obtain ⟨fitsAgain, -⟩ := (validate_ok_iff _).mp again
    have far := calm.mp ((sanitaize_eq_iff _ fitsAgain).mp fixed)
    rw [left far] at fitsAgain
    exact ⟨far, (fits_closed_iff _ fits far).mp fitsAgain⟩
  · rintro ⟨far, first⟩
    have fitsAgain := (fits_closed_iff _ fits far).mpr first
    rw [← left far] at fitsAgain
    refine ⟨(validate_ok_iff _).mpr ⟨fitsAgain, ?_⟩, (sanitaize_eq_iff _ fitsAgain).mpr ?_⟩
    · rw [cleaned]
      exact (sanitaize_shorter raw fits).trans most
    · exact calm.mpr far

/-- A name survives being stored just when the words that it was made of are settled. -/
theorem survives_iff_settled (raw : String) (n : Name) (created : create raw = .ok n) :
    n.Survives ↔ Settled raw := by
  rw [survives_iff_stable, stable_iff raw n created]

theorem sample_survives : Name.sample.Survives :=
  (survives_iff_settled "John Doe" Name.sample ((create_ok_iff _ _).mpr ⟨by decide, by decide⟩)).mpr
    ⟨by decide, by decide⟩

def halfJoined : Name := ⟨"Anna- Maria", "Anna - Maria", by decide, by decide⟩

def joined : Name := ⟨"Anna-Maria", "Anna- Maria", by decide, by decide⟩

def shortened : Name := ⟨"A-", "A---", by decide, by decide⟩

/-- A hyphen with spaces around it keeps the second of them, which the next cleaning
takes away. A first word that is mostly hyphens becomes too short to be accepted. -/
theorem unsettled_names :
    (create "Anna - Maria" = .ok halfJoined ∧ create halfJoined.getFullName = .ok joined ∧
      joined.equals halfJoined = false ∧ ¬halfJoined.Survives) ∧
    (create "A---" = .ok shortened ∧ create shortened.getFullName = .error (invalidNameError
      "Full name must be at least 3 characters long") ∧ ¬shortened.Survives) := by
  refine ⟨⟨(create_ok_iff _ _).mpr (by decide), (create_ok_iff _ _).mpr (by decide), by decide,
    fun h => ?_⟩, (create_ok_iff _ _).mpr (by decide), by decide, fun h => ?_⟩
  · exact absurd ((survives_iff_stable halfJoined).mp h) (by decide)
  · exact absurd ((survives_iff_stable shortened).mp h) (by decide)

end KeramikStore.Name
