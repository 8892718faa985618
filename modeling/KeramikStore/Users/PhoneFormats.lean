import KeramikStore.Library.RegexLanguage
import KeramikStore.Users.ValueObjects

/-!
# The three formats of a telephone number

An accepted text is, without its separators, a row of digits that may begin with a
plus sign, and the plus sign makes no difference to the checks. The international
format puts the country code for a leading zero, but only a number that is written
with the country code is checked as a national one. So the formats denote the number
that they are made of just when what follows a leading zero is as long as a number
after the country code has to be.
-/

set_option autoImplicit false

namespace KeramikStore.PhoneNumber
open Library Library.Text

def getLocalFormat (p : PhoneNumber) : List Char :=
  let cs := cleaned p.value
  if ['+', '6', '2'].isPrefixOf cs then '0' :: cs.drop 3
  else if ['6', '2'].isPrefixOf cs && !(['6', '2', '0'].isPrefixOf cs) then '0' :: cs.drop 2
  else cs

def hyphenated (n : ℕ) (cs : List Char) : List Char :=
  cs.take 4 ++ '-' :: (cs.take n).drop 4 ++ '-' :: cs.drop n

def getFormattedValue (p : PhoneNumber) : List Char :=
  let number := p.getLocalFormat
  if ['0', '8'].isPrefixOf number then
    if number.length == 11 then hyphenated 7 number
    else if number.length == 12 then hyphenated 8 number
    else if number.length == 13 then hyphenated 8 number
    else number
  else number

def isIndonesianNumber (p : PhoneNumber) : Bool :=
  isIndonesian (cleaned p.value) || ['0'].isPrefixOf (cleaned p.value)

inductive Format where
  | e164 | localFormat | formatted
deriving DecidableEq, Repr

def inFormat (p : PhoneNumber) : Format → List Char
  | .e164 => p.getE164Format
  | .localFormat => p.getLocalFormat
  | .formatted => p.getFormattedValue

def Denotes (p : PhoneNumber) (text : List Char) : Prop :=
  ∃ q, create (String.ofList text) = .ok q ∧ q.equals p = true ∧
    ∀ other, q.equals other = p.equals other ∧ other.equals q = other.equals p

def FormatsDenote (p : PhoneNumber) : Prop := ∀ format, p.Denotes (p.inFormat format)

def NationalLength (number : List Char) : Prop :=
  if ['8'].isPrefixOf number then 9 ≤ number.length ∧ number.length ≤ 12
  else 8 ≤ number.length ∧ number.length ≤ 11

instance (number : List Char) : Decidable (NationalLength number) :=
  inferInstanceAs (Decidable (ite _ _ _))

def isDigit (c : Char) : Bool := between '0' '9' c

structure Accepted (ds : List Char) : Prop where
  digits : ∀ c ∈ ds, isDigit c = true
  least : 8 ≤ ds.length
  most : ds.length ≤ 15
  national : ∀ number, ds = '6' :: '2' :: number → NationalLength number

/-! Digits and separators. -/

def isSeparator (c : Char) : Bool := isSpace c || c == '-' || c == '(' || c == ')'

theorem digit_ne (c d : Char) (digit : isDigit c = true) (other : isDigit d = false) : c ≠ d :=
  fun same => Bool.false_ne_true (other.symm.trans (same ▸ digit))

theorem digit_not_separator (c : Char) (digit : isDigit c = true) : isSeparator c = false := by
  simp only [isDigit, between, Bool.and_eq_true, decide_eq_true_eq] at digit
  have space : isSpace c = false := by
    simp [isSpace]
    have : ('0' : Char).toNat = 48 := rfl
    have : ('9' : Char).toNat = 57 := rfl
    omega
  have hyphen := digit_ne c '-' (by simpa [isDigit, between] using digit) (by decide)
  have opening := digit_ne c '(' (by simpa [isDigit, between] using digit) (by decide)
  have closing := digit_ne c ')' (by simpa [isDigit, between] using digit) (by decide)
  simp [isSeparator, space, hyphen, opening, closing]

theorem cleaned_ofList (text : List Char) :
    cleaned (String.ofList text) = text.filter fun c => !isSeparator c := by
  rw [cleaned, String.toList_ofList]
  rfl

theorem cleaned_idempotent (value : String) :
    cleaned (String.ofList (cleaned value)) = cleaned value := by
  rw [cleaned_ofList]
  exact List.filter_eq_self.mpr fun c mem => (List.mem_filter.mp mem).2

theorem validate_congr (v w : String) (same : cleaned v = cleaned w) :
    validate v = validate w := by
  unfold validate
  rw [same]

/-! What the checks say of the digits. -/

def Dials (cs ds : List Char) : Prop := cs = ds ∨ cs = '+' :: ds

theorem regex_iff (cs : List Char) :
    regex.test (String.ofList cs) = true ↔
      ∃ ds, ds ≠ [] ∧ (∀ c ∈ ds, isDigit c = true) ∧ Dials cs ds := by
  have plus (a : List Char) : a ∈ (Regex.optional (.literal '+')).language ↔
      a = [] ∨ a = ['+'] := by
    rw [Regex.mem_optional, Regex.literal, Regex.mem_cls]
    simp only [beq_iff_eq, exists_eq_left]
  rw [Regex.test_iff, String.toList_ofList]
  simp only [regex, Regex.concat, List.foldr_cons, List.foldr_nil, Regex.language, mul_one,
    Language.mem_mul, Regex.mem_atLeast_cls, plus]
  constructor
  · rintro ⟨a, rfl | rfl, ds, ⟨some, digits⟩, rfl⟩
    · exact ⟨ds, List.ne_nil_of_length_pos some, digits, .inl rfl⟩
    · exact ⟨ds, List.ne_nil_of_length_pos some, digits, .inr rfl⟩
  · rintro ⟨ds, some, digits, rfl | rfl⟩
    · exact ⟨[], .inl rfl, cs, ⟨List.length_pos_of_ne_nil some, digits⟩, rfl⟩
    · exact ⟨['+'], .inr rfl, ds, ⟨List.length_pos_of_ne_nil some, digits⟩, rfl⟩

section Digits

variable (ds : List Char) (digits : ∀ c ∈ ds, isDigit c = true)
include digits

theorem erase_plus (cs : List Char) (dials : Dials cs ds) : cs.erase '+' = ds := by
  rcases dials with rfl | rfl
  · exact List.erase_of_not_mem fun mem => absurd (digits _ mem) (by decide)
  · rfl

theorem head_digit (c : Char) (rest : List Char) (h : ds = c :: rest) : isDigit c = true :=
  digits c (h ▸ List.mem_cons_self)

theorem isIndonesian_iff (cs : List Char) (dials : Dials cs ds) :
    isIndonesian cs = true ↔ ∃ number, ds = '6' :: '2' :: number := by
  have prefixed (ps : List Char) : ps.isPrefixOf cs = true ↔ ∃ rest, ps ++ rest = cs :=
    List.isPrefixOf_iff_prefix
  rw [isIndonesian, Bool.or_eq_true, prefixed, prefixed]
  rcases dials with rfl | rfl
  · constructor
    · rintro (⟨rest, h⟩ | ⟨rest, h⟩)
      · exact absurd (head_digit cs digits _ _ h.symm) (by decide)
      · exact ⟨rest, h.symm⟩
    · rintro ⟨number, rfl⟩
      exact .inr ⟨number, rfl⟩
  · constructor
    · rintro (⟨rest, h⟩ | ⟨rest, h⟩)
      · exact ⟨rest, (List.cons.inj h).2.symm⟩
      · exact absurd (List.cons.inj h).1 (by decide)
    · rintro ⟨number, rfl⟩
      exact .inl ⟨number, rfl⟩

end Digits

theorem afterCountryCode_eq (cs ds number : List Char) (dials : Dials cs ds)
    (national : ds = '6' :: '2' :: number) : afterCountryCode cs = number := by
  subst national
  rcases dials with rfl | rfl <;> rfl

theorem validate_ok_iff (value : String) :
    validate value = .ok () ↔ ∃ ds, Accepted ds ∧ Dials (cleaned value) ds := by
  rw [validate, raise_ok_iff]
  simp only [List.forall_mem_cons, List.not_mem_nil, false_implies, implies_true, and_true,
    Bool.not_eq_false', regex_iff, decide_eq_false_iff_not, not_lt]
  constructor
  · rintro ⟨⟨ds, some, digits, dials⟩, least, most, mobile, landline⟩
    rw [erase_plus ds digits _ dials] at least most
    refine ⟨ds, ⟨digits, least, most, fun number national => ?_⟩, dials⟩
    rw [(isIndonesian_iff ds digits _ dials).mpr ⟨number, national⟩,
      afterCountryCode_eq _ ds number dials national] at mobile landline
    unfold NationalLength
    split_ifs with first
    · simpa [first] using mobile
    · simpa [first] using landline
  · rintro ⟨ds, ⟨digits, least, most, national⟩, dials⟩
    rw [erase_plus ds digits _ dials]
    have some : ds ≠ [] := List.ne_nil_of_length_pos (by omega)
    refine ⟨⟨ds, some, digits, dials⟩, least, most, ?_⟩
    cases here : isIndonesian (cleaned value) with
    | false => exact ⟨rfl, rfl⟩
    | true =>
      obtain ⟨number, code⟩ := (isIndonesian_iff ds digits _ dials).mp here
      have fits := national number code
      rw [afterCountryCode_eq _ ds number dials code]
      unfold NationalLength at fits
      split_ifs at fits with first
      · simpa [first] using fits
      · simpa [first] using fits

/-! The three formats. -/

theorem create_ok_iff (value : String) (p : PhoneNumber) :
    create value = .ok p ↔ p.value = value := by
  constructor
  · intro created
    unfold create at created
    split at created
    · rw [← Except.ok.inj created]
    · cases created
  · rintro rfl
    exact create_getValue p

def e164 (cs : List Char) : List Char :=
  match cs with
  | '+' :: rest => '+' :: rest
  | '0' :: rest => ['+', '6', '2'] ++ rest
  | cs => '+' :: cs

theorem getE164Format_eq (p : PhoneNumber) : p.getE164Format = e164 (cleaned p.value) := rfl

/-- The numbers that count as Indonesian are those whose international format has the
country code. -/
theorem isIndonesianNumber_iff (p : PhoneNumber) :
    p.isIndonesianNumber = true ↔ ['+', '6', '2'].isPrefixOf p.getE164Format = true := by
  have bare (c : Char) (cs ps : List Char) (other : ∀ rest, cs ≠ c :: rest) :
      (c :: ps).isPrefixOf cs = false := by
    cases cs with
    | nil => rfl
    | cons d rest =>
      have different : c ≠ d := fun same => other rest (by rw [same])
      rw [List.isPrefixOf_cons_cons, beq_false_of_ne different, Bool.false_and]
  rw [isIndonesianNumber, getE164Format_eq, isIndonesian]
  generalize cleaned p.value = cs
  unfold e164
  split
  · simp
  · simp
  · next plus zero =>
    rw [bare '+' cs _ plus, bare '0' cs _ zero, Bool.false_or, Bool.or_false,
      List.isPrefixOf_cons_cons, BEq.rfl, Bool.true_and]

theorem e164_digits (ds : List Char) (digits : ∀ c ∈ ds, isDigit c = true)
    (first : ∀ rest, ds ≠ '0' :: rest) : e164 ds = '+' :: ds := by
  unfold e164
  split
  · exact absurd (head_digit _ digits _ _ rfl) (by decide)
  · next rest => exact absurd rfl (first rest)
  · rfl

theorem denotes_iff (p : PhoneNumber) (text : List Char) :
    p.Denotes text ↔
      validate (String.ofList text) = .ok () ∧
        e164 (cleaned (String.ofList text)) = e164 (cleaned p.value) := by
  constructor
  · rintro ⟨q, created, equal, -⟩
    rw [← (create_ok_iff _ q).mp created]
    exact ⟨q.accepted, beq_iff_eq.mp equal⟩
  · rintro ⟨accepted, same⟩
    refine ⟨⟨_, accepted⟩, create_getValue ⟨_, accepted⟩, beq_iff_eq.mpr same, fun other => ?_⟩
    simp only [equals, getE164Format_eq, same, and_self]

theorem denotes_cleaned (p : PhoneNumber) (text : List Char)
    (same : cleaned (String.ofList text) = cleaned p.value) : p.Denotes text := by
  rw [denotes_iff, same]
  exact ⟨(validate_congr _ _ same).trans p.accepted, rfl⟩

theorem denotes_congr (p : PhoneNumber) (a b : List Char)
    (same : cleaned (String.ofList a) = cleaned (String.ofList b)) :
    p.Denotes a ↔ p.Denotes b := by
  rw [denotes_iff, denotes_iff, validate_congr _ _ same, same]

theorem digits_cleaned (ds : List Char) (digits : ∀ c ∈ ds, isDigit c = true) :
    cleaned (String.ofList ds) = ds := by
  rw [cleaned_ofList]
  refine List.filter_eq_self.mpr fun c mem => ?_
  rw [digit_not_separator c (digits c mem), Bool.not_false]

theorem plus_digits_cleaned (ds : List Char) (digits : ∀ c ∈ ds, isDigit c = true) :
    cleaned (String.ofList ('+' :: ds)) = '+' :: ds := by
  have rest := digits_cleaned ds digits
  rw [cleaned_ofList] at rest ⊢
  rw [List.filter_cons_of_pos (by decide), rest]

/-- The local format puts a zero for the country code or leaves the digits as they are. -/
theorem getLocalFormat_cases (p : PhoneNumber) :
    p.getLocalFormat = cleaned p.value ∨
      ∃ number, Dials (cleaned p.value) ('6' :: '2' :: number) ∧
        p.getLocalFormat = '0' :: number := by
  unfold getLocalFormat
  dsimp only
  split_ifs with plus bare
  · obtain ⟨number, h⟩ := List.isPrefixOf_iff_prefix.mp plus
    exact .inr ⟨number, .inr h.symm, by rw [← h]; rfl⟩
  · obtain ⟨number, h⟩ := List.isPrefixOf_iff_prefix.mp (Bool.and_eq_true_iff.mp bare).1
    exact .inr ⟨number, .inl h.symm, by rw [← h]; rfl⟩
  · exact .inl rfl

theorem national_bounds (number : List Char) (h : NationalLength number) :
    8 ≤ number.length ∧ number.length ≤ 12 := by
  unfold NationalLength at h
  split_ifs at h <;> omega

/-- The digits that begin with the country code are the digits of the number. -/
theorem dials_code (cs ds number : List Char) (digits : ∀ c ∈ ds, isDigit c = true)
    (dials : Dials cs ds) (code : Dials cs ('6' :: '2' :: number)) :
    ds = '6' :: '2' :: number := by
  rcases dials with rfl | rfl
  · rcases code with rfl | rfl
    · rfl
    · exact absurd (head_digit _ digits _ _ rfl) (by decide)
  · rcases code with h | h
    · exact absurd (List.cons.inj h).1 (by decide)
    · exact (List.cons.inj h).2

theorem e164_code (cs number : List Char) (code : Dials cs ('6' :: '2' :: number)) :
    e164 cs = '+' :: '6' :: '2' :: number := by
  rcases code with rfl | rfl <;> rfl

theorem accepted_zero (number : List Char) (h : Accepted ('6' :: '2' :: number)) :
    Accepted ('0' :: number) := by
  obtain ⟨least, most⟩ := national_bounds number (h.national number rfl)
  refine ⟨?_, by rw [List.length_cons]; omega, by rw [List.length_cons]; omega, ?_⟩
  · exact List.forall_mem_cons.mpr ⟨by decide, fun c mem =>
      h.digits c (List.mem_cons_of_mem _ (List.mem_cons_of_mem _ mem))⟩
  · rintro _ ⟨⟩

theorem denotes_localFormat (p : PhoneNumber) : p.Denotes p.getLocalFormat := by
  rcases getLocalFormat_cases p with same | ⟨number, code, zero⟩
  · rw [same]
    exact denotes_cleaned p _ (cleaned_idempotent _)
  · obtain ⟨ds, accepted, dials⟩ := (validate_ok_iff _).mp p.accepted
    obtain rfl := dials_code _ ds number accepted.digits dials code
    have national := accepted_zero number accepted
    rw [zero, denotes_iff, validate_ok_iff, digits_cleaned _ national.digits,
      e164_code _ number code]
    exact ⟨⟨_, national, .inl rfl⟩, rfl⟩

theorem cleaned_hyphenated (n : ℕ) (cs : List Char) (h : 4 ≤ n) :
    cleaned (String.ofList (hyphenated n cs)) = cleaned (String.ofList cs) := by
  have whole : cs = cs.take 4 ++ ((cs.take n).drop 4 ++ cs.drop n) := by
    conv_lhs => rw [← List.take_append_drop n cs, ← List.take_append_drop 4 (cs.take n)]
    rw [List.take_take, min_eq_left h, List.append_assoc]
  rw [cleaned_ofList, cleaned_ofList, hyphenated]
  conv_rhs => rw [whole]
  simp [List.filter_append, isSeparator]

theorem cleaned_getFormattedValue (p : PhoneNumber) :
    cleaned (String.ofList p.getFormattedValue) = cleaned (String.ofList p.getLocalFormat) := by
  unfold getFormattedValue
  dsimp only
  split_ifs
  · exact cleaned_hyphenated 7 _ (by decide)
  · exact cleaned_hyphenated 8 _ (by decide)
  · exact cleaned_hyphenated 8 _ (by decide)
  · rfl
  · rfl

theorem denotes_formatted (p : PhoneNumber) : p.Denotes p.getFormattedValue :=
  (denotes_congr p _ _ (cleaned_getFormattedValue p)).mpr (denotes_localFormat p)

/-- A number with a leading zero has an international format that is accepted just
when it is as long as a national number. -/
theorem accepted_code_iff (number : List Char) (h : Accepted ('0' :: number)) :
    Accepted ('6' :: '2' :: number) ↔ NationalLength number := by
  refine ⟨fun accepted => accepted.national number rfl, fun national => ?_⟩
  obtain ⟨least, most⟩ := national_bounds number national
  refine ⟨?_, by simp only [List.length_cons]; omega, by simp only [List.length_cons]; omega, ?_⟩
  · exact List.forall_mem_cons.mpr ⟨by decide, List.forall_mem_cons.mpr ⟨by decide,
      (List.forall_mem_cons.mp h.digits).2⟩⟩
  · rintro _ ⟨⟩
    exact national

theorem dials_unique (cs ds es : List Char) (hd : ∀ c ∈ ds, isDigit c = true)
    (he : ∀ c ∈ es, isDigit c = true) (d : Dials cs ds) (e : Dials cs es) : ds = es :=
  (erase_plus ds hd cs d).symm.trans (erase_plus es he cs e)

theorem validate_plus_iff (ds : List Char) (digits : ∀ c ∈ ds, isDigit c = true) :
    validate (String.ofList ('+' :: ds)) = .ok () ↔ Accepted ds := by
  rw [validate_ok_iff, plus_digits_cleaned ds digits]
  constructor
  · rintro ⟨es, accepted, dials⟩
    exact dials_unique _ es ds accepted.digits digits dials (.inr rfl) ▸ accepted
  · exact fun accepted => ⟨ds, accepted, .inr rfl⟩

theorem denotes_plus_iff (p : PhoneNumber) (ds : List Char) (digits : ∀ c ∈ ds, isDigit c = true)
    (format : e164 (cleaned p.value) = '+' :: ds) : p.Denotes ('+' :: ds) ↔ Accepted ds := by
  rw [denotes_iff, validate_plus_iff ds digits, plus_digits_cleaned ds digits, format]
  exact and_iff_left rfl

theorem denotes_e164_iff (p : PhoneNumber) :
    p.Denotes p.getE164Format ↔
      ∀ number, cleaned p.value = '0' :: number → NationalLength number := by
  obtain ⟨ds, accepted, dials⟩ := (validate_ok_iff _).mp p.accepted
  by_cases zero : ∃ number, cleaned p.value = '0' :: number
  · obtain ⟨number, h⟩ := zero
    rw [h] at dials
    obtain rfl | wrong := dials
    · have format : e164 (cleaned p.value) = '+' :: '6' :: '2' :: number := by rw [h]; rfl
      have digits : ∀ c ∈ '6' :: '2' :: number, isDigit c = true :=
        List.forall_mem_cons.mpr ⟨by decide, List.forall_mem_cons.mpr ⟨by decide,
          (List.forall_mem_cons.mp accepted.digits).2⟩⟩
      rw [getE164Format_eq, format, denotes_plus_iff p _ digits format,
        accepted_code_iff number accepted, h]
      exact ⟨fun fits _ same => (List.cons.inj same).2 ▸ fits, fun fits => fits number rfl⟩
    · exact absurd (List.cons.inj wrong).1 (by decide)
  · have format : e164 (cleaned p.value) = '+' :: ds := by
      rcases dials with h | h
      · rw [h] at zero ⊢
        exact e164_digits ds accepted.digits fun rest first => zero ⟨rest, first⟩
      · rw [h]
        rfl
    rw [getE164Format_eq, format, denotes_plus_iff p ds accepted.digits format]
    exact iff_of_true accepted fun number h => absurd ⟨number, h⟩ zero

/-- The formats of an accepted text denote its number just when what follows a leading
zero is as long as a number after the country code has to be. -/
theorem formats_denote_iff (value : String) (p : PhoneNumber) (created : create value = .ok p) :
    p.FormatsDenote ↔
      ∀ number, cleaned value = '0' :: number → NationalLength number := by
  rw [← (create_ok_iff value p).mp created, ← denotes_e164_iff]
  refine ⟨fun h => h .e164, fun e164 format => ?_⟩
  cases format with
  | e164 => exact e164
  | localFormat => exact denotes_localFormat p
  | formatted => exact denotes_formatted p

def mobileNumber : PhoneNumber := ⟨"0812-3456-7890", by decide⟩

theorem mobile_formats_denote : mobileNumber.FormatsDenote :=
  (formats_denote_iff "0812-3456-7890" mobileNumber (create_getValue mobileNumber)).mpr
    fun number h => by
      obtain ⟨-, rfl⟩ := List.cons.inj h
      decide

def shortNumber : PhoneNumber := ⟨"(021) 12345", by decide⟩

/-- Eight digits with their leading zero are enough for the checks, but seven are too
few after the country code. -/
theorem short_number_has_no_international_format :
    create "(021) 12345" = .ok shortNumber ∧
      String.ofList shortNumber.getE164Format = "+622112345" ∧
      create "+622112345" = .error (invalidPhoneNumberError
        "Indonesian landline number must have 8-11 digits after country code.") ∧
      ¬ shortNumber.FormatsDenote := by
  refine ⟨create_getValue shortNumber, by decide, by decide, fun denote => ?_⟩
  have fits := (denotes_e164_iff shortNumber).mp (denote .e164) "2112345".toList (by decide)
  exact absurd fits (by decide)

end KeramikStore.PhoneNumber
