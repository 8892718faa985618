import KeramikStore.Library.Base64
import KeramikStore.Library.Text
import KeramikStore.Products.ProductListQuery

/-!
# The cache key of a product list

The key joins the version, the page, the sorting and the plain filters with colons
and ends in a short code of the nested filters: the first 32 letters of the base 64
form of their JSON text, that is, its first 24 bytes. All the rest of the key can
be read back. So two option values with the same key ask for the same query, but
for nested filters that differ after the first 24 bytes of their texts.
-/

set_option autoImplicit false

namespace KeramikStore
open Library Library.Text

structure KeyHost where
  numberText : JsNumber → String
  toLowerCase : String → String

structure KeyHost.Documented (host : KeyHost) : Prop where
  numberText_injective : ∀ a b, host.numberText a = host.numberText b → a = b
  numberText_plain : ∀ a, ':' ∉ (host.numberText a).toList
  toLowerCase_plain : ∀ s, 'J' ∉ (host.toLowerCase s).toList

namespace ProductListKey
open FindAllProductsQueryOptions

variable (host : KeyHost)

def utf8 (cs : List Char) : List UInt8 := cs.flatMap String.utf8EncodeChar

def buildFiltersHash (o : FindAllProductsQueryOptions) : Option (List Char) :=
  (o.complexJson host.numberText).map fun json => (Base64.encode (utf8 json)).take 32

def join (first : List Char) (parts : List (List Char)) : List Char :=
  first ++ parts.flatMap fun part => ':' :: part

def parts (o : FindAllProductsQueryOptions) : List (List Char) :=
  ["page:".toList ++ (host.numberText o.pageOf).toList,
    "limit:".toList ++ (host.numberText o.limitOf).toList,
    "sort:".toList ++ o.sortByOf.text.toList ++ ':' :: o.sortOrderOf.text.toList] ++
  (o.status.map fun s => "status:".toList ++ s.getValue.toList).toList ++
  (o.brandOf.map fun b => "brand:".toList ++ (host.toLowerCase b).toList).toList ++
  ((buildFiltersHash host o).map fun h => "f:".toList ++ h).toList

def getProductListKey (version : ℕ) (o : FindAllProductsQueryOptions) : String :=
  String.ofList ("product:list:".toList ++ join ('v' :: digits version) (parts host o))

structure SameQuery (o₁ o₂ : FindAllProductsQueryOptions) : Prop where
  skip : o₁.skip = o₂.skip
  take : o₁.take = o₂.take
  orderBy : o₁.orderBy = o₂.orderBy
  status : o₁.buildWhereClause.status = o₂.buildWhereClause.status
  brand : o₁.buildWhereClause.brand.map host.toLowerCase =
    o₂.buildWhereClause.brand.map host.toLowerCase
  price : o₁.buildWhereClause.price = o₂.buildWhereClause.price
  and : o₁.buildWhereClause.and = o₂.buildWhereClause.and

def KeyIdentifiesQuery (version : ℕ) (o₁ o₂ : FindAllProductsQueryOptions) : Prop :=
  getProductListKey host version o₁ = getProductListKey host version o₂ → SameQuery host o₁ o₂

structure PlainAlike (o₁ o₂ : FindAllProductsQueryOptions) : Prop where
  page : o₁.pageOf = o₂.pageOf
  limit : o₁.limitOf = o₂.limitOf
  sortBy : o₁.sortByOf = o₂.sortByOf
  sortOrder : o₁.sortOrderOf = o₂.sortOrderOf
  status : o₁.status = o₂.status
  brand : o₁.brandOf.map host.toLowerCase = o₂.brandOf.map host.toLowerCase

def filtersStart (o : FindAllProductsQueryOptions) : Option (List UInt8) :=
  (o.complexJson host.numberText).map fun json => (utf8 json).take 24

def nestedConditions (o : FindAllProductsQueryOptions) :
    Option PriceCondition × List AttributeCondition :=
  (o.buildWhereClause.price, o.buildWhereClause.and)

theorem hash_eq_iff (o₁ o₂ : FindAllProductsQueryOptions) :
    buildFiltersHash host o₁ = buildFiltersHash host o₂ ↔
      filtersStart host o₁ = filtersStart host o₂ := by
  have codes := fun as bs : List UInt8 => Base64.take_encode_inj 8 as bs
  unfold buildFiltersHash filtersStart
  cases o₁.complexJson host.numberText <;> cases o₂.complexJson host.numberText <;>
    simp [codes]

theorem hash_plain (o : FindAllProductsQueryOptions) (h : List Char)
    (hh : buildFiltersHash host o = some h) : ':' ∉ h := by
  obtain ⟨json, -, rfl⟩ := Option.map_eq_some_iff.mp hh
  intro mem
  exact absurd (Base64.encode_mem _ _ (List.mem_of_mem_take mem)) (by decide)

/-- The text of the nested filters begins with a brace, a quote and a letter. -/
theorem complexJson_head (o : FindAllProductsQueryOptions) (json : List Char)
    (h : o.complexJson host.numberText = some json) :
    ∃ c rest, json = JsonText.openBrace :: '"' :: c :: rest ∧ (c = 'p' ∨ c = 's' ∨ c = 'a') := by
  unfold complexJson at h
  have names : ∀ f ∈ o.complexFields host.numberText,
      f.1 = "priceRange" ∨ f.1 = "size" ∨ f.1 = "attributes" := by
    intro f hf
    unfold complexFields at hf
    simp only [List.mem_append, Option.mem_toList, Option.map_eq_some_iff] at hf
    rcases hf with (⟨_, -, rfl⟩ | ⟨_, -, rfl⟩) | ⟨_, -, rfl⟩ <;> simp
  cases hfs : o.complexFields host.numberText with
  | nil => rw [hfs] at h; cases h
  | cons f fields =>
    rw [hfs] at h names
    obtain rfl := Option.some.inj h
    obtain ⟨name, value⟩ := f
    obtain ⟨rest, head⟩ := JsonText.object_head name value fields
    rw [head]
    rcases names _ List.mem_cons_self with rfl | rfl | rfl
    · exact ⟨'p', "riceRange".toList ++ '"' :: rest, rfl, by decide⟩
    · exact ⟨'s', "ize".toList ++ '"' :: rest, rfl, by decide⟩
    · exact ⟨'a', "ttributes".toList ++ '"' :: rest, rfl, by decide⟩

/-- The code of the nested filters has a capital letter. -/
theorem hash_capital (o : FindAllProductsQueryOptions) (h : List Char)
    (hh : buildFiltersHash host o = some h) : 'J' ∈ h := by
  obtain ⟨json, hj, rfl⟩ := Option.map_eq_some_iff.mp hh
  obtain ⟨c, rest, rfl, rfl | rfl | rfl⟩ := complexJson_head host o json hj
  all_goals exact List.mem_cons_of_mem _ (List.mem_cons_of_mem _ List.mem_cons_self)

def statusPart (o : FindAllProductsQueryOptions) : List Char :=
  (o.status.map fun s => ':' :: ("status:".toList ++ s.getValue.toList)).getD []

def brandPart (o : FindAllProductsQueryOptions) : List Char :=
  (o.brandOf.map fun b => ':' :: ("brand:".toList ++ (host.toLowerCase b).toList)).getD []

def filtersPart (o : FindAllProductsQueryOptions) : List Char :=
  ((buildFiltersHash host o).map fun h => ':' :: ("f:".toList ++ h)).getD []

theorem flatMap_optional {α : Type} (part : α → List Char) (o : Option α) :
    (o.map part).toList.flatMap (':' :: ·) = (o.map fun a => ':' :: part a).getD [] := by
  cases o <;> simp

theorem key_chars (version : ℕ) (o : FindAllProductsQueryOptions) :
    (getProductListKey host version o).toList =
      "product:list:".toList ++ 'v' :: (digits version ++ ':' :: ("page:".toList ++
        ((host.numberText o.pageOf).toList ++ ':' :: ("limit:".toList ++
          ((host.numberText o.limitOf).toList ++ ':' :: ("sort:".toList ++
            (o.sortByOf.text.toList ++ ':' :: (o.sortOrderOf.text.toList ++
              (statusPart o ++ (brandPart host o ++ filtersPart host o)))))))))) := by
  unfold getProductListKey
  rw [String.toList_ofList]
  simp only [join, parts, List.flatMap_append, List.flatMap_cons, flatMap_optional,
    statusPart, brandPart, filtersPart, List.append_assoc, List.cons_append, List.nil_append]

/-- The end of the key: nothing, or the code of the nested filters. -/
theorem filtersPart_cases (o : FindAllProductsQueryOptions) :
    (buildFiltersHash host o = none ∧ filtersPart host o = []) ∨
      ∃ h, buildFiltersHash host o = some h ∧ filtersPart host o = ':' :: ("f:".toList ++ h) := by
  unfold filtersPart
  cases hh : buildFiltersHash host o with
  | none => exact Or.inl ⟨rfl, rfl⟩
  | some h => exact Or.inr ⟨h, rfl, rfl⟩

variable (documented : host.Documented)

include documented

/-- The brand and the code after it can be told apart, as only the code has a
capital letter. -/
theorem brand_filters_inj (o₁ o₂ : FindAllProductsQueryOptions) (b₁ b₂ : String)
    (h : (host.toLowerCase b₁).toList ++ filtersPart host o₁ =
      (host.toLowerCase b₂).toList ++ filtersPart host o₂) :
    host.toLowerCase b₁ = host.toLowerCase b₂ ∧
      buildFiltersHash host o₁ = buildFiltersHash host o₂ := by
  have low₁ := documented.toLowerCase_plain b₁
  have low₂ := documented.toLowerCase_plain b₂
  rcases filtersPart_cases host o₁ with ⟨none₁, e₁⟩ | ⟨h₁, some₁, e₁⟩
  · rcases filtersPart_cases host o₂ with ⟨none₂, e₂⟩ | ⟨h₂, some₂, e₂⟩
    · rw [e₁, e₂, List.append_nil, List.append_nil] at h
      exact ⟨String.toList_inj.mp h, none₁.trans none₂.symm⟩
    · rw [e₁, e₂, List.append_nil] at h
      have capital := hash_capital host o₂ h₂ some₂
      rw [h] at low₁
      exact absurd (by simp [capital]) low₁
  · rcases filtersPart_cases host o₂ with ⟨none₂, e₂⟩ | ⟨h₂, some₂, e₂⟩
    · rw [e₁, e₂, List.append_nil] at h
      have capital := hash_capital host o₁ h₁ some₁
      rw [← h] at low₂
      exact absurd (by simp [capital]) low₂
    · rw [e₁, e₂] at h
      obtain ⟨front, code⟩ := fromLast_inj ':' (host.toLowerCase b₁ ++ ":f").toList
        (host.toLowerCase b₂ ++ ":f").toList h₁ h₂ (hash_plain host o₁ h₁ some₁)
        (hash_plain host o₂ h₂ some₂) (by simpa using h)
      rw [String.toList_append, String.toList_append] at front
      exact ⟨String.toList_inj.mp (List.append_cancel_right front), by rw [some₁, some₂, code]⟩

theorem brand_part_inj (o₁ o₂ : FindAllProductsQueryOptions)
    (h : brandPart host o₁ ++ filtersPart host o₁ = brandPart host o₂ ++ filtersPart host o₂) :
    o₁.brandOf.map host.toLowerCase = o₂.brandOf.map host.toLowerCase ∧
      buildFiltersHash host o₁ = buildFiltersHash host o₂ := by
  unfold brandPart at h
  cases hb₁ : o₁.brandOf with
  | none =>
    cases hb₂ : o₂.brandOf with
    | none =>
      rw [hb₁, hb₂] at h
      refine ⟨rfl, ?_⟩
      rcases filtersPart_cases host o₁ with ⟨none₁, e₁⟩ | ⟨h₁, some₁, e₁⟩
      all_goals
        rcases filtersPart_cases host o₂ with ⟨none₂, e₂⟩ | ⟨h₂, some₂, e₂⟩
        all_goals
          rw [e₁, e₂] at h
      · rw [none₁, none₂]
      · cases h
      · cases h
      · rw [some₁, some₂]
        exact congrArg some (List.append_cancel_left (List.cons.inj h).2)
    | some b₂ =>
      rw [hb₁, hb₂] at h
      rcases filtersPart_cases host o₁ with ⟨-, e₁⟩ | ⟨h₁, -, e₁⟩
      all_goals
        rw [e₁] at h
        exact absurd h (by simp)
  | some b₁ =>
    cases hb₂ : o₂.brandOf with
    | none =>
      rw [hb₁, hb₂] at h
      rcases filtersPart_cases host o₂ with ⟨-, e₂⟩ | ⟨h₂, -, e₂⟩
      all_goals
        rw [e₂] at h
        exact absurd h (by simp)
    | some b₂ =>
      rw [hb₁, hb₂] at h
      have texts : "brand:".toList ++ ((host.toLowerCase b₁).toList ++ filtersPart host o₁) =
          "brand:".toList ++ ((host.toLowerCase b₂).toList ++ filtersPart host o₂) := by
        simpa using h
      obtain ⟨brand, filters⟩ := brand_filters_inj host documented o₁ o₂ b₁ b₂
        (List.append_cancel_left texts)
      exact ⟨congrArg some brand, filters⟩

omit documented in
theorem after_status (o : FindAllProductsQueryOptions) :
    Starts ':' (brandPart host o ++ filtersPart host o) ∧
      ∀ cs, brandPart host o ++ filtersPart host o ≠ ':' :: 's' :: cs := by
  unfold brandPart
  cases o.brandOf with
  | some b => exact ⟨starts_cons ':' _, fun cs h => absurd h (by simp)⟩
  | none =>
    rcases filtersPart_cases host o with ⟨-, e⟩ | ⟨h, -, e⟩
    all_goals rw [e]
    · exact ⟨starts_nil ':', nofun⟩
    · exact ⟨starts_cons ':' _, fun cs h => absurd h (by simp)⟩

omit documented in
theorem status_plain (s : ProductStatus) : ':' ∉ s.getValue.toList := by
  cases s <;> decide

omit documented in
theorem status_part_inj (o₁ o₂ : FindAllProductsQueryOptions)
    (h : statusPart o₁ ++ (brandPart host o₁ ++ filtersPart host o₁) =
      statusPart o₂ ++ (brandPart host o₂ ++ filtersPart host o₂)) :
    o₁.status = o₂.status ∧
      brandPart host o₁ ++ filtersPart host o₁ = brandPart host o₂ ++ filtersPart host o₂ := by
  obtain ⟨starts₁, other₁⟩ := after_status host o₁
  obtain ⟨starts₂, other₂⟩ := after_status host o₂
  generalize brandPart host o₁ ++ filtersPart host o₁ = rest₁ at *
  generalize brandPart host o₂ ++ filtersPart host o₂ = rest₂ at *
  unfold statusPart at h
  cases hs₁ : o₁.status with
  | none =>
    cases hs₂ : o₂.status with
    | none =>
      rw [hs₁, hs₂] at h
      exact ⟨rfl, h⟩
    | some s₂ =>
      rw [hs₁, hs₂] at h
      exact absurd h (other₁ _)
  | some s₁ =>
    cases hs₂ : o₂.status with
    | none =>
      rw [hs₁, hs₂] at h
      exact absurd h.symm (other₂ _)
    | some s₂ =>
      rw [hs₁, hs₂] at h
      have texts : "status:".toList ++ (s₁.getValue.toList ++ rest₁) =
          "status:".toList ++ (s₂.getValue.toList ++ rest₂) := by
        simpa using h
      obtain ⟨value, rest⟩ := upTo_inj ':' _ _ _ _ (status_plain s₁) (status_plain s₂)
        starts₁ starts₂ (List.append_cancel_left texts)
      have same := ProductStatus.getValue_injective s₁ s₂ (String.toList_inj.mp value)
      exact ⟨congrArg some same, rest⟩

omit documented in
theorem sortBy_text (a b : ProductSortBy) : ':' ∉ a.text.toList ∧ (a.text = b.text → a = b) := by
  cases a <;> cases b <;> decide

omit documented in
theorem sortOrder_text (a b : SortOrder) : ':' ∉ a.text.toList ∧ (a.text = b.text → a = b) := by
  cases a <;> cases b <;> decide

omit documented in
/-- One step of reading the key back: a text without a colon, and a name after it. -/
theorem next_inj (name a b x y : List Char) (ha : ':' ∉ a) (hb : ':' ∉ b)
    (h : a ++ ':' :: (name ++ x) = b ++ ':' :: (name ++ y)) : a = b ∧ x = y := by
  obtain ⟨front, rest⟩ := upTo_inj ':' a b _ _ ha hb (starts_cons ':' _) (starts_cons ':' _) h
  exact ⟨front, List.append_cancel_left (List.cons.inj rest).2⟩

omit documented in
theorem digits_plain (n : ℕ) : ':' ∉ digits n := by
  intro mem
  exact absurd (isDigit_of_mem_digits n ':' mem) (by decide)

omit documented in
theorem key_version (v w : ℕ) (o₁ o₂ : FindAllProductsQueryOptions)
    (h : getProductListKey host v o₁ = getProductListKey host w o₂) : v = w := by
  have chars := congrArg String.toList h
  rw [key_chars, key_chars] at chars
  obtain ⟨version, -⟩ := next_inj "page:".toList _ _ _ _ (digits_plain v) (digits_plain w)
    (List.cons.inj (List.append_cancel_left chars)).2
  exact digits_injective v w version

/-- The key determines all that it says in full, and the start of the filters. -/
theorem key_alike (version : ℕ) (o₁ o₂ : FindAllProductsQueryOptions)
    (h : getProductListKey host version o₁ = getProductListKey host version o₂) :
    PlainAlike host o₁ o₂ ∧ filtersStart host o₁ = filtersStart host o₂ := by
  have chars := congrArg String.toList h
  rw [key_chars, key_chars] at chars
  have plain := documented.numberText_plain
  obtain ⟨-, rest⟩ := next_inj "page:".toList _ _ _ _ (digits_plain _) (digits_plain _)
    (List.cons.inj (List.append_cancel_left chars)).2
  obtain ⟨page, rest⟩ := next_inj "limit:".toList _ _ _ _ (plain _) (plain _) rest
  obtain ⟨limit, rest⟩ := next_inj "sort:".toList _ _ _ _ (plain _) (plain _) rest
  obtain ⟨sortBy, rest⟩ := next_inj [] _ _ _ _ (sortBy_text _ o₁.sortByOf).1
    (sortBy_text _ o₂.sortByOf).1 rest
  have tails : ∀ o : FindAllProductsQueryOptions,
      Starts ':' (statusPart o ++ (brandPart host o ++ filtersPart host o)) := by
    intro o
    unfold statusPart
    cases o.status with
    | none => exact (after_status host o).1
    | some s => exact starts_cons ':' _
  obtain ⟨sortOrder, rest⟩ := upTo_inj ':' _ _ _ _ (sortOrder_text _ o₁.sortOrderOf).1
    (sortOrder_text _ o₂.sortOrderOf).1 (tails o₁) (tails o₂) rest
  obtain ⟨status, rest⟩ := status_part_inj host o₁ o₂ rest
  obtain ⟨brand, hash⟩ := brand_part_inj host documented o₁ o₂ rest
  constructor
  · exact
      { page := documented.numberText_injective _ _ (String.toList_inj.mp page)
        limit := documented.numberText_injective _ _ (String.toList_inj.mp limit)
        sortBy := (sortBy_text _ _).2 (String.toList_inj.mp sortBy)
        sortOrder := (sortOrder_text _ _).2 (String.toList_inj.mp sortOrder)
        status := status
        brand := brand }
  · exact (hash_eq_iff host o₁ o₂).mp hash

omit documented in
theorem optional_part {α : Type} (f : α → String) (part : String → List Char) (a b : Option α)
    (h : a.map f = b.map f) : a.map (fun x => part (f x)) = b.map fun x => part (f x) := by
  have mapped := congrArg (Option.map part) h
  rw [Option.map_map, Option.map_map] at mapped
  exact mapped

omit documented in
theorem key_of_alike (version : ℕ) (o₁ o₂ : FindAllProductsQueryOptions)
    (plain : PlainAlike host o₁ o₂) (start : filtersStart host o₁ = filtersStart host o₂) :
    getProductListKey host version o₁ = getProductListKey host version o₂ := by
  apply String.toList_inj.mp
  rw [key_chars, key_chars]
  have brand := optional_part host.toLowerCase
    (fun b => ':' :: ("brand:".toList ++ b.toList)) o₁.brandOf o₂.brandOf plain.brand
  unfold statusPart brandPart filtersPart
  rw [plain.page, plain.limit, plain.sortBy, plain.sortOrder, plain.status, brand,
    (hash_eq_iff host o₁ o₂).mpr start]

/-- The key identifies the query just when nested filters whose texts have the same
first 24 bytes, beside equal plain options, ask for the same conditions. -/
theorem key_identifies_query_iff (version : ℕ) (o₁ o₂ : FindAllProductsQueryOptions) :
    KeyIdentifiesQuery host version o₁ o₂ ↔
      (PlainAlike host o₁ o₂ → filtersStart host o₁ = filtersStart host o₂ →
        nestedConditions o₁ = nestedConditions o₂) := by
  constructor
  · intro identifies plain start
    have same := identifies (key_of_alike host version o₁ o₂ plain start)
    unfold nestedConditions
    rw [same.price, same.and]
  · intro alike key
    obtain ⟨plain, start⟩ := key_alike host documented version o₁ o₂ key
    obtain ⟨price, and⟩ := Prod.mk.inj (alike plain start)
    exact
      { skip := by unfold FindAllProductsQueryOptions.skip; rw [plain.page, plain.limit]
        take := plain.limit
        orderBy := by unfold orderBy; rw [plain.sortBy, plain.sortOrder]
        status := plain.status
        brand := plain.brand
        price := price
        and := and }

omit documented

/-! A host whose texts of integers and whose small letters are the real ones. -/

def signText (q : ℚ) : List Char := if q.num < 0 then ['-'] else []
def denominatorText (q : ℚ) : List Char := if q.den = 1 then [] else '/' :: digits q.den

def sampleText : JsNumber → List Char
  | .nan => "NaN".toList
  | .posInf => "Infinity".toList
  | .negInf => "-Infinity".toList
  | .fin q => signText q ++ (digits q.num.natAbs ++ denominatorText q)

theorem sampleText_fin (q : ℚ) :
    sampleText (.fin q) = signText q ++ (digits q.num.natAbs ++ denominatorText q) := rfl

def sampleHost : KeyHost where
  numberText n := String.ofList (sampleText n)
  toLowerCase s := String.ofList (s.toList.map Char.toLower)

theorem not_digit_of_mem (c : Char) (hc : c.isDigit = false) (n : ℕ) : c ∉ digits n := by
  intro mem
  rw [isDigit_of_mem_digits n c mem] at hc
  cases hc

theorem mem_denominatorText (c : Char) (hc : c.isDigit = false) (q : ℚ)
    (h : c ∈ denominatorText q) : c = '/' := by
  unfold denominatorText at h
  split_ifs at h
  · cases h
  · exact (List.mem_cons.mp h).resolve_right (not_digit_of_mem c hc _)

theorem mem_sampleText (c : Char) (hc : c.isDigit = false) (q : ℚ) (slash : c ≠ '/') :
    c ∈ sampleText (.fin q) ↔ c = '-' ∧ q.num < 0 := by
  have digit := not_digit_of_mem c hc q.num.natAbs
  have denominator : c ∉ denominatorText q := fun h => slash (mem_denominatorText c hc q h)
  rw [sampleText_fin]
  unfold signText
  split_ifs with negative
  all_goals simp [digit, denominator, negative]

theorem denominator_inj (q r : ℚ) (h : denominatorText q = denominatorText r) :
    q.den = r.den := by
  unfold denominatorText at h
  split_ifs at h with hq hr hr
  · exact hq.trans hr.symm
  · exact digits_injective _ _ (List.cons.inj h).2

theorem denominator_starts (q : ℚ) : Starts '/' (denominatorText q) := by
  unfold denominatorText
  split_ifs
  · exact starts_nil '/'
  · exact starts_cons '/' _

theorem sampleText_fin_inj (q r : ℚ) (h : sampleText (.fin q) = sampleText (.fin r)) : q = r := by
  have signs : q.num < 0 ↔ r.num < 0 := by
    have minus := mem_sampleText '-' (by decide) q (by decide)
    rw [h, mem_sampleText '-' (by decide) r (by decide)] at minus
    simpa using minus.symm
  have sign : signText q = signText r := by
    unfold signText
    simp only [signs]
  rw [sampleText_fin, sampleText_fin, sign] at h
  obtain ⟨numerator, denominator⟩ := upTo_inj '/' _ _ _ _ (not_digit_of_mem '/' (by decide) _)
    (not_digit_of_mem '/' (by decide) _) (denominator_starts q) (denominator_starts r)
    (List.append_cancel_left h)
  have abs := digits_injective _ _ numerator
  exact Rat.ext (by omega) (denominator_inj q r denominator)

theorem sampleText_injective (a b : JsNumber) (h : sampleText a = sampleText b) : a = b := by
  have letters : ∀ q (c : Char), c.isDigit = false → c ≠ '/' → c ≠ '-' →
      c ∉ sampleText (.fin q) := fun q c hc slash minus mem =>
    minus ((mem_sampleText c hc q slash).mp mem).1
  cases a with
  | fin q =>
    cases b with
    | fin r => rw [sampleText_fin_inj q r h]
    | nan => exact absurd (h ▸ by decide) (letters q 'N' (by decide) (by decide) (by decide))
    | posInf => exact absurd (h ▸ by decide) (letters q 'I' (by decide) (by decide) (by decide))
    | negInf => exact absurd (h ▸ by decide) (letters q 'I' (by decide) (by decide) (by decide))
  | nan =>
    cases b with
    | fin q => exact absurd (h ▸ by decide) (letters q 'N' (by decide) (by decide) (by decide))
    | nan => rfl
    | _ => exact absurd h (by decide)
  | posInf =>
    cases b with
    | fin q => exact absurd (h ▸ by decide) (letters q 'I' (by decide) (by decide) (by decide))
    | posInf => rfl
    | _ => exact absurd h (by decide)
  | negInf =>
    cases b with
    | fin q => exact absurd (h ▸ by decide) (letters q 'I' (by decide) (by decide) (by decide))
    | negInf => rfl
    | _ => exact absurd h (by decide)

theorem sampleText_plain (a : JsNumber) : ':' ∉ sampleText a := by
  cases a with
  | fin q =>
    rw [mem_sampleText ':' (by decide) q (by decide)]
    exact fun h => absurd h.1 (by decide)
  | _ => decide

theorem toLower_plain (c : Char) : c.toLower ≠ 'J' := by
  intro h
  unfold Char.toLower at h
  split at h
  · next upper =>
    have value : c.val + 32 = 74 := congrArg Char.val h
    have sum := congrArg UInt32.toNat value
    have low : c.val.toNat ≤ 90 := upper.2
    have high : 65 ≤ c.val.toNat := upper.1
    rw [UInt32.toNat_add] at sum
    change (c.val.toNat + 32) % 2 ^ 32 = 74 at sum
    omega
  · next upper =>
    rw [h] at upper
    exact upper (by decide)

theorem sampleHost_documented : sampleHost.Documented where
  numberText_injective a b h := sampleText_injective a b (String.ofList_injective h)
  numberText_plain a := by
    rw [sampleHost, String.toList_ofList]
    exact sampleText_plain a
  toLowerCase_plain s := by
    rw [sampleHost, String.toList_ofList]
    intro mem
    obtain ⟨c, -, h⟩ := List.mem_map.mp mem
    exact toLower_plain c h

def gradeOptions (grade : String) : FindAllProductsQueryOptions where
  page := none
  limit := none
  sortBy := none
  sortOrder := none
  status := none
  brand := none
  priceRange := none
  size := none
  attributes := some
    { grade := some grade
      finishing := none
      applicationAreas := none
      antiSlipRating := none
      waterAbsorption := none
      color := none
      pattern := none
      isOutdoor := none
      frostResistant := none
      peiRating := none
      order := ⟨_, .refl _⟩ }

def fromPrice (min : ℕ) : FindAllProductsQueryOptions where
  page := none
  limit := none
  sortBy := none
  sortOrder := none
  status := none
  brand := none
  priceRange := some ⟨some (.ofNat min), none, ⟨_, .refl _⟩⟩
  size := none
  attributes := none

/-- The first digits of the least price are still among the 24 bytes. -/
theorem sample_identifies_iff :
    KeyIdentifiesQuery sampleHost 0 (fromPrice 10) (fromPrice 20) ∧
      getProductListKey sampleHost 0 (fromPrice 10) ≠
        getProductListKey sampleHost 0 (fromPrice 20) := by
  have apart : filtersStart sampleHost (fromPrice 10) ≠ filtersStart sampleHost (fromPrice 20) := by
    decide +kernel
  refine ⟨(key_identifies_query_iff sampleHost sampleHost_documented 0 _ _).mpr
    fun _ same => absurd same apart, fun same => apart ?_⟩
  exact (key_alike sampleHost sampleHost_documented 0 _ _ same).2

/-- The text up to the grade has 24 bytes, so all lists of one grade share a key. -/
theorem grade_filters_share_key :
    ¬ ∀ (host : KeyHost), host.Documented → ∀ (version : ℕ)
      (o₁ o₂ : FindAllProductsQueryOptions), KeyIdentifiesQuery host version o₁ o₂ := by
  intro identifies
  have same := identifies sampleHost sampleHost_documented 0 (gradeOptions "PREMIUM")
    (gradeOptions "GRADE_A") <|
      key_of_alike sampleHost 0 _ _ ⟨rfl, rfl, rfl, rfl, rfl, rfl⟩ (by decide +kernel)
  exact absurd same.and (by decide)

end ProductListKey

end KeramikStore
