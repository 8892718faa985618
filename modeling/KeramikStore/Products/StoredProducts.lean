import KeramikStore.Products.Commands
import KeramikStore.Products.ProductMapper

/-!
# Products that can be stored and loaded back

The constructor that loads a product checks what the commands that change one do not:
blank texts, the address of the image, a whole number of tiles. So the arguments of a
run decide whether every product of it can be loaded. A price can be one that rounding
does not keep, from 35 184 372 088 832.02 on.
-/

set_option autoImplicit false

namespace KeramikStore.StoredProducts
open Library Library.Runs Library.Text ProductCommands

variable (host : ProductHost)

def Reloads (p : Product) : Prop :=
  PrismaProductMapper.toDomain host (PrismaProductMapper.toPersistence p) =
    .ok { p with domainEvents := [] }

def Filled (text : Option String) : Prop := ∀ t ∈ text, units (trim t) ≠ 0

def Pictured (imageUrl : Option String) : Prop :=
  Filled imageUrl ∧ ∀ u ∈ imageUrl, host.parsesUrl u = true

def Stable (price : Price) : Prop := Money.rounded price.getAmount = price.getAmount

instance (price : Price) : Decidable (Stable price) := inferInstanceAs (Decidable (_ = _))

/-- The prices up to the first one that rounding changes. -/
theorem stable_hundredths (price : Price) (n : ℕ) (few : n < 100 * 2 ^ 45)
    (amount : price.amount = Binary64.nearest (n / 100)) : Stable price := by
  unfold Stable Price.getAmount
  rw [amount]
  exact Money.rounded_hundredths n few

/-- The least price that rounding changes, made of a number below it. -/
example : Money.rounded (.fin (2251799813685249 / 64)) = .fin (4503599627370499 / 128) ∧
    Money.rounded (.fin (4503599627370499 / 128)) = .fin (1125899906842625 / 32) := by
  decide +kernel

structure Storable (p : Product) : Prop where
  whole : p.tilePerBox.isInteger = true
  positive : p.tilePerBox.le (.fin 0) = false
  description : Filled p.description
  brand : Filled p.brand
  image : Pictured host p.imageUrl
  dates : p.createdAt ≤ p.updatedAt
  price : Stable p.price

theorem filled_iff (text : Option String) :
    (text.any fun t => units (trim t) == 0) = false ↔ Filled text := by
  cases text <;> simp [Filled]

theorem validate_iff (p : ProductProps) : Product.validate host p = .ok () ↔
    p.tilePerBox.isInteger = true ∧ p.tilePerBox.le (.fin 0) = false ∧ Filled p.description ∧
      Filled p.brand ∧ Pictured host p.imageUrl ∧ p.createdAt ≤ p.updatedAt := by
  have parses : (p.imageUrl.any fun u => !host.parsesUrl u) = false ↔
      ∀ u ∈ p.imageUrl, host.parsesUrl u = true := by
    cases p.imageUrl <;> simp
  unfold Product.validate
  rw [raise_ok_iff]
  simp only [List.mem_cons, List.not_mem_nil, forall_eq_or_imp, or_false, forall_eq, filled_iff,
    parses, Pictured, and_assoc, Bool.not_eq_false', decide_eq_false_iff_not, not_lt]

theorem reloads_iff (keeps : host.KeepsCapitals) (p : Product) :
    Reloads host p ↔ Storable host p := by
  unfold Reloads
  rw [PrismaProductMapper.toDomain_toPersistence_iff host keeps, validate_iff]
  constructor
  · rintro ⟨⟨whole, positive, description, brand, image, dates⟩, price⟩
    exact ⟨whole, positive, description, brand, image, dates, price⟩
  · rintro ⟨whole, positive, description, brand, image, dates, price⟩
    exact ⟨⟨whole, positive, description, brand, image, dates⟩, price⟩

def edits : ProductCommand → Bool
  | .updateInfo _ | .updatePrice .. | .updateImage _ => true
  | .activate | .deactivate _ | .markAsOutOfStock | .discontinue _ | .delete => false

def Brings (p : Product) : ProductCommand → Prop
  | .updateInfo params =>
    Filled params.description ∧ Filled params.brand ∧ Pictured host params.imageUrl ∧
      ∀ n ∈ params.tilePerBox, takesTiles n = true → n.isInteger = true
  | .updatePrice newPrice currency => ∀ price, Price.create host newPrice
      ((currency.filter (· != "")).getD p.price.getCurrency) = .ok price → Stable price
  | .updateImage imageUrl => Pictured host imageUrl
  | _ => True

def Stores (p : Product) (a : Step) : Prop :=
  p.ensureCanBeModified = .ok () → Brings host p a.1

section Steps

theorem or_forall {α : Type} (P : α → Prop) (given old : Option α) (h : ∀ a ∈ old, P a) :
    (∀ a ∈ given.or old, P a) ↔ ∀ a ∈ given, P a := by
  cases given with
  | none => simpa using h
  | some a => rfl

theorem pictured_or (given old : Option String) (h : Pictured host old) :
    Pictured host (given.or old) ↔ Pictured host given :=
  and_congr (or_forall _ given old h.1) (or_forall _ given old h.2)

variable (p : Product) (h : Storable host p)
include h

theorem tiles_iff (given : Option JsNumber) (n : JsNumber)
    (assigned : n = (given.filter takesTiles).getD p.tilePerBox) :
    (n.isInteger = true ∧ n.le (.fin 0) = false) ↔
      ∀ m ∈ given, takesTiles m = true → m.isInteger = true := by
  cases given with
  | none =>
    obtain rfl : n = p.tilePerBox := assigned
    simp [h.whole, h.positive]
  | some m =>
    by_cases takes : takesTiles m = true
    · obtain rfl : n = m := by simpa [Option.filter, takes] using assigned
      have positive : n.le (.fin 0) = false := by simpa [takesTiles] using takes
      simp [takes, positive]
    · obtain rfl : n = p.tilePerBox := by simpa [Option.filter, takes] using assigned
      simp [takes, h.whole, h.positive]

theorem updated_iff (params : UpdateProductParams) (now : Date) (q : Product)
    (fields : Updated params now p q) (time : p.createdAt ≤ now) :
    Storable host q ↔ Brings host p (.updateInfo params) := by
  have tiles := tiles_iff host p h params.tilePerBox q.tilePerBox fields.tilePerBox
  have description : Filled q.description ↔ Filled params.description := by
    rw [fields.description]
    exact or_forall _ _ _ h.description
  have brand : Filled q.brand ↔ Filled params.brand := by
    rw [fields.brand]
    exact or_forall _ _ _ h.brand
  have image : Pictured host q.imageUrl ↔ Pictured host params.imageUrl := by
    rw [fields.imageUrl]
    exact pictured_or host _ _ h.image
  constructor
  · intro s
    exact ⟨description.mp s.description, brand.mp s.brand, image.mp s.image,
      tiles.mp ⟨s.whole, s.positive⟩⟩
  · rintro ⟨d, b, i, t⟩
    obtain ⟨whole, positive⟩ := tiles.mpr t
    refine ⟨whole, positive, description.mpr d, brand.mpr b, image.mpr i, ?_, ?_⟩
    · rw [fields.createdAt]
      rcases fields.updatedAt with same | e
      · rw [same]
        exact h.dates
      · rw [e]
        exact time
    · rw [fields.price]
      exact h.price

theorem updatePrice_iff (newPrice : JsNumber) (currency : Option String) (now : Date)
    (modifiable : p.ensureCanBeModified = .ok ()) (time : p.createdAt ≤ now) :
    Storable host (p.updatePrice host newPrice currency now).state ↔
      Brings host p (.updatePrice newPrice currency) := by
  unfold Product.updatePrice Product.guarded Brings
  rw [modifiable]
  dsimp only
  generalize Price.create host newPrice
    ((currency.filter (· != "")).getD p.price.getCurrency) = made
  cases made with
  | error e => exact ⟨fun _ _ impossible => (nomatch impossible), fun _ => h⟩
  | ok price =>
    dsimp only
    split
    next same =>
      refine ⟨fun _ made e => ?_, fun _ => h⟩
      obtain rfl := Except.ok.inj e
      rw [Price.eq_of_equals price p.price same]
      exact h.price
    · constructor
      · intro s made e
        obtain rfl := Except.ok.inj e
        exact s.price
      · intro stable
        exact ⟨h.whole, h.positive, h.description, h.brand, h.image, time, stable price rfl⟩

theorem updateImage_iff (imageUrl : Option String) (now : Date)
    (modifiable : p.ensureCanBeModified = .ok ()) (time : p.createdAt ≤ now) :
    Storable host (p.updateImage imageUrl now).state ↔ Brings host p (.updateImage imageUrl) := by
  unfold Product.updateImage Product.guarded
  rw [modifiable]
  dsimp only
  split
  next same =>
    refine ⟨fun _ => ?_, fun _ => h⟩
    change Pictured host imageUrl
    rw [same]
    exact h.image
  · exact ⟨fun s => s.image, fun image =>
      ⟨h.whole, h.positive, h.description, h.brand, image, time, h.price⟩⟩

theorem moved_storable (t : ProductStatus) (reason : Option String) (clk : Clock)
    (time : p.createdAt ≤ clk.read 0) : Storable host (moved p t reason clk) :=
  { h with dates := time.trans (clk.ordered 0 _ (Nat.zero_le _)) }

theorem plain_storable (c : ProductCommand) (clk : Clock) (plain : edits c = false)
    (time : p.createdAt ≤ clk.read 0) : Storable host (step host p (c, clk)) := by
  have effect := exec_effect host p clk c
  unfold step
  dsimp only
  generalize c.exec host clk p = call at effect
  cases effect with
  | threw => exact h
  | kept => exact h
  | updated => cases plain
  | priced => cases plain
  | depicted => cases plain
  | moved c t reason => exact moved_storable host p h t reason clk time

theorem edit_iff (c : ProductCommand) (clk : Clock) (edit : edits c = true)
    (modifiable : p.ensureCanBeModified = .ok ()) (time : p.createdAt ≤ clk.read 0) :
    Storable host (step host p (c, clk)) ↔ Brings host p c := by
  cases c with
  | updateInfo params =>
    exact updated_iff host p h params (clk.read 0) _
      (updateInfo_updated p (clk.read 0) params modifiable) time
  | updatePrice newPrice currency =>
    exact updatePrice_iff host p h newPrice currency (clk.read 0) modifiable time
  | updateImage imageUrl => exact updateImage_iff host p h imageUrl (clk.read 0) modifiable time
  | _ => cases edit

omit h in
theorem edit_refused (c : ProductCommand) (clk : Clock) (edit : edits c = true)
    (closed : p.ensureCanBeModified ≠ .ok ()) : step host p (c, clk) = p := by
  cases c with
  | updateInfo params =>
    obtain ⟨e, refused⟩ := guarded_refused p p.ensureCanBeModified _ closed
    exact congrArg Outcome.state refused
  | updatePrice newPrice currency =>
    obtain ⟨e, refused⟩ := guarded_refused p p.ensureCanBeModified _ closed
    exact congrArg Outcome.state refused
  | updateImage imageUrl =>
    obtain ⟨e, refused⟩ := guarded_refused p p.ensureCanBeModified _ closed
    exact congrArg Outcome.state refused
  | _ => cases edit

/-- A command keeps the product storable just when what it brings is in order. -/
theorem step_iff (a : Step) (time : p.createdAt ≤ a.2.read 0) :
    Storable host (step host p a) ↔ Stores host p a := by
  obtain ⟨c, clk⟩ := a
  cases edit : edits c with
  | false =>
    refine ⟨fun _ _ => ?_, fun _ => plain_storable host p h c clk edit time⟩
    cases c <;> trivial
  | true =>
    by_cases modifiable : p.ensureCanBeModified = .ok ()
    · exact (edit_iff host p h c clk edit modifiable time).trans
        ⟨fun brings _ => brings, fun stores => stores modifiable⟩
    · rw [edit_refused host p c clk edit modifiable]
      exact ⟨fun _ modified => absurd modified modifiable, fun _ => h⟩

end Steps

section Runs

theorem step_createdAt (p : Product) (a : Step) : (step host p a).createdAt = p.createdAt := by
  obtain ⟨c, clk⟩ := a
  have effect := exec_effect host p clk c
  unfold step
  dsimp only
  generalize c.exec host clk p = call at effect
  cases effect with
  | updated params o modifiable fields => exact fields.createdAt
  | _ => rfl

theorem created_storable_iff (generated : ProductId) (params : CreateProductParams) (clk : Clock)
    (p : Product) (h : Product.create host generated params clk = .ok p) :
    Storable host p ↔ Stable params.price := by
  obtain ⟨u, valid, h⟩ := (bind_ok_iff _ _ _).mp h
  obtain rfl := Except.ok.inj h
  obtain ⟨whole, positive, description, brand, image, dates⟩ := (validate_iff host _).mp valid
  exact ⟨fun s => s.price,
    fun stable => ⟨whole, positive, description, brand, image, dates, stable⟩⟩

/-- Every product of a run from `create` can be loaded back just when rounding keeps the
price that it was created with and every step brings values that are in order. -/
theorem reloads_throughout_iff (keeps : host.KeepsCapitals) (generated : ProductId)
    (params : CreateProductParams) (clk : Clock) (p : Product)
    (created : Product.create host generated params clk = .ok p) (run : List Step)
    (forward : ∀ a ∈ run, p.createdAt ≤ a.2.read 0) :
    Throughout (step host) (Reloads host) p run ↔
      Stable params.price ∧ Along (step host) (Stores host) p run := by
  rw [throughout_congr (step host) _ _ (reloads_iff host keeps),
    ← created_storable_iff host generated params clk p created]
  apply throughout_exact (step host) (fun q => q.createdAt = p.createdAt) (Storable host)
    (fun _ a => p.createdAt ≤ a.2.read 0) (Stores host)
  · intro q a same _
    rw [step_createdAt, same]
  · intro q a same time h
    exact step_iff host q h a (by rw [same]; exact time)
  · rfl
  · exact along_of_mem (step host) _ p run forward

end Runs

section Samples

def describe (description : String) : ProductCommand :=
  .updateInfo ⟨none, some description, none, none, none, none⟩

/-- An update to an empty description is stored, and the row can no longer be loaded. -/
theorem emptied_product :
    Product.create .sample .sample sampleParams (.still 0) = .ok sample ∧
      PrismaProductMapper.toDomain .sample (PrismaProductMapper.toPersistence
        (after (step .sample) sample [(describe "", .still 1)])) =
      .error (productStateConflictError "Product description cannot be an empty string") := by
  refine ⟨sample_created, ?_⟩
  decide +kernel

theorem sample_reloads_throughout_iff :
    Throughout (step .sample) (Reloads .sample) sample [(describe "Glazed", .still 1)] := by
  refine (reloads_throughout_iff .sample ProductHost.sample_keeps .sample sampleParams (.still 0)
    sample sample_created _ (by decide)).mpr ⟨by decide +kernel, fun _ => ⟨?_, nofun, ?_, nofun⟩,
      trivial⟩
  · rintro - ⟨⟩
    decide +kernel
  · exact ⟨nofun, nofun⟩

end Samples

end KeramikStore.StoredProducts
