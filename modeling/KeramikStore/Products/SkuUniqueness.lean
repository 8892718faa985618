import KeramikStore.Products.CreateProduct

/-!
# The check of the article number

The exception that tells of a number that is taken is never thrown, so a creation does as
documented just when its number is not taken. Whether the check stops it otherwise is
another matter. A deleted product leaves its row, and a new one may take its article
number, so several rows may share a number of which at most one is not deleted. The check
asks for one row with the number and gets any of them; it is right as long as it gets the
row that is not deleted whenever there is one. Between two deletions of a number this is
kept in the cache.
-/

set_option autoImplicit false

namespace KeramikStore.SkuUniqueness
open Library Library.KeyedTable Library.ReadThrough Library.Runs PrismaProductRepository

/-- A query that gives one of the rows with the article number, and none only if there
is none. -/
structure SkuLookup where
  query : SkuQuery
  answers : ∀ sku t, ∃ found, query sku t = .ok found ∧
    (∀ row, found = some row → row ∈ t.rows ∧ row.sku = sku) ∧
      (found = none → ∀ row ∈ t.rows, row.sku ≠ sku)

inductive CatalogueAction where
  | createProduct (command : CreateProductCommand) (generated : ProductId) (clk : Clock)
      (lookup : SkuLookup)
  | delete (productId : ProductId) (clk : Clock)
  | expire (key : ProductCacheKey)

variable (host : ProductHost)

def perform (s : ProductStore) : CatalogueAction → ProductStore
  | .createProduct command generated clk lookup =>
    (CreateProductUseCase.execute host lookup.query generated clk command s).2
  | .delete productId clk =>
    (PrismaProductRepository.delete host productId.getValue clk s).toOption.getD s
  | .expire key => { s with cached := drop [key] s.cached }

def Live (row : RawProduct) : Prop := row.status ≠ "DELETED"

def Taken (sku : String) (t : ProductsTable) : Prop :=
  ∃ row ∈ t.rows, row.sku = sku ∧ Live row

instance (sku : String) (t : ProductsTable) : Decidable (Taken sku t) :=
  inferInstanceAs (Decidable (∃ row ∈ t.rows, row.sku = sku ∧ row.status ≠ "DELETED"))

def Detects (s : ProductStore) : CatalogueAction → Prop
  | .createProduct command generated clk lookup =>
    CreateProductUseCase.FailsAsExisting host lookup.query generated clk command s ↔
      Taken (SKU.sanitize host command.sku) s.table
  | .delete .. | .expire _ => True

def Untaken (s : ProductStore) : CatalogueAction → Prop
  | .createProduct command _ _ _ => ¬ Taken (SKU.sanitize host command.sku) s.table
  | .delete .. | .expire _ => True

instance (s : ProductStore) : ∀ a, Decidable (Untaken host s a)
  | .createProduct command _ _ _ =>
    inferInstanceAs (Decidable (¬ Taken (SKU.sanitize host command.sku) s.table))
  | .delete .. | .expire _ => isTrue trivial

def Stops (s : ProductStore) : CatalogueAction → Prop
  | .createProduct command generated clk lookup =>
    CreateProductUseCase.Stops host lookup.query generated clk command s ↔
      Taken (SKU.sanitize host command.sku) s.table
  | .delete .. | .expire _ => True

def Picks (lookup : SkuLookup) (sku : String) (s : ProductStore) : Prop :=
  s.cached (.productBySKU sku) = none →
    ∀ row ∈ s.table.rows, row.sku = sku → Live row →
      lookup.query sku s.table = .ok (some row)

def PicksLive (s : ProductStore) : CatalogueAction → Prop
  | .createProduct command _ _ lookup => Picks lookup (SKU.sanitize host command.sku) s
  | .delete .. | .expire _ => True

instance (lookup : SkuLookup) (sku : String) (s : ProductStore) : Decidable (Picks lookup sku s) := by
  unfold Picks Live
  infer_instance

instance (s : ProductStore) : ∀ a, Decidable (PicksLive host s a)
  | .createProduct command _ _ lookup =>
    inferInstanceAs (Decidable (Picks lookup (SKU.sanitize host command.sku) s))
  | .delete .. | .expire _ => isTrue trivial

def Fresh (s : ProductStore) : CatalogueAction → Prop
  | .createProduct _ generated _ _ => ∀ row ∈ s.table.rows, row.id ≠ generated.getValue
  | .delete .. | .expire _ => True

instance (s : ProductStore) : ∀ a, Decidable (Fresh s a)
  | .createProduct _ generated _ _ =>
    inferInstanceAs (Decidable (∀ row ∈ s.table.rows, row.id ≠ generated.getValue))
  | .delete .. | .expire _ => isTrue trivial

structure Kept (row : RawProduct) : Prop where
  loads : Live row → ∃ p, PrismaProductMapper.toDomain host row = .ok p
  number : ∃ sku : SKU, sku.getValue = row.sku
  dated : row.deletedAt = none ↔ Live row

structure Spoken (t : ProductsTable) (sku : String) (v : RawProduct) : Prop where
  present : v ∈ t.rows
  number : v.sku = sku
  live : Taken sku t → Live v

structure WellKept (s : ProductStore) : Prop where
  rows : ∀ row ∈ s.table.rows, Kept host row
  entries : ∀ sku v, s.cached (.productBySKU sku) = some v → Spoken s.table sku v

section Check

variable (s : ProductStore)

/-- At most one row of a number is not deleted: this is what the index sees to. -/
theorem live_unique (h : WellKept host s) (row other : RawProduct) (hr : row ∈ s.table.rows)
    (ho : other ∈ s.table.rows) (same : row.sku = other.sku) (live : Live row)
    (alive : Live other) : row = other := by
  have indexed : ∀ r ∈ s.table.rows, Live r → r.sku ∈ RawProduct.indexedSku r := by
    intro r mem liveRow
    have undated := (h.rows r mem).dated.mpr liveRow
    simp [RawProduct.indexedSku, undated]
  exact eq_of_uniqueBy _ s.table.rows s.table.unique.sku row other hr ho row.sku
    (indexed row hr live) (same ▸ indexed other ho alive)

theorem loaded_iff (row : RawProduct) (kept : Kept host row) :
    Except.map (fun product : Option Product => product.any (!·.isDeleted))
      ((load host row).mapError ProductFailure.domain) = .ok true ↔ Live row := by
  constructor
  · intro h deleted
    cases found : load host row with
    | error e =>
      rw [found] at h
      cases h
    | ok product =>
      cases product with
      | none =>
        rw [found] at h
        cases h
      | some p => exact load_deleted host row p deleted found
  · intro live
    obtain ⟨p, hp⟩ := kept.loads live
    have status := (PrismaProductMapper.toDomain_columns host row p hp).2.2.1
    have running : p.isDeleted = false := by
      rw [← Bool.not_eq_true]
      intro deleted
      have gone : p.status = .deleted := by
        simpa [Product.isDeleted, ProductStatus.isDeleted] using deleted
      rw [gone] at status
      exact live status.symm
    rw [(load_some_iff host row p).mpr ⟨hp, running⟩]
    change Except.ok (!p.isDeleted) = _
    rw [running]
    rfl

def Got (lookup : SkuLookup) (sku : String) (row : RawProduct) : Prop :=
  s.cached (.productBySKU sku) = some row ∨
    s.cached (.productBySKU sku) = none ∧ lookup.query sku s.table = .ok (some row)

theorem existsBySKU_eq (keeps : host.KeepsCapitals) (query : SkuQuery) (sku : SKU)
    (found : Option RawProduct) (answered : query sku.getValue s.table = .ok found) :
    existsBySKU host query sku s =
      (wrap (.productBySKU sku.getValue) found s).map
        (fun a => Except.map (fun product : Option Product => product.any (!·.isDeleted))
          (loadFound host a)) id := by
  unfold existsBySKU findBySKU ProductCache.getProductBySKUKey
  rw [SKU.toUpperCase_getValue host keeps, answered]
  cases s.cached (.productBySKU sku.getValue) <;> rfl

theorem exists_iff (keeps : host.KeepsCapitals) (h : WellKept host s) (lookup : SkuLookup)
    (sku : SKU) : (existsBySKU host lookup.query sku s).1 = .ok true ↔
      ∃ row, Got s lookup sku.getValue row ∧ Live row := by
  obtain ⟨found, answered, rows, -⟩ := lookup.answers sku.getValue s.table
  rw [existsBySKU_eq host s keeps lookup.query sku found answered]
  unfold Got
  rw [answered]
  cases cached : s.cached (.productBySKU sku.getValue) with
  | some v =>
    have kept := h.rows v (h.entries _ v cached).present
    rw [wrap_hit _ _ s v cached]
    refine (loaded_iff host v kept).trans ?_
    constructor
    · exact fun live => ⟨v, .inl rfl, live⟩
    · rintro ⟨row, same | ⟨impossible, -⟩, live⟩
      · exact Option.some.inj same ▸ live
      · cases impossible
  | none =>
    rw [wrap_miss _ _ s cached]
    cases found with
    | none =>
      constructor
      · exact fun impossible => nomatch impossible
      · rintro ⟨row, impossible | ⟨-, impossible⟩, -⟩ <;> cases impossible
    | some row =>
      refine (loaded_iff host row (h.rows row (rows row rfl).1)).trans ?_
      constructor
      · exact fun live => ⟨row, .inr ⟨rfl, rfl⟩, live⟩
      · rintro ⟨other, impossible | ⟨-, same⟩, live⟩
        · cases impossible
        · exact Option.some.inj (Except.ok.inj same) ▸ live

theorem got_taken_iff (h : WellKept host s) (lookup : SkuLookup) (sku : String) :
    ((∃ row, Got s lookup sku row ∧ Live row) ↔ Taken sku s.table) ↔ Picks lookup sku s := by
  obtain ⟨found, answered, rows, -⟩ := lookup.answers sku s.table
  constructor
  · rintro detects cold row mem number live
    obtain ⟨got, warm | ⟨-, looked⟩, alive⟩ := detects.mpr ⟨row, mem, number, live⟩
    · rw [cold] at warm
      cases warm
    · obtain rfl := Except.ok.inj (answered.symm.trans looked)
      obtain ⟨present, same⟩ := rows got rfl
      rw [live_unique host s h row got mem present (number.trans same.symm) live alive]
      exact looked
  · intro picks
    constructor
    · rintro ⟨row, warm | ⟨-, looked⟩, live⟩
      · have spoken := h.entries sku row warm
        exact ⟨row, spoken.present, spoken.number, live⟩
      · obtain rfl := Except.ok.inj (answered.symm.trans looked)
        obtain ⟨present, same⟩ := rows row rfl
        exact ⟨row, present, same, live⟩
    · intro taken
      cases cached : s.cached (.productBySKU sku) with
      | some v => exact ⟨v, .inl cached, (h.entries sku v cached).live taken⟩
      | none =>
        obtain ⟨row, mem, number, live⟩ := taken
        exact ⟨row, .inr ⟨cached, picks cached row mem number live⟩, live⟩

/-- A number that is none is not taken, and the use case fails with another exception. -/
theorem invalid_untaken (h : WellKept host s) (raw : String) (e : ProductError)
    (invalid : SKU.create host raw = .error e) :
    ∀ row ∈ s.table.rows, row.sku ≠ SKU.sanitize host raw := by
  intro row mem same
  obtain ⟨sku, number⟩ := (h.rows row mem).number
  have valid := (SKU.create_ok_iff host raw sku).mpr (number.trans same)
  rw [invalid] at valid
  cases valid

theorem creation_stops_iff (keeps : host.KeepsCapitals) (h : WellKept host s)
    (command : CreateProductCommand) (generated : ProductId) (clk : Clock) (lookup : SkuLookup) :
    (CreateProductUseCase.Stops host lookup.query generated clk command s ↔
      Taken (SKU.sanitize host command.sku) s.table) ↔
      Picks lookup (SKU.sanitize host command.sku) s := by
  cases made : SKU.create host command.sku with
  | error e =>
    have untaken := invalid_untaken host s h command.sku e made
    constructor
    · exact fun _ _ row mem same => absurd same (untaken row mem)
    · intro _
      unfold CreateProductUseCase.Stops
      rw [CreateProductUseCase.invalid_sku host lookup.query generated clk command e made s]
      constructor
      · exact fun impossible => nomatch impossible
      · exact fun ⟨row, mem, same, _⟩ => absurd same (untaken row mem)
  | ok sku =>
    have value : sku.getValue = SKU.sanitize host command.sku :=
      (SKU.create_ok_iff host command.sku sku).mp made
    rw [CreateProductUseCase.stops_iff host lookup.query generated clk command sku made,
      exists_iff host s keeps h lookup sku, value]
    exact got_taken_iff host s h lookup _

theorem stops_iff (keeps : host.KeepsCapitals) (h : WellKept host s) (a : CatalogueAction) :
    Stops host s a ↔ PicksLive host s a := by
  cases a with
  | createProduct command generated clk lookup =>
    exact creation_stops_iff host s keeps h command generated clk lookup
  | delete productId clk => exact Iff.rfl
  | expire key => exact Iff.rfl

theorem detects_iff (a : CatalogueAction) : Detects host s a ↔ Untaken host s a := by
  cases a with
  | createProduct command generated clk lookup =>
    exact iff_false_left
      (CreateProductUseCase.never_failsAsExisting host lookup.query generated clk command s)
  | delete productId clk => exact Iff.rfl
  | expire key => exact Iff.rfl

end Check

section Steps

variable (s : ProductStore) (h : WellKept host s)
include h

theorem write_wellKept (keeps : host.KeepsCapitals) (product : Product) (t : ProductStore)
    (written : write host product s = .ok t)
    (kept : Kept host (PrismaProductMapper.toPersistence product))
    (same : ∀ row ∈ s.table.rows, row.id = product.id.getValue →
      row.sku = product.sku.getValue) : WellKept host t := by
  simp only [write, bind_ok_iff] at written
  obtain ⟨table, upserted, done⟩ := written
  obtain rfl := Except.ok.inj done
  have rows := ProductOperation.upsert_ok _ _ _ upserted
  have old : ∀ row ∈ table.rows, row = PrismaProductMapper.toPersistence product ∨
      row ∈ s.table.rows := by
    intro row mem
    rw [rows] at mem
    exact ((mem_put _ _ _ _).mp mem).imp_right And.left
  refine ⟨fun row mem => ?_, fun sku v cached => ?_⟩
  · rcases old row mem with rfl | before
    · exact kept
    · exact h.rows row before
  · obtain ⟨unnamed, warm⟩ := (drop_some_iff _ _ _ _).mp cached
    have spoken := h.entries sku v warm
    have other : product.sku.getValue ≠ sku := by
      rintro rfl
      apply unnamed
      rw [ProductCache.getInvalidationKeys, if_neg product.sku.getValue_ne_empty,
        ProductCache.getProductBySKUKey, SKU.toUpperCase_getValue host keeps]
      simp
    refine ⟨?_, spoken.number, fun taken => spoken.live ?_⟩
    · rw [rows]
      refine (mem_put _ _ _ _).mpr (.inr ⟨spoken.present, fun e => other ?_⟩)
      exact (same v spoken.present e).symm.trans spoken.number
    · obtain ⟨row, mem, number, live⟩ := taken
      rcases old row mem with rfl | before
      · exact absurd number other
      · exact ⟨row, before, number, live⟩

theorem check_wellKept (keeps : host.KeepsCapitals) (lookup : SkuLookup) (sku : SKU)
    (picks : Picks lookup sku.getValue s) :
    WellKept host (existsBySKU host lookup.query sku s).2 ∧
      (existsBySKU host lookup.query sku s).2.table = s.table := by
  obtain ⟨found, answered, rows, -⟩ := lookup.answers sku.getValue s.table
  rw [existsBySKU_eq host s keeps lookup.query sku found answered]
  change WellKept host (wrap _ found s).2 ∧ (wrap _ found s).2.table = s.table
  refine ⟨?_, wrap_table _ found s⟩
  cases cached : s.cached (.productBySKU sku.getValue) with
  | some v =>
    rw [wrap_hit _ _ s v cached]
    exact h
  | none =>
    rw [wrap_miss _ _ s cached]
    refine ⟨h.rows, fun number v warm => ?_⟩
    change Function.update s.cached (.productBySKU sku.getValue) found _ = some v at warm
    by_cases same : number = sku.getValue
    · rw [same, Function.update_self] at warm
      obtain ⟨present, own⟩ := rows v warm
      refine ⟨present, own.trans same.symm, fun ⟨row, mem, taken, live⟩ => ?_⟩
      have looked := answered.symm.trans (picks cached row mem (taken.trans same) live)
      rw [warm] at looked
      obtain rfl := Option.some.inj (Except.ok.inj looked)
      exact live
    · rw [Function.update_of_ne (fun e => same (ProductCacheKey.productBySKU.inj e))] at warm
      exact h.entries number v warm

theorem delete_wellKept (keeps : host.KeepsCapitals) (productId : String) (clk : Clock)
    (t : ProductStore) (deleted : delete host productId clk s = .ok t) : WellKept host t := by
  unfold delete at deleted
  split at deleted
  · exact Except.ok.inj deleted ▸ h
  next raw found =>
    simp only [bind_ok_iff, mapError_ok_iff] at deleted
    obtain ⟨p, loaded, q, gone, written⟩ := deleted
    obtain ⟨present, own⟩ := find_some RawProduct.id productId raw s.table.rows found
    obtain ⟨id, number, -⟩ := PrismaProductMapper.toDomain_columns host raw p loaded
    obtain ⟨status, date, -, sameId, sameNumber⟩ := Product.delete_returns clk p q gone
    have plain : q.sku.getValue = raw.sku := by
      obtain ⟨sku, value⟩ := (h.rows raw present).number
      rw [sameNumber, number, ← value, SKU.sanitize_getValue host keeps]
    have dead : ¬ Live (PrismaProductMapper.toPersistence q) := by
      change ¬ q.status.getValue ≠ "DELETED"
      rw [status]
      exact not_not_intro rfl
    apply write_wellKept host s h keeps q t written
    · refine ⟨fun live => absurd live dead, ⟨q.sku, rfl⟩, ?_⟩
      change q.deletedAt = none ↔ _
      rw [date]
      exact ⟨nofun, fun live => absurd live dead⟩
    · intro row mem same
      have one := eq_of_uniqueBy _ s.table.rows s.table.unique.id row raw mem present row.id
        List.mem_cons_self (by rw [same, sameId, id]; exact List.mem_cons_self)
      rw [one, plain]

theorem expire_wellKept (key : ProductCacheKey) :
    WellKept host { s with cached := drop [key] s.cached } :=
  ⟨h.rows, fun sku v cached => h.entries sku v ((drop_some_iff _ _ _ _).mp cached).2⟩

theorem create_wellKept (keeps : host.KeepsCapitals) (command : CreateProductCommand)
    (generated : ProductId) (clk : Clock) (lookup : SkuLookup)
    (fresh : ∀ row ∈ s.table.rows, row.id ≠ generated.getValue)
    (picks : Picks lookup (SKU.sanitize host command.sku) s) :
    WellKept host (CreateProductUseCase.execute host lookup.query generated clk command s).2 := by
  cases made : SKU.create host command.sku with
  | error e =>
    rw [CreateProductUseCase.invalid_sku host lookup.query generated clk command e made s]
    exact h
  | ok sku =>
    have value : sku.getValue = SKU.sanitize host command.sku :=
      (SKU.create_ok_iff host command.sku sku).mp made
    rw [← value] at picks
    obtain ⟨checked, table⟩ := check_wellKept host s h keeps lookup sku picks
    apply CreateProductUseCase.execute_store host lookup.query generated clk command sku made s
    · exact checked
    · intro product t built saved
      obtain ⟨loads, id, -, status, date⟩ :=
        CreateProductUseCase.build_loads host generated clk command keeps sku product built
      have live : Live (PrismaProductMapper.toPersistence product) := by
        change product.status.getValue ≠ "DELETED"
        rw [status]
        decide
      apply write_wellKept host _ checked keeps product t saved
      · exact ⟨fun _ => loads, ⟨product.sku, rfl⟩, fun _ => live, fun _ => date⟩
      · intro row mem same
        rw [table] at mem
        exact absurd (same.trans (congrArg UniqueIdentifier.getValue id)) (fresh row mem)

theorem perform_wellKept (keeps : host.KeepsCapitals) (a : CatalogueAction) (fresh : Fresh s a)
    (picks : PicksLive host s a) : WellKept host (perform host s a) := by
  cases a with
  | createProduct command generated clk lookup =>
    exact create_wellKept host s h keeps command generated clk lookup fresh picks
  | delete productId clk =>
    change WellKept host ((delete host productId.getValue clk s).toOption.getD s)
    cases deleted : delete host productId.getValue clk s with
    | error e => exact h
    | ok t => exact delete_wellKept host s h keeps productId.getValue clk t deleted
  | expire key => exact expire_wellKept host s h key

end Steps

section Runs

/-- A run does as documented just when no creation asks for a number that is taken. From a
store as the system keeps it, the check stops the creations of a run that ask for such a
number, and no others, just when every look-up gives the row that is not deleted where
there is one. -/
theorem detects_throughout_iff (keeps : host.KeepsCapitals) (s : ProductStore)
    (start : WellKept host s) (run : List CatalogueAction)
    (fresh : Along (perform host) Fresh s run) :
    (Along (perform host) (Detects host) s run ↔ Along (perform host) (Untaken host) s run) ∧
      (Along (perform host) (Stops host) s run ↔ Along (perform host) (PicksLive host) s run) := by
  constructor
  · exact along_congr _ _ _ (detects_iff host) s run
  · exact along_iff_along (perform host) (WellKept host) Fresh (Stops host) (PicksLive host)
      (fun t a h _ => stops_iff host t keeps h a)
      (fun t a h new picks => perform_wellKept host t h keeps a new picks) s run start fresh

/-- A number that one row at most has is always looked up right. -/
theorem single_row_picks (lookup : SkuLookup) (sku : String) (s : ProductStore)
    (single : ∀ row ∈ s.table.rows, ∀ other ∈ s.table.rows, row.sku = sku → other.sku = sku →
      row = other) : Picks lookup sku s := by
  intro _ row mem number _
  obtain ⟨found, answered, rows, unfound⟩ := lookup.answers sku s.table
  cases found with
  | none => exact absurd number (unfound rfl row mem)
  | some got =>
    obtain ⟨present, own⟩ := rows got rfl
    rw [answered, single got present row mem own number]

end Runs

section Samples

def firstInserted : SkuLookup where
  query sku t := .ok (t.rows.filter fun row => row.sku == sku).getLast?
  answers sku t := by
    refine ⟨_, rfl, fun row last => ?_, fun none row mem same => ?_⟩
    · obtain ⟨present, own⟩ := List.mem_filter.mp (List.mem_of_getLast? last)
      exact ⟨present, by simpa using own⟩
    · have found : row ∈ t.rows.filter fun row => row.sku == sku :=
        List.mem_filter.mpr ⟨mem, by simpa using same⟩
      rw [List.getLast?_eq_none_iff.mp none] at found
      cases found

def sampleCommand : CreateProductCommand where
  sku := " tile-1"
  name := "Tile"
  description := none
  brand := none
  imageUrl := none
  price := .fin 10
  currency := none
  tilePerBox := .fin 4
  size := ⟨.fin 40, .fin 40, .fin 1, "centimeter"⟩
  attributes := ⟨none, none, none, none, none, none, none, none, none, none⟩

def emptyStore : ProductStore := ⟨⟨[], by decide⟩, fun _ => none⟩

def sampleRun : List CatalogueAction :=
  [.createProduct sampleCommand .sample (.still 1) firstInserted, .delete .sample (.still 2),
    .createProduct sampleCommand .second (.still 3) firstInserted]

theorem emptyStore_wellKept : WellKept .sample emptyStore :=
  ⟨fun _ mem => absurd mem List.not_mem_nil,
    fun _ v (cached : none = some v) => absurd cached.symm (Option.some_ne_none v)⟩

/-- Where the exception is due, the use case throws a `TypeError`. -/
theorem second_creation_unnamed :
    ¬ Detects .sample
      (after (perform .sample) emptyStore
        [.createProduct sampleCommand .sample (.still 1) firstInserted])
      (.createProduct sampleCommand .second (.still 2) firstInserted) := by
  intro detects
  have taken : Taken (SKU.sanitize .sample sampleCommand.sku)
      (after (perform .sample) emptyStore
        [.createProduct sampleCommand .sample (.still 1) firstInserted]).table := by
    decide +kernel
  exact CreateProductUseCase.never_failsAsExisting .sample _ _ _ _ _ (detects.mpr taken)

def retakenRun : List CatalogueAction :=
  sampleRun ++ [.createProduct sampleCommand .third (.still 4) firstInserted]

/-- No number is taken in the first three calls. In the fourth one is, which the check does
not notice when the look-up gives the row of the deleted product. -/
theorem sample_detects_throughout_iff :
    Along (perform .sample) (Detects .sample) emptyStore sampleRun ∧
      ¬ Along (perform .sample) (Stops .sample) emptyStore retakenRun := by
  have keeps := ProductHost.sample_keeps
  constructor
  · exact (detects_throughout_iff .sample keeps emptyStore emptyStore_wellKept sampleRun
      (by decide +kernel)).1.mpr (by decide +kernel)
  · intro stops
    have picks := (detects_throughout_iff .sample keeps emptyStore emptyStore_wellKept retakenRun
      (by decide +kernel)).2.mp stops
    obtain ⟨-, last, -⟩ := (along_append _ _ _ _ _).mp picks
    exact absurd last (by decide +kernel)

end Samples

end KeramikStore.SkuUniqueness
