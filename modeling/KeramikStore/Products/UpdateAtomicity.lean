import KeramikStore.Products.Commands

/-!
# Updates of a product that throw

An update is refused before it assigns anything, or at the number of tiles. There the
texts have been assigned and a new image has been announced, though the price is checked
before it is assigned. A refused number of tiles changes nothing just where the texts
that are given are held already.
-/

set_option autoImplicit false

namespace KeramikStore.ProductUpdates
open Library Library.Runs ProductCommands

section Calls

variable (params : UpdateProductParams) (now : Date) (p : Product)

def Atomic : Prop := ¬ (p.updateInfo params now).Returns → (p.updateInfo params now).state = p

def refusesTiles : Bool :=
  (params.tilePerBox.filter fun n => Product.differ n p.tilePerBox).any (·.le (.fin 0))

structure HeldTexts : Prop where
  name : params.name.getD p.name = p.name
  description : params.description.or p.description = p.description
  brand : params.brand.or p.brand = p.brand
  imageUrl : params.imageUrl.or p.imageUrl = p.imageUrl

def Harmless : Prop :=
  p.ensureCanBeModified = .ok () → refusesTiles params p = true → HeldTexts params p

/-- What is held already is not assigned. -/
theorem filter_held {α : Type} [DecidableEq α] (given old : Option α)
    (held : given.or old = old) : (given.filter fun a => some a != old) = none := by
  cases given with
  | none => rfl
  | some a =>
    obtain rfl : some a = old := held
    simp [Option.filter]

theorem name_held (given : Option ProductName) (old : ProductName) (held : given.getD old = old) :
    (given.filter fun n => !n.equals old) = none := by
  cases given with
  | none => rfl
  | some n =>
    obtain rfl : n = old := held
    simp [Option.filter, ProductName.equals]

theorem updateTexts_eq_iff : (p.updateTexts params).1 = p ↔ HeldTexts params p := by
  constructor
  · intro same
    have texts := updateTexts_updated p params p.updatedAt
    rw [same] at texts
    exact ⟨texts.name.symm, texts.description.symm, texts.brand.symm, texts.imageUrl.symm⟩
  · intro held
    unfold Product.updateTexts
    rw [name_held _ _ held.name, filter_held _ _ held.description, filter_held _ _ held.brand,
      filter_held _ _ held.imageUrl]
    rfl

theorem refused_unchanged (refused : p.ensureCanBeModified ≠ .ok ()) : Atomic params now p := by
  obtain ⟨e, call⟩ := guarded_refused p p.ensureCanBeModified _ refused
  unfold Atomic Product.updateInfo
  rw [call]
  exact Outcome.clean_threw e p

theorem modified_atomic_iff (modifiable : p.ensureCanBeModified = .ok ()) :
    Atomic params now p ↔ (refusesTiles params p = true → HeldTexts params p) := by
  unfold Atomic Product.updateInfo Product.guarded
  rw [modifiable]
  dsimp only
  split
  next low =>
    have refused : refusesTiles params p = true := low
    rw [Outcome.state_threw, updateTexts_eq_iff, forall_prop_of_true refused,
      forall_prop_of_true (Outcome.not_returns_threw _ _)]
  next high =>
    exact iff_of_true (Outcome.clean_done p _) fun refused => absurd refused high

theorem update_atomic_iff : Atomic params now p ↔ Harmless params p := by
  unfold Harmless
  by_cases modifiable : p.ensureCanBeModified = .ok ()
  · rw [modified_atomic_iff params now p modifiable, forall_prop_of_true modifiable]
  · exact iff_of_true (refused_unchanged params now p modifiable) fun h => absurd h modifiable

end Calls

section Runs

variable (host : ProductHost)

def UpdatesAtomically (p : Product) (a : Step) : Prop :=
  ∀ params, a.1 = .updateInfo params → Atomic params (a.2.read 0) p

def UpdatesHarmlessly (p : Product) (a : Step) : Prop :=
  ∀ params, a.1 = .updateInfo params → Harmless params p

/-- In a run of the commands from any product, every update that throws leaves the product
and its events as they were just when every update that is refused at the number of tiles
gives the texts that it finds. -/
theorem product_updates_atomic_iff (p : Product) (run : List Step) :
    Along (step host) UpdatesAtomically p run ↔ Along (step host) UpdatesHarmlessly p run :=
  along_congr (step host) _ _
    (fun q a => forall_congr' fun params => imp_congr_right fun _ =>
      update_atomic_iff params (a.2.read 0) q) p run

end Runs

section Samples

def untiled : UpdateProductParams where
  name := none
  description := none
  brand := none
  imageUrl := some "https://tiles.example/new.png"
  tilePerBox := some (.fin 0)
  attributes := none

/-- A created product takes the image of an update that throws, and announces it. -/
theorem refused_update_depicts :
    Product.create .sample .sample sampleParams (.still 0) = .ok sample ∧
      ¬ (sample.updateInfo untiled 7).Returns ∧
      (sample.updateInfo untiled 7).state.imageUrl = some "https://tiles.example/new.png" ∧
      sample.imageUrl = none ∧
      (sample.updateInfo untiled 7).state.domainEvents = sample.domainEvents ++
        [.productImageUpdated UserId.sample.value "TILE-1" none
          (some "https://tiles.example/new.png")] ∧
      ¬ Atomic untiled 7 sample := by
  have refused : ¬ (sample.updateInfo untiled 7).Returns := by decide +kernel
  have depicted : (sample.updateInfo untiled 7).state.imageUrl =
      some "https://tiles.example/new.png" := by
    decide +kernel
  refine ⟨sample_created, refused, depicted, rfl, by decide +kernel, fun atomic => ?_⟩
  rw [atomic refused] at depicted
  exact absurd depicted nofun

end Samples

end KeramikStore.ProductUpdates
