import KeramikStore.Library.CacheAside
import KeramikStore.Products.UseCases

/-!
# Updates and deletions of one product at the same time

An execution loads the product from the cache or the database, runs the commands
on its copy and writes the whole row back; a deletion reads the row once more in
between. No write depends on what the row holds by then, so an update that had
read the product before its deletion writes the old status over it. A deletion is
permanent as long as no such update is still under way.
-/

set_option autoImplicit false

namespace KeramikStore.DeletionRaces
open Library Library.Runs Library.CacheAside

inductive Execution where
  | updateProduct (command : UpdateProductCommand) (clk : Clock)
  | deleteProduct (clk : Clock)

namespace Execution

def program (host : ProductHost) : Execution → Program RawProduct
  | updateProduct command clk =>
    .update fun raw => (UpdateProductUseCase.written host command clk raw).toOption
  | deleteProduct clk =>
    .replace (DeleteProductUseCase.finds host) fun raw =>
      (DeleteProductUseCase.written host clk raw).toOption

def isDelete : Execution → Prop
  | updateProduct .. => False
  | deleteProduct .. => True

end Execution

def Deleted (raw : RawProduct) : Prop := raw.status = "DELETED" ∧ raw.deletedAt ≠ none

abbrev Executions := ℕ → Execution

variable (host : ProductHost) (executions : Executions)

def programs (i : ℕ) : Program RawProduct := (executions i).program host

def perform : Store ℕ RawProduct → Action ℕ → Store ℕ RawProduct := step (programs host executions)

theorem never_saves (i : ℕ) (row : RawProduct) : programs host executions i ≠ .save row := by
  unfold programs
  cases executions i <;> exact nofun

/-- A deletion computes the row of a deleted product from whatever it has read. -/
theorem delete_deletes (i : ℕ) (raw row : RawProduct) (hi : (executions i).isDelete)
    (h : (programs host executions i).result raw = some row) : Deleted row := by
  unfold programs at h
  cases he : executions i with
  | updateProduct command clk => rw [he] at hi; exact hi.elim
  | deleteProduct clk =>
    rw [he] at h
    exact DeleteProductUseCase.written_is_deleted host clk raw row
      ((toOption_eq_some_iff _ _).mp h)

/-- From the row of a deleted product no execution computes another row. -/
theorem deleted_stays (i : ℕ) (raw row : RawProduct) (deleted : Deleted raw)
    (h : (programs host executions i).result raw = some row) : Deleted row := by
  cases he : executions i with
  | updateProduct command clk =>
    unfold programs at h
    rw [he] at h
    exact absurd ((toOption_eq_some_iff _ _).mp h)
      (UpdateProductUseCase.written_deleted host command clk raw row deleted.1)
  | deleteProduct clk =>
    exact delete_deletes host executions i raw row (by rw [he]; trivial) h

def StaysDeleted (s : Store ℕ RawProduct) (d : ℕ) (run : List (Action ℕ)) : Prop :=
  Throughout (perform host executions) (fun t => ∀ row, t.database = some row → Deleted row)
    (perform host executions s (.write d)) run

def NoLateUpdate (s : Store ℕ RawProduct) (d : ℕ) (run : List (Action ℕ)) : Prop :=
  Along (perform host executions) (WritesRecent (fun i => (executions i).isDelete) (s.writes + 1))
    (perform host executions s (.write d)) run

theorem deletion_is_permanent (row : Option RawProduct) (warm : Bool)
    (before rest : List (Action ℕ)) (d : ℕ) (new : RawProduct) (basis : ℕ)
    (deletes : (executions d).isDelete)
    (ready : (after (perform host executions) (start row warm) before).phase d = .ready new basis)
    (writes : NoLateUpdate host executions
      (after (perform host executions) (start row warm) before) d rest) :
    StaysDeleted host executions (after (perform host executions) (start row warm) before) d
      rest :=
  settled_after_write (programs host executions) (fun i => (executions i).isDelete) Deleted
    (never_saves host executions) (delete_deletes host executions)
    (fun i raw row => deleted_stays host executions i raw row) _ d new basis deletes ready
    (reached_stamped (programs host executions) row warm before) rest writes

def sampleExecutions : Executions
  | 1 => .deleteProduct (.still 1)
  | _ => .updateProduct
      { name := none, description := none, brand := none, imageUrl := none, price := none,
        currency := none, tilePerBox := some (.fin 6), size := none, attributes := none } (.still 1)

def sampleStore : Store ℕ RawProduct :=
  after (perform .sample sampleExecutions) (start RawProduct.sample false)
    [.look 1, .query 1, .fill 1, .reload 1, .compute 1]

theorem sample_deletion_is_permanent :
    StaysDeleted .sample sampleExecutions sampleStore 1
      [.drop 1, .look 0, .query 0, .fill 0, .compute 0, .write 0] := by
  apply deletion_is_permanent .sample sampleExecutions RawProduct.sample false
    [.look 1, .query 1, .fill 1, .reload 1, .compute 1]
    [.drop 1, .look 0, .query 0, .fill 0, .compute 0, .write 0] 1 .sampleDeleted 0
  · trivial
  · decide +kernel
  · -- the update, which starts when the entry is gone, finds no product
    have fails : (after (perform .sample sampleExecutions) sampleStore
        [.write 1, .drop 1, .look 0, .query 0, .fill 0, .compute 0]).phase 0 = .failed := by
      decide +kernel
    refine ⟨trivial, trivial, trivial, trivial, trivial, fun row basis ready => ?_, trivial⟩
    cases fails.symm.trans ready

/-- The update reads the product, the deletion writes, and then the update writes
the active product that it computed from its copy. -/
theorem late_update_revives :
    ¬ ∀ (host : ProductHost) (executions : Executions) (row : Option RawProduct) (warm : Bool)
      (before rest : List (Action ℕ)) (d : ℕ) (new : RawProduct) (basis : ℕ),
      (executions d).isDelete →
      (after (perform host executions) (start row warm) before).phase d = .ready new basis →
        StaysDeleted host executions
          (after (perform host executions) (start row warm) before) d rest := by
  intro permanent
  have stays := permanent .sample sampleExecutions RawProduct.sample false
    [.look 0, .query 0, .fill 0, .compute 0, .look 1, .reload 1, .compute 1] [.write 0] 1
    .sampleDeleted 0 trivial (by decide +kernel)
  have revived := throughout_end _ _ _ _ stays { RawProduct.sample with
    tilePerBox := .fin 6, updatedAt := 1 } (by decide +kernel)
  exact absurd revived.1 (by decide +kernel)

end KeramikStore.DeletionRaces
