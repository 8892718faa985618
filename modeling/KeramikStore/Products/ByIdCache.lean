import KeramikStore.Library.CacheAside
import KeramikStore.Products.UseCases

/-!
# Reads of one product beside its saves

Both repositories read a product by its id through one cache entry, and a save
writes the row and then drops the entry. A read that had queried the row before
the save can still fill the entry after it, and later reads take that copy for as
long as it lives. Without such a late fill, a read that starts after a save has
returned uses a row that the save or a later one wrote.
-/

set_option autoImplicit false

namespace KeramikStore.ByIdCache
open Library Library.Runs Library.CacheAside

inductive Request where
  | findById
  | getProductDetailById
  | save (product : Product)
deriving DecidableEq

def Request.program : Request → Program RawProduct
  | findById => .read fun _ => true
  | getProductDetailById => .read fun raw => raw.status != "DELETED"
  | save product => .save (PrismaProductMapper.toPersistence product)

abbrev Requests := ℕ → Request

variable (requests : Requests)

def perform : Store ℕ RawProduct → Action ℕ → Store ℕ RawProduct :=
  step fun i => (requests i).program

def FreshAfterSave (s : Store ℕ RawProduct) (w n : ℕ) (run : List (Action ℕ)) : Prop :=
  Throughout (perform requests)
    (fun t => ∀ i, (perform requests s (.drop w)).phase i = .idle →
      ∀ c, (t.phase i).copy = some c → n ≤ c.stamp)
    (perform requests s (.drop w)) run

def NoLateFill (s : Store ℕ RawProduct) (w n : ℕ) (run : List (Action ℕ)) : Prop :=
  Along (perform requests) (FillsRecent n) (perform requests s (.drop w)) run

theorem reads_are_fresh (row : Option RawProduct) (warm : Bool) (before rest : List (Action ℕ))
    (w n : ℕ) (written : (after (perform requests) (start row warm) before).phase w = .written n)
    (fills : NoLateFill requests (after (perform requests) (start row warm) before) w n rest) :
    FreshAfterSave requests (after (perform requests) (start row warm) before) w n rest :=
  recent_after_drop (fun i => (requests i).program) n _ w written
    (reached_stamped (fun i => (requests i).program) row warm before) rest fills

def sampleRequests : Requests
  | 1 => .save { Product.sample with tilePerBox := .fin 6 }
  | _ => .findById

theorem reads_are_fresh_sample :
    FreshAfterSave sampleRequests
      (after (perform sampleRequests) (start RawProduct.sample false)
        [.look 0, .query 0, .fill 0, .compute 1, .write 1])
      1 1 [.look 2, .query 2, .fill 2] := by
  apply reads_are_fresh sampleRequests RawProduct.sample false
  · rfl
  · refine ⟨trivial, trivial, fun c h => ?_, trivial⟩
    cases h
    decide

/-- The first read queries the row before the save and fills the entry after it;
the second read, which starts later, takes that copy. -/
theorem late_fill_is_served :
    ¬ ∀ (requests : Requests) (row : Option RawProduct) (warm : Bool)
      (before rest : List (Action ℕ)) (w n : ℕ),
      (after (perform requests) (start row warm) before).phase w = .written n →
        FreshAfterSave requests (after (perform requests) (start row warm) before) w n rest := by
  intro fresh
  have late := fresh sampleRequests RawProduct.sample false
    [.look 0, .query 0, .compute 1, .write 1] [.fill 0, .look 2] 1 1 rfl
  have taken := throughout_end _ _ _ _ late 2 rfl ⟨RawProduct.sample, 0⟩ rfl
  exact absurd taken (by decide)

end KeramikStore.ByIdCache
