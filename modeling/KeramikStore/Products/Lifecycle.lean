import KeramikStore.Products.Commands

/-!
# The lifecycle of a product

The status follows its table, in which nothing leaves the discontinued and the deleted
status; the guards of the other commands refuse both. A product that is back in stock
was announced as out of stock before: this is the status that it comes from.
-/

set_option autoImplicit false

namespace KeramikStore.ProductLifecycle
open Library Library.Runs ProductCommands

def unmatched (n : ℕ) : ProductEvent → ℕ
  | .productOutOfStock .. => n + 1
  | .productBackInStock .. => n - 1
  | _ => n

def Awaited (n : ℕ) : ProductEvent → Prop
  | .productBackInStock .. => 0 < n
  | _ => True

def Terminal (p : Product) : Prop := p.status = .discontinued ∨ p.status = .deleted

section Guards

theorem modifiable_running (p : Product) (h : p.ensureCanBeModified = .ok ()) : ¬ Terminal p := by
  rintro (e | e)
  all_goals
    rw [Product.ensureCanBeModified, Product.ensureNotDiscontinued, Product.ensureNotDeleted, e] at h
    cases h

theorem terminal_closed (p : Product) (t : ProductStatus) (h : Terminal p)
    (different : p.status ≠ t) : p.status.canTransitionTo t = false := by
  rcases h with e | e
  all_goals
    rw [e] at different ⊢
    cases t <;> first | rfl | exact absurd rfl different

variable (host : ProductHost)

theorem terminal_stays (p : Product) (a : Step) (h : Terminal p) : step host p a = p := by
  obtain ⟨c, clk⟩ := a
  have effect := exec_effect host p clk c
  unfold step
  dsimp only
  generalize c.exec host clk p = call at effect
  cases effect with
  | threw => rfl
  | kept => rfl
  | updated params o modifiable => exact absurd h (modifiable_running p modifiable)
  | priced newPrice currency price modifiable => exact absurd h (modifiable_running p modifiable)
  | depicted imageUrl modifiable => exact absurd h (modifiable_running p modifiable)
  | moved c t reason different allowed =>
    rw [terminal_closed p t h different] at allowed
    cases allowed

theorem run_terminal (p : Product) (run : List Step) (h : Terminal p) :
    after (step host) p run = p := by
  induction run with
  | nil => rfl
  | cons a run ih => rw [after_cons, terminal_stays host p a h, ih]

def Follows (p : Product) (a : Step) : Prop :=
  p.status.canTransitionTo (step host p a).status = true

theorem same_allowed (s : ProductStatus) : s.canTransitionTo s = true := by
  cases s <;> rfl

theorem step_follows (p : Product) (a : Step) : Follows host p a := by
  obtain ⟨c, clk⟩ := a
  have effect := exec_effect host p clk c
  unfold Follows step
  dsimp only
  generalize c.exec host clk p = call at effect
  cases effect with
  | updated params o modifiable h =>
    rw [h.status]
    exact same_allowed _
  | moved c t reason different allowed => exact allowed
  | _ => exact same_allowed _

end Guards

section Stock

structure Tracked (p : Product) : Prop where
  dated : p.deletedAt.isSome = true ↔ p.status = .deleted
  matched : Along unmatched Awaited 0 p.domainEvents
  pending : p.status = .outOfStock → 0 < after unmatched 0 p.domainEvents

theorem neutral_events (es : List ProductEvent) (n : ℕ)
    (h : ∀ e ∈ es, concernsStock e = false) :
    after unmatched n es = n ∧ Along unmatched Awaited n es := by
  induction es generalizing n with
  | nil => exact ⟨rfl, trivial⟩
  | cons e es ih =>
    have here := h e List.mem_cons_self
    have rest : ∀ e ∈ es, concernsStock e = false := fun f mem => h f (List.mem_cons_of_mem e mem)
    cases e with
    | productOutOfStock => cases here
    | productBackInStock => cases here
    | _ => exact ⟨(ih n rest).1, trivial, (ih n rest).2⟩

variable (p q : Product) (h : Tracked p)
include h

theorem tracked_append (es : List ProductEvent) (events : q.domainEvents = p.domainEvents ++ es)
    (dated : q.deletedAt.isSome = true ↔ q.status = .deleted)
    (fits : Along unmatched Awaited (after unmatched 0 p.domainEvents) es)
    (pending : q.status = .outOfStock →
      0 < after unmatched (after unmatched 0 p.domainEvents) es) : Tracked q := by
  refine ⟨dated, ?_, ?_⟩
  · rw [events, along_append]
    exact ⟨h.matched, fits⟩
  · rw [events, after_append]
    exact pending

theorem tracked_edit (es : List ProductEvent) (events : q.domainEvents = p.domainEvents ++ es)
    (neutral : ∀ e ∈ es, concernsStock e = false) (status : q.status = p.status)
    (deletedAt : q.deletedAt = p.deletedAt) : Tracked q := by
  obtain ⟨same, fits⟩ := neutral_events es (after unmatched 0 p.domainEvents) neutral
  apply tracked_append p q h es events _ fits
  · rw [status, same]
    exact h.pending
  · rw [status, deletedAt]
    exact h.dated

theorem tracked_moved (t : ProductStatus) (reason : Option String) (clk : Clock)
    (different : p.status ≠ t) (allowed : p.status.canTransitionTo t = true) :
    Tracked (moved p t reason clk) := by
  have running : p.status ≠ .deleted := by
    intro deleted
    rw [terminal_closed p t (.inr deleted) different] at allowed
    cases allowed
  have undated : p.deletedAt.isSome = false := by
    rw [← Bool.not_eq_true, h.dated]
    exact running
  have dated : (moved p t reason clk).deletedAt.isSome = true ↔
      (moved p t reason clk).status = .deleted := by
    by_cases deleted : t = .deleted
    · simp [moved, deleted]
    · simpa [moved, deleted] using undated
  apply tracked_append p _ h (announcement p reason t) rfl dated
  · cases t with
    | active =>
      by_cases out : p.status = .outOfStock
      · have pending := h.pending out
        simp [announcement, out, ProductStatus.isOutOfStock, Along, Awaited, unmatched, pending]
      · simp [announcement, out, ProductStatus.isOutOfStock, Along, Awaited]
    | _ => exact ⟨trivial, trivial⟩
  · intro out
    obtain rfl : t = .outOfStock := out
    exact Nat.succ_pos _

end Stock

section Runs

variable (host : ProductHost)

theorem step_tracked (p : Product) (a : Step) (h : Tracked p) : Tracked (step host p a) := by
  obtain ⟨c, clk⟩ := a
  have effect := exec_effect host p clk c
  unfold step
  dsimp only
  generalize c.exec host clk p = call at effect
  cases effect with
  | threw => exact h
  | kept => exact h
  | updated params o modifiable fields =>
    obtain ⟨es, events, neutral⟩ := fields.events
    exact tracked_edit p _ h es events neutral fields.status fields.deletedAt
  | priced => exact tracked_edit p _ h [_] rfl (by simp [concernsStock]) rfl rfl
  | depicted => exact tracked_edit p _ h [_] rfl (by simp [concernsStock]) rfl rfl
  | moved c t reason different allowed => exact tracked_moved p h t reason clk different allowed

theorem created_tracked (generated : ProductId) (params : CreateProductParams) (clk : Clock)
    (p : Product) (h : Product.create host generated params clk = .ok p) : Tracked p := by
  obtain ⟨u, -, h⟩ := (bind_ok_iff _ _ _).mp h
  obtain rfl := Except.ok.inj h
  exact ⟨⟨nofun, nofun⟩, ⟨trivial, trivial⟩, nofun⟩

/-- In every run from `create`, the status follows the table, the date of deletion is that
of a deleted product, a terminal product stays as it is, and the stock comes back only
after it was announced as missing. -/
theorem product_lifecycle (generated : ProductId) (params : CreateProductParams) (clk : Clock)
    (p : Product) (created : Product.create host generated params clk = .ok p) (run : List Step) :
    Along (step host) (Follows host) p run ∧
      Throughout (step host) (fun q => q.deletedAt.isSome = true ↔ q.status = .deleted) p run ∧
      (∀ before later, run = before ++ later → Terminal (after (step host) p before) →
        after (step host) p run = after (step host) p before) ∧
      Along unmatched Awaited 0 (after (step host) p run).domainEvents := by
  have tracked := throughout_of_keep (step host) Tracked (step_tracked host) p run
    (created_tracked host generated params clk p created)
  refine ⟨along_of_forall (step host) _ (step_follows host) p run, ?_, ?_, ?_⟩
  · exact throughout_mono (step host) Tracked _ (fun q t => t.dated) p run tracked
  · rintro before later rfl terminal
    rw [after_append]
    exact run_terminal host _ later terminal
  · exact (throughout_end (step host) Tracked p run tracked).matched

end Runs

section Samples

def sampleRun : List Step :=
  [(.markAsOutOfStock, .still 1), (.delete, .still 2), (.activate, .still 3),
    (.discontinue none, .still 4), (.updateImage none, .still 5), (.activate, .still 6)]

example : (after (step .sample) sample sampleRun).status = .discontinued := by decide +kernel

theorem sample_product_lifecycle :
    Along (step .sample) (Follows .sample) sample sampleRun ∧
      Throughout (step .sample) (fun q => q.deletedAt.isSome = true ↔ q.status = .deleted)
        sample sampleRun ∧
      (∀ before later, sampleRun = before ++ later →
        Terminal (after (step .sample) sample before) →
          after (step .sample) sample sampleRun = after (step .sample) sample before) ∧
      Along unmatched Awaited 0 (after (step .sample) sample sampleRun).domainEvents :=
  product_lifecycle .sample .sample sampleParams (.still 0) sample sample_created sampleRun

end Samples

end KeramikStore.ProductLifecycle
