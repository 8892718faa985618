import KeramikStore.Order.Lifecycle

/-!
# The total of a paid order

Until its terminal status an order accepts other discounts, paid or not. So its
total, and the one that its completion announces, is the total that was paid just as
long as every discount that is accepted leaves that total.
-/

set_option autoImplicit false

namespace KeramikStore.PaidTotal
open Library Library.Runs OrderEffects OrderLifecycle

def paidTotal : OrderEvent → Option JsNumber
  | .paid _ _ _ total _ => some total
  | _ => none

def completedTotal : OrderEvent → Option JsNumber
  | .completed _ _ _ total _ => some total
  | _ => none

structure Bills (paid : JsNumber) (o : Order) : Prop where
  total : o.total.getAmount = paid
  completed : ∀ total ∈ o.domainEvents.filterMap completedTotal, total = paid

theorem completed_announcement (o : Order) (reason : Option String) (t : OrderStatus) :
    ∀ total ∈ (announcement o reason t).filterMap completedTotal, total = o.total.getAmount := by
  cases t <;> simp [announcement, completedTotal]

theorem moved_bills (paid : JsNumber) (o : Order) (reason : Option String) (t : OrderStatus)
    (now : Date) (h : Bills paid o) : Bills paid (moved o reason t now) := by
  constructor
  · exact h.total
  · intro total mem
    unfold moved at mem
    rw [List.filterMap_append, List.filterMap_append] at mem
    rcases List.mem_append.mp mem with mem | mem
    · rcases List.mem_append.mp mem with mem | mem
      · exact h.completed total mem
      · exact (completed_announcement o reason t total mem).trans h.total
    · exact absurd mem List.not_mem_nil

section Runs

variable (host : ℚ → JsNumber)

def Keeps (o : Order) (a : Step) : Prop :=
  o.isTerminal = false → ∀ id amount, discountOf host o a.1 = some (id, .ok amount) →
    ∀ total, billed host o amount = .ok total → total.amount = o.total.amount

theorem keeps_of_plain (o : Order) (a : Step) (h : discountOf host o a.1 = none) :
    Keeps host o a := by
  intro _ id amount discount
  rw [h] at discount
  cases discount

/-- A call keeps the bill just when its discount does. -/
theorem step_bills_iff (paid : JsNumber) (o : Order) (a : Step) (h : Bills paid o) :
    Bills paid (step host o a) ↔ Keeps host o a := by
  obtain ⟨c, now⟩ := a
  have effect := exec_effect host o now c
  unfold step
  generalize OrderCommand.exec host now c o = call at effect
  cases effect with
  | kept c plain => exact iff_of_true h (keeps_of_plain host o _ plain)
  | refused c e plain => exact iff_of_true h (keeps_of_plain host o _ plain)
  | terminal c e closed =>
    refine iff_of_true h fun running => ?_
    rw [closed] at running
    cases running
  | moved c reason t plain next =>
    exact iff_of_true (moved_bills paid o reason t now h) (keeps_of_plain host o _ plain)
  | noted notes running =>
    exact iff_of_true ⟨h.total, h.completed⟩ (keeps_of_plain host o _ rfl)
  | unpriced c id e running discount =>
    refine iff_of_true ⟨h.total, h.completed⟩ fun _ id' amount discount' => ?_
    rw [discount] at discount'
    cases discount'
  | excessive c id amount e running discount total =>
    refine iff_of_true ⟨h.total, h.completed⟩ fun _ id' amount' discount' t total' => ?_
    rw [discount] at discount'
    cases discount'
    rw [total] at total'
    cases total'
  | discounted c id amount t running discount total =>
    constructor
    · intro after _ id' amount' discount' t' total'
      rw [discount] at discount'
      cases discount'
      rw [total] at total'
      obtain rfl := Except.ok.inj total'
      exact JsNumber.fin.inj (after.total.trans h.total.symm)
    · intro keeps
      have same : t.amount = o.total.amount := keeps running id amount discount t total
      exact ⟨(congrArg JsNumber.fin same).trans h.total, h.completed⟩

theorem paid_announcement (o : Order) (reason : Option String) (t : OrderStatus) (paid : JsNumber)
    (h : (announcement o reason t).filterMap paidTotal = [paid]) :
    t = .paid ∧ o.total.getAmount = paid := by
  cases t with
  | paid => exact ⟨rfl, List.head_eq_of_cons_eq h⟩
  | _ => cases h

theorem completed_kind (events : List OrderEvent) (total : JsNumber)
    (h : total ∈ events.filterMap completedTotal) : .completed ∈ events.filterMap kind := by
  obtain ⟨e, mem, found⟩ := List.mem_filterMap.mp h
  refine List.mem_filterMap.mpr ⟨e, mem, ?_⟩
  cases e with
  | completed => rfl
  | _ => cases found

theorem ne_snoc {α : Type} (l : List α) (x : α) : l ≠ l ++ [x] := by
  intro h
  simpa using congrArg List.length h

def Pays (o : Order) (a : Step) (paid : JsNumber) : Prop :=
  (step host o a).domainEvents.filterMap paidTotal =
    o.domainEvents.filterMap paidTotal ++ [paid]

/-- An order bills what it has just announced as paid. -/
theorem paid_bills (o : Order) (a : Step) (paid : JsNumber) (h : Traced o)
    (pays : Pays host o a paid) : Bills paid (step host o a) := by
  obtain ⟨c, now⟩ := a
  have traced := step_traced host o (c, now) h
  have effect := exec_effect host o now c
  unfold Pays step at pays
  unfold step at traced ⊢
  generalize OrderCommand.exec host now c o = call at effect pays traced
  cases effect with
  | moved c reason t plain next =>
    have announced_paid : (announcement o reason t).filterMap paidTotal = [paid] := by
      rw [Outcome.state_done, moved, List.filterMap_append, List.filterMap_append,
        List.append_assoc] at pays
      have tail := List.append_cancel_left pays
      exact (List.append_nil _).symm.trans tail
    obtain ⟨rfl, total⟩ := paid_announcement o reason t paid announced_paid
    refine ⟨total, fun other mem => ?_⟩
    have completed := completed_kind _ other mem
    have history : announced (moved o reason .paid now) = [.paid] :=
      List.mem_singleton.mp traced.history
    rw [Outcome.state_done, ← announced, history] at completed
    cases completed with
    | tail _ none => cases none
  | _ => exact absurd pays (ne_snoc _ paid)

/-- After an order has announced that a total was paid, that total stays billed, and
every later completion announces it, just when every discount that a later call
assigns before a terminal status leaves it. -/
theorem paid_total_iff (generated : Order.Generated) (params : CreateOrderParams) (clk : Clock)
    (o : Order) (created : Order.create host generated params clk = .ok o)
    (before later : List Step) (now : Date) (paid : JsNumber)
    (pays : Pays host (after (step host) o before) (.markAsPaid, now) paid) :
    Throughout (step host) (Bills paid)
        (step host (after (step host) o before) (.markAsPaid, now)) later ↔
      Along (step host) (Keeps host)
        (step host (after (step host) o before) (.markAsPaid, now)) later := by
  have traced : Traced (after (step host) o before) :=
    throughout_end (step host) Traced o before <|
      throughout_of_keep (step host) Traced (step_traced host) o before
        (created_traced host generated params clk o created)
  have bills := paid_bills host _ _ paid traced pays
  exact throughout_iff_along (step host) (Bills paid) (Keeps host)
    (fun p a h => step_bills_iff host paid p a h) _ later bills

end Runs

section Samples

theorem sample_pays : Pays .fin sample (.markAsPaid, 6) (.ofNat 120) := by
  unfold Pays
  decide +kernel

/-- Without a discount there is nothing that its removal could change. -/
theorem sample_paid_total :
    Throughout (step .fin) (Bills (.ofNat 120)) (step .fin sample (.markAsPaid, 6))
      [(.startFulfillment, 7), (.removeDiscount, 8), (.complete, 9)] := by
  refine (paid_total_iff .fin sampleGenerated sampleParams (.still 5) sample sample_created [] _ 6
    (.ofNat 120) sample_pays).mpr ⟨keeps_of_plain _ _ _ rfl, ?_, keeps_of_plain _ _ _ rfl, trivial⟩
  rintro - id amount removed total left
  obtain ⟨rfl, zero⟩ := Prod.mk.inj (Option.some.inj removed)
  have nothing : Money.zero "IDR" = .ok ⟨0, "IDR", le_rfl, by decide⟩ := by decide +kernel
  obtain rfl := Except.ok.inj (nothing.symm.trans zero)
  have unchanged : billed .fin (after (step .fin) sample [(.markAsPaid, 6), (.startFulfillment, 7)])
      ⟨0, "IDR", le_rfl, by decide⟩ = .ok sample.total := by decide +kernel
  obtain rfl := Except.ok.inj (unchanged.symm.trans left)
  rfl

/-- An order of 120 is paid, and a discount of 20 is applied to it then: its
completion announces 100. -/
theorem discount_after_payment :
    Order.create .fin sampleGenerated sampleParams (.still 5) = .ok sample ∧
      Pays .fin sample (.markAsPaid, 6) (.ofNat 120) ∧
      ¬ Throughout (step .fin) (Bills (.ofNat 120)) (step .fin sample (.markAsPaid, 6))
        [(.applyDiscount "d1" (.ofNat 20), 7)] ∧
      (after (step .fin) sample [(.markAsPaid, 6), (.applyDiscount "d1" (.ofNat 20), 7),
        (.startFulfillment, 8), (.complete, 9)]).domainEvents.filterMap completedTotal =
          [.ofNat 100] := by
  refine ⟨sample_created, sample_pays, fun h => ?_, by decide +kernel⟩
  have total := h.2.total
  revert total
  decide +kernel

end Samples

end KeramikStore.PaidTotal
