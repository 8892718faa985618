import KeramikStore.Order.Effects

/-!
# Orders that can be loaded back

The constructor refuses notes that are blank, and `create` takes an empty text for none.
The command that updates the notes stores whatever it gets, so a blank text makes an
order that the constructor refuses.
-/

set_option autoImplicit false

namespace KeramikStore.StoredOrders
open Library Library.Runs Library.Text OrderEffects

def Reloads (o : Order) : Prop :=
  Order.reconstruct o.id.getValue o.toOrderProps = .ok { o with domainEvents := [] }

def Written (notes : Option String) : Prop := ∀ n ∈ notes, trim n ≠ ""

structure Storable (o : Order) : Prop where
  customer : trim o.userId ≠ ""
  dates : o.createdAt ≤ o.updatedAt
  notes : Written o.notes

def Accepts (o : Order) (a : Step) : Prop :=
  o.isTerminal = false → ∀ notes, a.1 = .updateNotes notes → Written notes

theorem written_iff (notes : Option String) :
    (notes.any fun n => trim n == "") = false ↔ Written notes := by
  cases notes <;> simp [Written]

theorem construct_ok_iff (id : OrderId) (props : OrderProps) (o : Order) :
    Order.construct id props = .ok o ↔
      Storable { props with id := id, domainEvents := [] } ∧
        o = { props with id := id, domainEvents := [] } := by
  unfold Order.construct
  split_ifs with customer dates notes
  · exact ⟨nofun, fun h => absurd customer h.1.customer⟩
  · exact ⟨nofun, fun h => absurd dates (not_lt.mpr h.1.dates)⟩
  · exact ⟨nofun, fun h => absurd ((written_iff _).mpr h.1.notes) (by rw [notes]; decide)⟩
  · have written := (written_iff _).mp (Bool.eq_false_iff.mpr notes)
    exact ⟨fun h => ⟨⟨customer, not_lt.mp dates, written⟩, (Except.ok.inj h).symm⟩,
      fun h => congrArg _ h.2.symm⟩

theorem reloads_iff (o : Order) : Reloads o ↔ Storable o := by
  unfold Reloads Order.reconstruct
  simp only [UniqueIdentifier.fromString_getValue, bind_ok_iff, Except.ok.injEq, exists_eq_left']
  rw [construct_ok_iff, and_iff_left rfl]
  exact ⟨fun h => ⟨h.customer, h.dates, h.notes⟩, fun h => ⟨h.customer, h.dates, h.notes⟩⟩

section Runs

variable (host : ℚ → JsNumber)

theorem create_storable (generated : Order.Generated) (params : CreateOrderParams) (clk : Clock)
    (o : Order) (h : Order.create host generated params clk = .ok o) : Storable o := by
  unfold Order.create at h
  obtain ⟨items, -, h⟩ := (bind_ok_iff _ _ _).mp h
  by_cases empty : items.isEmpty = true
  · rw [if_pos empty] at h
    cases h
  rw [if_neg empty] at h
  -- the six amounts are made before the order
  simp only [bind_ok_iff] at h
  obtain ⟨_, -, _, -, _, -, _, -, _, -, _, -, order, built, h⟩ := h
  obtain ⟨storable, rfl⟩ := (construct_ok_iff _ _ _).mp built
  obtain rfl := Except.ok.inj h
  exact ⟨storable.customer, storable.dates, storable.notes⟩

variable (o : Order) (a : Step)

theorem step_createdAt : (step host o a).createdAt = o.createdAt := by
  obtain ⟨c, now⟩ := a
  have effect := exec_effect host o now c
  unfold step
  generalize c.exec host now o = call at effect
  cases effect <;> rfl

/-- The other commands change nothing that the constructor checks, but the date. -/
theorem plain_storable (c : OrderCommand) (now : Date) (plain : ∀ notes, c ≠ .updateNotes notes)
    (time : o.createdAt ≤ now) (h : Storable o) : Storable (step host o (c, now)) := by
  have effect := exec_effect host o now c
  unfold step
  generalize c.exec host now o = call at effect
  cases effect with
  | kept => exact h
  | refused => exact h
  | terminal => exact h
  | moved => exact ⟨h.customer, time, h.notes⟩
  | noted notes => exact absurd rfl (plain notes)
  | unpriced => exact ⟨h.customer, h.dates, h.notes⟩
  | excessive => exact ⟨h.customer, h.dates, h.notes⟩
  | discounted => exact ⟨h.customer, time, h.notes⟩

theorem updateNotes_iff (notes : Option String) (now : Date) (time : o.createdAt ≤ now)
    (h : Storable o) :
    Storable (step host o (.updateNotes notes, now)) ↔ (o.isTerminal = false → Written notes) := by
  change Storable (Order.updateNotes notes now o).state ↔ _
  unfold Order.updateNotes Order.ensureNotTerminal
  cases terminal : o.isTerminal with
  | true => exact ⟨fun _ => nofun, fun _ => h⟩
  | false =>
    by_cases changed : notes ≠ o.notes
    · simp only [Bool.false_eq_true, if_false, if_pos changed]
      exact ⟨fun s _ => s.notes, fun written => ⟨h.customer, time, written trivial⟩⟩
    · simp only [Bool.false_eq_true, if_false, if_neg changed]
      rw [not_not.mp changed]
      exact ⟨fun _ _ => h.notes, fun _ => h⟩

theorem step_iff (time : o.createdAt ≤ a.2) (h : Storable o) :
    Storable (step host o a) ↔ Accepts o a := by
  obtain ⟨c, now⟩ := a
  by_cases noting : ∃ notes, c = .updateNotes notes
  · obtain ⟨notes, rfl⟩ := noting
    refine (updateNotes_iff host o notes now time h).trans ⟨fun written running n e => ?_,
      fun accepts running => accepts running notes rfl⟩
    obtain rfl := OrderCommand.updateNotes.inj e
    exact written running
  · have plain (notes : Option String) : c ≠ .updateNotes notes := fun e => noting ⟨notes, e⟩
    exact ⟨fun _ _ notes e => absurd e (plain notes),
      fun _ => plain_storable host o c now plain time h⟩

/-- Every order of a run from `create` can be loaded back, with the same properties, just
when no order that is not in a terminal status is given blank notes. -/
theorem orders_reload_iff (generated : Order.Generated) (params : CreateOrderParams)
    (clk : Clock) (o : Order) (created : Order.create host generated params clk = .ok o)
    (run : List Step) (forward : ∀ a ∈ run, o.createdAt ≤ a.2) :
    Throughout (step host) Reloads o run ↔ Along (step host) Accepts o run := by
  have start := create_storable host generated params clk o created
  rw [throughout_congr (step host) Reloads Storable reloads_iff]
  refine (throughout_exact (step host) (fun q => q.createdAt = o.createdAt) Storable
    (fun _ a => o.createdAt ≤ a.2) Accepts ?_ ?_ o run rfl
    (along_of_mem (step host) _ o run forward)).trans (and_iff_right start)
  · intro q a same _
    rw [step_createdAt, same]
  · intro q a same time h
    exact step_iff host q a (by rw [same]; exact time) h

end Runs

section Samples

/-- Notes without a text are stored, and the order can no longer be loaded. -/
theorem emptied_order :
    Order.create .fin sampleGenerated sampleParams (.still 5) = .ok sample ∧
      Order.reconstruct UniqueIdentifier.sample.value
          (after (step .fin) sample [(.updateNotes (some ""), 6)]).toOrderProps =
        .error (orderStateConflict "Order notes cannot be an empty string") := by
  refine ⟨sample_created, ?_⟩
  decide +kernel

theorem sample_orders_reload :
    Throughout (step .fin) Reloads sample
      [(.updateNotes (some "Ring twice"), 6), (.markAsPaid, 7)] := by
  have accepted : Along (step .fin) Accepts sample
      [(.updateNotes (some "Ring twice"), 6), (.markAsPaid, 7)] := by
    refine ⟨?_, ?_, trivial⟩
    · rintro - notes e n given
      obtain rfl := OrderCommand.updateNotes.inj e
      obtain rfl := Option.some.inj given
      decide
    · exact fun _ _ e => OrderCommand.noConfusion e
  exact (orders_reload_iff .fin sampleGenerated sampleParams (.still 5) sample sample_created
    _ (by decide)).mpr accepted

end Samples

end KeramikStore.StoredOrders
