import KeramikStore.Inventory.Ledger

/-!
# The signal that a stock is depleted

The commands that lower the stock signal whenever nothing is available afterwards, also
where nothing was available before. A reservation may take the last available unit and
signals nothing.
-/

set_option autoImplicit false

namespace KeramikStore.StockDepletion
open Library Library.Runs Library.Binary64 StockInvariant InventoryLedger

section Availability

/-- The difference of two whole numbers has the sign that its representation has. -/
theorem represent_le_zero_iff (z : ℤ) : (represent z).le (.ofNat 0) = true ↔ z ≤ 0 := by
  have bound : (0 : ℚ) < overflow := pow_pos two_pos _
  by_cases positive : 0 < z
  · have least : (1 : ℚ) ≤ nearest z := by
      have whole : ((1 : ℕ) : ℚ) ≤ z := by exact_mod_cast positive
      exact_mod_cast natCast_le_nearest 1 z (by decide) whole
    have above : (represent z).le (.ofNat 0) = false := by
      unfold represent
      split_ifs
      · rfl
      · linarith
      · exact (not_le_zero _).mpr (by linarith)
    rw [above]
    exact iff_of_false Bool.false_ne_true (not_le.mpr positive)
  · have most : nearest z ≤ 0 := nearest_nonpos _ (by exact_mod_cast not_lt.mp positive)
    refine iff_of_true ?_ (not_lt.mp positive)
    unfold represent
    split_ifs
    · linarith
    · rfl
    · simpa [JsNumber.le, JsNumber.ge, JsNumber.lt, JsNumber.ofNat] using most

theorem sub_represent (s v : StockQuantity) :
    s.getValue.sub v.getValue = represent ((s.value - v.value : ℤ) : ℚ) := by
  change represent ((s.value : ℚ) + -(v.value : ℚ)) = _
  push_cast
  rw [sub_eq_add_neg]

theorem isDepleted_iff (i : Inventory) :
    i.isDepleted = true ↔ i.stock.value ≤ i.reserved.value := by
  unfold Inventory.isDepleted Inventory.getAvailableStock
  rw [sub_represent, represent_le_zero_iff]
  omega

theorem not_isDepleted_iff (i : Inventory) :
    i.isDepleted = false ↔ i.reserved.value < i.stock.value := by
  rw [← Bool.not_eq_true, isDepleted_iff, not_le]

theorem available_positive (s v : StockQuantity) (q : JsNumber) (positive : q.le (.ofNat 0) = false)
    (available : (s.getValue.sub v.getValue).ge q = true) : v.value < s.value := by
  by_contra covered
  rw [sub_represent] at available
  have low := (represent_le_zero_iff (s.value - v.value)).mpr (by omega)
  generalize represent ((s.value - v.value : ℤ) : ℚ) = x at available low
  cases x with
  | nan => cases low
  | posInf => cases low
  | negInf =>
    cases q with
    | nan => cases available
    | negInf => cases positive
    | posInf => cases available
    | fin r => cases available
  | fin x =>
    cases q with
    | nan => cases available
    | negInf => cases positive
    | posInf => cases available
    | fin r =>
      rw [not_le_zero] at positive
      have above : r ≤ x := by simpa [JsNumber.ge, JsNumber.lt] using available
      have below : x ≤ 0 := by
        simpa [JsNumber.le, JsNumber.ge, JsNumber.lt, JsNumber.ofNat] using low
      linarith

end Availability

section Signals

def available (i : Inventory) : ℤ := i.stock.value - i.reserved.value

def emitted (i : Inventory) (a : Step) : List InventoryEvent :=
  (step i a).domainEvents.drop i.domainEvents.length

def isDepletion : InventoryEvent → Bool
  | .stockDepleted .. => true
  | _ => false

def Emits (i : Inventory) (a : Step) : Prop := ∃ e ∈ emitted i a, isDepletion e = true

def SignalsExactly (i : Inventory) (a : Step) : Prop :=
  Emits i a ↔ (a.1.exec a.2 i).Returns ∧ 0 < available i ∧ available (step i a) = 0

def looks : InventoryCommand → Bool
  | .removeStock .. | .setStock .. | .confirmReservation _ => true
  | .addStock .. | .reserve _ | .release _ => false

theorem announced_depletion_iff (i j : Inventory) (c : InventoryCommand) :
    (∃ e ∈ announced i j c, isDepletion e = true) ↔ looks c = true ∧ j.isDepleted = true := by
  have depleted : (∃ e ∈ depletion j, isDepletion e = true) ↔ j.isDepleted = true := by
    unfold depletion
    split
    next h => simp [isDepletion, h]
    next h => simp [h]
  cases c with
  | addStock | reserve | release => simp [announced, looks, isDepletion]
  | removeStock | setStock | confirmReservation =>
    simp [announced, looks, isDepletion, ← depleted]

theorem emits_iff (i : Inventory) (a : Step) :
    Emits i a ↔ (a.1.exec a.2 i).Returns ∧ looks a.1 = true ∧ (step i a).isDepleted = true := by
  obtain ⟨c, now⟩ := a
  have log := exec_logs now c i
  unfold Logs at log
  unfold Emits emitted step
  rw [log, List.drop_left]
  by_cases returned : (InventoryCommand.exec now c i).Returns
  · rw [if_pos returned, announced_depletion_iff, and_iff_right returned]
  · rw [if_neg returned]
    exact iff_of_false (fun ⟨_, mem, _⟩ => absurd mem List.not_mem_nil) fun h => returned h.1

theorem hasAvailableStock_eq (i : Inventory) (q : JsNumber) :
    i.hasAvailableStock q = (i.stock.getValue.sub i.reserved.getValue).ge q := rfl

theorem sets_exec (now : Date) (c : InventoryCommand) (i : Inventory) (s' v' : StockQuantity)
    (sets : Sets c i.stock i.reserved s' v') :
    (c.exec now i).Returns ∧ (c.exec now i).state.stock = s' ∧
      (c.exec now i).state.reserved = v' := by
  generalize stock : i.stock = s at sets
  generalize held : i.reserved = v at sets
  cases sets with
  | addStock q reason _ _ _ positive sum =>
    simp [InventoryCommand.exec, Inventory.addStock, positive, stock, sum, Inventory.adjusted,
      Inventory.addDomainEvent, Inventory.applyChange, held]
  | removeStock q reason _ _ _ positive available difference =>
    have room : i.hasAvailableStock q = true := by rwa [hasAvailableStock_eq, stock, held]
    simp [InventoryCommand.exec, Inventory.removeStock, positive, room, stock, difference,
      Inventory.adjusted, Inventory.addDomainEvent, Inventory.applyChange, held]
  | setStock q reason _ _ _ quantity covered =>
    simp [InventoryCommand.exec, Inventory.setStock, quantity, held, covered,
      Inventory.adjusted, Inventory.addDomainEvent, Inventory.applyChange]
  | reserve q _ _ _ positive available sum =>
    have room : i.hasAvailableStock q = true := by rwa [hasAvailableStock_eq, stock, held]
    simp [InventoryCommand.exec, Inventory.reserve, positive, room, held, sum,
      Inventory.addDomainEvent, Inventory.applyChange, stock]
  | release q _ _ _ positive reserved difference =>
    simp [InventoryCommand.exec, Inventory.release, positive, held, reserved, difference,
      Inventory.addDomainEvent, Inventory.applyChange, stock]
  | confirmReservation q _ _ _ _ positive reserved first second =>
    simp [InventoryCommand.exec, Inventory.confirmReservation, positive, held, reserved, stock,
      first, second, Inventory.adjusted, Inventory.addDomainEvent, Inventory.applyChange]

def Agrees (i : Inventory) (c : InventoryCommand) (s' v' : StockQuantity) : Prop :=
  looks c = true ∧ s'.value ≤ v'.value ↔ i.reserved.value < i.stock.value ∧ s'.value = v'.value

def AgreesAlways (i : Inventory) (c : InventoryCommand) : Prop :=
  ∀ s' v', Sets c i.stock i.reserved s' v' → Agrees i c s' v'

theorem signalsExactly_iff (i : Inventory) (a : Step) :
    SignalsExactly i a ↔ AgreesAlways i a.1 := by
  unfold SignalsExactly available
  rw [emits_iff, isDepleted_iff]
  constructor
  · intro exact s' v' sets
    obtain ⟨returned, stock, reserved⟩ := sets_exec a.2 a.1 i s' v' sets
    rw [and_iff_right returned, and_iff_right returned] at exact
    unfold step at exact
    rw [stock, reserved] at exact
    unfold Agrees
    rw [exact]
    omega
  · intro exact
    obtain ⟨c, now⟩ := a
    have effect := exec_effect now c i
    unfold step
    dsimp only at exact ⊢
    generalize InventoryCommand.exec now c i = o at effect
    cases effect with
    | threw c e =>
      have refused := Outcome.not_returns_threw e i
      exact iff_of_false (fun h => refused h.1) fun h => refused h.1
    | returned c j sets =>
      have here := exact _ _ sets
      unfold Agrees at here
      rw [and_iff_right (Outcome.returns_done j), and_iff_right (Outcome.returns_done j),
        Outcome.state_done, here]
      omega
    | torn q s' e =>
      have refused := Outcome.not_returns_threw e { i with stock := s' }
      exact iff_of_false (fun h => refused h.1) fun h => refused h.1

end Signals

section Condition

def Signalled (i : Inventory) : InventoryCommand → Prop
  | .addStock q _ =>
    q.le (.ofNat 0) = false → i.isDepleted = false → i.stock.add q ≠ .ok i.reserved
  | .removeStock q _ =>
    q.le (.ofNat 0) = false → i.hasAvailableStock q = true →
      ∀ s', i.stock.subtract q = .ok s' → i.reserved.value ≤ s'.value
  | .setStock q _ => q = i.reserved.getValue → i.isDepleted = false
  | .reserve q =>
    q.le (.ofNat 0) = false → i.hasAvailableStock q = true → i.reserved.add q ≠ .ok i.stock
  | .release q =>
    q.le (.ofNat 0) = false → i.reserved.getValue.lt q = false → i.isDepleted = false →
      i.reserved.subtract q ≠ .ok i.stock
  | .confirmReservation q =>
    q.le (.ofNat 0) = false → i.reserved.getValue.lt q = false →
      ∀ s' v', i.stock.subtract q = .ok s' → i.reserved.subtract q = .ok v' →
        i.isDepleted = false

variable (i : Inventory)

theorem eq_iff_value (s t : StockQuantity) : s = t ↔ s.value = t.value := by
  cases s
  cases t
  simp

theorem subtract_mono (s v s' v' : StockQuantity) (q : JsNumber) (h : s.value ≤ v.value)
    (enough : v.getValue.lt q = false) (first : s.subtract q = .ok s')
    (second : v.subtract q = .ok v') : s'.value ≤ v'.value := by
  obtain ⟨r, rfl, s_rounded⟩ := subtract_ok s s' q first
  obtain ⟨r', e, v_rounded⟩ := subtract_ok v v' _ second
  obtain rfl := JsNumber.fin.inj e
  have most := (not_ofNat_lt _ _).mp enough
  have order : (s.value : ℚ) ≤ v.value := Nat.cast_le.mpr h
  rw [← Nat.cast_le (α := ℚ), s_rounded, v_rounded]
  rcases le_total 0 ((s.value : ℚ) - r) with nonneg | neg
  · exact nearest_mono _ _ nonneg (by linarith)
  · exact (nearest_nonpos _ neg).trans (nearest_nonneg _ (by linarith))

theorem confirmed_agrees_iff (q : JsNumber) (s' v' : StockQuantity)
    (reserved : i.reserved.getValue.lt q = false) (first : i.stock.subtract q = .ok s')
    (second : i.reserved.subtract q = .ok v') :
    Agrees i (.confirmReservation q) s' v' ↔ i.isDepleted = false := by
  rw [not_isDepleted_iff]
  unfold Agrees
  rcases lt_or_ge i.reserved.value i.stock.value with available | depleted
  · have covered : i.stock.getValue.lt q = false := by
      cases q with
      | fin r =>
        have most := (not_ofNat_lt _ _).mp reserved
        have order : (i.reserved.value : ℚ) ≤ i.stock.value := Nat.cast_le.mpr available.le
        exact (not_ofNat_lt _ _).mpr (most.trans order)
      | _ => cases second
    have order := subtract_mono i.reserved i.stock v' s' q available.le covered second first
    simp only [looks, true_and, available, iff_true]
    omega
  · have order := subtract_mono i.stock i.reserved s' v' q depleted reserved first second
    simp only [looks, true_and, order, true_iff]
    omega

/-- What does not look must not use the stock up. -/
theorem silent_agrees_iff (c : InventoryCommand) (s' v' : StockQuantity) (silent : looks c = false) :
    Agrees i c s' v' ↔ (i.isDepleted = false → s' ≠ v') := by
  rw [not_isDepleted_iff, ne_eq, eq_iff_value]
  unfold Agrees
  rw [silent]
  simp

section Commands

variable (q : JsNumber) (reason : Option String)

theorem addStock_agrees_iff :
    AgreesAlways i (.addStock q reason) ↔ Signalled i (.addStock q reason) := by
  constructor
  · intro agrees positive available sum
    have here := agrees _ _ (.addStock q reason _ _ _ positive sum)
    exact (silent_agrees_iff i _ _ _ rfl).mp here available rfl
  · intro signalled s' v' sets
    cases sets with
    | addStock _ _ _ _ _ positive sum =>
      refine (silent_agrees_iff i _ _ _ rfl).mpr fun available same => ?_
      exact signalled positive available (same ▸ sum)

theorem removeStock_agrees_iff :
    AgreesAlways i (.removeStock q reason) ↔ Signalled i (.removeStock q reason) := by
  have here_iff : ∀ s', i.reserved.value < i.stock.value →
      (Agrees i (.removeStock q reason) s' i.reserved ↔ i.reserved.value ≤ s'.value) := by
    intro s' available
    simp only [Agrees, looks, true_and, available]
    omega
  constructor
  · intro agrees positive room s' difference
    have available := available_positive _ _ q positive room
    exact (here_iff s' available).mp
      (agrees _ _ (.removeStock q reason _ _ _ positive room difference))
  · intro signalled s' v' sets
    cases sets with
    | removeStock _ _ _ _ _ positive room difference =>
      have available := available_positive _ _ q positive room
      exact (here_iff s' available).mpr (signalled positive room s' difference)

theorem setStock_agrees_iff :
    AgreesAlways i (.setStock q reason) ↔ Signalled i (.setStock q reason) := by
  constructor
  · rintro agrees rfl
    have covered : i.reserved.getValue.lt i.reserved.getValue = false := by
      simp [StockQuantity.getValue, JsNumber.ofNat, JsNumber.lt]
    have here := agrees _ _ (.setStock _ reason _ _ _ (StockQuantity.create_getValue _) covered)
    exact (not_isDepleted_iff i).mpr (here.mp ⟨rfl, le_rfl⟩).1
  · intro signalled s' v' sets
    cases sets with
    | setStock _ _ _ _ _ quantity covered =>
      obtain rfl := (StockQuantity.create_ok_iff q s').mp quantity
      have least : i.reserved.value ≤ s'.value := by
        exact_mod_cast (not_ofNat_lt _ _).mp covered
      constructor
      · rintro ⟨-, most⟩
        have same := le_antisymm most least
        obtain rfl := (eq_iff_value _ _).mpr same
        exact ⟨(not_isDepleted_iff i).mp (signalled rfl), rfl⟩
      · exact fun h => ⟨rfl, h.2.le⟩

theorem reserve_agrees_iff :
    AgreesAlways i (.reserve q) ↔ Signalled i (.reserve q) := by
  constructor
  · intro agrees positive room sum
    have available := (not_isDepleted_iff i).mpr (available_positive _ _ q positive room)
    have here := agrees _ _ (.reserve q _ _ _ positive room sum)
    exact (silent_agrees_iff i _ _ _ rfl).mp here available rfl
  · intro signalled s' v' sets
    cases sets with
    | reserve _ _ _ _ positive room sum =>
      refine (silent_agrees_iff i _ _ _ rfl).mpr fun available same => ?_
      exact signalled positive room (same ▸ sum)

theorem release_agrees_iff :
    AgreesAlways i (.release q) ↔ Signalled i (.release q) := by
  constructor
  · intro agrees positive reserved available difference
    have here := agrees _ _ (.release q _ _ _ positive reserved difference)
    exact (silent_agrees_iff i _ _ _ rfl).mp here available rfl
  · intro signalled s' v' sets
    cases sets with
    | release _ _ _ _ positive reserved difference =>
      refine (silent_agrees_iff i _ _ _ rfl).mpr fun available same => ?_
      exact signalled positive reserved available (same ▸ difference)

theorem confirmReservation_agrees_iff :
    AgreesAlways i (.confirmReservation q) ↔ Signalled i (.confirmReservation q) := by
  constructor
  · intro agrees positive reserved s' v' first second
    exact (confirmed_agrees_iff i q s' v' reserved first second).mp
      (agrees _ _ (.confirmReservation q _ _ _ _ positive reserved first second))
  · intro signalled s' v' sets
    cases sets with
    | confirmReservation _ _ _ _ _ positive reserved first second =>
      exact (confirmed_agrees_iff i q s' v' reserved first second).mpr
        (signalled positive reserved s' v' first second)

end Commands

theorem agrees_iff (c : InventoryCommand) : AgreesAlways i c ↔ Signalled i c := by
  cases c with
  | addStock q reason => exact addStock_agrees_iff i q reason
  | removeStock q reason => exact removeStock_agrees_iff i q reason
  | setStock q reason => exact setStock_agrees_iff i q reason
  | reserve q => exact reserve_agrees_iff i q
  | release q => exact release_agrees_iff i q
  | confirmReservation q => exact confirmReservation_agrees_iff i q

theorem call_signals_iff (a : Step) : SignalsExactly i a ↔ Signalled i a.1 := by
  rw [signalsExactly_iff]
  exact agrees_iff i a.1

/-- In a run of the commands from any inventory, every call emits the event of a depleted
stock just when it returns and uses the available stock up, just when no call of the run
reserves all that is available, sets or confirms what is depleted already, or is rounded
beyond the reserved quantity. -/
theorem depletion_signalled_iff (run : List Step) :
    Along step SignalsExactly i run ↔ Along step (fun j a => Signalled j a.1) i run :=
  along_congr step _ _ call_signals_iff i run

/-- Below `2 ^ 53` nothing is rounded beyond the reserved quantity, so a reservation, an
absolute stock and a confirmation are all that can go wrong. -/
theorem small_signalled (h : Sound i) (small : i.stock.value < 2 ^ 53) (q : JsNumber)
    (reason : Option String) :
    Signalled i (.addStock q reason) ∧ Signalled i (.removeStock q reason) ∧
      Signalled i (.release q) := by
  rw [sound_iff] at h
  refine ⟨fun positive available sum => ?_, fun positive room s' difference => ?_,
    fun positive reserved available difference => ?_⟩
  · obtain ⟨r, rfl, rounded⟩ := add_ok i.stock i.reserved q sum
    rw [not_le_zero] at positive
    have kept := natCast_le_nearest i.stock.value (i.stock.value + r) small (by linarith)
    rw [← rounded, Nat.cast_le] at kept
    exact absurd ((not_isDepleted_iff i).mp available) (not_lt.mpr kept)
  · exact sets_le _ _ _ _ _ (.removeStock q reason _ _ _ positive room difference) h small
  · obtain ⟨r, rfl, rounded⟩ := subtract_ok i.reserved i.stock q difference
    rw [not_le_zero] at positive
    have most := (not_ofNat_lt _ _).mp reserved
    have kept := nearest_le_natCast i.reserved.value (i.reserved.value - r) (by omega)
      (by linarith) (by linarith)
    rw [← rounded, Nat.cast_le] at kept
    exact absurd ((not_isDepleted_iff i).mp available) (not_lt.mpr kept)

end Condition

section Samples

/-- The four units of an inventory are reserved without a signal, and their confirmation
signals a stock of which nothing was available. -/
theorem reservation_silent :
    Started sample ∧
      (Inventory.reserve (.ofNat 4) 6 sample).Returns ∧
      available sample = 4 ∧
      available (step sample (.reserve (.ofNat 4), 6)) = 0 ∧
      ¬ Emits sample (.reserve (.ofNat 4), 6) ∧
      ¬ SignalsExactly sample (.reserve (.ofNat 4), 6) ∧
      Emits (step sample (.reserve (.ofNat 4), 6)) (.confirmReservation (.ofNat 4), 7) ∧
      ¬ SignalsExactly (step sample (.reserve (.ofNat 4), 6))
        (.confirmReservation (.ofNat 4), 7) := by
  have returned : (Inventory.reserve (.ofNat 4) 6 sample).Returns := by decide +kernel
  have silent : ¬ Emits sample (.reserve (.ofNat 4), 6) := by
    rw [emits_iff]
    exact fun h => absurd h.2.1 nofun
  have before : available (step sample (.reserve (.ofNat 4), 6)) = 0 := by decide +kernel
  have repeated : Emits (step sample (.reserve (.ofNat 4), 6))
      (.confirmReservation (.ofNat 4), 7) := by
    rw [emits_iff]
    decide +kernel
  refine ⟨sample_started, returned, by decide +kernel, before, silent, fun exact => ?_, repeated,
    fun exact => ?_⟩
  · exact silent (exact.mpr ⟨returned, by decide +kernel, before⟩)
  · have positive := (exact.mp repeated).2.1
    rw [before] at positive
    exact lt_irrefl 0 positive

end Samples

end KeramikStore.StockDepletion
