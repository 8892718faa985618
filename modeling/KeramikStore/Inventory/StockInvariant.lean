import KeramikStore.Inventory.Inventory
import KeramikStore.Library.Runs

/-!
# The reserved quantity never exceeds the stock

Sums and differences are rounded, and rounding keeps their order, so every
command that returns leaves whole numbers with `0 ≤ reserved ≤ stock`. A command
that throws changes nothing, with one exception: confirming a fraction of a unit
assigns the stock where the first difference rounds to a whole number, and then
throws where the second does not.
-/

set_option autoImplicit false

namespace KeramikStore.StockInvariant
open Library Library.Runs Library.Binary64

inductive Sets : InventoryCommand → StockQuantity → StockQuantity → StockQuantity →
    StockQuantity → Prop where
  | addStock (q : JsNumber) (reason : Option String) (s v s' : StockQuantity)
      (positive : q.le (.ofNat 0) = false) (sum : s.add q = .ok s') :
      Sets (.addStock q reason) s v s' v
  | removeStock (q : JsNumber) (reason : Option String) (s v s' : StockQuantity)
      (positive : q.le (.ofNat 0) = false) (available : (s.getValue.sub v.getValue).ge q = true)
      (difference : s.subtract q = .ok s') : Sets (.removeStock q reason) s v s' v
  | setStock (q : JsNumber) (reason : Option String) (s v s' : StockQuantity)
      (quantity : StockQuantity.create q = .ok s') (covered : q.lt v.getValue = false) :
      Sets (.setStock q reason) s v s' v
  | reserve (q : JsNumber) (s v v' : StockQuantity) (positive : q.le (.ofNat 0) = false)
      (available : (s.getValue.sub v.getValue).ge q = true) (sum : v.add q = .ok v') :
      Sets (.reserve q) s v s v'
  | release (q : JsNumber) (s v v' : StockQuantity) (positive : q.le (.ofNat 0) = false)
      (reserved : v.getValue.lt q = false) (difference : v.subtract q = .ok v') :
      Sets (.release q) s v s v'
  | confirmReservation (q : JsNumber) (s v s' v' : StockQuantity)
      (positive : q.le (.ofNat 0) = false) (reserved : v.getValue.lt q = false)
      (first : s.subtract q = .ok s') (second : v.subtract q = .ok v') :
      Sets (.confirmReservation q) s v s' v'

inductive Effect (i : Inventory) : InventoryCommand → Inventory.Call → Prop where
  | threw (c : InventoryCommand) (e : InventoryError) : Effect i c (.threw e i)
  | returned (c : InventoryCommand) (j : Inventory)
      (sets : Sets c i.stock i.reserved j.stock j.reserved) : Effect i c (.done j)
  | torn (q : JsNumber) (s' : StockQuantity) (e : InventoryError)
      (positive : q.le (.ofNat 0) = false) (reserved : i.reserved.getValue.lt q = false)
      (first : i.stock.subtract q = .ok s') (second : i.reserved.subtract q = .error e) :
      Effect i (.confirmReservation q) (.threw e { i with stock := s' })

@[simp] theorem stock_announceDepletion (i : Inventory) :
    i.announceDepletion.stock = i.stock := by
  unfold Inventory.announceDepletion
  split <;> rfl

@[simp] theorem reserved_announceDepletion (i : Inventory) :
    i.announceDepletion.reserved = i.reserved := by
  unfold Inventory.announceDepletion
  split <;> rfl

section Methods

variable (q : JsNumber) (reason : Option String) (now : Date) (i : Inventory)

theorem addStock_effect : Effect i (.addStock q reason) (i.addStock q reason now) := by
  unfold Inventory.addStock
  split
  · exact .threw _ _
  next positive =>
    split
    · exact .threw _ _
    next s' sum => exact .returned _ _ (.addStock q reason _ _ s' (by simpa using positive) sum)

theorem removeStock_effect : Effect i (.removeStock q reason) (i.removeStock q reason now) := by
  unfold Inventory.removeStock
  split
  · exact .threw _ _
  next positive =>
    split
    · exact .threw _ _
    next available =>
      split
      · exact .threw _ _
      next s' difference =>
        have room : i.hasAvailableStock q = true := by simpa using available
        apply Effect.returned
        simp only [stock_announceDepletion, reserved_announceDepletion]
        exact .removeStock q reason _ _ s' (by simpa using positive) room difference

theorem setStock_effect : Effect i (.setStock q reason) (i.setStock q reason now) := by
  unfold Inventory.setStock
  split
  · exact .threw _ _
  next s' quantity =>
    split
    · exact .threw _ _
    next covered =>
      apply Effect.returned
      simp only [stock_announceDepletion, reserved_announceDepletion]
      exact .setStock q reason _ _ s' quantity (by simpa using covered)

theorem reserve_effect : Effect i (.reserve q) (i.reserve q now) := by
  unfold Inventory.reserve
  split
  · exact .threw _ _
  next positive =>
    split
    · exact .threw _ _
    next available =>
      split
      · exact .threw _ _
      next v' sum =>
        have room : i.hasAvailableStock q = true := by simpa using available
        exact .returned _ _ (.reserve q _ _ v' (by simpa using positive) room sum)

theorem release_effect : Effect i (.release q) (i.release q now) := by
  unfold Inventory.release
  split
  · exact .threw _ _
  next positive =>
    split
    · exact .threw _ _
    next reserved =>
      split
      · exact .threw _ _
      next v' difference =>
        exact .returned _ _
          (.release q _ _ v' (by simpa using positive) (by simpa using reserved) difference)

/-- The stock is assigned before the reserved quantity is computed. -/
theorem confirmReservation_effect :
    Effect i (.confirmReservation q) (i.confirmReservation q now) := by
  unfold Inventory.confirmReservation
  split
  · exact .threw _ _
  next positive =>
    split
    · exact .threw _ _
    next reserved =>
      split
      · exact .threw _ _
      next s' first =>
        dsimp only
        split
        next e second =>
          exact .torn q s' e (by simpa using positive) (by simpa using reserved) first second
        next v' second =>
          apply Effect.returned
          simp only [stock_announceDepletion, reserved_announceDepletion]
          exact .confirmReservation q _ _ s' v' (by simpa using positive)
            (by simpa using reserved) first second

end Methods

theorem exec_effect (now : Date) (c : InventoryCommand) (i : Inventory) :
    Effect i c (c.exec now i) := by
  cases c with
  | addStock q reason => exact addStock_effect q reason now i
  | removeStock q reason => exact removeStock_effect q reason now i
  | setStock q reason => exact setStock_effect q reason now i
  | reserve q => exact reserve_effect q now i
  | release q => exact release_effect q now i
  | confirmReservation q => exact confirmReservation_effect q now i

theorem add_ok (s s' : StockQuantity) (q : JsNumber) (h : s.add q = .ok s') :
    ∃ r, q = .fin r ∧ (s'.value : ℚ) = nearest (s.value + r) := by
  have sum := (StockQuantity.create_ok_iff _ s').mp h
  cases q with
  | fin r => exact ⟨r, rfl, represent_eq_fin _ _ sum⟩
  | _ => cases sum

theorem subtract_ok (s s' : StockQuantity) (q : JsNumber) (h : s.subtract q = .ok s') :
    ∃ r, q = .fin r ∧ (s'.value : ℚ) = nearest (s.value - r) := by
  have difference := (StockQuantity.create_ok_iff _ s').mp h
  cases q with
  | fin r =>
    refine ⟨r, rfl, ?_⟩
    rw [sub_eq_add_neg]
    exact represent_eq_fin _ _ difference
  | _ => cases difference

theorem not_le_zero (r : ℚ) : (JsNumber.fin r).le (.ofNat 0) = false ↔ 0 < r := by
  simp [JsNumber.le, JsNumber.ge, JsNumber.lt, JsNumber.ofNat]

theorem not_ofNat_lt (n : ℕ) (r : ℚ) : (JsNumber.ofNat n).lt (.fin r) = false ↔ r ≤ n := by
  simp [JsNumber.lt, JsNumber.ofNat]

theorem available_eq (s v : StockQuantity) (h : v.value ≤ s.value) (small : s.value < 2 ^ 53) :
    s.getValue.sub v.getValue = .ofNat (s.value - v.value) := by
  have exact_difference : (s.value : ℚ) + -(v.value : ℚ) = (s.value - v.value : ℕ) := by
    rw [Nat.cast_sub h, sub_eq_add_neg]
  change represent ((s.value : ℚ) + -(v.value : ℚ)) = _
  rw [exact_difference, represent_natCast _ (by omega)]
  rfl

theorem ofNat_ge (n : ℕ) (r : ℚ) : (JsNumber.ofNat n).ge (.fin r) = true ↔ r ≤ n := by
  simp [JsNumber.ge, JsNumber.lt, JsNumber.ofNat]

theorem sets_le (c : InventoryCommand) (s v s' v' : StockQuantity) (sets : Sets c s v s' v')
    (h : v.value ≤ s.value) (small : s.value < 2 ^ 53) : v'.value ≤ s'.value := by
  have reserved_small : v.value < 2 ^ 53 := by omega
  rw [← Nat.cast_le (α := ℚ)]
  have within : (v.value : ℚ) ≤ s.value := Nat.cast_le.mpr h
  cases sets with
  | addStock q reason _ _ s' positive sum =>
    obtain ⟨r, rfl, rounded⟩ := add_ok s s' q sum
    rw [not_le_zero] at positive
    rw [rounded]
    exact natCast_le_nearest _ _ reserved_small (by linarith)
  | removeStock q reason _ _ s' positive available difference =>
    obtain ⟨r, rfl, rounded⟩ := subtract_ok s s' q difference
    rw [available_eq s v h small, ofNat_ge, Nat.cast_sub h] at available
    rw [rounded]
    exact natCast_le_nearest _ _ reserved_small (by linarith)
  | setStock q reason _ _ s' quantity covered =>
    obtain rfl := (StockQuantity.create_ok_iff q s').mp quantity
    simpa [StockQuantity.getValue, JsNumber.ofNat, JsNumber.lt] using covered
  | reserve q _ _ v' positive available sum =>
    obtain ⟨r, rfl, rounded⟩ := add_ok v v' q sum
    rw [available_eq s v h small, ofNat_ge, Nat.cast_sub h] at available
    rw [not_le_zero] at positive
    rw [rounded]
    exact nearest_le_natCast _ _ small (by positivity) (by linarith)
  | release q _ _ v' positive reserved difference =>
    obtain ⟨r, rfl, rounded⟩ := subtract_ok v v' q difference
    rw [not_le_zero] at positive
    have enough := (not_ofNat_lt _ _).mp reserved
    rw [rounded]
    exact nearest_le_natCast _ _ small (by linarith) (by linarith)
  | confirmReservation q _ _ s' v' positive reserved first second =>
    obtain ⟨r, rfl, stock_rounded⟩ := subtract_ok s s' q first
    obtain ⟨r', e, reserved_rounded⟩ := subtract_ok v v' _ second
    obtain rfl := JsNumber.fin.inj e
    have enough := (not_ofNat_lt _ _).mp reserved
    rw [stock_rounded, reserved_rounded]
    exact nearest_mono _ _ (by linarith) (by linarith)

structure Sound (i : Inventory) : Prop where
  stock_integer : i.stock.getValue.isInteger = true
  reserved_integer : i.reserved.getValue.isInteger = true
  reserved_nonneg : (JsNumber.ofNat 0).le i.reserved.getValue = true
  reserved_le_stock : i.reserved.getValue.le i.stock.getValue = true

theorem sound_iff (i : Inventory) : Sound i ↔ i.reserved.value ≤ i.stock.value := by
  have le_iff : i.reserved.getValue.le i.stock.getValue = true ↔
      i.reserved.value ≤ i.stock.value := by
    simp [StockQuantity.getValue, JsNumber.le, JsNumber.ge, JsNumber.lt, JsNumber.ofNat]
  rw [← le_iff]
  constructor
  · exact Sound.reserved_le_stock
  · intro h
    refine ⟨?_, ?_, ?_, h⟩
    all_goals simp [StockQuantity.getValue, JsNumber.isInteger, JsNumber.le, JsNumber.ge,
      JsNumber.lt, JsNumber.ofNat]

abbrev Step := InventoryCommand × Date

def step (i : Inventory) (a : Step) : Inventory := (a.1.exec a.2 i).state

def Atomic (i : Inventory) (a : Step) : Prop :=
  ¬ (a.1.exec a.2 i).Returns →
    (step i a).stock = i.stock ∧ (step i a).reserved = i.reserved ∧
      (step i a).updatedAt = i.updatedAt ∧ (step i a).domainEvents = i.domainEvents

def Tears (i : Inventory) (quantity : JsNumber) : Prop :=
  quantity.le (.ofNat 0) = false ∧ i.reserved.getValue.lt quantity = false ∧
    (i.stock.getValue.sub quantity).isInteger = true ∧
    i.stock.getValue.sub quantity ≠ i.stock.getValue ∧
    (i.reserved.getValue.sub quantity).isInteger = false

def Whole (i : Inventory) (a : Step) : Prop :=
  ∀ quantity, a.1 = .confirmReservation quantity → ¬ Tears i quantity

theorem getValue_inj (s t : StockQuantity) (h : s.getValue = t.getValue) : s = t := by
  have values : (s.value : ℚ) = t.value := JsNumber.fin.inj h
  cases s
  cases t
  simpa using values

theorem subtract_ok_iff (s : StockQuantity) (q : JsNumber) (small : s.value < 2 ^ 53)
    (positive : q.le (.ofNat 0) = false) (enough : s.getValue.lt q = false) :
    (∃ s', s.subtract q = .ok s') ↔ (s.getValue.sub q).isInteger = true := by
  have nonneg : (s.getValue.sub q).lt (.ofNat 0) = false := by
    cases q with
    | fin r =>
      have hr := (not_ofNat_lt _ _).mp enough
      rw [not_le_zero] at positive
      have rest : (0 : ℚ) ≤ s.value + -r := by linarith
      have value : s.getValue.sub (.fin r) = .fin (nearest (s.value + -r)) :=
        represent_of_le _ s.value small rest (by linarith)
      rw [value]
      simpa [JsNumber.lt, JsNumber.ofNat] using nearest_nonneg _ rest
    | nan => rfl
    | posInf => cases enough
    | negInf => cases positive
  unfold StockQuantity.subtract
  rw [StockQuantity.create_succeeds_iff, and_iff_left nonneg]

theorem lt_of_le (v s : StockQuantity) (q : JsNumber) (h : v.value ≤ s.value)
    (positive : q.le (.ofNat 0) = false) (enough : v.getValue.lt q = false) :
    s.getValue.lt q = false := by
  cases q with
  | fin r =>
    have hr := (not_ofNat_lt _ _).mp enough
    have within : (v.value : ℚ) ≤ s.value := Nat.cast_le.mpr h
    exact (not_ofNat_lt _ _).mpr (by linarith)
  | nan => rfl
  | posInf => cases enough
  | negInf => cases positive

theorem subtract_error_iff (s : StockQuantity) (q : JsNumber) (small : s.value < 2 ^ 53)
    (positive : q.le (.ofNat 0) = false) (enough : s.getValue.lt q = false) :
    (∃ e, s.subtract q = .error e) ↔ (s.getValue.sub q).isInteger = false := by
  rw [← Bool.not_eq_true, ← subtract_ok_iff s q small positive enough]
  cases s.subtract q with
  | error e => simp
  | ok s' => simp

/-- In a sound inventory a call is atomic just when it tears nothing. -/
theorem atomic_iff (i : Inventory) (a : Step) (h : Sound i) (small : i.stock.value < 2 ^ 53) :
    Atomic i a ↔ Whole i a := by
  obtain ⟨c, now⟩ := a
  rw [sound_iff] at h
  constructor
  · rintro atomic q rfl ⟨positive, reserved, integral, changed, broken⟩
    have covered := lt_of_le i.reserved i.stock q h positive reserved
    obtain ⟨s', first⟩ := (subtract_ok_iff i.stock q small positive covered).mpr integral
    obtain ⟨e, second⟩ := (subtract_error_iff i.reserved q (by omega) positive reserved).mpr broken
    have run : Inventory.confirmReservation q now i = .threw e { i with stock := s' } := by
      simp [Inventory.confirmReservation, positive, reserved, first, second]
    have stock : s' = i.stock := by
      have same := (atomic (by rw [InventoryCommand.exec, run]; simp)).1
      rwa [step, InventoryCommand.exec, run] at same
    exact changed (by rw [(StockQuantity.create_ok_iff _ s').mp first, stock])
  · intro whole threw
    have effect := exec_effect now c i
    unfold step
    generalize InventoryCommand.exec now c i = o at effect threw
    cases effect with
    | threw c e => exact ⟨rfl, rfl, rfl, rfl⟩
    | returned c j sets => exact absurd (Outcome.returns_done j) threw
    | torn q s' e positive reserved first second =>
      have covered := lt_of_le i.reserved i.stock q h positive reserved
      have integral := (subtract_ok_iff i.stock q small positive covered).mp ⟨s', first⟩
      have broken := (subtract_error_iff i.reserved q (by omega) positive reserved).mp ⟨e, second⟩
      have stock : i.stock.getValue.sub q = i.stock.getValue := by
        by_contra changed
        exact whole q rfl ⟨positive, reserved, integral, changed, broken⟩
      have same : s' = i.stock :=
        getValue_inj _ _ (((StockQuantity.create_ok_iff _ s').mp first).symm.trans stock)
      exact ⟨same, rfl, rfl, rfl⟩

/-- Unless it tears the inventory, a call keeps it sound. -/
theorem step_sound (i : Inventory) (a : Step) (h : Sound i) (small : i.stock.value < 2 ^ 53)
    (whole : Whole i a) : Sound (step i a) := by
  have unchanged := (atomic_iff i a h small).mpr whole
  obtain ⟨c, now⟩ := a
  rw [sound_iff] at h ⊢
  have effect := exec_effect now c i
  unfold Atomic step at unchanged
  unfold step
  generalize InventoryCommand.exec now c i = o at effect unchanged
  cases effect with
  | threw c e => exact h
  | returned c j sets => exact sets_le _ _ _ _ _ sets h small
  | torn q s' e =>
    obtain ⟨stock, -⟩ := unchanged (Outcome.not_returns_threw e _)
    rw [Outcome.state_threw] at stock ⊢
    rwa [stock]

inductive Started : Inventory → Prop where
  | created (generated : InventoryId) (productId : String) (initialStock : Option JsNumber)
      (clk : Clock) (i : Inventory)
      (accepted : Inventory.create generated productId initialStock clk = .ok i) : Started i
  | reconstructed (id : String) (props : InventoryProps) (i : Inventory)
      (accepted : Inventory.reconstruct id props = .ok i) : Started i

theorem construct_sound (id : InventoryId) (props : InventoryProps) (i : Inventory)
    (h : Inventory.construct id props = .ok i) : i.reserved.value ≤ i.stock.value := by
  unfold Inventory.construct at h
  split at h
  · cases h
  split at h
  · cases h
  next covered =>
    split at h
    · cases h
    · cases h
    · obtain rfl := Except.ok.inj h
      simpa [StockQuantity.getValue, JsNumber.ofNat, JsNumber.lt] using covered

theorem started_sound (i : Inventory) (h : Started i) : Sound i := by
  rw [sound_iff]
  cases h with
  | created generated productId initialStock clk i accepted =>
    unfold Inventory.create at accepted
    obtain ⟨stock, -, accepted⟩ := (bind_ok_iff _ _ _).mp accepted
    obtain ⟨j, built, accepted⟩ := (bind_ok_iff _ _ _).mp accepted
    obtain rfl := Except.ok.inj accepted
    exact construct_sound _ _ j built
  | reconstructed id props i accepted =>
    obtain ⟨_, -, accepted⟩ := (bind_ok_iff _ _ _).mp accepted
    exact construct_sound _ _ i accepted

/-- In a run with sums below `2 ^ 53`, every state is sound and every call that
throws changes nothing, just when no call confirms a quantity that tears the
inventory it meets. -/
theorem never_oversells_iff (i : Inventory) (started : Started i) (run : List Step)
    (small : Throughout step (fun j => j.stock.value < 2 ^ 53) i run) :
    Throughout step Sound i run ∧ Along step Atomic i run ↔ Along step Whole i run :=
  along_exact step _ Sound Atomic Whole (fun j a small sound => atomic_iff j a sound small)
    (fun j a small sound whole => step_sound j a sound small whole) i run small
    (started_sound i started)

/-- A whole number of units tears nothing. -/
theorem integral_whole (i : Inventory) (n : ℕ) (now : Date) (h : Sound i)
    (small : i.stock.value < 2 ^ 53) : Whole i (.confirmReservation (.ofNat n), now) := by
  rintro q e ⟨positive, reserved, -, -, broken⟩
  obtain rfl := InventoryCommand.confirmReservation.inj e
  rw [sound_iff] at h
  have enough : n ≤ i.reserved.value := by
    simpa [StockQuantity.getValue, JsNumber.ofNat, JsNumber.lt] using reserved
  have difference := available_eq i.reserved ⟨n⟩ enough (by omega)
  unfold StockQuantity.getValue at difference
  rw [StockQuantity.getValue, difference] at broken
  simp [JsNumber.ofNat, JsNumber.isInteger] at broken

section Samples

def sample : Inventory where
  id := .sample
  productId := "p1"
  stock := ⟨4⟩
  reserved := ⟨0⟩
  createdAt := 5
  updatedAt := 5
  domainEvents := [.inventoryCreated UserId.sample.value "p1" (.ofNat 4)]

theorem sample_started : Started sample :=
  .created .sample "p1" (some (.ofNat 4)) (.still 5) sample (by decide +kernel)

def almostTwo : JsNumber := .fin (2 - 1 / 2 ^ 52)

/-- Three units are reserved and confirmed in whole. -/
theorem whole_confirmation_sound :
    Throughout step Sound sample
        [(.reserve (.ofNat 3), 6), (.confirmReservation (.ofNat 3), 7)] ∧
      Along step Atomic sample
        [(.reserve (.ofNat 3), 6), (.confirmReservation (.ofNat 3), 7)] := by
  have small : Throughout step (fun j => j.stock.value < 2 ^ 53) sample
      [(.reserve (.ofNat 3), 6), (.confirmReservation (.ofNat 3), 7)] :=
    by decide +kernel
  have reserving : Whole sample (.reserve (.ofNat 3), 6) := nofun
  have confirming := integral_whole (step sample (.reserve (.ofNat 3), 6)) 3 7
    ((sound_iff _).mpr (by decide +kernel)) small.2.1
  exact (never_oversells_iff sample sample_started _ small).mpr ⟨reserving, confirming, trivial⟩

/-- Three of four units are reserved, and almost two are confirmed: the call
throws, and leaves a stock of two with three reserved. -/
theorem fraction_confirmation_oversells :
    represent (2 - 1 / 2 ^ 52) = almostTwo ∧ Started sample ∧
      Throughout step (fun j => j.stock.value < 2 ^ 53) sample
        [(.reserve (.ofNat 3), 6), (.confirmReservation almostTwo, 7)] ∧
      ¬ Throughout step Sound sample
        [(.reserve (.ofNat 3), 6), (.confirmReservation almostTwo, 7)] ∧
      ¬ Along step Atomic sample
        [(.reserve (.ofNat 3), 6), (.confirmReservation almostTwo, 7)] := by
  have stock : (step (step sample (.reserve (.ofNat 3), 6))
      (.confirmReservation almostTwo, 7)).stock = ⟨2⟩ := by decide +kernel
  have reserved : (step (step sample (.reserve (.ofNat 3), 6))
      (.confirmReservation almostTwo, 7)).reserved = ⟨3⟩ := by decide +kernel
  have threw : ¬ (Inventory.confirmReservation almostTwo 7
      (step sample (.reserve (.ofNat 3), 6))).Returns := by decide +kernel
  refine ⟨by decide +kernel, sample_started, by decide +kernel, fun h => ?_, fun h => ?_⟩
  · have sound := (sound_iff _).mp h.2.2
    rw [stock, reserved] at sound
    exact absurd sound (by decide)
  · have same := (h.2.1 threw).1
    rw [stock] at same
    exact absurd same (by decide +kernel)

end Samples

end KeramikStore.StockInvariant
