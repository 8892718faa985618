import KeramikStore.Inventory.StockInvariant
import KeramikStore.Library.StatusPath

/-!
# The event log of an inventory as a ledger

As long as quantities are whole and sums stay below `2 ^ 53`, every rounded
operation is exact, and a command that throws changes nothing. The adjustments
then lead from the initial stock to the current one, and what was reserved is
released, confirmed or still reserved.
-/

set_option autoImplicit false

namespace KeramikStore.InventoryLedger
open Library Library.Runs Library.StatusPath Library.Binary64 StockInvariant

section Announcements

def depletion (i : Inventory) : List InventoryEvent :=
  if i.isDepleted then [.stockDepleted i.id.getValue i.productId] else []

def announced (i j : Inventory) : InventoryCommand → List InventoryEvent
  | .addStock q reason =>
    [.stockAdjusted i.id.getValue i.productId i.stock.getValue j.stock.getValue q
      (Inventory.reasonOr "Stock added" reason)]
  | .removeStock q reason =>
    .stockAdjusted i.id.getValue i.productId i.stock.getValue j.stock.getValue q.neg
      (Inventory.reasonOr "Stock removed" reason) :: depletion j
  | .setStock q reason =>
    .stockAdjusted i.id.getValue i.productId i.stock.getValue q (q.sub i.stock.getValue)
      (Inventory.reasonOr "Stock set manually" reason) :: depletion j
  | .reserve q =>
    [.stockReserved i.id.getValue i.productId q j.reserved.getValue j.getAvailableStock]
  | .release q =>
    [.stockReleased i.id.getValue i.productId q j.reserved.getValue j.getAvailableStock]
  | .confirmReservation q =>
    .stockAdjusted i.id.getValue i.productId (j.stock.getValue.add q) j.stock.getValue q.neg
      "Reservation confirmed (order fulfilled)" :: depletion j

def Logs (i : Inventory) (c : InventoryCommand) (o : Inventory.Call) : Prop :=
  o.state.domainEvents = i.domainEvents ++ if o.Returns then announced i o.state c else []

theorem logs_threw (i j : Inventory) (c : InventoryCommand) (e : InventoryError)
    (h : j.domainEvents = i.domainEvents) : Logs i c (.threw e j) := by
  unfold Logs
  rw [if_neg (Outcome.not_returns_threw e j), List.append_nil]
  exact h

theorem logs_done (i j : Inventory) (c : InventoryCommand)
    (h : j.domainEvents = i.domainEvents ++ announced i j c) : Logs i c (.done j) := by
  unfold Logs
  rw [if_pos (Outcome.returns_done j)]
  exact h

/-- The last event of a command that may use the stock up. -/
theorem announceDepletion_events (i : Inventory) :
    i.announceDepletion.domainEvents = i.domainEvents ++ depletion i.announceDepletion := by
  unfold Inventory.announceDepletion
  by_cases h : i.isDepleted = true
  · have after : depletion (i.addDomainEvent (.stockDepleted i.id.getValue i.productId)) =
        [.stockDepleted i.id.getValue i.productId] := if_pos h
    rw [if_pos h, after]
    rfl
  · rw [if_neg h, depletion, if_neg h, List.append_nil]

variable (q : JsNumber) (reason : Option String) (now : Date) (i : Inventory)

theorem addStock_logs : Logs i (.addStock q reason) (i.addStock q reason now) := by
  unfold Inventory.addStock
  split
  · exact logs_threw i i _ _ rfl
  · split
    · exact logs_threw i i _ _ rfl
    · exact logs_done i _ _ rfl

theorem removeStock_logs : Logs i (.removeStock q reason) (i.removeStock q reason now) := by
  unfold Inventory.removeStock
  split
  · exact logs_threw i i _ _ rfl
  · split
    · exact logs_threw i i _ _ rfl
    · split
      · exact logs_threw i i _ _ rfl
      · apply logs_done
        rw [announceDepletion_events, announced, stock_announceDepletion]
        exact List.append_assoc _ [_] _

theorem setStock_logs : Logs i (.setStock q reason) (i.setStock q reason now) := by
  unfold Inventory.setStock
  split
  · exact logs_threw i i _ _ rfl
  · split
    · exact logs_threw i i _ _ rfl
    · apply logs_done
      rw [announceDepletion_events]
      exact List.append_assoc _ [_] _

theorem reserve_logs : Logs i (.reserve q) (i.reserve q now) := by
  unfold Inventory.reserve
  split
  · exact logs_threw i i _ _ rfl
  · split
    · exact logs_threw i i _ _ rfl
    · split
      · exact logs_threw i i _ _ rfl
      · exact logs_done i _ _ rfl

theorem release_logs : Logs i (.release q) (i.release q now) := by
  unfold Inventory.release
  split
  · exact logs_threw i i _ _ rfl
  · split
    · exact logs_threw i i _ _ rfl
    · split
      · exact logs_threw i i _ _ rfl
      · exact logs_done i _ _ rfl

/-- The previous stock is computed back from the new one. -/
theorem confirmReservation_logs :
    Logs i (.confirmReservation q) (i.confirmReservation q now) := by
  unfold Inventory.confirmReservation
  split
  · exact logs_threw i i _ _ rfl
  · split
    · exact logs_threw i i _ _ rfl
    · split
      · exact logs_threw i i _ _ rfl
      next s' first =>
        dsimp only
        split
        · exact logs_threw i _ _ _ rfl
        · apply logs_done
          rw [announceDepletion_events, announced, stock_announceDepletion]
          exact List.append_assoc _ [_] _

end Announcements

theorem exec_logs (now : Date) (c : InventoryCommand) (i : Inventory) :
    Logs i c (c.exec now i) := by
  cases c with
  | addStock q reason => exact addStock_logs q reason now i
  | removeStock q reason => exact removeStock_logs q reason now i
  | setStock q reason => exact setStock_logs q reason now i
  | reserve q => exact reserve_logs q now i
  | release q => exact release_logs q now i
  | confirmReservation q => exact confirmReservation_logs q now i

def quantity : InventoryCommand → JsNumber
  | .addStock q _ | .removeStock q _ | .setStock q _ => q
  | .reserve q | .release q | .confirmReservation q => q

def Integral (a : Step) : Prop := ∀ r, quantity a.1 = .fin r → r.den = 1

structure Fits (i : Inventory) (a : Step) : Prop where
  before : i.stock.value < 2 ^ 53
  integral : Integral a
  after : (step i a).stock.value < 2 ^ 53

inductive Moves : InventoryCommand → StockQuantity → StockQuantity → StockQuantity →
    StockQuantity → Prop where
  | addStock (n : ℕ) (reason : Option String) (s v : StockQuantity) :
      Moves (.addStock (.ofNat n) reason) s v ⟨s.value + n⟩ v
  | removeStock (n : ℕ) (reason : Option String) (s v : StockQuantity)
      (enough : v.value + n ≤ s.value) :
      Moves (.removeStock (.ofNat n) reason) s v ⟨s.value - n⟩ v
  | setStock (n : ℕ) (reason : Option String) (s v : StockQuantity) (enough : v.value ≤ n) :
      Moves (.setStock (.ofNat n) reason) s v ⟨n⟩ v
  | reserve (n : ℕ) (s v : StockQuantity) (enough : v.value + n ≤ s.value) :
      Moves (.reserve (.ofNat n)) s v s ⟨v.value + n⟩
  | release (n : ℕ) (s v : StockQuantity) (enough : n ≤ v.value) :
      Moves (.release (.ofNat n)) s v s ⟨v.value - n⟩
  | confirmReservation (n : ℕ) (s v : StockQuantity) (enough : n ≤ v.value)
      (covered : v.value ≤ s.value) :
      Moves (.confirmReservation (.ofNat n)) s v ⟨s.value - n⟩ ⟨v.value - n⟩

theorem eq_of_value (s : StockQuantity) (n : ℕ) (h : (s.value : ℚ) = n) : s = ⟨n⟩ := by
  cases s
  simpa using h

theorem exists_natCast (r : ℚ) (integral : r.den = 1) (positive : 0 < r) : ∃ n : ℕ, r = n := by
  have pos : 0 ≤ r.num := (Rat.num_pos.mpr positive).le
  refine ⟨r.num.toNat, ?_⟩
  rw [← Int.cast_natCast, Int.toNat_of_nonneg pos, Rat.coe_int_num_of_den_eq_one integral]

theorem add_exact (s s' : StockQuantity) (r : ℚ) (integral : r.den = 1) (positive : 0 < r)
    (rounded : (s'.value : ℚ) = nearest (s.value + r)) (small : s'.value < 2 ^ 53) :
    ∃ n : ℕ, r = n ∧ s' = ⟨s.value + n⟩ := by
  obtain ⟨n, rfl⟩ := exists_natCast r integral positive
  refine ⟨n, rfl, eq_of_value s' _ ?_⟩
  rw [← Nat.cast_add] at rounded
  by_cases bounded : s.value + n < 2 ^ 53
  · rw [rounded, nearest_natCast _ bounded]
  · exfalso
    have large : (2 : ℚ) ^ 53 ≤ (s.value + n : ℕ) := by exact_mod_cast not_lt.mp bounded
    have too_large := two_pow_le_nearest _ large
    rw [← rounded] at too_large
    exact absurd small (not_lt.mpr (by exact_mod_cast too_large))

theorem subtract_exact (s s' : StockQuantity) (n : ℕ) (enough : n ≤ s.value)
    (rounded : (s'.value : ℚ) = nearest (s.value - n)) (small : s.value < 2 ^ 53) :
    s' = ⟨s.value - n⟩ := by
  apply eq_of_value
  rw [rounded, ← Nat.cast_sub enough, nearest_natCast _ (by omega)]

theorem sets_moves (c : InventoryCommand) (s v s' v' : StockQuantity) (sets : Sets c s v s' v')
    (covered : v.value ≤ s.value) (small : s.value < 2 ^ 53) (small' : s'.value < 2 ^ 53)
    (integral : ∀ r, quantity c = .fin r → r.den = 1) : Moves c s v s' v' := by
  cases sets with
  | addStock q reason _ _ s' positive sum =>
    obtain ⟨r, rfl, rounded⟩ := add_ok s s' q sum
    rw [not_le_zero] at positive
    obtain ⟨n, rfl, rfl⟩ := add_exact s s' r (integral r rfl) positive rounded small'
    exact .addStock n reason s v
  | removeStock q reason _ _ s' positive available difference =>
    obtain ⟨r, rfl, rounded⟩ := subtract_ok s s' q difference
    rw [not_le_zero] at positive
    obtain ⟨n, rfl⟩ := exists_natCast r (integral r rfl) positive
    rw [available_eq s v covered small, ofNat_ge, Nat.cast_le] at available
    obtain rfl := subtract_exact s s' n (by omega) rounded small
    exact .removeStock n reason s v (by omega)
  | setStock q reason _ _ s' quantity enough =>
    obtain rfl := (StockQuantity.create_ok_iff q s').mp quantity
    have bound : v.value ≤ s'.value := by exact_mod_cast (not_ofNat_lt _ _).mp enough
    exact .setStock s'.value reason s v bound
  | reserve q _ _ v' positive available sum =>
    obtain ⟨r, rfl, rounded⟩ := add_ok v v' q sum
    rw [not_le_zero] at positive
    obtain ⟨n, rfl⟩ := exists_natCast r (integral r rfl) positive
    rw [available_eq s v covered small, ofNat_ge, Nat.cast_le] at available
    have enough : v.value + n ≤ s.value := by omega
    rw [← Nat.cast_add, nearest_natCast _ (by omega)] at rounded
    obtain rfl := eq_of_value v' _ rounded
    exact .reserve n s v enough
  | release q _ _ v' positive reserved difference =>
    obtain ⟨r, rfl, rounded⟩ := subtract_ok v v' q difference
    rw [not_le_zero] at positive
    obtain ⟨n, rfl⟩ := exists_natCast r (integral r rfl) positive
    have enough : n ≤ v.value := by exact_mod_cast (not_ofNat_lt _ _).mp reserved
    obtain rfl := subtract_exact v v' n enough rounded (by omega)
    exact .release n s v enough
  | confirmReservation q _ _ s' v' positive reserved first second =>
    obtain ⟨r, rfl, stock_rounded⟩ := subtract_ok s s' q first
    obtain ⟨r', e, reserved_rounded⟩ := subtract_ok v v' _ second
    obtain rfl := JsNumber.fin.inj e
    rw [not_le_zero] at positive
    obtain ⟨n, rfl⟩ := exists_natCast r (integral r rfl) positive
    have enough : n ≤ v.value := by exact_mod_cast (not_ofNat_lt _ _).mp reserved
    obtain rfl := subtract_exact s s' n (by omega) stock_rounded small
    obtain rfl := subtract_exact v v' n enough reserved_rounded (by omega)
    exact .confirmReservation n s v enough covered

/-- A quantity that is no fraction tears nothing. -/
theorem integral_untorn (i : Inventory) (a : Step) (h : Sound i) (fits : Fits i a) :
    Whole i a := by
  rintro q e ⟨positive, reserved, integral, changed, broken⟩
  have given : quantity a.1 = q := by rw [e]; rfl
  cases q with
  | fin r =>
    rw [not_le_zero] at positive
    obtain ⟨n, rfl⟩ := exists_natCast r (fits.integral r given) positive
    exact integral_whole i n a.2 h fits.before _ rfl
      ⟨(not_le_zero _).mpr positive, reserved, integral, changed, broken⟩
  | nan => cases integral
  | posInf => cases integral
  | negInf => cases positive

inductive Books (i : Inventory) (a : Step) : Prop where
  | threw (thrown : ¬ (a.1.exec a.2 i).Returns) (same : step i a = i)
  | returned (returned : (a.1.exec a.2 i).Returns)
      (moves : Moves a.1 i.stock i.reserved (step i a).stock (step i a).reserved)
      (log : (step i a).domainEvents = i.domainEvents ++ announced i (step i a) a.1)

theorem step_books (i : Inventory) (a : Step) (h : Sound i) (fits : Fits i a) : Books i a := by
  obtain ⟨c, now⟩ := a
  have log := exec_logs now c i
  have effect := exec_effect now c i
  have atomic := (atomic_iff i _ h fits.before).mpr (integral_untorn i (c, now) h fits)
  have small := fits.after
  have result : step i (c, now) = (c.exec now i).state := rfl
  unfold Atomic at atomic
  rw [result] at small atomic
  generalize run : InventoryCommand.exec now c i = o at log effect small result atomic
  cases effect with
  | threw c e =>
    exact .threw (by rw [run]; exact Outcome.not_returns_threw e i) result
  | returned c j sets =>
    have moves := sets_moves c _ _ _ _ sets ((sound_iff i).mp h) fits.before small fits.integral
    unfold Logs at log
    rw [if_pos (Outcome.returns_done j)] at log
    exact .returned (by rw [run]; exact Outcome.returns_done j) (by rw [result]; exact moves)
      (by rw [result]; exact log)
  | torn q s' e =>
    obtain ⟨stock, -⟩ := atomic (Outcome.not_returns_threw e _)
    obtain rfl : s' = i.stock := stock
    exact .threw (by rw [run]; exact Outcome.not_returns_threw e _) result

def stockChange : InventoryEvent → Option (JsNumber × JsNumber)
  | .stockAdjusted _ _ previousStock newStock _ _ => some (previousStock, newStock)
  | _ => none

def Balanced : InventoryEvent → Prop
  | .stockAdjusted _ _ previousStock newStock adjustment _ =>
    ∃ p n d : ℤ, previousStock = .fin p ∧ newStock = .fin n ∧ adjustment = .fin d ∧ n = p + d
  | _ => True

def Tells (j : Inventory) : InventoryEvent → Prop
  | .stockReserved _ _ _ totalReserved availableStock
  | .stockReleased _ _ _ totalReserved availableStock =>
    totalReserved = .ofNat j.reserved.value ∧
      availableStock = .ofNat (j.stock.value - j.reserved.value)
  | _ => True

def amount : JsNumber → ℚ
  | .fin q => q
  | _ => 0

def reserves : InventoryCommand → ℚ
  | .reserve q => amount q
  | _ => 0

def releases : InventoryCommand → ℚ
  | .release q => amount q
  | _ => 0

def confirms : InventoryCommand → ℚ
  | .confirmReservation q => amount q
  | _ => 0

def completed (units : InventoryCommand → ℚ) (i : Inventory) (a : Step) : ℚ :=
  if (a.1.exec a.2 i).Returns then units a.1 else 0

def reservedIn : InventoryEvent → ℚ
  | .stockReserved _ _ quantity _ _ => amount quantity
  | _ => 0

def releasedIn : InventoryEvent → ℚ
  | .stockReleased _ _ quantity _ _ => amount quantity
  | _ => 0

def logged (entry : InventoryEvent → ℚ) (i : Inventory) : ℚ := (i.domainEvents.map entry).sum

structure Adjusted (initialStock : JsNumber) (i : Inventory) : Prop where
  chain : Path (fun _ _ => True) initialStock (i.domainEvents.filterMap stockChange)
    i.stock.getValue
  balanced : ∀ e ∈ i.domainEvents, Balanced e

section Depletion

variable (i : Inventory)

theorem depletion_changes : (depletion i).filterMap stockChange = [] := by
  unfold depletion
  split <;> rfl

theorem mem_depletion (e : InventoryEvent) (h : e ∈ depletion i) :
    e = .stockDepleted i.id.getValue i.productId := by
  unfold depletion at h
  split at h
  · exact List.mem_singleton.mp h
  · exact absurd h List.not_mem_nil

theorem depletion_sum (entry : InventoryEvent → ℚ)
    (h : ∀ id product, entry (.stockDepleted id product) = 0) :
    ((depletion i).map entry).sum = 0 := by
  unfold depletion
  split <;> simp [h]

end Depletion

section Entries

variable (i j : Inventory) (c : InventoryCommand)

theorem confirmed_stock (s : StockQuantity) (n : ℕ) (enough : n ≤ s.value)
    (small : s.value < 2 ^ 53) :
    (StockQuantity.mk (s.value - n)).getValue.add (.ofNat n) = s.getValue := by
  change represent (((s.value - n : ℕ) : ℚ) + n) = _
  rw [← Nat.cast_add, Nat.sub_add_cancel enough, represent_natCast _ small]
  rfl

theorem entry_changes (id product reason : String) (previousStock newStock adjustment : JsNumber) :
    Path (fun _ _ => True) previousStock
      ((.stockAdjusted id product previousStock newStock adjustment reason ::
        depletion j).filterMap stockChange) newStock := by
  change Path _ previousStock
    ((previousStock, newStock) :: (depletion j).filterMap stockChange) newStock
  rw [depletion_changes]
  exact ⟨rfl, trivial, rfl⟩

/-- The adjustments of one command lead from the stock before it to the stock after it. -/
theorem announced_changes (moves : Moves c i.stock i.reserved j.stock j.reserved)
    (small : i.stock.value < 2 ^ 53) :
    Path (fun _ _ => True) i.stock.getValue ((announced i j c).filterMap stockChange)
      j.stock.getValue := by
  generalize before : i.stock = s at moves small
  generalize later : j.stock = s' at moves
  generalize i.reserved = v at moves
  generalize held : j.reserved = v' at moves
  cases moves with
  | addStock n reason =>
    rw [announced, before, later]
    exact ⟨rfl, trivial, rfl⟩
  | removeStock n reason =>
    rw [announced, before, later]
    exact entry_changes j _ _ _ _ _ _
  | setStock n reason =>
    rw [announced, before]
    exact entry_changes j _ _ _ _ _ _
  | reserve n => rfl
  | release n => rfl
  | confirmReservation n _ _ enough covered =>
    rw [announced, later, confirmed_stock s n (enough.trans covered) small]
    exact entry_changes j _ _ _ _ _ _

theorem balanced_removal (id productId reason : String) (s n : ℕ) (enough : n ≤ s) :
    Balanced (.stockAdjusted id productId (.ofNat s) (.ofNat (s - n)) (JsNumber.ofNat n).neg
      reason) := by
  refine ⟨s, (s - n : ℕ), -n, rfl, rfl, ?_, by omega⟩
  simp [JsNumber.ofNat, JsNumber.neg]

theorem balanced_setting (id productId reason : String) (s n : ℕ) (hs : s < 2 ^ 53)
    (hn : n < 2 ^ 53) :
    Balanced (.stockAdjusted id productId (.ofNat s) (.ofNat n) ((JsNumber.ofNat n).sub (.ofNat s))
      reason) :=
  ⟨s, n, n - s, rfl, rfl, represent_sub_natCast n s hn hs, by omega⟩

theorem announced_balanced (moves : Moves c i.stock i.reserved j.stock j.reserved)
    (small : i.stock.value < 2 ^ 53) (small' : j.stock.value < 2 ^ 53) :
    ∀ e ∈ announced i j c, Balanced e := by
  generalize before : i.stock = s at moves small
  generalize later : j.stock = s' at moves small'
  generalize i.reserved = v at moves
  generalize held : j.reserved = v' at moves
  cases moves with
  | addStock n reason =>
    intro e h
    obtain rfl := List.mem_singleton.mp h
    rw [before, later]
    exact ⟨s.value, (s.value + n : ℕ), n, rfl, rfl, rfl, by push_cast; rfl⟩
  | removeStock n reason _ _ enough =>
    intro e h
    rcases List.mem_cons.mp h with rfl | h
    · rw [before, later]
      exact balanced_removal _ _ _ s.value n (by omega)
    · rw [mem_depletion j e h]
      trivial
  | setStock n reason _ _ enough =>
    intro e h
    rcases List.mem_cons.mp h with rfl | h
    · rw [before]
      exact balanced_setting _ _ _ s.value n small small'
    · rw [mem_depletion j e h]
      trivial
  | reserve n =>
    intro e h
    obtain rfl := List.mem_singleton.mp h
    trivial
  | release n =>
    intro e h
    obtain rfl := List.mem_singleton.mp h
    trivial
  | confirmReservation n _ _ enough covered =>
    intro e h
    rcases List.mem_cons.mp h with rfl | h
    · rw [later, confirmed_stock s n (enough.trans covered) small]
      exact balanced_removal _ _ _ s.value n (enough.trans covered)
    · rw [mem_depletion j e h]
      trivial

/-- A command that reserves or releases tells the quantities it leaves. -/
theorem announced_tells (covered : j.reserved.value ≤ j.stock.value)
    (small : j.stock.value < 2 ^ 53) : ∀ e ∈ announced i j c, Tells j e := by
  have available := available_eq j.stock j.reserved covered small
  cases c with
  | addStock q reason =>
    intro e h
    obtain rfl := List.mem_singleton.mp h
    trivial
  | reserve q =>
    intro e h
    obtain rfl := List.mem_singleton.mp h
    exact ⟨rfl, available⟩
  | release q =>
    intro e h
    obtain rfl := List.mem_singleton.mp h
    exact ⟨rfl, available⟩
  | _ =>
    intro e h
    rcases List.mem_cons.mp h with rfl | h
    · trivial
    · rw [mem_depletion j e h]
      trivial

/-- The reservations in the log are those of the commands. -/
theorem announced_reserved : ((announced i j c).map reservedIn).sum = reserves c := by
  have nothing := depletion_sum j reservedIn fun _ _ => rfl
  cases c with
  | addStock | reserve | release => exact add_zero _
  | _ => exact (zero_add _).trans nothing

theorem announced_released : ((announced i j c).map releasedIn).sum = releases c := by
  have nothing := depletion_sum j releasedIn fun _ _ => rfl
  cases c with
  | addStock | reserve | release => exact add_zero _
  | _ => exact (zero_add _).trans nothing

end Entries

section Steps

variable (i : Inventory) (a : Step) (h : Sound i) (fits : Fits i a)

theorem step_adjusted (initialStock : JsNumber) (h : Sound i) (fits : Fits i a)
    (adjusted : Adjusted initialStock i) : Adjusted initialStock (step i a) := by
  cases step_books i a h fits with
  | threw thrown same => rwa [same]
  | returned returned moves log =>
    constructor
    · rw [log, List.filterMap_append]
      exact (path_append _ _ _ _ _).mpr
        ⟨_, adjusted.chain, announced_changes i _ a.1 moves fits.before⟩
    · intro e he
      rw [log] at he
      rcases List.mem_append.mp he with he | he
      · exact adjusted.balanced e he
      · exact announced_balanced i _ a.1 moves fits.before fits.after e he

/-- The reserved quantity grows by what is reserved, and falls by what is released or
confirmed. -/
theorem step_reserved (h : Sound i) (fits : Fits i a) :
    ((step i a).reserved.value : ℚ) = i.reserved.value +
      (completed reserves i a - completed releases i a - completed confirms i a) := by
  cases step_books i a h fits with
  | threw thrown same =>
    unfold completed
    rw [same, if_neg thrown, if_neg thrown, if_neg thrown]
    ring
  | returned returned moves log =>
    unfold completed
    rw [if_pos returned, if_pos returned, if_pos returned]
    generalize (step i a).reserved = v' at moves
    generalize (step i a).stock = s' at moves
    generalize i.reserved = v at moves
    generalize i.stock = s at moves
    generalize a.1 = c at moves
    cases moves with
    | reserve n => simp [reserves, releases, confirms, amount, JsNumber.ofNat]
    | release n _ _ enough =>
      simp [reserves, releases, confirms, amount, JsNumber.ofNat, Nat.cast_sub enough]
      ring
    | confirmReservation n _ _ enough =>
      simp [reserves, releases, confirms, amount, JsNumber.ofNat, Nat.cast_sub enough]
      ring
    | _ => simp [reserves, releases, confirms]

theorem step_logged (entry : InventoryEvent → ℚ) (units : InventoryCommand → ℚ)
    (entries : ∀ j, ((announced i j a.1).map entry).sum = units a.1) (h : Sound i)
    (fits : Fits i a) : logged entry (step i a) = logged entry i + completed units i a := by
  unfold completed
  cases step_books i a h fits with
  | threw thrown same => rw [same, if_neg thrown, add_zero]
  | returned returned moves log =>
    rw [if_pos returned, logged, log, List.map_append, List.sum_append, entries]
    rfl

theorem step_sound_of_fits (h : Sound i) (fits : Fits i a) : Sound (step i a) :=
  step_sound i a h fits.before (integral_untorn i a h fits)

def Announces : Prop :=
  ∃ events, (step i a).domainEvents = i.domainEvents ++ events ∧ ∀ e ∈ events, Tells (step i a) e

theorem step_announces (h : Sound i) (fits : Fits i a) : Announces i a := by
  cases step_books i a h fits with
  | threw thrown same =>
    refine ⟨[], by rw [same, List.append_nil], ?_⟩
    intro e member
    exact absurd member List.not_mem_nil
  | returned returned moves log =>
    have sound := (sound_iff _).mp (step_sound_of_fits i a h fits)
    exact ⟨_, log, announced_tells i _ a.1 sound fits.after⟩

end Steps

structure Ledger (initialStock : JsNumber) (i : Inventory) (run : List Step) : Prop where
  adjusted : Adjusted initialStock (after step i run)
  reserved : ((after step i run).reserved.value : ℚ) =
    total step (completed reserves) i run - total step (completed releases) i run -
      total step (completed confirms) i run
  covered : total step (completed releases) i run + total step (completed confirms) i run ≤
    total step (completed reserves) i run
  reserved_log : logged reservedIn (after step i run) = total step (completed reserves) i run
  released_log : logged releasedIn (after step i run) = total step (completed releases) i run

theorem construct_fields (id : InventoryId) (props : InventoryProps) (i : Inventory)
    (h : Inventory.construct id props = .ok i) :
    i.stock = props.stock ∧ i.reserved = props.reserved ∧ i.domainEvents = [] := by
  unfold Inventory.construct at h
  split at h
  · cases h
  split at h
  · cases h
  split at h
  · cases h
  · cases h
  · obtain rfl := Except.ok.inj h
    exact ⟨rfl, rfl, rfl⟩

section Runs

variable (generated : InventoryId) (productId : String) (initialStock : Option JsNumber)
  (clk : Clock) (i : Inventory) (run : List Step)

theorem created_fields (h : Inventory.create generated productId initialStock clk = .ok i) :
    i.stock.getValue = initialStock.getD (.ofNat 0) ∧ i.reserved = .zero ∧
      i.domainEvents = [.inventoryCreated generated.getValue productId
        (initialStock.getD (.ofNat 0))] := by
  unfold Inventory.create at h
  obtain ⟨stock, quantity, h⟩ := (bind_ok_iff _ _ _).mp h
  obtain ⟨j, built, h⟩ := (bind_ok_iff _ _ _).mp h
  obtain rfl := Except.ok.inj h
  obtain ⟨stocked, reserved, silent⟩ := construct_fields _ _ j built
  refine ⟨?_, reserved, ?_⟩
  · rw [(StockQuantity.create_ok_iff _ _).mp quantity]
    exact congrArg _ stocked
  · dsimp only
    rw [silent]
    rfl

/-- The commands of the run meet sound inventories whose quantities fit. -/
theorem run_fits (h : Sound i) (small : Throughout step (fun j => j.stock.value < 2 ^ 53) i run)
    (integral : ∀ a ∈ run, Integral a) :
    Along step (fun j a => Sound j ∧ Fits j a) i run := by
  have fits : Along step Fits i run :=
    along_mono step _ _ (fun j a ok => ⟨ok.1.1, ok.2, ok.1.2⟩) i run <|
      (along_and step _ _ i run).mpr
        ⟨along_of_throughout step _ i run small, along_of_mem step Integral i run integral⟩
  have sound := throughout_of_step step Sound Fits step_sound_of_fits i run h fits
  exact along_mono step _ _ (fun j a ok => ⟨ok.1.1, ok.2⟩) i run <|
    (along_and step _ _ i run).mpr ⟨along_of_throughout step _ i run sound, fits⟩

theorem run_ledger (initial : JsNumber) (adjusted : Adjusted initial i)
    (unreserved : i.reserved = .zero) (reserved_log : logged reservedIn i = 0)
    (released_log : logged releasedIn i = 0)
    (booked : Along step (fun j a => Sound j ∧ Fits j a) i run) : Ledger initial i run := by
  have reserved := after_eq_total step _ (fun j => (j.reserved.value : ℚ)) _
    (fun j a ok => step_reserved j a ok.1 ok.2) i run booked
  rw [total_sub, total_sub, unreserved, StockQuantity.zero, Nat.cast_zero, zero_add] at reserved
  have held : (0 : ℚ) ≤ (after step i run).reserved.value := Nat.cast_nonneg _
  refine ⟨?_, reserved, by linarith, ?_, ?_⟩
  · exact throughout_end step _ i run
      (throughout_of_step step _ _ (fun j a ok fits => step_adjusted j a initial fits.1 fits.2 ok)
        i run adjusted booked)
  · rw [after_eq_total step (completed reserves) (logged reservedIn) _
      (fun j a ok => step_logged j a _ _ (fun k => announced_reserved j k a.1) ok.1 ok.2) i run
      booked, reserved_log, zero_add]
  · rw [after_eq_total step (completed releases) (logged releasedIn) _
      (fun j a ok => step_logged j a _ _ (fun k => announced_released j k a.1) ok.1 ok.2) i run
      booked, released_log, zero_add]

/-- After every part of a run of commands in whole numbers, the log of an inventory is
an exact account of its stock and of what is reserved. -/
theorem ledger_exact (created : Inventory.create generated productId initialStock clk = .ok i)
    (small : Throughout step (fun j => j.stock.value < 2 ^ 53) i run)
    (integral : ∀ a ∈ run, Integral a) :
    (∀ before later, run = before ++ later →
        Ledger (initialStock.getD (.ofNat 0)) i before) ∧
      Along step Announces i run := by
  obtain ⟨stock, reserved, log⟩ := created_fields generated productId initialStock clk i created
  have booked := run_fits i run (started_sound i (.created _ _ _ _ i created)) small integral
  constructor
  · rintro before later rfl
    apply run_ledger i before
    · constructor
      · rw [log, ← stock]
        rfl
      · intro e h
        rw [log] at h
        obtain rfl := List.mem_singleton.mp h
        trivial
    · exact reserved
    · rw [logged, log]
      exact add_zero _
    · rw [logged, log]
      exact add_zero _
    · exact ((along_append step _ i before later).mp booked).1
  · exact along_mono step _ _ (fun j a ok => step_announces j a ok.1 ok.2) i run booked

end Runs

section Samples

def sampleRun : List Step :=
  [(.setStock (.ofNat 7) none, 6), (.reserve (.ofNat 3), 7), (.reserve (.ofNat 9), 8),
    (.confirmReservation (.ofNat 2), 9)]

theorem sample_integral : ∀ a ∈ sampleRun, Integral a := by
  have integral : ∀ n : ℕ, ∀ r, JsNumber.ofNat n = .fin r → r.den = 1 := by
    intro n r e
    rw [← JsNumber.fin.inj e]
    exact Rat.den_natCast n
  intro a h
  simp only [sampleRun, List.mem_cons, List.not_mem_nil, or_false] at h
  rcases h with rfl | rfl | rfl | rfl <;> exact integral _

theorem sample_ledger :
    (∀ before later, sampleRun = before ++ later → Ledger (.ofNat 4) sample before) ∧
      Along step Announces sample sampleRun :=
  ledger_exact .sample "p1" (some (.ofNat 4)) (.still 5) sample sampleRun (by decide +kernel)
    (by decide +kernel) sample_integral

end Samples

end KeramikStore.InventoryLedger
