import KeramikStore.Cart.EventFold

/-!
# Additions to a cart

A product that is new to the cart comes with a quantity that has been checked. For a
product that is there already only the sum is checked, so an amount that is no positive
integer can be added to it, and a negative one takes items away.
-/

set_option autoImplicit false

namespace KeramikStore.CartAdditions
open Library Library.Runs Library.ObjectList CartEvents

section Quantities

theorem ofNat_inj {m n : ℕ} (h : JsNumber.ofNat m = .ofNat n) : m = n :=
  Nat.cast_injective (JsNumber.fin.inj h)

theorem create_ofNat (n : ℕ) (positive : 0 < n) (bounded : n ≤ 9999) :
    ∃ a, Quantity.create (.ofNat n) = .ok a ∧ a.value = n := by
  cases made : Quantity.create (.ofNat n) with
  | ok a => exact ⟨a, rfl, (ofNat_inj (Quantity.create_ok _ a made)).symm⟩
  | error e =>
    have least : (0 : ℚ) < n := by exact_mod_cast positive
    have most : (n : ℚ) ≤ 9999 := by exact_mod_cast bounded
    unfold Quantity.create at made
    split at made
    next fractional => simp [JsNumber.isInteger, JsNumber.ofNat] at fractional
    split at made
    next low => exact absurd low (by simp [JsNumber.le, JsNumber.ge, JsNumber.lt, JsNumber.ofNat,
      positive])
    split at made
    next high => exact absurd high (by simpa [JsNumber.lt, JsNumber.ofNat] using most)
    cases made

/-- The sum of a quantity and a positive integer is accepted just where it is small. -/
theorem add_ofNat_iff (v n : ℕ) (positive : 0 < n) (a : Quantity) :
    Quantity.create ((JsNumber.ofNat v).add (.ofNat n)) = .ok a ↔
      a.value = v + n ∧ v + n ≤ 9999 := by
  have exact : (JsNumber.ofNat v).add (.ofNat n) = Binary64.represent ((v + n : ℕ) : ℚ) := by
    rw [Nat.cast_add]
    rfl
  rw [exact]
  by_cases small : v + n < 2 ^ 53
  · have kept : Binary64.represent ((v + n : ℕ) : ℚ) = .ofNat (v + n) :=
      Binary64.represent_natCast _ small
    rw [kept]
    constructor
    · intro made
      have value := ofNat_inj (Quantity.create_ok _ a made)
      exact ⟨value.symm, value.trans_le a.bounded⟩
    · rintro ⟨value, bounded⟩
      obtain ⟨b, made, same⟩ := create_ofNat (v + n) (Nat.add_pos_right v positive) bounded
      rw [made]
      obtain ⟨_, _, _⟩ := a
      obtain ⟨_, _, _⟩ := b
      obtain rfl := same.trans value.symm
      rfl
  · have large : 2 ^ 53 ≤ v + n := not_lt.mp small
    constructor
    · intro made
      have value := Binary64.represent_eq_fin _ _ (Quantity.create_ok _ a made)
      have least : (2 ^ 53 : ℚ) ≤ a.value := by
        rw [value]
        exact Binary64.two_pow_le_nearest _ (by exact_mod_cast large)
      have huge : 2 ^ 53 ≤ a.value := by exact_mod_cast least
      exact absurd (huge.trans a.bounded) (by decide)
    · rintro ⟨-, bounded⟩
      omega

end Quantities

section Calls

structure Grown (productId : String) (n : ℕ) (c c' : Cart) : Prop where
  total : c'.getTotalQuantity = c.getTotalQuantity + n
  product : ((c'.findItemByProductId productId).elim 0 fun i => i.quantity.value) =
    ((c.findItemByProductId productId).elim 0 fun i => i.quantity.value) + n
  others : c'.items.eraseP (·.isForProduct productId) =
    c.items.eraseP (·.isForProduct productId)

structure Exact (generated : CartItemId) (productId : String) (quantity : JsNumber) (clk : Clock)
    (c : Cart) : Prop where
  grown : (c.addItem generated productId quantity clk).Returns → ∃ n : ℕ, 0 < n ∧
    quantity = .ofNat n ∧ Grown productId n c (c.addItem generated productId quantity clk).state
  admitted : ∀ item ∈ c.findItemByProductId productId, ∀ q, Quantity.create quantity = .ok q →
    item.quantity.value + q.value ≤ 9999 → (c.addItem generated productId quantity clk).Returns

def isPositiveInteger (quantity : JsNumber) : Bool :=
  quantity.isInteger && !quantity.le (.ofNat 0)

def Checked (productId : String) (quantity : JsNumber) (c : Cart) : Prop :=
  ∀ item ∈ c.findItemByProductId productId,
    isPositiveInteger quantity = true ∨ (item.quantity.add quantity).isOk = false

theorem isPositiveInteger_iff (quantity : JsNumber) :
    isPositiveInteger quantity = true ↔ ∃ n : ℕ, 0 < n ∧ quantity = .ofNat n := by
  constructor
  · intro h
    unfold isPositiveInteger at h
    cases quantity with
    | fin q =>
      have parts : q.den = 1 ∧ 0 < q := by
        simpa [JsNumber.isInteger, JsNumber.le, JsNumber.ge, JsNumber.lt, JsNumber.ofNat] using h
      have whole : q = q.num := (Rat.coe_int_num_of_den_eq_one parts.1).symm
      have positive : 0 < q.num := Rat.num_pos.mpr parts.2
      refine ⟨q.num.toNat, by omega, congrArg JsNumber.fin ?_⟩
      rw [← Int.cast_natCast, Int.toNat_of_nonneg positive.le]
      exact whole
    | _ => cases h
  · rintro ⟨n, positive, rfl⟩
    simpa [isPositiveInteger, JsNumber.isInteger, JsNumber.le, JsNumber.ge, JsNumber.lt,
      JsNumber.ofNat] using positive

variable (generated : CartItemId) (productId : String) (quantity : JsNumber) (clk : Clock)
  (c : Cart)

theorem isForProduct_eq (i j : CartItem) (h : i.productId = j.productId) :
    i.isForProduct productId = j.isForProduct productId := by
  unfold CartItem.isForProduct
  rw [h]

theorem requantified_grown (old new : CartItem) (n : ℕ) (c' : Cart)
    (found : c.findItemByProductId productId = some old) (same : new.productId = old.productId)
    (value : new.quantity.value = old.quantity.value + n)
    (items : c'.items = replaceFirst (CartItem.isForProduct productId) new c.items) :
    Grown productId n c c' := by
  have finds : new.isForProduct productId = true :=
    (isForProduct_eq productId new old same).trans
      (List.find?_some (p := fun i : CartItem => i.isForProduct productId) found)
  refine ⟨?_, ?_, ?_⟩
  · have sum := sum_replaceFirst (CartItem.isForProduct productId) old new
      (fun i => i.quantity.value) c.items found
    unfold Cart.getTotalQuantity
    rw [items]
    omega
  · have now_found : c'.findItemByProductId productId = some new := by
      unfold Cart.findItemByProductId
      rw [items]
      exact find_replaceFirst _ old new finds c.items found
    rw [now_found, found]
    exact value
  · rw [items]
    exact eraseP_replaceFirst _ new finds c.items

theorem appended_grown (new : CartItem) (c' : Cart)
    (absent : c.findItemByProductId productId = none) (product : new.productId = productId)
    (items : c'.items = c.items ++ [new]) : Grown productId new.quantity.value c c' := by
  have finds : new.isForProduct productId = true := beq_iff_eq.mpr product
  have others : ∀ i ∈ c.items, ¬ i.isForProduct productId = true :=
    fun i mem => List.find?_eq_none.mp absent i mem
  refine ⟨?_, ?_, ?_⟩
  · unfold Cart.getTotalQuantity
    rw [items, List.map_append, List.sum_append]
    rfl
  · have now_found : c'.findItemByProductId productId = some new := by
      unfold Cart.findItemByProductId at absent ⊢
      rw [items, List.find?_append, absent, Option.none_or]
      exact List.find?_cons_of_pos finds
    rw [now_found, absent]
    exact (Nat.zero_add _).symm
  · rw [items, List.eraseP_append_right _ fun i mem => others i mem,
      List.eraseP_cons_of_pos finds, List.append_nil, List.eraseP_of_forall_not others]

theorem new_exact (absent : c.findItemByProductId productId = none) :
    Exact generated productId quantity clk c := by
  refine ⟨fun returned => ?_, fun item there => ?_⟩
  · unfold Cart.addItem at returned ⊢
    rw [absent] at returned ⊢
    dsimp only at returned ⊢
    cases created : CartItem.create generated productId quantity clk with
    | error e =>
      rw [created] at returned
      exact absurd returned (Outcome.not_returns_threw e c)
    | ok new =>
      obtain ⟨q, accepted, made⟩ := (bind_ok_iff _ _ _).mp created
      obtain rfl := Except.ok.inj made
      refine ⟨q.value, q.positive, Quantity.create_ok quantity q accepted, ?_⟩
      exact appended_grown productId c ⟨generated, productId, q, clk.read 0, clk.read 1⟩ _ absent
        rfl rfl
  · rw [absent] at there
    cases there

/-- An addition to a product of the cart returns just where the sum is a quantity. -/
theorem addItem_found (old : CartItem) (found : c.findItemByProductId productId = some old) :
    (∃ e, old.quantity.add quantity = .error e ∧
      c.addItem generated productId quantity clk = .threw e c) ∨
    ∃ q c', old.quantity.add quantity = .ok q ∧
      c.addItem generated productId quantity clk = .done c' ∧
      c'.items = replaceFirst (·.isForProduct productId)
        { old with quantity := q, updatedAt := clk.read 0 } c.items := by
  unfold Cart.addItem CartItem.increaseQuantity
  rw [found]
  dsimp only
  cases old.quantity.add quantity with
  | error e => exact .inl ⟨e, rfl, rfl⟩
  | ok q => exact .inr ⟨q, _, rfl, rfl, rfl⟩

theorem found_exact_iff (old : CartItem) (found : c.findItemByProductId productId = some old) :
    Exact generated productId quantity clk c ↔
      isPositiveInteger quantity = true ∨ (old.quantity.add quantity).isOk = false := by
  rcases addItem_found generated productId quantity clk c old found with
    ⟨e, refused, call⟩ | ⟨q, c', accepted, call, items⟩
  · rw [refused]
    refine iff_of_true ⟨fun returned => ?_, fun item there a made room => ?_⟩ (.inr rfl)
    · rw [call] at returned
      exact absurd returned (Outcome.not_returns_threw e c)
    · obtain rfl := Option.some.inj (found.symm.trans there)
      obtain rfl := Quantity.create_ok quantity a made
      obtain ⟨b, sum, value⟩ := create_ofNat (old.quantity.value + a.value)
        (Nat.add_pos_right _ a.positive) room
      have added := (add_ofNat_iff old.quantity.value a.value a.positive b).mpr ⟨value, room⟩
      exact absurd (refused.symm.trans added) nofun
  · have returned : (c.addItem generated productId quantity clk).Returns := by
      rw [call]
      exact Outcome.returns_done c'
    rw [accepted, or_iff_left (by exact nofun), isPositiveInteger_iff]
    constructor
    · intro exact
      obtain ⟨n, positive, given, -⟩ := exact.grown returned
      exact ⟨n, positive, given⟩
    · rintro ⟨n, positive, rfl⟩
      refine ⟨fun _ => ⟨n, positive, rfl, ?_⟩, fun _ _ _ _ _ => returned⟩
      obtain ⟨value, -⟩ := (add_ofNat_iff old.quantity.value n positive q).mp accepted
      rw [call]
      exact requantified_grown productId c old
        { old with quantity := q, updatedAt := clk.read 0 } n c' found rfl value items

theorem addition_exact_iff :
    Exact generated productId quantity clk c ↔ Checked productId quantity c := by
  unfold Checked
  cases found : c.findItemByProductId productId with
  | none => exact iff_of_true (new_exact generated productId quantity clk c found) nofun
  | some old =>
    rw [found_exact_iff generated productId quantity clk c old found]
    simp

end Calls

section Runs

def AddsExactly (c : Cart) (a : Step) : Prop :=
  ∀ generated productId quantity, a.1 = .addItem generated productId quantity →
    Exact generated productId quantity a.2 c

def AddsChecked (c : Cart) (a : Step) : Prop :=
  ∀ generated productId quantity, a.1 = .addItem generated productId quantity →
    Checked productId quantity c

/-- In a run of the commands from any cart, every addition that returns adds its positive
integer and no more, and is refused no sooner than for a new product, just when no amount
but a positive integer makes up a quantity with that of a product of the cart. -/
theorem additions_exact_iff (c : Cart) (run : List Step) :
    Along step AddsExactly c run ↔ Along step AddsChecked c run :=
  along_congr step _ _ (fun d a => forall_congr' fun generated => forall_congr' fun productId =>
    forall_congr' fun quantity => imp_congr_right fun _ =>
      addition_exact_iff generated productId quantity a.2 d) c run

end Runs

section Samples

/-- An addition of minus two to a product with five in the cart takes two away. -/
theorem negative_addition_takes :
    Cart.create .sample "u1" (.still 5) = .ok sampleCart ∧
      (Cart.addItem .second "p1" (.fin (-2)) (.still 7)
        (after step sampleCart [(.addItem .sample "p1" (.ofNat 5), .still 6)])).Returns ∧
      (after step sampleCart [(.addItem .sample "p1" (.ofNat 5), .still 6),
        (.addItem .second "p1" (.fin (-2)), .still 7)]).getTotalQuantity = 3 ∧
      (Quantity.create (.fin (-2))).isOk = false ∧
      ¬ Exact .second "p1" (.fin (-2)) (.still 7)
        (after step sampleCart [(.addItem .sample "p1" (.ofNat 5), .still 6)]) := by
  have returned : (Cart.addItem .second "p1" (.fin (-2)) (.still 7)
      (after step sampleCart [(.addItem .sample "p1" (.ofNat 5), .still 6)])).Returns := by
    decide +kernel
  refine ⟨by decide +kernel, returned, by decide +kernel, by decide +kernel, fun exact => ?_⟩
  obtain ⟨n, -, given, -⟩ := exact.grown returned
  have value : (-2 : ℚ) = n := JsNumber.fin.inj given
  have nonneg : (0 : ℚ) ≤ n := n.cast_nonneg
  linarith

end Samples

end KeramikStore.CartAdditions
