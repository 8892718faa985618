import KeramikStore.Cart.Cart
import KeramikStore.Library.Runs

/-!
# A cart is the fold of its events

The events say which entry of the cart is appended, requantified or removed by its
identifier. The commands search the items by identifier or by product, so the two
agree because identifiers and products tell the items apart.
-/

set_option autoImplicit false

namespace KeramikStore.CartEvents
open Library Library.Runs Library.ObjectList

structure Entry where
  id : String
  productId : String
  quantity : JsNumber
deriving DecidableEq

def entry (i : CartItem) : Entry := ⟨i.id.getValue, i.productId, i.quantity.getValue⟩

def entries (c : Cart) : List Entry := c.items.map entry

def Entry.requantified (id : String) (quantity : JsNumber) (e : Entry) : Entry :=
  if e.id = id then { e with quantity := quantity } else e

def replay (es : List Entry) : CartEvent → List Entry
  | .cartCreated .. => es
  | .itemAdded _ id productId quantity => es ++ [⟨id, productId, quantity⟩]
  | .itemRemoved _ id _ => es.filter (·.id ≠ id)
  | .quantityUpdated _ id _ _ newQuantity => es.map (·.requantified id newQuantity)
  | .cleared .. => []

def Consistent (es : List Entry) : CartEvent → Prop
  | .quantityUpdated _ id productId oldQuantity _ => ⟨id, productId, oldQuantity⟩ ∈ es
  | .cleared _ _ itemCount => itemCount = es.length
  | .cartCreated .. | .itemAdded .. | .itemRemoved .. => True

abbrev Step := CartCommand × Clock

def step (c : Cart) (a : Step) : Cart := (a.1.exec a.2 c).state

def drawn (c : Cart) : CartCommand → Option CartItemId
  | .addItem generated productId _ =>
    if (c.findItemByProductId productId).isNone then some generated else none
  | _ => none

def generatedIds : Cart → List Step → List CartItemId
  | _, [] => []
  | c, a :: run => (drawn c a.1).toList ++ generatedIds (step c a) run

section Effects

def announced (c : Cart) (items : List CartItem) (now : Date) (e : CartEvent) : Cart :=
  (Cart.applyChange now { c with items := items }).addDomainEvent e

inductive Effect (c : Cart) (a : CartCommand) : Cart.Call → Prop where
  | threw (e : CartError) : Effect c a (.threw e c)
  | kept : Effect c a (.done c)
  | added (new : CartItem) (now : Date) (fresh : drawn c a = some new.id)
      (absent : c.findItemByProductId new.productId = none) :
      Effect c a (.done (announced c (c.items ++ [new]) now
        (.itemAdded c.id.getValue new.id.getValue new.productId new.quantity.getValue)))
  | requantified (p : CartItem → Bool) (old new : CartItem) (now : Date)
      (found : c.items.find? p = some old) (sameId : new.id = old.id)
      (sameProduct : new.productId = old.productId) :
      Effect c a (.done (announced c (replaceFirst p new c.items) now
        (.quantityUpdated c.id.getValue old.id.getValue old.productId old.quantity.getValue
          new.quantity.getValue)))
  | removed (p : CartItem → Bool) (old : CartItem) (now : Date)
      (found : c.items.find? p = some old) :
      Effect c a (.done (announced c (c.items.eraseP p) now
        (.itemRemoved c.id.getValue old.id.getValue old.productId)))
  | cleared (now : Date) :
      Effect c a (.done (announced c [] now (.cleared c.id.getValue c.userId c.items.length)))

theorem requantify_ok (quantity : JsNumber) (now : Date) (old new : CartItem)
    (h : old.updateQuantity quantity now = .ok new) :
    new.id = old.id ∧ new.productId = old.productId ∧ new.quantity.getValue = quantity := by
  obtain ⟨q, accepted, h⟩ := (bind_ok_iff _ _ _).mp h
  obtain rfl := Except.ok.inj h
  exact ⟨rfl, rfl, (Quantity.create_ok quantity q accepted).symm⟩

theorem increase_eq_update (amount : JsNumber) (now : Date) (i : CartItem) :
    i.increaseQuantity amount now = i.updateQuantity (i.quantity.getValue.add amount) now := rfl

variable (c : Cart) (clk : Clock)

theorem addItem_effect (generated : CartItemId) (productId : String) (quantity : JsNumber) :
    Effect c (.addItem generated productId quantity)
      (c.addItem generated productId quantity clk) := by
  unfold Cart.addItem
  cases search : c.findItemByProductId productId with
  | some old =>
    have product : old.productId = productId := by
      simpa [CartItem.isForProduct] using List.find?_some search
    dsimp only
    cases increased : old.increaseQuantity quantity (clk.read 0) with
    | error e => exact .threw e
    | ok new =>
      rw [increase_eq_update] at increased
      obtain ⟨sameId, sameProduct, -⟩ := requantify_ok _ _ old new increased
      have effect := Effect.requantified (a := .addItem generated productId quantity)
        _ old new (clk.read 1) search sameId sameProduct
      rw [product, ← sameId] at effect
      exact effect
  | none =>
    dsimp only
    cases created : CartItem.create generated productId quantity clk with
    | error e => exact .threw e
    | ok new =>
      obtain ⟨q, accepted, h⟩ := (bind_ok_iff _ _ _).mp created
      obtain rfl := Except.ok.inj h
      have fresh : drawn c (.addItem generated productId quantity) = some generated := by
        simp [drawn, search]
      have effect := Effect.added (a := .addItem generated productId quantity)
        ⟨generated, productId, q, clk.read 0, clk.read 1⟩ (clk.read 2) fresh search
      rw [← Quantity.create_ok quantity q accepted] at effect
      exact effect

theorem removeItem_effect (a : CartCommand) (cartItemId : String) :
    Effect c a (c.removeItem cartItemId clk) := by
  unfold Cart.removeItem
  cases search : c.findItemById cartItemId with
  | none => exact .threw _
  | some old => exact .removed _ old (clk.read 0) search

theorem removeItemByProductId_effect (a : CartCommand) (productId : String) :
    Effect c a (c.removeItemByProductId productId clk) := by
  unfold Cart.removeItemByProductId
  cases c.findItemByProductId productId with
  | none => exact .threw _
  | some item => exact removeItem_effect c clk a item.id.getValue

theorem updateItemQuantity_effect (a : CartCommand) (cartItemId : String)
    (newQuantity : JsNumber) : Effect c a (c.updateItemQuantity cartItemId newQuantity clk) := by
  unfold Cart.updateItemQuantity
  cases search : c.findItemById cartItemId with
  | none => exact .threw _
  | some old =>
    dsimp only
    cases updated : old.updateQuantity newQuantity (clk.read 0) with
    | error e => exact .threw e
    | ok new =>
      obtain ⟨sameId, sameProduct, value⟩ := requantify_ok _ _ old new updated
      have effect := Effect.requantified (a := a) _ old new (clk.read 1) search sameId sameProduct
      rw [value] at effect
      exact effect

theorem clear_effect (a : CartCommand) : Effect c a (c.clear clk) := by
  unfold Cart.clear
  split
  · exact .kept
  · exact .cleared (clk.read 0)

theorem exec_effect (a : CartCommand) : Effect c a (a.exec clk c) := by
  cases a with
  | addItem generated productId quantity => exact addItem_effect c clk generated productId quantity
  | removeItem cartItemId => exact removeItem_effect c clk _ cartItemId
  | removeItemByProductId productId => exact removeItemByProductId_effect c clk _ productId
  | updateItemQuantity cartItemId newQuantity =>
    exact updateItemQuantity_effect c clk _ cartItemId newQuantity
  | clear => exact clear_effect c clk _

end Effects

section Identifiers

def ids (c : Cart) : List CartItemId := c.items.map (·.id)

/-- A step adds to the identifiers of a cart only the one that it generates. -/
theorem step_ids (c : Cart) (a : Step) :
    (ids (step c a)).Sublist (ids c ++ (drawn c a.1).toList) := by
  obtain ⟨command, clk⟩ := a
  have effect := exec_effect c clk command
  unfold step
  dsimp only
  generalize command.exec clk c = call at effect
  cases effect with
  | threw e => exact List.sublist_append_left _ _
  | kept => exact List.sublist_append_left _ _
  | added new now fresh absent =>
    rw [fresh]
    change ((c.items ++ [new]).map (·.id)).Sublist _
    rw [List.map_append]
    exact List.Sublist.refl _
  | requantified p old new now found sameId =>
    change ((replaceFirst p new c.items).map (·.id)).Sublist _
    rw [map_replaceFirst p old new (·.id) c.items found sameId]
    exact List.sublist_append_left _ _
  | removed p old now found =>
    exact (List.eraseP_sublist.map _).trans (List.sublist_append_left _ _)
  | cleared now => exact List.nil_sublist _

def Apart (c : Cart) (a : Step) : Prop := (ids c ++ (drawn c a.1).toList).Nodup

theorem run_apart (c : Cart) (run : List Step) (h : (ids c ++ generatedIds c run).Nodup) :
    Along step Apart c run := by
  induction run generalizing c with
  | nil => trivial
  | cons a run ih =>
    unfold generatedIds at h
    rw [← List.append_assoc] at h
    refine ⟨(List.nodup_append.mp h).1, ih (step c a) ?_⟩
    exact h.sublist ((step_ids c a).append (List.Sublist.refl _))

end Identifiers

section Fold

structure FoldOfEvents (c : Cart) : Prop where
  rebuilt : after replay [] c.domainEvents = entries c
  consistent : Along replay Consistent [] c.domainEvents
  identifiers : (ids c).Nodup
  products : (c.items.map (·.productId)).Nodup

/-- What a command announces must turn the entries of the cart into the new ones. -/
theorem announced_fold (c : Cart) (h : FoldOfEvents c) (items : List CartItem) (now : Date)
    (e : CartEvent) (replayed : replay (entries c) e = items.map entry)
    (fits : Consistent (entries c) e) (identifiers : (items.map (·.id)).Nodup)
    (products : (items.map (·.productId)).Nodup) : FoldOfEvents (announced c items now e) := by
  refine ⟨?_, ?_, identifiers, products⟩
  · change after replay [] (c.domainEvents ++ [e]) = items.map entry
    rw [after_append, h.rebuilt]
    exact replayed
  · change Along replay Consistent [] (c.domainEvents ++ [e])
    rw [along_append, h.rebuilt]
    exact ⟨h.consistent, fits, trivial⟩

theorem entry_mem (c : Cart) (p : CartItem → Bool) (old : CartItem)
    (found : c.items.find? p = some old) : entry old ∈ entries c :=
  List.mem_map_of_mem (List.mem_of_find?_eq_some found)

theorem getValue_ne (i j : CartItem) (h : i.id ≠ j.id) : i.id.getValue ≠ j.id.getValue :=
  fun same => h (UniqueIdentifier.ext same)

theorem replay_requantified (c : Cart) (h : (ids c).Nodup) (p : CartItem → Bool)
    (old new : CartItem) (found : c.items.find? p = some old) (sameId : new.id = old.id)
    (sameProduct : new.productId = old.productId) :
    (entries c).map (·.requantified old.id.getValue new.quantity.getValue) =
      (replaceFirst p new c.items).map entry := by
  refine (replaceFirst_view p old new (·.id) entry _ ?_ (fun i apart => ?_) c.items h found).symm
  · simp only [Entry.requantified, entry, if_true, sameId, sameProduct]
  · exact if_neg (getValue_ne i old apart)

theorem replay_removed (c : Cart) (h : (ids c).Nodup) (p : CartItem → Bool) (old : CartItem)
    (found : c.items.find? p = some old) :
    (entries c).filter (·.id ≠ old.id.getValue) = (c.items.eraseP p).map entry := by
  refine (eraseP_view p old (·.id) entry _ ?_ (fun i apart => ?_) c.items h found).symm
  · exact decide_eq_false (not_not_intro rfl)
  · exact decide_eq_true (getValue_ne i old apart)

theorem absent_product (c : Cart) (productId : String)
    (h : c.findItemByProductId productId = none) : productId ∉ c.items.map (·.productId) := by
  intro mem
  obtain ⟨i, present, rfl⟩ := List.mem_map.mp mem
  have other := List.find?_eq_none.mp h i present
  simp [CartItem.isForProduct] at other

theorem step_fold (c : Cart) (a : Step) (h : FoldOfEvents c) (apart : Apart c a) :
    FoldOfEvents (step c a) := by
  have identifiers : (ids (step c a)).Nodup := apart.sublist (step_ids c a)
  obtain ⟨command, clk⟩ := a
  have effect := exec_effect c clk command
  unfold step at identifiers ⊢
  dsimp only at identifiers ⊢
  generalize command.exec clk c = call at effect identifiers
  cases effect with
  | threw e => exact h
  | kept => exact h
  | added new now fresh absent =>
    refine announced_fold c h _ now _ ?_ trivial identifiers ?_
    · rw [List.map_append]
      rfl
    · rw [List.map_append, List.map_singleton]
      exact List.nodup_append_comm.mp <|
        List.nodup_cons.mpr ⟨absent_product c _ absent, h.products⟩
  | requantified p old new now found sameId sameProduct =>
    refine announced_fold c h _ now _ ?_ (entry_mem c p old found) identifiers ?_
    · exact replay_requantified c h.identifiers p old new found sameId sameProduct
    · rw [map_replaceFirst p old new (·.productId) c.items found sameProduct]
      exact h.products
  | removed p old now found =>
    refine announced_fold c h _ now _ ?_ trivial identifiers ?_
    · exact replay_removed c h.identifiers p old found
    · exact h.products.sublist (List.eraseP_sublist.map _)
  | cleared now =>
    refine announced_fold c h _ now _ rfl ?_ identifiers List.nodup_nil
    exact (List.length_map entry).symm

theorem created_fold (generated : CartId) (userId : String) (clk : Clock) (c : Cart)
    (h : Cart.create generated userId clk = .ok c) : FoldOfEvents c ∧ ids c = [] := by
  obtain ⟨blank, accepted, h⟩ := (bind_ok_iff _ _ _).mp h
  obtain rfl := Except.ok.inj h
  unfold Cart.construct at accepted
  split at accepted
  · cases accepted
  · obtain rfl := Except.ok.inj accepted
    exact ⟨⟨rfl, ⟨trivial, trivial⟩, List.nodup_nil, List.nodup_nil⟩, rfl⟩

def LeavesOnThrow (c : Cart) (a : Step) : Prop :=
  ¬ (a.1.exec a.2 c).Returns → step c a = c

theorem step_leaves (c : Cart) (a : Step) : LeavesOnThrow c a := by
  obtain ⟨command, clk⟩ := a
  intro thrown
  have effect := exec_effect c clk command
  unfold step
  dsimp only at thrown ⊢
  generalize command.exec clk c = call at effect thrown
  cases effect with
  | threw e => rfl
  | _ => exact absurd (Outcome.returns_done _) thrown

/-- In every run from `create` whose generated identifiers differ, the events rebuild
the cart, its products differ, and its quantities are integers in their range. -/
theorem cart_is_fold (generated : CartId) (userId : String) (clk : Clock) (c : Cart)
    (created : Cart.create generated userId clk = .ok c) (run : List Step)
    (distinct : (generatedIds c run).Nodup) :
    FoldOfEvents (after step c run) ∧
      (∀ i ∈ (after step c run).items,
        ∃ n : ℕ, i.quantity.getValue = .ofNat n ∧ 1 ≤ n ∧ n ≤ 9999) ∧
      Along step LeavesOnThrow c run := by
  obtain ⟨start, empty⟩ := created_fold generated userId clk c created
  have apart := run_apart c run (by rw [empty]; exact distinct)
  refine ⟨?_, fun i _ => ?_, along_of_forall step LeavesOnThrow step_leaves c run⟩
  · exact throughout_end step FoldOfEvents c run <|
      throughout_of_step step FoldOfEvents Apart step_fold c run start apart
  · exact ⟨i.quantity.value, rfl, i.quantity.positive, i.quantity.bounded⟩

end Fold

section Samples

def sampleCart : Cart :=
  ⟨.sample, "u1", [], 5, 5, [.cartCreated UserId.sample.value "u1"]⟩

def sampleRun : List Step :=
  [(.addItem .sample "p1" (.ofNat 2), .still 6), (.addItem .sample "p1" (.ofNat 3), .still 7),
    (.addItem .second "p2" (.ofNat 4), .still 8),
    (.addItem .sample "p1" (.ofNat 9998), .still 9), (.removeItemByProductId "p1", .still 10),
    (.updateItemQuantity UniqueIdentifier.second.getValue (.ofNat 7), .still 11)]

example : (after step sampleCart sampleRun).items.map entry =
    [⟨UniqueIdentifier.second.getValue, "p2", .ofNat 7⟩] := by decide +kernel

theorem sample_cart_is_fold :
    FoldOfEvents (after step sampleCart sampleRun) ∧
      (∀ i ∈ (after step sampleCart sampleRun).items,
        ∃ n : ℕ, i.quantity.getValue = .ofNat n ∧ 1 ≤ n ∧ n ≤ 9999) ∧
      Along step LeavesOnThrow sampleCart sampleRun :=
  cart_is_fold .sample "u1" (.still 5) sampleCart (by decide +kernel) sampleRun (by decide +kernel)

end Samples

end KeramikStore.CartEvents
