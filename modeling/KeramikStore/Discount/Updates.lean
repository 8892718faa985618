import KeramikStore.Discount.Usage

/-!
# Updates of a discount

An update assigns the fields one after the other, and the value, the minimum and the
period are made anew in between. A throw of one of the three leaves what was assigned
before it. An update that returns has made all three.
-/

set_option autoImplicit false

namespace KeramikStore.DiscountUpdates
open Library Discount

section Fields

variable (host : DiscountHost) (input : UpdateDiscountInput)

def valueGiven : Bool := input.type.isSome || input.value.isSome || input.maxDiscount.isSome

def periodGiven : Bool := input.startDate.isSome || input.endDate.isSome

def renewed {α : Type} (given : Bool) (made : Except DiscountError α) (old : α) :
    Except DiscountError α :=
  if given then made else .ok old

def newValue (old : DiscountValue) : Except DiscountError DiscountValue :=
  renewed (valueGiven input) (DiscountValue.create host
    ⟨input.type.getD old.type, input.value.getD (.fin old.value),
      input.maxDiscount.getD (old.maxDiscount.map .fin)⟩) old

def newMinimum (old : Option Money) : Except DiscountError (Option Money) :=
  renewed input.minPurchase.isSome
    (minimum host (input.minPurchase.getD none) (input.currency.getD "IDR")) old

def newPeriod (old : DiscountPeriod) : Except DiscountError DiscountPeriod :=
  renewed (periodGiven input) (DiscountPeriod.create
    (input.startDate.getD (some old.startDate)) (input.endDate.getD (some old.endDate))) old

def named (given : Bool) (field : String) : List String := if given then [field] else []

def written (d : Discount) : List String :=
  named (input.name.any (· ≠ d.name)) "name" ++
    named (input.description.any (· ≠ d.description)) "description" ++
    named (valueGiven input) "discountValue" ++
    named (input.applicability.any (· ≠ d.applicability)) "applicability" ++
    named input.minPurchase.isSome "minPurchase" ++
    named (periodGiven input) "period" ++
    named input.usageLimit.isSome "usageLimit" ++
    named input.perUserLimit.isSome "perUserLimit" ++
    named input.productIds.isSome "productIds"

def described (d : Discount) : Discount :=
  { d with
    name := input.name.getD d.name
    description := input.description.getD d.description }

def valued (v : DiscountValue) (d : Discount) : Discount :=
  { described input d with
    discountValue := v
    applicability := input.applicability.getD d.applicability }

def bounded (v : DiscountValue) (m : Option Money) (d : Discount) : Discount :=
  { valued input v d with minPurchase := m }

def rewritten (v : DiscountValue) (m : Option Money) (p : DiscountPeriod) (d : Discount) :
    Discount :=
  { bounded input v m d with
    period := p
    usageLimit := input.usageLimit.getD d.usageLimit
    perUserLimit := input.perUserLimit.getD d.perUserLimit
    productIds := input.productIds.getD d.productIds }

end Fields

section Edits

/-- An edit that does not throw writes what is given and names it. -/
theorem edit_ok (given : Bool) (field : String) (d : Discount) (e : Editing)
    (same : given = false → d = e.discount) :
    edit given field (.ok d) e = .done ⟨d, e.changes ++ named given field⟩ := by
  cases given with
  | true => rfl
  | false =>
    obtain rfl := same rfl
    simp [edit, named]

def assigned {α : Type} (made : Except DiscountError α) (assign : α → Editing) (e : Editing) :
    Outcome DiscountError Editing :=
  match made with
  | .error error => .threw error e
  | .ok a => .done (assign a)

theorem edit_made {α : Type} (given : Bool) (field : String) (made : Except DiscountError α)
    (old : α) (assign : α → Discount) (e : Editing) (same : assign old = e.discount) :
    edit given field (made.map assign) e = assigned (renewed given made old)
      (fun a => ⟨assign a, e.changes ++ named given field⟩) e := by
  cases given with
  | true => cases made <;> rfl
  | false => simp [edit, named, renewed, assigned, same]

theorem getD_eq_of_isSome_eq_false {α : Type} (given : Option α) (old : α)
    (h : given.isSome = false) : given.getD old = old := by
  obtain rfl := Option.isSome_eq_false_iff.mp h |> Option.isNone_iff_eq_none.mp
  rfl

theorem getD_eq_of_any_eq_false {α : Type} [DecidableEq α] (given : Option α) (old : α)
    (h : given.any (· ≠ old) = false) : given.getD old = old := by
  cases given with
  | none => rfl
  | some a => simpa using h

variable (host : DiscountHost) (input : UpdateDiscountInput) (d : Discount) (changes : List String)

theorem editName_eq : editName input ⟨d, changes⟩ =
    .done ⟨{ d with name := input.name.getD d.name },
      changes ++ named (input.name.any (· ≠ d.name)) "name"⟩ :=
  edit_ok _ _ _ _ fun h => by rw [getD_eq_of_any_eq_false _ _ h]

theorem editDescription_eq : editDescription input ⟨d, changes⟩ =
    .done ⟨{ d with description := input.description.getD d.description },
      changes ++ named (input.description.any (· ≠ d.description)) "description"⟩ :=
  edit_ok _ _ _ _ fun h => by rw [getD_eq_of_any_eq_false _ _ h]

theorem editDiscountValue_eq : editDiscountValue host input ⟨d, changes⟩ =
    assigned (newValue host input d.discountValue) (fun v => ⟨{ d with discountValue := v },
      changes ++ named (valueGiven input) "discountValue"⟩) ⟨d, changes⟩ :=
  edit_made _ _ _ d.discountValue (fun v => { d with discountValue := v }) ⟨d, changes⟩ rfl

theorem editApplicability_eq : editApplicability input ⟨d, changes⟩ =
    .done ⟨{ d with applicability := input.applicability.getD d.applicability },
      changes ++ named (input.applicability.any (· ≠ d.applicability)) "applicability"⟩ :=
  edit_ok _ _ _ _ fun h => by rw [getD_eq_of_any_eq_false _ _ h]

theorem editMinPurchase_eq : editMinPurchase host input ⟨d, changes⟩ =
    assigned (newMinimum host input d.minPurchase) (fun m => ⟨{ d with minPurchase := m },
      changes ++ named input.minPurchase.isSome "minPurchase"⟩) ⟨d, changes⟩ :=
  edit_made _ _ _ d.minPurchase (fun m => { d with minPurchase := m }) ⟨d, changes⟩ rfl

theorem editPeriod_eq : editPeriod input ⟨d, changes⟩ =
    assigned (newPeriod input d.period) (fun p => ⟨{ d with period := p },
      changes ++ named (periodGiven input) "period"⟩) ⟨d, changes⟩ :=
  edit_made _ _ _ d.period (fun p => { d with period := p }) ⟨d, changes⟩ rfl

theorem editUsageLimit_eq : editUsageLimit input ⟨d, changes⟩ =
    .done ⟨{ d with usageLimit := input.usageLimit.getD d.usageLimit },
      changes ++ named input.usageLimit.isSome "usageLimit"⟩ :=
  edit_ok _ _ _ _ fun h => by rw [getD_eq_of_isSome_eq_false _ _ h]

theorem editPerUserLimit_eq : editPerUserLimit input ⟨d, changes⟩ =
    .done ⟨{ d with perUserLimit := input.perUserLimit.getD d.perUserLimit },
      changes ++ named input.perUserLimit.isSome "perUserLimit"⟩ :=
  edit_ok _ _ _ _ fun h => by rw [getD_eq_of_isSome_eq_false _ _ h]

theorem editProductIds_eq : editProductIds input ⟨d, changes⟩ =
    .done ⟨{ d with productIds := input.productIds.getD d.productIds },
      changes ++ named input.productIds.isSome "productIds"⟩ :=
  edit_ok _ _ _ _ fun h => by rw [getD_eq_of_isSome_eq_false _ _ h]

variable (now : Date)

/-- An update throws at the first value object that cannot be made. -/
theorem updateInfo_eq (live : d.status ≠ .expired) : updateInfo host input now d =
    match newValue host input d.discountValue with
    | .error e => .threw e (described input d)
    | .ok v =>
      match newMinimum host input d.minPurchase with
      | .error e => .threw e (valued input v d)
      | .ok m =>
        match newPeriod input d.period with
        | .error e => .threw e (bounded input v m d)
        | .ok p => .done (finish now ⟨rewritten input v m p d, written input d⟩) := by
  unfold updateInfo
  rw [if_neg live]
  simp only [edits, runEdits, editName_eq, editDescription_eq, editDiscountValue_eq,
    Outcome.done_andThen, List.nil_append]
  cases newValue host input d.discountValue with
  | error e => rfl
  | ok v =>
    simp only [assigned, editApplicability_eq, editMinPurchase_eq, Outcome.done_andThen]
    cases newMinimum host input d.minPurchase with
    | error e => rfl
    | ok m =>
      simp only [assigned, editPeriod_eq, Outcome.done_andThen]
      cases newPeriod input d.period with
      | error e => rfl
      | ok p =>
        simp only [editUsageLimit_eq, editPerUserLimit_eq, editProductIds_eq, Outcome.done_andThen]
        rfl

end Edits

section Made

variable (host : DiscountHost)

theorem create_fields (props : DiscountValue.Props) (v : DiscountValue)
    (h : DiscountValue.create host props = .ok v) :
    v.type = props.type ∧ .fin v.value = Money.roundedBy host.represent props.value ∧
      v.maxDiscount.map .fin = DiscountValue.cap host props.maxDiscount := by
  unfold DiscountValue.create at h
  split at h
  next value rounding =>
    split_ifs at h
    split at h
    next none =>
      obtain rfl := Except.ok.inj h
      exact ⟨rfl, rounding.symm, none.symm⟩
    next max some =>
      split_ifs at h
      obtain rfl := Except.ok.inj h
      exact ⟨rfl, rounding.symm, some.symm⟩
    next => cases h
  · cases h

theorem minimum_fields (given : Option JsNumber) (currency : String) (m : Option Money)
    (h : minimum host given currency = .ok m) :
    m.map Money.getAmount = given.map (Money.roundedBy host.represent) ∧
      m.map Money.getCurrency = given.map fun _ => currency := by
  unfold minimum at h
  split at h
  · obtain rfl := Except.ok.inj h
    exact ⟨rfl, rfl⟩
  next amount =>
    split at h
    next made construction =>
      obtain rfl := Except.ok.inj h
      obtain ⟨value, same⟩ := (Money.construct_ok_iff _ _ made).mp construction
      exact ⟨congrArg some value.symm, congrArg some same⟩
    · cases h

theorem period_fields (startDate endDate : Option Date) (p : DiscountPeriod)
    (h : DiscountPeriod.create startDate endDate = .ok p) :
    some p.startDate = startDate ∧ some p.endDate = endDate := by
  unfold DiscountPeriod.create at h
  split at h
  · cases h
  · cases h
  · split_ifs at h
    obtain rfl := Except.ok.inj h
    exact ⟨rfl, rfl⟩

end Made

section Properties

variable (host : DiscountHost) (input : UpdateDiscountInput) (now : Date) (d : Discount)

def announced : List DiscountEvent :=
  if written input d = [] then []
  else [.discountUpdated d.id.getValue d.code.getValue (written input d) now]

structure Applied (d' : Discount) : Prop where
  name : d'.name = input.name.getD d.name
  description : d'.description = input.description.getD d.description
  type : d'.discountValue.type = input.type.getD d.discountValue.type
  value : .fin d'.discountValue.value =
    (input.value.map (Money.roundedBy host.represent)).getD (.fin d.discountValue.value)
  maxDiscount : d'.discountValue.maxDiscount.map .fin =
    (input.maxDiscount.map (Option.map (Money.roundedBy host.represent))).getD
      (d.discountValue.maxDiscount.map .fin)
  applicability : d'.applicability = input.applicability.getD d.applicability
  minPurchase : d'.minPurchase.map Money.getAmount =
    (input.minPurchase.map (Option.map (Money.roundedBy host.represent))).getD
      (d.minPurchase.map Money.getAmount)
  currency : ∀ m' ∈ d'.minPurchase, (∀ c ∈ input.currency, m'.currency = c) ∧
    (input.currency = none → ∀ m ∈ d.minPurchase, m'.currency = m.currency)
  startDate : some d'.period.startDate = input.startDate.getD (some d.period.startDate)
  endDate : some d'.period.endDate = input.endDate.getD (some d.period.endDate)
  usageLimit : d'.usageLimit = input.usageLimit.getD d.usageLimit
  perUserLimit : d'.perUserLimit = input.perUserLimit.getD d.perUserLimit
  productIds : d'.productIds = input.productIds.getD d.productIds
  others : (d'.id, d'.code, d'.status, d'.usageCount, d'.createdAt) =
    (d.id, d.code, d.status, d.usageCount, d.createdAt)
  updatedAt : d'.updatedAt = if written input d = [] then d.updatedAt else now
  events : d'.domainEvents = d.domainEvents ++ announced input now d

def Atomic : Prop :=
  let call := updateInfo host input now d
  (¬ call.Returns → call.state = d) ∧ (call.Returns → Applied host input now d call.state)

def HeldText : Prop :=
  input.name.getD d.name = d.name ∧ input.description.getD d.description = d.description

def HeldValue : Prop :=
  (valueGiven input → input.type.getD d.discountValue.type = d.discountValue.type ∧
    Money.roundedBy host.represent (input.value.getD (.fin d.discountValue.value)) =
      .fin d.discountValue.value ∧
    DiscountValue.cap host (input.maxDiscount.getD (d.discountValue.maxDiscount.map .fin)) =
      d.discountValue.maxDiscount.map .fin) ∧
  input.applicability.getD d.applicability = d.applicability

def HeldMinimum : Prop :=
  ∀ amount ∈ input.minPurchase,
    amount.map (Money.roundedBy host.represent) = d.minPurchase.map Money.getAmount ∧
      amount.map (fun _ => input.currency.getD "IDR") = d.minPurchase.map Money.getCurrency

structure Keeps : Prop where
  value : valueGiven input → input.value = none →
    Money.roundedBy host.represent (.fin d.discountValue.value) = .fin d.discountValue.value
  maxDiscount : valueGiven input → input.maxDiscount = none →
    ∀ max ∈ d.discountValue.maxDiscount,
      Money.roundedBy host.represent (.fin max) = .fin max
  cap : ∀ max, input.maxDiscount = some (some max) → max ≠ .nan ∧ max ≠ .ofNat 0
  currency : input.minPurchase = none → ∀ m ∈ d.minPurchase, ∀ c ∈ input.currency, m.currency = c
  defaulted : ∀ amount, input.minPurchase = some (some amount) → input.currency = none →
    ∀ m ∈ d.minPurchase, m.currency = "IDR"

def Harmless : Prop :=
  d.status = .expired ∨
    match newValue host input d.discountValue with
    | .error _ => HeldText input d
    | .ok _ =>
      match newMinimum host input d.minPurchase with
      | .error _ => HeldText input d ∧ HeldValue host input d
      | .ok _ =>
        match newPeriod input d.period with
        | .error _ => HeldText input d ∧ HeldValue host input d ∧ HeldMinimum host input d
        | .ok _ => Keeps host input d

end Properties

section Atomicity

variable {host : DiscountHost} {input : UpdateDiscountInput} {d : Discount}

theorem described_eq_iff : described input d = d ↔ HeldText input d := by
  obtain ⟨⟩ := d
  simp [described, HeldText]

theorem value_eq_iff (v w : DiscountValue) : v = w ↔ v.type = w.type ∧
    JsNumber.fin v.value = .fin w.value ∧
      v.maxDiscount.map JsNumber.fin = w.maxDiscount.map .fin := by
  constructor
  · rintro rfl
    exact ⟨rfl, rfl, rfl⟩
  · obtain ⟨vType, vValue, vMax, _, _⟩ := v
    obtain ⟨wType, wValue, wMax, _, _⟩ := w
    rintro ⟨rfl, value, max⟩
    obtain rfl := JsNumber.fin.inj value
    obtain rfl := Option.map_injective (fun _ _ => JsNumber.fin.inj) max
    rfl

theorem newValue_given {v : DiscountValue} (given : valueGiven input = true)
    (h : newValue host input d.discountValue = .ok v) :
    v.type = input.type.getD d.discountValue.type ∧
      .fin v.value =
        Money.roundedBy host.represent (input.value.getD (.fin d.discountValue.value)) ∧
      v.maxDiscount.map .fin = DiscountValue.cap host
        (input.maxDiscount.getD (d.discountValue.maxDiscount.map .fin)) := by
  rw [newValue, renewed, if_pos given] at h
  exact create_fields host _ v h

theorem renewed_absent {α : Type} {given : Bool} {made : Except DiscountError α} {old a : α}
    (absent : ¬ given = true) (h : renewed given made old = .ok a) : a = old := by
  rw [renewed, if_neg absent] at h
  exact (Except.ok.inj h).symm

theorem valued_eq_iff {v : DiscountValue} (h : newValue host input d.discountValue = .ok v) :
    valued input v d = d ↔ HeldText input d ∧ HeldValue host input d := by
  have fields : valued input v d = d ↔ HeldText input d ∧
      v = d.discountValue ∧ input.applicability.getD d.applicability = d.applicability := by
    obtain ⟨⟩ := d
    simp [valued, described, HeldText, and_assoc]
  rw [fields, HeldValue]
  refine and_congr_right fun _ => and_congr_left fun _ => ?_
  by_cases given : valueGiven input = true
  · obtain ⟨type, value, max⟩ := newValue_given given h
    rw [value_eq_iff, type, value, max, forall_prop_of_true given]
  · exact iff_of_true (renewed_absent given h) fun held => absurd held given

theorem newMinimum_given {m : Option Money} {amount : Option JsNumber}
    (given : input.minPurchase = some amount)
    (h : newMinimum host input d.minPurchase = .ok m) :
    m.map Money.getAmount = amount.map (Money.roundedBy host.represent) ∧
      m.map Money.getCurrency = amount.map fun _ => input.currency.getD "IDR" := by
  rw [newMinimum, given] at h
  exact minimum_fields host amount _ m h

theorem minimum_eq_iff (m n : Option Money) : m = n ↔
    m.map Money.getAmount = n.map Money.getAmount ∧
      m.map Money.getCurrency = n.map Money.getCurrency := by
  constructor
  · rintro rfl
    exact ⟨rfl, rfl⟩
  · rintro ⟨amounts, currencies⟩
    cases m with
    | none => exact (Option.map_eq_none_iff.mp amounts.symm).symm
    | some made =>
      cases n with
      | none => cases amounts
      | some held =>
        obtain ⟨amount, currency, _, _⟩ := made
        obtain ⟨heldAmount, heldCurrency, _, _⟩ := held
        obtain rfl := JsNumber.fin.inj (Option.some.inj amounts)
        obtain rfl := Option.some.inj currencies
        rfl

theorem minimum_held_iff {m : Option Money} (h : newMinimum host input d.minPurchase = .ok m) :
    m = d.minPurchase ↔ HeldMinimum host input d := by
  unfold HeldMinimum
  cases given : input.minPurchase with
  | none =>
    have absent : ¬ input.minPurchase.isSome = true := by simp [given]
    exact iff_of_true (renewed_absent absent h) nofun
  | some amount =>
    obtain ⟨amounts, currencies⟩ := newMinimum_given given h
    rw [minimum_eq_iff, amounts, currencies]
    simp

theorem bounded_eq_iff {v : DiscountValue} {m : Option Money}
    (hv : newValue host input d.discountValue = .ok v)
    (hm : newMinimum host input d.minPurchase = .ok m) :
    bounded input v m d = d ↔
      HeldText input d ∧ HeldValue host input d ∧ HeldMinimum host input d := by
  have fields : bounded input v m d = d ↔ valued input v d = d ∧ m = d.minPurchase := by
    obtain ⟨⟩ := d
    simp only [bounded, valued, described, Discount.mk.injEq]
    tauto
  rw [fields, valued_eq_iff hv, minimum_held_iff hm, and_assoc]

section Returned

variable {v : DiscountValue} {m : Option Money} {p : DiscountPeriod}

theorem valueGiven_eq_false (absent : ¬ valueGiven input = true) :
    input.type = none ∧ input.value = none ∧ input.maxDiscount = none := by
  simpa [valueGiven, and_assoc] using absent

theorem type_applied (h : newValue host input d.discountValue = .ok v) :
    v.type = input.type.getD d.discountValue.type := by
  by_cases given : valueGiven input = true
  · exact (newValue_given given h).1
  · rw [renewed_absent given h, (valueGiven_eq_false given).1]
    rfl

theorem value_applied_iff (h : newValue host input d.discountValue = .ok v) :
    .fin v.value =
        (input.value.map (Money.roundedBy host.represent)).getD (.fin d.discountValue.value) ↔
      (valueGiven input → input.value = none →
        Money.roundedBy host.represent (.fin d.discountValue.value) =
          .fin d.discountValue.value) := by
  by_cases given : valueGiven input = true
  · rw [(newValue_given given h).2.1]
    cases input.value with
    | none => exact ⟨fun same _ _ => same, fun keeps => keeps given rfl⟩
    | some x => exact iff_of_true rfl fun _ absent => nomatch absent
  · rw [renewed_absent given h, (valueGiven_eq_false given).2.1]
    exact iff_of_true rfl fun held => absurd held given

/-- A cap is taken as it is given unless it counts as none. -/
theorem cap_eq_iff (given : Option JsNumber) :
    DiscountValue.cap host given = given.map (Money.roundedBy host.represent) ↔
      ∀ max ∈ given, max ≠ .nan ∧ max ≠ .ofNat 0 := by
  cases given with
  | none => exact iff_of_true rfl nofun
  | some max =>
    by_cases zero : max = .ofNat 0
    · subst zero
      simp [DiscountValue.cap, JsNumber.ofNat]
    · cases max with
      | nan => simp [DiscountValue.cap]
      | _ => simp [DiscountValue.cap, zero]

theorem cap_held (v : DiscountValue) : DiscountValue.cap host (v.maxDiscount.map .fin) =
    (v.maxDiscount.map .fin).map (Money.roundedBy host.represent) := by
  apply (cap_eq_iff _).mpr
  intro max given
  obtain ⟨q, held, rfl⟩ := Option.mem_map.mp given
  refine ⟨nofun, fun zero => (v.capped q held).ne' ?_⟩
  exact (JsNumber.fin.inj zero).trans Nat.cast_zero

theorem maxDiscount_applied_iff (h : newValue host input d.discountValue = .ok v) :
    v.maxDiscount.map .fin =
        (input.maxDiscount.map (Option.map (Money.roundedBy host.represent))).getD
          (d.discountValue.maxDiscount.map .fin) ↔
      (valueGiven input → input.maxDiscount = none → ∀ max ∈ d.discountValue.maxDiscount,
        Money.roundedBy host.represent (.fin max) = .fin max) ∧
      ∀ max, input.maxDiscount = some (some max) → max ≠ .nan ∧ max ≠ .ofNat 0 := by
  by_cases given : valueGiven input = true
  · rw [(newValue_given given h).2.2]
    cases capGiven : input.maxDiscount with
    | none =>
      rw [Option.getD_none, Option.map_none, Option.getD_none, cap_held]
      cases d.discountValue.maxDiscount with
      | none => simp
      | some max => simp [given]
    | some max =>
      rw [Option.getD_some, Option.map_some, Option.getD_some, cap_eq_iff]
      simp
  · rw [renewed_absent given h, (valueGiven_eq_false given).2.2]
    exact iff_of_true rfl ⟨fun held => absurd held given, nofun⟩

theorem minimum_applied (h : newMinimum host input d.minPurchase = .ok m) :
    m.map Money.getAmount =
      (input.minPurchase.map (Option.map (Money.roundedBy host.represent))).getD
        (d.minPurchase.map Money.getAmount) := by
  cases given : input.minPurchase with
  | none =>
    have absent : ¬ input.minPurchase.isSome = true := by simp [given]
    rw [renewed_absent absent h]
    rfl
  | some amount => exact (newMinimum_given given h).1

theorem period_applied (h : newPeriod input d.period = .ok p) :
    some p.startDate = input.startDate.getD (some d.period.startDate) ∧
      some p.endDate = input.endDate.getD (some d.period.endDate) := by
  by_cases given : periodGiven input = true
  · rw [newPeriod, renewed, if_pos given] at h
    exact period_fields _ _ p h
  · obtain ⟨start, finish⟩ : input.startDate = none ∧ input.endDate = none := by
      simpa [periodGiven] using given
    rw [renewed_absent given h, start, finish]
    exact ⟨rfl, rfl⟩

theorem currency_applied_iff (h : newMinimum host input d.minPurchase = .ok m) :
    (∀ m' ∈ m, (∀ c ∈ input.currency, m'.currency = c) ∧
        (input.currency = none → ∀ held ∈ d.minPurchase, m'.currency = held.currency)) ↔
      (input.minPurchase = none →
        ∀ held ∈ d.minPurchase, ∀ c ∈ input.currency, held.currency = c) ∧
      ∀ amount, input.minPurchase = some (some amount) → input.currency = none →
        ∀ held ∈ d.minPurchase, held.currency = "IDR" := by
  cases given : input.minPurchase with
  | none =>
    have absent : ¬ input.minPurchase.isSome = true := by simp [given]
    obtain rfl := renewed_absent absent h
    constructor
    · exact fun applied => ⟨fun _ held there => (applied held there).1, nofun⟩
    · rintro ⟨currency, -⟩ held there
      refine ⟨currency rfl held there, fun _ other here => ?_⟩
      rw [Option.mem_unique there here]
  | some amount =>
    have currencies := (newMinimum_given given h).2
    cases amount with
    | none =>
      obtain rfl := Option.map_eq_none_iff.mp currencies
      exact iff_of_true nofun ⟨nofun, nofun⟩
    | some amount =>
      obtain ⟨made, rfl, currency⟩ := Option.map_eq_some_iff.mp currencies
      have made_currency : made.currency = input.currency.getD "IDR" := currency
      cases code : input.currency with
      | none =>
        rw [code, Option.getD_none] at made_currency
        simp [made_currency, eq_comm]
      | some c =>
        rw [code, Option.getD_some] at made_currency
        simp [made_currency]

/-- An update that returns does what it was given just where nothing is rounded away,
dropped or put in another currency. -/
theorem applied_iff (now : Date) (hv : newValue host input d.discountValue = .ok v)
    (hm : newMinimum host input d.minPurchase = .ok m) (hp : newPeriod input d.period = .ok p) :
    Applied host input now d (finish now ⟨rewritten input v m p d, written input d⟩) ↔
      Keeps host input d := by
  have finished : finish now ⟨rewritten input v m p d, written input d⟩ =
      { rewritten input v m p d with
        updatedAt := if written input d = [] then d.updatedAt else now
        domainEvents := d.domainEvents ++ announced input now d } := by
    unfold finish announced
    cases written input d with
    | nil => simp [rewritten, bounded, valued, described]
    | cons group groups => rfl
  rw [finished]
  constructor
  · intro applied
    obtain ⟨maxDiscount, cap⟩ := (maxDiscount_applied_iff hv).mp applied.maxDiscount
    obtain ⟨currency, defaulted⟩ := (currency_applied_iff hm).mp applied.currency
    exact ⟨(value_applied_iff hv).mp applied.value, maxDiscount, cap, currency, defaulted⟩
  · intro keeps
    exact {
      name := rfl
      description := rfl
      type := type_applied hv
      value := (value_applied_iff hv).mpr keeps.value
      maxDiscount := (maxDiscount_applied_iff hv).mpr ⟨keeps.maxDiscount, keeps.cap⟩
      applicability := rfl
      minPurchase := minimum_applied hm
      currency := (currency_applied_iff hm).mpr ⟨keeps.currency, keeps.defaulted⟩
      startDate := (period_applied hp).1
      endDate := (period_applied hp).2
      usageLimit := rfl
      perUserLimit := rfl
      productIds := rfl
      others := rfl
      updatedAt := rfl
      events := rfl }

end Returned

theorem thrown_atomic_iff {now : Date} {e : DiscountError} {d' : Discount}
    (call : updateInfo host input now d = .threw e d') : Atomic host input now d ↔ d' = d := by
  unfold Atomic
  rw [call]
  exact ⟨fun atomic => atomic.1 (Outcome.not_returns_threw e d'),
    fun same => ⟨fun _ => same, fun h => absurd h (Outcome.not_returns_threw e d')⟩⟩

theorem returned_atomic_iff {now : Date} {d' : Discount}
    (call : updateInfo host input now d = .done d') :
    Atomic host input now d ↔ Applied host input now d d' := by
  unfold Atomic
  rw [call]
  exact ⟨fun atomic => atomic.2 (Outcome.returns_done d'),
    fun applied => ⟨fun h => absurd (Outcome.returns_done d') h, fun _ => applied⟩⟩

end Atomicity

/-- An update changes nothing or does all that it was given just where the discount is
expired, or what is assigned before the first value object that cannot be made is held
already, or all can be made and keep the amounts and the currency. -/
theorem update_atomic_iff (host : DiscountHost) (input : UpdateDiscountInput) (now : Date)
    (d : Discount) : Atomic host input now d ↔ Harmless host input d := by
  unfold Harmless
  by_cases expired : d.status = .expired
  · have call : updateInfo host input now d =
        .threw (discountStateConflictError "Cannot update an expired discount") d := by
      rw [updateInfo, if_pos expired]
    exact iff_of_true ((thrown_atomic_iff call).mpr rfl) (.inl expired)
  have call := updateInfo_eq host input d now expired
  rw [or_iff_right expired]
  cases hv : newValue host input d.discountValue with
  | error e =>
    rw [hv] at call
    exact (thrown_atomic_iff call).trans described_eq_iff
  | ok v =>
    rw [hv] at call
    cases hm : newMinimum host input d.minPurchase with
    | error e =>
      rw [hm] at call
      exact (thrown_atomic_iff call).trans (valued_eq_iff hv)
    | ok m =>
      rw [hm] at call
      cases hp : newPeriod input d.period with
      | error e =>
        rw [hp] at call
        exact (thrown_atomic_iff call).trans (bounded_eq_iff hv hm)
      | ok p =>
        rw [hp] at call
        exact (returned_atomic_iff call).trans (applied_iff now hv hm hp)

section Runs
open DiscountUsage Library.Runs

variable (host : DiscountHost)

def UpdatesAtomically (d : Discount) (a : Step) : Prop :=
  ∀ input, a.1 = .updateInfo input → Atomic host input a.2 d

def UpdatesHarmlessly (d : Discount) (a : Step) : Prop :=
  ∀ input, a.1 = .updateInfo input → Harmless host input d

theorem updatesAtomically_iff (d : Discount) (a : Step) :
    UpdatesAtomically host d a ↔ UpdatesHarmlessly host d a :=
  forall_congr' fun input => imp_congr_right fun _ => update_atomic_iff host input a.2 d

/-- In a run of the commands from any discount, every update changes nothing or does all
that it was given just when every update of the run is harmless where it comes. -/
theorem updates_atomic_iff (d : Discount) (run : List Step) :
    Along (step host) (UpdatesAtomically host) d run ↔
      Along (step host) (UpdatesHarmlessly host) d run :=
  along_congr (step host) _ _ (updatesAtomically_iff host) d run

end Runs

section Samples
open DiscountUsage

def sample : Discount := sampleDiscount (some (.ofNat 2))

def noInput : UpdateDiscountInput :=
  ⟨none, none, none, none, none, none, none, none, none, none, none, none, none⟩

def refusable : UpdateDiscountInput :=
  { noInput with name := some "Summer sale", value := some (.ofNat 0) }

def capping : UpdateDiscountInput := { noInput with maxDiscount := some (some (.ofNat 0)) }

def minimumOf (amount : ℕ) (currency : Option String) : UpdateDiscountInput :=
  { noInput with minPurchase := some (some (.ofNat amount)), currency := currency }

def inDollars : Discount := (updateInfo sampleHost (minimumOf 20 (some "USD")) 6 sample).state

/-- A refused update of a created discount leaves the new name, a cap of zero is no cap,
and a minimum of dollars that is raised becomes one of rupiahs. -/
theorem refused_update_renames :
    Discount.create sampleHost .sample (sampleInput (some (.ofNat 2))) (.still 5) = .ok sample ∧
      ¬ (updateInfo sampleHost refusable 6 sample).Returns ∧
      (updateInfo sampleHost refusable 6 sample).state.name = "Summer sale" ∧
      sample.name = "Ten percent" ∧
      ¬ Atomic sampleHost refusable 6 sample ∧
      ¬ Atomic sampleHost capping 6 sample ∧
      ¬ Atomic sampleHost (minimumOf 30 none) 7 inDollars := by
  have refused : ¬ (updateInfo sampleHost refusable 6 sample).Returns := by decide +kernel
  have renamed : (updateInfo sampleHost refusable 6 sample).state.name = "Summer sale" := by
    decide +kernel
  refine ⟨sample_created, refused, renamed, rfl, ?_, ?_, ?_⟩
  · intro atomic
    rw [atomic.1 refused] at renamed
    exact absurd renamed (by decide)
  · intro atomic
    exact absurd (atomic.2 (by decide +kernel)).maxDiscount (by decide +kernel)
  · intro atomic
    exact absurd (atomic.2 (by decide +kernel)).currency (by decide +kernel)

end Samples

end KeramikStore.DiscountUpdates
