import KeramikStore.Discount.Updates

/-!
# The terms of a discount in use

An update is documented for discounts that are inactive, or active and unused. It asks
only whether the discount has expired. The terms of a discount in use stay just as long
as each update of it is refused by a value object, before it has assigned another value,
cap or minimum.
-/

set_option autoImplicit false

namespace KeramikStore.DiscountTerms
open Library Library.Runs DiscountUsage DiscountUpdates

structure Terms where
  value : ℚ
  maxDiscount : Option ℚ
  minPurchase : Option Money
  period : DiscountPeriod
  usageLimit : Option JsNumber
  perUserLimit : Option JsNumber
  productIds : List String

def terms (d : Discount) : Terms :=
  ⟨d.discountValue.value, d.discountValue.maxDiscount, d.minPurchase, d.period, d.usageLimit,
    d.perUserLimit, d.productIds⟩

structure Watched where
  discount : Discount
  frozen : Option Terms

def isApplication : DiscountCommand → Bool
  | .applyToOrder .. => true
  | _ => false

def Released (d : Discount) : Prop := d.status = .inactive ∨ d.usageCount = 0

instance (d : Discount) : Decidable (Released d) := inferInstanceAs (Decidable (_ ∨ _))

variable (host : DiscountHost)

def watch (w : Watched) (a : Step) : Watched :=
  let call := a.1.exec host a.2 w.discount
  { discount := call.state
    frozen :=
      if Released call.state then none
      else if isApplication a.1 ∧ call.Returns then some (terms call.state)
      else w.frozen }

def Law (w : Watched) : Prop := ∀ t ∈ w.frozen, terms w.discount = t

theorem law_none (d : Discount) : Law ⟨d, none⟩ := by
  simp [Law]

def Guarded (w : Watched) (a : Step) : Prop :=
  ∀ input, a.1 = .updateInfo input → (a.1.exec host a.2 w.discount).Returns →
    w.discount.status = .inactive ∨ w.discount.status = .active ∧ w.discount.usageCount = 0

section Condition

variable (input : UpdateDiscountInput) (d : Discount)

def HeldAmounts : Prop :=
  valueGiven input →
    Money.roundedBy host.represent (input.value.getD (.fin d.discountValue.value)) =
        .fin d.discountValue.value ∧
      DiscountValue.cap host (input.maxDiscount.getD (d.discountValue.maxDiscount.map .fin)) =
        d.discountValue.maxDiscount.map .fin

def Refused (frozen : Bool) : Prop :=
  match newValue host input d.discountValue with
  | .error _ => True
  | .ok _ =>
    match newMinimum host input d.minPurchase with
    | .error _ => frozen = true → HeldAmounts host input d
    | .ok _ =>
      match newPeriod input d.period with
      | .error _ => frozen = true → HeldAmounts host input d ∧ HeldMinimum host input d
      | .ok _ => False

def Spares (w : Watched) (a : Step) : Prop :=
  ∀ input, a.1 = .updateInfo input → w.discount.status = .active → 0 < w.discount.usageCount →
    Refused host input w.discount w.frozen.isSome

end Condition

section Others

theorem exec_terms (c : DiscountCommand) (now : Date) (d : Discount)
    (h : ∀ input, c ≠ .updateInfo input) : terms (c.exec host now d).state = terms d := by
  have transition_terms : ∀ newStatus announcement,
      terms (d.transition newStatus announcement now).state = terms d := by
    intro newStatus announcement
    unfold Discount.transition
    split <;> rfl
  cases c with
  | activate => exact transition_terms _ _
  | deactivate reason => exact transition_terms _ _
  | markAsExpired =>
    change terms (Discount.markAsExpired now d).state = terms d
    unfold Discount.markAsExpired
    split
    · rfl
    · exact transition_terms _ _
  | applyToOrder orderId purchaseAmount currency time =>
    have effect := applyToOrder_effect host d orderId purchaseAmount currency time now
    generalize DiscountCommand.exec host now _ d = o at effect
    cases effect with
    | threw => rfl
    | transitioned _ _ turns => cases turns
    | applied => rfl
  | reverseUsage =>
    change terms (Discount.reverseUsage now d).state = terms d
    unfold Discount.reverseUsage
    split <;> rfl
  | updateInfo input => exact absurd rfl (h input)

end Others

section Updated

variable {host : DiscountHost} {input : UpdateDiscountInput} {d : Discount}

theorem updateInfo_status (now : Date) :
    (Discount.updateInfo host input now d).state.status = d.status := by
  by_cases expired : d.status = .expired
  · rw [Discount.updateInfo, if_pos expired]
    rfl
  rw [updateInfo_eq host input d now expired]
  cases newValue host input d.discountValue with
  | error e => rfl
  | ok v =>
    cases newMinimum host input d.minPurchase with
    | error e => rfl
    | ok m =>
      cases newPeriod input d.period with
      | error e => rfl
      | ok p =>
        dsimp only [Outcome.state_done]
        unfold Discount.finish
        split <;> rfl

theorem amounts_held_iff {v : DiscountValue} (h : newValue host input d.discountValue = .ok v) :
    v.value = d.discountValue.value ∧ v.maxDiscount = d.discountValue.maxDiscount ↔
      HeldAmounts host input d := by
  unfold HeldAmounts
  by_cases given : valueGiven input = true
  · obtain ⟨-, value, max⟩ := newValue_given given h
    rw [← value, ← max, forall_prop_of_true given, JsNumber.fin.injEq,
      (Option.map_injective fun _ _ => JsNumber.fin.inj).eq_iff]
  · obtain rfl := renewed_absent given h
    exact iff_of_true ⟨rfl, rfl⟩ fun held => absurd held given

theorem terms_valued_iff {v : DiscountValue} (h : newValue host input d.discountValue = .ok v) :
    terms (valued input v d) = terms d ↔ HeldAmounts host input d := by
  rw [← amounts_held_iff h]
  simp [terms, valued, described]

theorem terms_bounded_iff {v : DiscountValue} {m : Option Money}
    (hv : newValue host input d.discountValue = .ok v)
    (hm : newMinimum host input d.minPurchase = .ok m) :
    terms (bounded input v m d) = terms d ↔
      HeldAmounts host input d ∧ HeldMinimum host input d := by
  rw [← amounts_held_iff hv, ← minimum_held_iff hm]
  simp [terms, bounded, valued, described, and_assoc]

/-- Before a throw only the value, the cap and the minimum can have been assigned. -/
theorem refused_iff (frozen : Bool) (now : Date) (live : d.status ≠ .expired) :
    (frozen = true → terms (Discount.updateInfo host input now d).state = terms d) ∧
        ¬ (Discount.updateInfo host input now d).Returns ↔
      Refused host input d frozen := by
  unfold Refused
  rw [updateInfo_eq host input d now live]
  cases hv : newValue host input d.discountValue with
  | error e => exact iff_of_true ⟨fun _ => rfl, Outcome.not_returns_threw _ _⟩ trivial
  | ok v =>
    cases hm : newMinimum host input d.minPurchase with
    | error e =>
      dsimp only [Outcome.state_threw]
      rw [terms_valued_iff hv, and_iff_left (Outcome.not_returns_threw _ _)]
    | ok m =>
      cases hp : newPeriod input d.period with
      | error e =>
        dsimp only [Outcome.state_threw]
        rw [terms_bounded_iff hv hm, and_iff_left (Outcome.not_returns_threw _ _)]
      | ok p => exact iff_of_false (fun h => h.2 (Outcome.returns_done _)) id

end Updated

section Runs

theorem watch_law (w : Watched) (a : Step) (law : Law w)
    (same : terms (a.1.exec host a.2 w.discount).state = terms w.discount) :
    Law (watch host w a) := by
  unfold Law watch
  dsimp only
  split_ifs
  · rintro t ⟨⟩
  · intro t h
    exact Option.some.inj h
  · rw [same]
    exact law

/-- An update does not turn the discount on or off, and counts no use. -/
theorem watch_update (w : Watched) (input : UpdateDiscountInput) (now : Date) :
    watch host w (.updateInfo input, now) =
      ⟨(Discount.updateInfo host input now w.discount).state,
        if Released w.discount then none else w.frozen⟩ := by
  have same : Released (Discount.updateInfo host input now w.discount).state ↔
      Released w.discount := by
    unfold Released
    rw [updateInfo_status, updateInfo_count]
  unfold watch
  simp [DiscountCommand.exec, isApplication, same]

theorem updated_law_iff (w : Watched) (input : UpdateDiscountInput) (now : Date) (law : Law w)
    (used : ¬ Released w.discount) :
    Law (watch host w (.updateInfo input, now)) ↔
      (w.frozen.isSome = true →
        terms (Discount.updateInfo host input now w.discount).state = terms w.discount) := by
  rw [watch_update, if_neg used]
  unfold Law at law ⊢
  cases frozen : w.frozen with
  | none => simp
  | some t =>
    obtain rfl := law t frozen
    simp

/-- An update that does not meet a discount in use keeps the law, and returns only where it
is documented to. -/
theorem unused_update (w : Watched) (input : UpdateDiscountInput) (now : Date) (law : Law w)
    (unused : ¬ (w.discount.status = .active ∧ 0 < w.discount.usageCount)) :
    Law (watch host w (.updateInfo input, now)) ∧ Guarded host w (.updateInfo input, now) := by
  by_cases expired : w.discount.status = .expired
  · have call : Discount.updateInfo host input now w.discount =
        .threw (discountStateConflictError "Cannot update an expired discount") w.discount := by
      rw [Discount.updateInfo, if_pos expired]
    refine ⟨watch_law host w _ law (congrArg terms (congrArg Outcome.state call)), ?_⟩
    intro _ _ returned
    change (Discount.updateInfo host input now w.discount).Returns at returned
    rw [call] at returned
    exact absurd returned (Outcome.not_returns_threw _ _)
  have allowed : w.discount.status = .inactive ∨
      w.discount.status = .active ∧ w.discount.usageCount = 0 := by
    cases status : w.discount.status with
    | active => exact .inr ⟨rfl, by_contra fun used => unused ⟨status, Nat.pos_of_ne_zero used⟩⟩
    | inactive => exact .inl rfl
    | expired => exact absurd status expired
  have released : Released w.discount := allowed.imp_right And.right
  refine ⟨?_, fun _ _ _ => allowed⟩
  rw [watch_update, if_pos released]
  exact law_none _

theorem used_unreleased (d : Discount) (active : d.status = .active) (positive : 0 < d.usageCount) :
    ¬ Released d := by
  rintro (inactive | zero)
  · rw [active] at inactive
    cases inactive
  · exact positive.ne' zero

theorem guarded_iff (w : Watched) (input : UpdateDiscountInput) (now : Date)
    (unreleased : ¬ Released w.discount) : Guarded host w (.updateInfo input, now) ↔
      ¬ (Discount.updateInfo host input now w.discount).Returns := by
  constructor
  · intro h returned
    exact unreleased ((h input rfl returned).imp_right And.right)
  · intro h other same returned
    obtain rfl := DiscountCommand.updateInfo.inj same
    exact absurd returned h

theorem spares_iff (w : Watched) (input : UpdateDiscountInput) (now : Date)
    (active : w.discount.status = .active) (positive : 0 < w.discount.usageCount) :
    Spares host w (.updateInfo input, now) ↔ Refused host input w.discount w.frozen.isSome := by
  constructor
  · exact fun h => h input rfl active positive
  · intro h other same _ _
    obtain rfl := DiscountCommand.updateInfo.inj same
    exact h

/-- One step keeps the law, and is guarded where it is an update, just where it spares a
discount in use. -/
theorem step_iff (w : Watched) (a : Step) (law : Law w) :
    Law (watch host w a) ∧ Guarded host w a ↔ Spares host w a := by
  obtain ⟨c, now⟩ := a
  by_cases update : ∃ input, c = .updateInfo input
  · obtain ⟨input, rfl⟩ := update
    by_cases used : w.discount.status = .active ∧ 0 < w.discount.usageCount
    · obtain ⟨active, positive⟩ := used
      have unreleased := used_unreleased w.discount active positive
      have live : w.discount.status ≠ .expired := by
        rw [active]
        exact nofun
      rw [guarded_iff host w input now unreleased, spares_iff host w input now active positive,
        updated_law_iff host w input now law unreleased]
      exact refused_iff _ now live
    · refine iff_of_true (unused_update host w input now law used) ?_
      intro _ _ active positive
      exact absurd ⟨active, positive⟩ used
  · have other : ∀ input, c ≠ .updateInfo input := fun input h => update ⟨input, h⟩
    refine iff_of_true ⟨watch_law host w _ law (exec_terms host c now _ other), ?_⟩ ?_
    · exact fun input h => absurd h (other input)
    · exact fun input h => absurd h (other input)

/-- In a run of the commands from any discount, the terms stay from each application to the
next state that is inactive or unused and each update returns only where it is documented
to, just when every update of the run that meets an active discount in use is refused
before it has assigned another value, cap or minimum. -/
theorem terms_frozen_iff (d : Discount) (run : List Step) :
    Throughout (watch host) Law ⟨d, none⟩ run ∧ Along (watch host) (Guarded host) ⟨d, none⟩ run ↔
      Along (watch host) (Spares host) ⟨d, none⟩ run :=
  along_exact_keep (watch host) (fun _ => True) Law _ _ (fun w a _ => step_iff host w a) _ run
    (throughout_of_keep (watch host) _ (fun _ _ _ => trivial) _ run trivial) (law_none d)

end Runs

section Samples

def lowered : UpdateDiscountInput :=
  { noInput with value := some (.ofNat 1), usageLimit := some (some (.ofNat 1)) }

/-- A created discount is applied, and then changed while it is active and used. -/
theorem terms_thawed :
    Discount.create sampleHost .sample (sampleInput (some (.ofNat 2))) (.still 5) = .ok sample ∧
      ¬ (Throughout (watch sampleHost) Law ⟨sample, none⟩
          [(apply "o1", 51), (.updateInfo lowered, 52)] ∧
        Along (watch sampleHost) (Guarded sampleHost) ⟨sample, none⟩
          [(apply "o1", 51), (.updateInfo lowered, 52)]) ∧
      ((DiscountCommand.updateInfo lowered).exec sampleHost 52
        (after (step sampleHost) sample [(apply "o1", 51)])).Returns ∧
      (after (step sampleHost) sample [(apply "o1", 51)]).usageCount = 1 ∧
      (after (step sampleHost) sample [(apply "o1", 51)]).status = .active ∧
      (after (step sampleHost) sample
        [(apply "o1", 51), (.updateInfo lowered, 52)]).discountValue.value = 1 := by
  have returned : ((DiscountCommand.updateInfo lowered).exec sampleHost 52
      (after (step sampleHost) sample [(apply "o1", 51)])).Returns := by
    decide +kernel
  have count : (after (step sampleHost) sample [(apply "o1", 51)]).usageCount = 1 := by
    decide +kernel
  have active : (after (step sampleHost) sample [(apply "o1", 51)]).status = .active := by
    decide +kernel
  refine ⟨sample_created, ?_, returned, count, active, by decide +kernel⟩
  rintro ⟨-, -, guarded, -⟩
  rcases guarded lowered rfl returned with inactive | ⟨-, unused⟩
  · exact absurd (active.symm.trans inactive) nofun
  · exact absurd (count.symm.trans unused) Nat.one_ne_zero

end Samples

end KeramikStore.DiscountTerms
