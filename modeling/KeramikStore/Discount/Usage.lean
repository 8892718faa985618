import KeramikStore.Discount.Discount
import KeramikStore.Library.Runs

/-!
# The uses of a discount

Only an application and a reversal that return change the count of uses, each by one,
and an application returns only below the limit. An update may change the limit, as
its last fallible edit comes before; no other command does.
-/

set_option autoImplicit false

namespace KeramikStore.DiscountUsage
open Library Library.Runs

abbrev Step := DiscountCommand × Date

variable (host : DiscountHost)

def step (d : Discount) (a : Step) : Discount := (a.1.exec host a.2 d).state

section Edits

variable {β : Type} (field : Discount → β)

theorem edit_keeps (given : Bool) (name : String) (d : Discount) (e : Discount.Editing)
    (h : field d = field e.discount) :
    field (Discount.edit given name (.ok d) e).state.discount = field e.discount := by
  unfold Discount.edit
  split
  · exact h
  · rfl

theorem edit_map_keeps {α : Type} (given : Bool) (name : String) (x : Except DiscountError α)
    (f : α → Discount) (e : Discount.Editing) (h : ∀ a, field (f a) = field e.discount) :
    field (Discount.edit given name (x.map f) e).state.discount = field e.discount := by
  cases x with
  | ok a => exact edit_keeps field given name (f a) e (h a)
  | error error =>
    unfold Discount.edit
    split <;> rfl

theorem runEdits_keeps (fs : List (Discount.Editing → Outcome DiscountError Discount.Editing))
    (h : ∀ f ∈ fs, ∀ e, field (f e).state.discount = field e.discount) (e : Discount.Editing) :
    field (Discount.runEdits fs e).state.discount = field e.discount := by
  induction fs generalizing e with
  | nil => rfl
  | cons f fs ih =>
    have here := h f List.mem_cons_self e
    have rest := ih fun g mem => h g (List.mem_cons_of_mem f mem)
    unfold Discount.runEdits Outcome.andThen
    cases (f e).thrown with
    | none => exact (rest _).trans here
    | some error => exact here

theorem edits_keep_count (input : UpdateDiscountInput) : ∀ f ∈ Discount.edits host input,
    ∀ e, (f e).state.discount.usageCount = e.discount.usageCount := by
  intro f mem e
  simp only [Discount.edits, List.mem_cons, List.not_mem_nil, or_false] at mem
  rcases mem with rfl | rfl | rfl | rfl | rfl | rfl | rfl | rfl | rfl
  · exact edit_keeps Discount.usageCount _ _ _ e rfl
  · exact edit_keeps Discount.usageCount _ _ _ e rfl
  · exact edit_map_keeps Discount.usageCount _ _ _ _ e fun _ => rfl
  · exact edit_keeps Discount.usageCount _ _ _ e rfl
  · exact edit_map_keeps Discount.usageCount _ _ _ _ e fun _ => rfl
  · exact edit_map_keeps Discount.usageCount _ _ _ _ e fun _ => rfl
  · exact edit_keeps Discount.usageCount _ _ _ e rfl
  · exact edit_keeps Discount.usageCount _ _ _ e rfl
  · exact edit_keeps Discount.usageCount _ _ _ e rfl

theorem updateInfo_count (input : UpdateDiscountInput) (now : Date) (d : Discount) :
    (Discount.updateInfo host input now d).state.usageCount = d.usageCount := by
  have kept := runEdits_keeps Discount.usageCount _ (edits_keep_count host input) ⟨d, []⟩
  unfold Discount.updateInfo
  split
  · rfl
  · dsimp only
    split
    · exact kept
    · unfold Discount.finish
      split <;> exact kept

end Edits

/-- The commands that go by the table of the status keep the count and the limit. -/
theorem transition_keeps (newStatus : DiscountStatus) (announcement : DiscountEvent) (now : Date)
    (d : Discount) :
    (d.transition newStatus announcement now).state.usageCount = d.usageCount ∧
      (d.transition newStatus announcement now).state.usageLimit = d.usageLimit := by
  unfold Discount.transition
  split <;> exact ⟨rfl, rfl⟩

def turnsStatus : DiscountCommand → Bool
  | .activate | .deactivate _ | .markAsExpired => true
  | .applyToOrder .. | .reverseUsage | .updateInfo _ => false

def used (d : Discount) (orderId : String) (purchaseAmount : JsNumber) (currency : String)
    (now : Date) : Discount :=
  { d with
    usageCount := d.usageCount + 1
    updatedAt := now
    domainEvents := d.domainEvents ++ [.discountApplied d.id.getValue d.code.getValue orderId
      (d.calculateDiscount host purchaseAmount) currency (d.usageCount + 1)] }

inductive Effect (d : Discount) (now : Date) : DiscountCommand → Discount.Call → Prop where
  | threw (c : DiscountCommand) (e : DiscountError) : Effect d now c (.threw e d)
  | transitioned (c : DiscountCommand) (o : Discount.Call) (turns : turnsStatus c = true)
      (count : o.state.usageCount = d.usageCount) (limit : o.state.usageLimit = d.usageLimit) :
      Effect d now c o
  | applied (orderId : String) (purchaseAmount : JsNumber) (currency : String)
      (time : Option Date) (unreached : d.isUsageLimitReached = false) :
      Effect d now (.applyToOrder orderId purchaseAmount currency time)
        (.done (used host d orderId purchaseAmount currency now))
  | reversed (positive : 0 < d.usageCount) :
      Effect d now .reverseUsage
        (.done { d with usageCount := d.usageCount - 1, updatedAt := now })
  | updated (input : UpdateDiscountInput) (o : Discount.Call)
      (count : o.state.usageCount = d.usageCount) : Effect d now (.updateInfo input) o

theorem checkApplicable_unreached (purchaseAmount : JsNumber) (currency : String)
    (time : Option Date) (d : Discount)
    (h : d.checkApplicable host purchaseAmount currency time = .ok ()) :
    d.isUsageLimitReached = false := by
  unfold Discount.checkApplicable at h
  split at h
  · cases h
  split at h
  · split at h <;> cases h
  split at h
  · cases h
  next unreached => exact Bool.not_eq_true _ ▸ unreached

section Application

variable (d : Discount) (orderId : String) (purchaseAmount : JsNumber) (currency : String)
  (time : Option Date) (now : Date)

theorem applyToOrder_error (e : DiscountError)
    (h : d.checkApplicable host purchaseAmount currency time = .error e) :
    d.applyToOrder host orderId purchaseAmount currency time now = .error e := by
  unfold Discount.applyToOrder
  rw [h]
  rfl

theorem applyToOrder_ok (h : d.checkApplicable host purchaseAmount currency time = .ok ()) :
    d.applyToOrder host orderId purchaseAmount currency time now =
      .ok (d.calculateDiscount host purchaseAmount,
        used host d orderId purchaseAmount currency now) := by
  unfold Discount.applyToOrder
  rw [h]
  rfl

theorem applyToOrder_effect :
    Effect host d now (.applyToOrder orderId purchaseAmount currency time)
      (DiscountCommand.exec host now (.applyToOrder orderId purchaseAmount currency time) d) := by
  cases checked : d.checkApplicable host purchaseAmount currency time with
  | error e =>
    simp only [DiscountCommand.exec,
      applyToOrder_error host d orderId purchaseAmount currency time now e checked]
    exact .threw _ e
  | ok =>
    simp only [DiscountCommand.exec,
      applyToOrder_ok host d orderId purchaseAmount currency time now checked]
    exact .applied orderId purchaseAmount currency time
      (checkApplicable_unreached host purchaseAmount currency time d checked)

end Application

theorem transition_effect (d : Discount) (now : Date) (c : DiscountCommand)
    (newStatus : DiscountStatus) (announcement : DiscountEvent) (turns : turnsStatus c = true) :
    Effect host d now c (d.transition newStatus announcement now) := by
  obtain ⟨count, limit⟩ := transition_keeps newStatus announcement now d
  exact .transitioned c _ turns count limit

theorem exec_effect (d : Discount) (now : Date) (c : DiscountCommand) :
    Effect host d now c (c.exec host now d) := by
  cases c with
  | activate =>
    change Effect host d now .activate (Discount.activate now d)
    unfold Discount.activate
    exact transition_effect host d now _ _ _ rfl
  | deactivate reason =>
    change Effect host d now (.deactivate reason) (Discount.deactivate reason now d)
    unfold Discount.deactivate
    exact transition_effect host d now _ _ _ rfl
  | markAsExpired =>
    change Effect host d now .markAsExpired (Discount.markAsExpired now d)
    unfold Discount.markAsExpired
    split
    · exact .transitioned _ _ rfl rfl rfl
    · exact transition_effect host d now _ _ _ rfl
  | applyToOrder orderId purchaseAmount currency time =>
    exact applyToOrder_effect host d orderId purchaseAmount currency time now
  | reverseUsage =>
    change Effect host d now .reverseUsage (Discount.reverseUsage now d)
    unfold Discount.reverseUsage
    split
    · exact .threw _ _
    next positive => exact .reversed (not_le.mp positive)
  | updateInfo input => exact .updated input _ (updateInfo_count host input now d)

def applications : DiscountCommand → ℤ
  | .applyToOrder .. => 1
  | _ => 0

def reversals : DiscountCommand → ℤ
  | .reverseUsage => 1
  | _ => 0

def completed (uses : DiscountCommand → ℤ) (d : Discount) (a : Step) : ℤ :=
  if (a.1.exec host a.2 d).Returns then uses a.1 else 0

theorem turnsStatus_uses (c : DiscountCommand) (h : turnsStatus c = true) :
    applications c = 0 ∧ reversals c = 0 := by
  cases c with
  | activate | deactivate | markAsExpired => exact ⟨rfl, rfl⟩
  | _ => cases h

/-- Applications and reversals that return are what changes the count. -/
theorem step_count (d : Discount) (a : Step) :
    ((step host d a).usageCount : ℤ) =
      d.usageCount + (completed host applications d a - completed host reversals d a) := by
  obtain ⟨c, now⟩ := a
  have effect := exec_effect host d now c
  have result : step host d (c, now) = (c.exec host now d).state := rfl
  rw [result]
  cases call : DiscountCommand.exec host now c d with | mk thrown state =>
  rw [call] at effect
  have completes : ∀ uses, completed host uses d (c, now) =
      if (Outcome.mk thrown state).Returns then uses c else 0 := by
    intro uses
    unfold completed
    rw [call]
  rw [completes, completes]
  cases effect with
  | threw c e => simp [Outcome.Returns]
  | transitioned c o turns count limit =>
    obtain ⟨applied, reversed⟩ := turnsStatus_uses c turns
    rw [applied, reversed, ite_self, count, sub_zero, add_zero]
  | applied orderId purchaseAmount currency time unreached =>
    simp [Outcome.Returns, applications, reversals, used]
  | reversed positive =>
    simp only [Outcome.Returns, applications, reversals, if_true]
    omega
  | updated input o count =>
    have applied : applications (.updateInfo input) = 0 := rfl
    have reversed : reversals (.updateInfo input) = 0 := rfl
    rw [applied, reversed, ite_self, count, sub_zero, add_zero]

def limitInForce (d : Discount) : Option JsNumber := d.usageLimit.filter (· ≠ .nan)

def Admits (d : Discount) (a : Step) : Prop :=
  ∀ orderId purchaseAmount currency time,
    a.1 = .applyToOrder orderId purchaseAmount currency time → (a.1.exec host a.2 d).Returns →
      (∀ limit ∈ limitInForce d, (JsNumber.ofNat d.usageCount).lt limit = true) ∧
        (step host d a).usageCount = d.usageCount + 1 ∧
        (step host d a).domainEvents = d.domainEvents ++ [.discountApplied d.id.getValue
          d.code.getValue orderId (d.calculateDiscount host purchaseAmount) currency
          (step host d a).usageCount]

theorem unreached_lt (d : Discount) (h : d.isUsageLimitReached = false) :
    ∀ limit ∈ limitInForce d, (JsNumber.ofNat d.usageCount).lt limit = true := by
  intro limit mem
  obtain ⟨given, number⟩ := Option.mem_filter_iff.mp mem
  unfold Discount.isUsageLimitReached at h
  rw [Option.mem_def.mp given] at h
  have below : (JsNumber.ofNat d.usageCount).ge limit = false := h
  cases limit with
  | nan => simp at number
  | negInf => cases below
  | posInf => rfl
  | fin q => simpa [JsNumber.ge, JsNumber.ofNat] using below

theorem step_admits (d : Discount) (a : Step) : Admits host d a := by
  obtain ⟨c, now⟩ := a
  rintro orderId purchaseAmount currency time e returned
  obtain rfl : c = .applyToOrder orderId purchaseAmount currency time := e
  have effect := applyToOrder_effect host d orderId purchaseAmount currency time now
  unfold step
  dsimp only at returned ⊢
  generalize DiscountCommand.exec host now (.applyToOrder orderId purchaseAmount currency time) d =
    o at effect returned
  cases effect with
  | threw c e => exact absurd returned (Outcome.not_returns_threw e d)
  | transitioned c o turns => cases turns
  | applied _ _ _ _ unreached => exact ⟨unreached_lt d unreached, rfl, rfl⟩

def KeepsLimit (d : Discount) (a : Step) : Prop :=
  ∀ input, a.1 = .updateInfo input → (step host d a).usageLimit = d.usageLimit

structure Within (limit : ℤ) (d : Discount) : Prop where
  bounded : d.usageLimit = some (.fin limit)
  count : (d.usageCount : ℤ) ≤ max 0 limit

theorem step_within (limit : ℤ) (d : Discount) (a : Step) (h : Within limit d)
    (keeps : KeepsLimit host d a) : Within limit (step host d a) := by
  obtain ⟨c, now⟩ := a
  have effect := exec_effect host d now c
  have count := h.count
  unfold KeepsLimit step at keeps
  unfold step
  dsimp only at keeps ⊢
  generalize DiscountCommand.exec host now c d = o at effect keeps
  cases effect with
  | threw c e => exact h
  | transitioned c o turns same unchanged =>
    exact ⟨unchanged.trans h.bounded, by rw [same]; exact count⟩
  | applied orderId purchaseAmount currency time unreached =>
    refine ⟨h.bounded, ?_⟩
    have below : (JsNumber.ofNat d.usageCount).lt (.fin limit) = true := by
      apply unreached_lt d unreached
      rw [limitInForce, h.bounded]
      rfl
    have strict : (d.usageCount : ℤ) < limit := by
      have : (d.usageCount : ℚ) < limit := by simpa [JsNumber.ofNat, JsNumber.lt] using below
      exact_mod_cast this
    change ((d.usageCount + 1 : ℕ) : ℤ) ≤ max 0 limit
    omega
  | reversed positive =>
    refine ⟨h.bounded, ?_⟩
    change ((d.usageCount - 1 : ℕ) : ℤ) ≤ max 0 limit
    omega
  | updated input o same =>
    exact ⟨(keeps input rfl).trans h.bounded, by rw [same]; exact count⟩

def unreversed (d : Discount) (run : List Step) : ℤ :=
  total (step host) (completed host applications) d run -
    total (step host) (completed host reversals) d run

structure Accounts (d : Discount) (run : List Step) : Prop where
  count : ((after (step host) d run).usageCount : ℤ) = unreversed host d run
  nonneg : 0 ≤ unreversed host d run

section Runs

variable (generated : DiscountId) (input : CreateDiscountProps) (clk : Clock) (d : Discount)

theorem created_fields (h : Discount.create host generated input clk = .ok d) :
    d.usageCount = 0 ∧ d.usageLimit = input.usageLimit := by
  unfold Discount.create at h
  obtain ⟨code, -, h⟩ := (bind_ok_iff _ _ _).mp h
  obtain ⟨value, -, h⟩ := (bind_ok_iff _ _ _).mp h
  obtain ⟨period, -, h⟩ := (bind_ok_iff _ _ _).mp h
  obtain ⟨minPurchase, -, h⟩ := (bind_ok_iff _ _ _).mp h
  obtain rfl := Except.ok.inj h
  exact ⟨rfl, rfl⟩

theorem run_accounts (run : List Step) (unused : d.usageCount = 0) : Accounts host d run := by
  have measured := after_eq_total (step host)
    (fun e a => completed host applications e a - completed host reversals e a)
    (fun e => (e.usageCount : ℤ)) (fun _ _ => True) (fun e a _ => step_count host e a) d run
    (along_of_forall (step host) _ (fun _ _ => trivial) d run)
  have count : ((after (step host) d run).usageCount : ℤ) = unreversed host d run := by
    rw [measured, total_sub, unused, Nat.cast_zero, zero_add, unreversed]
  refine ⟨count, ?_⟩
  rw [← count]
  exact Int.natCast_nonneg _

theorem integral_limit (limit : JsNumber) (q : ℚ) (h : limit.isInteger = true)
    (value : limit = .fin q) : ∃ n : ℤ, q = n := by
  rw [value] at h
  exact ⟨q.num, (Rat.coe_int_num_of_den_eq_one (of_decide_eq_true h)).symm⟩

/-- In every run from `create`, the count is that of the applications less that of the
reversals, and each application finds it below the limit in force. As long as no update
changes the limit, the applications that are not reversed keep within it, or within
none where it is negative. -/
theorem usage_accounting (created : Discount.create host generated input clk = .ok d)
    (integral : ∀ limit ∈ input.usageLimit, limit.isInteger = true) (run : List Step) :
    (∀ before later, run = before ++ later → Accounts host d before) ∧
      Along (step host) (Admits host) d run ∧
      (Along (step host) (KeepsLimit host) d run →
        ∀ before later, run = before ++ later →
          ∀ q, d.usageLimit = some (.fin q) → (unreversed host d before : ℚ) ≤ max 0 q) := by
  obtain ⟨unused, limited⟩ := created_fields host generated input clk d created
  refine ⟨fun before _ _ => run_accounts host d before unused,
    along_of_forall (step host) _ (step_admits host) d run, ?_⟩
  rintro keeps before later rfl q limit
  obtain ⟨n, rfl⟩ := integral_limit _ q (integral _ (limited.symm.trans limit)) rfl
  have start : Within n d := ⟨limit, by rw [unused]; exact le_max_left 0 n⟩
  have kept := ((along_append (step host) _ d before later).mp keeps).1
  have reached := throughout_end (step host) _ d before <|
    throughout_of_step (step host) (Within n) (KeepsLimit host)
      (fun e a h k => step_within host n e a h k) d before start kept
  have count := reached.count
  rw [(run_accounts host d before unused).count] at count
  exact_mod_cast count

end Runs

section Samples

def sampleHost : DiscountHost := ⟨.fin, id, fun _ => ""⟩

def sampleInput (usageLimit : Option JsNumber) : CreateDiscountProps where
  code := "TILE10"
  name := "Ten percent"
  description := none
  type := "PERCENTAGE"
  value := .ofNat 10
  maxDiscount := none
  applicability := none
  minPurchase := none
  currency := none
  startDate := some 0
  endDate := some 100
  usageLimit := usageLimit
  perUserLimit := none
  productIds := none

theorem sample_positive : (0 : ℚ) < 10 := by norm_num

theorem sample_uncapped : ∀ cap ∈ (none : Option ℚ), 0 < cap := by simp

theorem sample_ordered : (0 : Date) < 100 := by decide

def sampleDiscount (usageLimit : Option JsNumber) : Discount where
  id := .sample
  code := ⟨"TILE10"⟩
  name := "Ten percent"
  description := none
  discountValue := ⟨"PERCENTAGE", 10, none, sample_positive, sample_uncapped⟩
  applicability := .allProducts
  minPurchase := none
  period := ⟨0, 100, sample_ordered⟩
  status := .active
  usageLimit := usageLimit
  usageCount := 0
  perUserLimit := none
  productIds := []
  createdAt := 5
  updatedAt := 5
  domainEvents := [.discountCreated UserId.sample.value "TILE10" "Ten percent" "PERCENTAGE"
    (.fin 10) .allProducts 0 100 .active]

theorem sample_created :
    Discount.create sampleHost .sample (sampleInput (some (.ofNat 2))) (.still 5) =
      .ok (sampleDiscount (some (.ofNat 2))) := by
  decide +kernel

theorem negative_created :
    Discount.create sampleHost .sample (sampleInput (some (.fin (-1)))) (.still 5) =
      .ok (sampleDiscount (some (.fin (-1)))) := by
  decide +kernel

def apply (orderId : String) : DiscountCommand :=
  .applyToOrder orderId (.ofNat 200) "IDR" (some 50)

def sampleRun : List Step :=
  [(apply "o1", 51), (apply "o2", 52), (apply "o3", 53), (.reverseUsage, 54), (apply "o4", 55)]

theorem sample_usage_accounting :
    (∀ before later, sampleRun = before ++ later →
        Accounts sampleHost (sampleDiscount (some (.ofNat 2))) before) ∧
      Along (step sampleHost) (Admits sampleHost) (sampleDiscount (some (.ofNat 2))) sampleRun ∧
      (Along (step sampleHost) (KeepsLimit sampleHost) (sampleDiscount (some (.ofNat 2)))
          sampleRun →
        ∀ before later, sampleRun = before ++ later →
          ∀ q, (sampleDiscount (some (.ofNat 2))).usageLimit = some (.fin q) →
            (unreversed sampleHost (sampleDiscount (some (.ofNat 2))) before : ℚ) ≤ max 0 q) :=
  usage_accounting sampleHost .sample (sampleInput (some (.ofNat 2))) (.still 5) _ sample_created
    (fun limit h => by obtain rfl := Option.some.inj h; decide +kernel) sampleRun

def limitTo (limit : JsNumber) : UpdateDiscountInput :=
  ⟨none, none, none, none, none, none, none, none, none, none, some (some limit), none, none⟩

/-- A limit of minus one is exceeded by no application at all, and a limit that is not a
number is not above any count. -/
theorem limit_exceeded :
    Discount.create sampleHost .sample (sampleInput (some (.fin (-1)))) (.still 5) =
        .ok (sampleDiscount (some (.fin (-1)))) ∧
      ¬ (unreversed sampleHost (sampleDiscount (some (.fin (-1)))) [] : ℚ) ≤ -1 ∧
      Discount.create sampleHost .sample (sampleInput (some (.ofNat 2))) (.still 5) =
        .ok (sampleDiscount (some (.ofNat 2))) ∧
      (after (step sampleHost) (sampleDiscount (some (.ofNat 2)))
        [(.updateInfo (limitTo .nan), 51)]).usageLimit = some .nan ∧
      ((apply "o1").exec sampleHost 52 (after (step sampleHost)
        (sampleDiscount (some (.ofNat 2))) [(.updateInfo (limitTo .nan), 51)])).Returns ∧
      (JsNumber.ofNat 0).lt .nan = false := by
  refine ⟨negative_created, ?_, sample_created, ?_, ?_, rfl⟩
  · norm_num [unreversed, total]
  · decide +kernel
  · decide +kernel

end Samples

end KeramikStore.DiscountUsage
