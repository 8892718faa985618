import KeramikStore.Library.Runs
import KeramikStore.Library.StatusPath
import KeramikStore.Payment.Payment

/-!
# The lifecycle of a payment

Every command keeps the data of the payment and either keeps its status, or moves
it along the table and appends the two events of the move. So the events that the
payment has emitted tell its status: the changes form a path to it, and the other
announcements are those of the statuses on the way.
-/

set_option autoImplicit false

namespace KeramikStore.PaymentLifecycle
open Library Library.Runs Library.StatusPath

def announcement (p : Payment) (reason : Option String) : PaymentStatus → List PaymentEvent
  | .initiated | .pending => []
  | .settlement =>
    [.settled p.id.getValue p.orderId p.providerRef.getValue p.amount.getAmount p.currency]
  | .cancel => [.cancelled p.id.getValue p.orderId p.providerRef.getValue]
  | .expire => [.expired p.id.getValue p.orderId p.providerRef.getValue]
  | .deny => [.denied p.id.getValue p.orderId p.providerRef.getValue]
  | .refund =>
    [.refunded p.id.getValue p.orderId p.providerRef.getValue p.amount.getAmount p.currency]
  | .failed => [.failed p.id.getValue p.orderId p.providerRef.getValue reason]

def change (p : Payment) (newStatus : PaymentStatus) : PaymentEvent :=
  .statusChanged p.id.getValue p.orderId p.providerRef.getValue p.status newStatus

def receipt (p : Payment) (payload : Payload) : PaymentEvent :=
  .webhookReceived p.id.getValue p.orderId p.providerRef.getValue p.provider payload

inductive Marks (p : Payment) (newStatus : PaymentStatus) (payload : Option Payload)
    (reason : Option String) (now : Date) : Payment.Call → Prop where
  | same (h : p.status = newStatus) : Marks p newStatus payload reason now (.done p)
  | moved (h : p.status ≠ newStatus) (allowed : p.status.canTransitionTo newStatus = true) :
      Marks p newStatus payload reason now <| .done
        { p with status := newStatus
                 updatedAt := now
                 rawWebhookPayload := payload.or p.rawWebhookPayload
                 domainEvents := p.domainEvents ++ [change p newStatus] ++
                   announcement p reason newStatus }
  | refused (e : PaymentError) (h : p.status ≠ newStatus)
      (forbidden : p.status.canTransitionTo newStatus = false) :
      Marks p newStatus payload reason now (.threw e p)

theorem markAs_marks (p : Payment) (newStatus : PaymentStatus) (payload : Option Payload)
    (reason : Option String) (now : Date) (announce : Payment → List PaymentEvent)
    (h : ∀ q : Payment, announce q = announcement q reason newStatus) :
    Marks p newStatus payload reason now (Payment.markAs newStatus payload announce now p) := by
  unfold Payment.markAs
  split
  next same => exact .same same
  next different =>
    unfold Payment.transitionStatus PaymentStatus.transitionTo
    split_ifs with allowed
    · rw [Outcome.done_andThen, h]
      exact .moved different allowed
    · exact .refused _ different (by simpa using allowed)

def recorded (p : Payment) : PaymentCommand → Payment
  | .processWebhook _ payload =>
    { p with rawWebhookPayload := some payload
             domainEvents := p.domainEvents ++ [receipt p payload] }
  | _ => p

def target : PaymentCommand → Option PaymentStatus
  | .markAsPending => some .pending
  | .markAsSettled _ => some .settlement
  | .markAsCancelled _ => some .cancel
  | .markAsExpired _ => some .expire
  | .markAsDenied _ => some .deny
  | .markAsRefunded _ => some .refund
  | .markAsFailed _ _ => some .failed
  | .processWebhook newStatus _ =>
    match Payment.mapProviderStatus newStatus with
    | .ok (.status s) => some s
    | _ => none

def delivered : PaymentCommand → Option Payload
  | .markAsPending => none
  | .markAsSettled payload | .markAsCancelled payload | .markAsExpired payload
  | .markAsDenied payload | .markAsRefunded payload | .markAsFailed _ payload => payload
  | .processWebhook _ payload => some payload

inductive Effect (p : Payment) (now : Date) (c : PaymentCommand) : Payment.Call → Prop where
  | marks (t : PaymentStatus) (payload : Option Payload) (reason : Option String)
      (o : Payment.Call) (goal : target c = some t)
      (own : ∀ q, payload = some q → delivered c = some q)
      (h : Marks (recorded p c) t payload reason now o) : Effect p now c o
  | unmapped (e : PaymentError) (goal : target c = none) : Effect p now c (.threw e (recorded p c))

theorem mapProviderStatus_status (newStatus : String) (s : PaymentStatus)
    (h : Payment.mapProviderStatus newStatus = .ok (.status s)) : s ≠ .initiated := by
  unfold Payment.mapProviderStatus at h
  split at h
  next t found =>
    obtain rfl := Payment.Mapped.status.inj (Except.ok.inj h)
    have entry : (newStatus, t) ∈ Payment.statusMap := by
      obtain ⟨l₁, l₂, e, -⟩ := List.lookup_eq_some_iff.mp found
      rw [e]
      simp
    have table : ∀ entry ∈ Payment.statusMap, entry.2 ≠ PaymentStatus.initiated := by decide
    exact table _ entry
  · split_ifs at h
    cases Except.ok.inj h

theorem processWebhook_error (p : Payment) (newStatus : String) (payload : Payload) (now : Date)
    (e : PaymentError) (mapped : Payment.mapProviderStatus newStatus = .error e) :
    PaymentCommand.exec now (.processWebhook newStatus payload) p =
      .threw e (recorded p (.processWebhook newStatus payload)) := by
  change Payment.processWebhook newStatus payload now p = _
  unfold Payment.processWebhook
  rw [mapped]
  rfl

theorem processWebhook_ok (p : Payment) (newStatus : String) (payload : Payload) (now : Date)
    (m : Payment.Mapped) (mapped : Payment.mapProviderStatus newStatus = .ok m) :
    PaymentCommand.exec now (.processWebhook newStatus payload) p =
      Payment.applyMapped newStatus payload now
        (recorded p (.processWebhook newStatus payload)) m := by
  change Payment.processWebhook newStatus payload now p = _
  unfold Payment.processWebhook
  rw [mapped]
  rfl

theorem exec_effect (p : Payment) (now : Date) (c : PaymentCommand) :
    Effect p now c (c.exec now p) := by
  cases c with
  | markAsPending =>
    exact .marks .pending none none _ rfl nofun (markAs_marks _ _ _ _ _ _ fun _ => rfl)
  | markAsSettled payload =>
    exact .marks .settlement payload none _ rfl (fun _ h => h)
      (markAs_marks _ _ _ _ _ _ fun _ => rfl)
  | markAsCancelled payload =>
    exact .marks .cancel payload none _ rfl (fun _ h => h) (markAs_marks _ _ _ _ _ _ fun _ => rfl)
  | markAsExpired payload =>
    exact .marks .expire payload none _ rfl (fun _ h => h) (markAs_marks _ _ _ _ _ _ fun _ => rfl)
  | markAsDenied payload =>
    exact .marks .deny payload none _ rfl (fun _ h => h) (markAs_marks _ _ _ _ _ _ fun _ => rfl)
  | markAsRefunded payload =>
    exact .marks .refund payload none _ rfl (fun _ h => h) (markAs_marks _ _ _ _ _ _ fun _ => rfl)
  | markAsFailed reason payload =>
    exact .marks .failed payload reason _ rfl (fun _ h => h)
      (markAs_marks _ _ _ _ _ _ fun _ => rfl)
  | processWebhook newStatus payload =>
    cases mapped : Payment.mapProviderStatus newStatus with
    | error e =>
      rw [processWebhook_error p newStatus payload now e mapped]
      exact .unmapped e (by simp [target, mapped])
    | ok m =>
      rw [processWebhook_ok p newStatus payload now m mapped]
      cases m with
      | inherited => exact .unmapped _ (by simp [target, mapped])
      | status s =>
        have goal : target (.processWebhook newStatus payload) = some s := by simp [target, mapped]
        cases s with
        | initiated => exact absurd rfl (mapProviderStatus_status _ _ mapped)
        | pending =>
          exact .marks .pending none none _ goal nofun (markAs_marks _ _ _ _ _ _ fun _ => rfl)
        | failed =>
          exact .marks .failed (some payload) (some "Webhook reported failure") _ goal
            (fun _ h => h) (markAs_marks _ _ _ _ _ _ fun _ => rfl)
        | _ =>
          exact .marks _ (some payload) none _ goal (fun _ h => h)
            (markAs_marks _ _ _ _ _ _ fun _ => rfl)

def statusChange : PaymentEvent → Option (PaymentStatus × PaymentStatus)
  | .statusChanged _ _ _ previousStatus newStatus => some (previousStatus, newStatus)
  | _ => none

def isAnnouncement : PaymentEvent → Bool
  | .settled .. | .cancelled .. | .expired .. | .denied .. | .refunded .. | .failed .. => true
  | _ => false

def isSettled : PaymentEvent → Bool
  | .settled .. => true
  | _ => false

def isRefunded : PaymentEvent → Bool
  | .refunded .. => true
  | _ => false

def isFinal : PaymentEvent → Bool
  | .cancelled .. | .expired .. | .denied .. | .refunded .. | .failed .. => true
  | _ => false

def allowed (s t : PaymentStatus) : Prop := s.canTransitionTo t = true

def history (p : Payment) (reason : Option String) : List PaymentEvent :=
  if p.status = .refund then announcement p reason .settlement ++ announcement p reason .refund
  else announcement p reason p.status

structure Traced (p : Payment) : Prop where
  path : Path allowed .initiated (p.domainEvents.filterMap statusChange) p.status
  announced : ∃ reason, p.domainEvents.filter isAnnouncement = history p reason

theorem statusChange_announcement (p : Payment) (reason : Option String) (t : PaymentStatus) :
    (announcement p reason t).filterMap statusChange = [] := by
  cases t <;> rfl

theorem isAnnouncement_announcement (p : Payment) (reason : Option String) (t : PaymentStatus) :
    (announcement p reason t).filter isAnnouncement = announcement p reason t := by
  cases t <;> rfl

theorem recorded_status (p : Payment) (c : PaymentCommand) : (recorded p c).status = p.status := by
  cases c <;> rfl

theorem statusChange_receipt (p : Payment) (payload : Payload) :
    [receipt p payload].filterMap statusChange = [] := rfl

theorem statusChange_change (p : Payment) (t : PaymentStatus) :
    [change p t].filterMap statusChange = [(p.status, t)] := rfl

theorem isAnnouncement_receipt (p : Payment) (payload : Payload) :
    [receipt p payload].filter isAnnouncement = [] := rfl

theorem isAnnouncement_change (p : Payment) (t : PaymentStatus) :
    [change p t].filter isAnnouncement = [] := rfl

theorem recorded_traced (p : Payment) (c : PaymentCommand) (h : Traced p) :
    Traced (recorded p c) := by
  cases c with
  | processWebhook newStatus payload =>
    obtain ⟨path, reason, announced⟩ := h
    constructor
    · unfold recorded
      rw [List.filterMap_append, statusChange_receipt, List.append_nil]
      exact path
    · refine ⟨reason, ?_⟩
      unfold recorded
      rw [List.filter_append, isAnnouncement_receipt, List.append_nil]
      exact announced
  | _ => exact h

/-- The announcements before an allowed move are those that the new status needs. -/
theorem history_moved (p : Payment) (t : PaymentStatus) (reason old : Option String)
    (h : p.status.canTransitionTo t = true) :
    history p old ++ announcement p reason t =
      if t = .refund then announcement p reason .settlement ++ announcement p reason .refund
      else announcement p reason t := by
  unfold history
  generalize p.status = s at h ⊢
  cases s <;> cases t <;> first | rfl | cases h

theorem marks_traced (p : Payment) (t : PaymentStatus) (payload : Option Payload)
    (reason : Option String) (now : Date) (o : Payment.Call) (h : Traced p)
    (marks : Marks p t payload reason now o) : Traced o.state := by
  cases marks with
  | same => exact h
  | refused => exact h
  | moved different permitted =>
    obtain ⟨path, old, announced⟩ := h
    constructor
    · rw [Outcome.state_done, List.filterMap_append, List.filterMap_append, statusChange_change,
        statusChange_announcement, List.append_nil]
      exact path_snoc allowed _ _ t _ path permitted
    · refine ⟨reason, ?_⟩
      rw [Outcome.state_done, List.filter_append, List.filter_append, isAnnouncement_change,
        isAnnouncement_announcement, List.append_nil, announced]
      exact history_moved p t reason old permitted

abbrev Step := PaymentCommand × Date

def step (p : Payment) (a : Step) : Payment := (a.1.exec a.2 p).state

theorem step_traced (p : Payment) (a : Step) (h : Traced p) : Traced (step p a) := by
  have recorded := recorded_traced p a.1 h
  have effect := exec_effect p a.2 a.1
  unfold step
  generalize PaymentCommand.exec a.2 a.1 p = o at effect
  cases effect with
  | marks t payload reason o _ _ marks => exact marks_traced _ t payload reason a.2 o recorded marks
  | unmapped e => exact recorded

theorem step_terminal (p : Payment) (a : Step) (h : p.status.isTerminal = true) :
    (step p a).status = p.status := by
  have effect := exec_effect p a.2 a.1
  unfold step
  generalize PaymentCommand.exec a.2 a.1 p = o at effect
  cases effect with
  | marks t payload reason o _ _ marks =>
    cases marks with
    | moved different permitted =>
      rw [recorded_status, PaymentStatus.terminal_stays _ t h] at permitted
      cases permitted
    | _ => exact recorded_status p a.1
  | unmapped e => exact recorded_status p a.1

theorem run_terminal (p : Payment) (run : List Step) (h : p.status.isTerminal = true) :
    (after step p run).status = p.status := by
  induction run generalizing p with
  | nil => rfl
  | cons a run ih =>
    have kept := step_terminal p a h
    rw [after_cons, ih _ (by rw [kept]; exact h), kept]

theorem created_traced (generated : PaymentId) (input : Payment.CreatePaymentProps) (clk : Clock)
    (p : Payment) (h : Payment.create generated input clk = .ok p) : Traced p := by
  unfold Payment.create at h
  obtain ⟨providerRef, -, h⟩ := (bind_ok_iff _ _ _).mp h
  obtain ⟨amount, -, h⟩ := (bind_ok_iff _ _ _).mp h
  obtain rfl := Except.ok.inj h
  exact ⟨rfl, none, rfl⟩

structure Lifecycle (p : Payment) : Prop where
  path : Path allowed .initiated (p.domainEvents.filterMap statusChange) p.status
  settled_once : p.domainEvents.countP isSettled ≤ 1
  refunded_once : p.domainEvents.countP isRefunded ≤ 1
  refund_follows : ∀ before later id order ref amount currency,
    p.domainEvents = before ++ .refunded id order ref amount currency :: later →
      ∃ id' order' ref', PaymentEvent.settled id' order' ref' amount currency ∈ before
  final_once : p.domainEvents.countP isFinal ≤ 1

theorem countP_announcements (events : List PaymentEvent) (q : PaymentEvent → Bool)
    (h : ∀ e, q e = true → isAnnouncement e = true) :
    events.countP q = (events.filter isAnnouncement).countP q := by
  rw [List.countP_filter]
  apply List.countP_congr
  intro e _
  constructor
  · intro he
    simp [he, h e he]
  · intro he
    exact (Bool.and_eq_true_iff.mp he).1

theorem history_counts (p : Payment) (reason : Option String) :
    (history p reason).countP isSettled ≤ 1 ∧ (history p reason).countP isRefunded ≤ 1 ∧
      (history p reason).countP isFinal ≤ 1 := by
  unfold history
  cases p.status <;> simp [announcement, isSettled, isRefunded, isFinal, List.countP_cons]

theorem refunded_mem_history (p : Payment) (reason : Option String) (id order ref : String)
    (amount : JsNumber) (currency : String)
    (h : .refunded id order ref amount currency ∈ history p reason) : p.status = .refund := by
  unfold history at h
  split_ifs at h with refunded
  · exact refunded
  · cases status : p.status <;> simp [announcement, status] at h refunded

/-- A refund in the history comes after the settlement of the same amount. -/
theorem history_refund (p : Payment) (reason : Option String) (before later : List PaymentEvent)
    (id order ref : String) (amount : JsNumber) (currency : String)
    (h : before ++ .refunded id order ref amount currency :: later = history p reason) :
    ∃ id' order' ref', PaymentEvent.settled id' order' ref' amount currency ∈ before := by
  have status : p.status = .refund :=
    refunded_mem_history p reason id order ref amount currency (by rw [← h]; simp)
  unfold history at h
  rw [if_pos status] at h
  -- the refund is the second of the two events, so the settlement is before it
  match before, h with
  | [], h => cases h
  | [_], h =>
    simp only [announcement, List.cons_append, List.nil_append, List.cons.injEq,
      PaymentEvent.refunded.injEq] at h
    obtain ⟨rfl, ⟨-, -, -, rfl, rfl⟩, -⟩ := h
    exact ⟨_, _, _, List.mem_singleton.mpr rfl⟩
  | _ :: _ :: rest, h => simp [announcement] at h

theorem traced_lifecycle (p : Payment) (h : Traced p) : Lifecycle p := by
  obtain ⟨path, reason, announced⟩ := h
  obtain ⟨settled, refunded, final⟩ := history_counts p reason
  refine ⟨path, ?_, ?_, ?_, ?_⟩
  · rw [countP_announcements _ isSettled (by intro e; cases e <;> simp [isSettled, isAnnouncement]),
      announced]
    exact settled
  · rw [countP_announcements _ isRefunded
      (by intro e; cases e <;> simp [isRefunded, isAnnouncement]), announced]
    exact refunded
  · intro before later id order ref amount currency e
    rw [e, List.filter_append, List.filter_cons_of_pos rfl] at announced
    obtain ⟨id', order', ref', mem⟩ := history_refund p reason _ _ id order ref amount currency
      announced
    exact ⟨id', order', ref', (List.mem_filter.mp mem).1⟩
  · rw [countP_announcements _ isFinal (by intro e; cases e <;> simp [isFinal, isAnnouncement]),
      announced]
    exact final

/-- In every run from `create`, the changes form a path of the table to the current
status, a payment is settled and refunded at most once, refunded only what was
settled, and ends at most once; a terminal status is final. -/
theorem lifecycle_trace (generated : PaymentId) (input : Payment.CreatePaymentProps) (clk : Clock)
    (p : Payment) (created : Payment.create generated input clk = .ok p) (run : List Step) :
    Throughout step Lifecycle p run ∧
      ∀ before later, run = before ++ later → (after step p before).status.isTerminal = true →
        (after step p run).status = (after step p before).status := by
  constructor
  · apply throughout_mono step Traced Lifecycle traced_lifecycle
    exact throughout_of_keep step Traced step_traced p run (created_traced _ _ _ p created)
  · rintro before later rfl terminal
    rw [after_append]
    exact run_terminal _ later terminal

section Samples

def sampleInput : Payment.CreatePaymentProps where
  orderId := "o1"
  providerRef := "ref-1"
  amount := .ofNat 150
  currency := none
  provider := none

def sample : Payment where
  id := .sample
  orderId := "o1"
  provider := "MIDTRANS"
  providerRef := ⟨"ref-1"⟩
  status := .initiated
  amount := ⟨150, "IDR", by decide, Money.idr_valid⟩
  currency := "IDR"
  rawWebhookPayload := none
  createdAt := 5
  updatedAt := 5
  domainEvents := [.paymentCreated UserId.sample.value "o1" "MIDTRANS" "ref-1" (.ofNat 150) "IDR"
    .initiated]

theorem sample_created : Payment.create .sample sampleInput (.still 5) = .ok sample := by
  decide +kernel

/-- A payment that is settled and refunded, with a late webhook between. -/
theorem sample_trace :
    Throughout step Lifecycle sample [(.markAsPending, 6), (.processWebhook "capture" ⟨"a"⟩, 7),
        (.processWebhook "deny" ⟨"b"⟩, 8), (.markAsRefunded none, 9)] ∧
      ∀ before later, [(.markAsPending, 6), (.processWebhook "capture" ⟨"a"⟩, 7),
        (.processWebhook "deny" ⟨"b"⟩, 8), (.markAsRefunded none, 9)] = before ++ later →
        (after step sample before).status.isTerminal = true →
        (after step sample [(.markAsPending, 6), (.processWebhook "capture" ⟨"a"⟩, 7),
          (.processWebhook "deny" ⟨"b"⟩, 8), (.markAsRefunded none, 9)]).status =
            (after step sample before).status :=
  lifecycle_trace .sample sampleInput (.still 5) sample sample_created _

end Samples

end KeramikStore.PaymentLifecycle
