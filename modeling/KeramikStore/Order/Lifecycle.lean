import KeramikStore.Library.StatusPath
import KeramikStore.Order.Effects

/-!
# The lifecycle of an order

The changes of status that an order has announced form a path of the documented
state machine to its status. The other announcements are those of the statuses on
the way, of which there are at most two ways to one status. A terminal status closes
the order to every command.
-/

set_option autoImplicit false

namespace KeramikStore.OrderLifecycle
open Library Library.Runs Library.StatusPath OrderEffects

inductive Kind where
  | paid | completed | cancelled
deriving DecidableEq, Repr

def kind : OrderEvent → Option Kind
  | .paid .. => some .paid
  | .completed .. => some .completed
  | .cancelled .. => some .cancelled
  | .orderCreated .. | .statusChanged .. => none

def announced (o : Order) : List Kind := o.domainEvents.filterMap kind

def statusChange : OrderEvent → Option (OrderStatus × OrderStatus)
  | .statusChanged _ _ previousStatus newStatus => some (previousStatus, newStatus)
  | _ => none

def histories : OrderStatus → List (List Kind)
  | .draft => []
  | .pendingPayment => [[]]
  | .paid | .fulfillment => [[.paid]]
  | .completed => [[.paid, .completed]]
  | .cancelled => [[.cancelled], [.paid, .cancelled]]

structure Traced (o : Order) : Prop where
  path : Path Next .pendingPayment (o.domainEvents.filterMap statusChange) o.status
  history : announced o ∈ histories o.status

theorem changes_announcement (o : Order) (reason : Option String) (t : OrderStatus) :
    (announcement o reason t).filterMap statusChange = [] := by
  cases t <;> rfl

def kindOf : OrderStatus → List Kind
  | .paid => [.paid]
  | .completed => [.completed]
  | .cancelled => [.cancelled]
  | .draft | .pendingPayment | .fulfillment => []

theorem kinds_announcement (o : Order) (reason : Option String) (t : OrderStatus) :
    (announcement o reason t).filterMap kind = kindOf t := by
  cases t <;> rfl

theorem history_next (s t : OrderStatus) (next : Next s t) :
    ∀ h ∈ histories s, h ++ kindOf t ∈ histories t := by
  cases next <;> decide

theorem moved_traced (o : Order) (reason : Option String) (t : OrderStatus) (now : Date)
    (h : Traced o) (next : Next o.status t) : Traced (moved o reason t now) := by
  obtain ⟨path, history⟩ := h
  constructor
  · have changes : (moved o reason t now).domainEvents.filterMap statusChange =
        o.domainEvents.filterMap statusChange ++ [(o.status, t)] := by
      unfold moved
      rw [List.filterMap_append, List.filterMap_append, changes_announcement, List.append_nil]
      rfl
    rw [changes]
    exact path_snoc Next _ _ t _ path next
  · have kinds : announced (moved o reason t now) = announced o ++ kindOf t := by
      unfold announced moved
      rw [List.filterMap_append, List.filterMap_append, kinds_announcement]
      exact List.append_nil _
    rw [kinds]
    exact history_next o.status t next _ history

section Runs

variable (host : ℚ → JsNumber)

theorem step_traced (o : Order) (a : Step) (h : Traced o) : Traced (step host o a) := by
  obtain ⟨c, now⟩ := a
  have effect := exec_effect host o now c
  unfold step
  generalize OrderCommand.exec host now c o = call at effect
  cases effect with
  | kept => exact h
  | refused => exact h
  | terminal => exact h
  | moved c reason t plain next => exact moved_traced o reason t now h next
  | noted => exact ⟨h.path, h.history⟩
  | unpriced => exact ⟨h.path, h.history⟩
  | excessive => exact ⟨h.path, h.history⟩
  | discounted => exact ⟨h.path, h.history⟩

theorem run_terminal (o : Order) (run : List Step) (h : o.isTerminal = true) :
    after (step host) o run = o := by
  induction run with
  | nil => rfl
  | cons a run ih => rw [after_cons, terminal_stays host o a h, ih]

theorem created_traced (generated : Order.Generated) (params : CreateOrderParams) (clk : Clock)
    (o : Order) (h : Order.create host generated params clk = .ok o) : Traced o := by
  have created := create_created host o generated params clk h
  constructor
  · rw [created.log, created.status]
    rfl
  · rw [announced, created.log, created.status]
    exact List.mem_singleton.mpr rfl

structure Lifecycle (o : Order) : Prop where
  path : Path Next .pendingPayment (o.domainEvents.filterMap statusChange) o.status
  paid_once : (announced o).count .paid ≤ 1
  completed_once : (announced o).count .completed ≤ 1
  cancelled_once : (announced o).count .cancelled ≤ 1
  paid_before_completed : ∀ earlier later,
    announced o = earlier ++ .completed :: later → .paid ∈ earlier
  completed_not_cancelled : .completed ∈ announced o → .cancelled ∉ announced o

theorem histories_once (s : OrderStatus) : ∀ h ∈ histories s, h.count .paid ≤ 1 ∧
    h.count .completed ≤ 1 ∧ h.count .cancelled ≤ 1 ∧ (.completed ∈ h → .cancelled ∉ h) := by
  cases s <;> decide

/-- Only one history has a completion, and it starts with the payment. -/
theorem histories_completed (s : OrderStatus) : ∀ h ∈ histories s, .completed ∈ h →
    h = [.paid, .completed] := by
  cases s <;> decide

theorem paid_first (earlier later : List Kind)
    (h : earlier ++ .completed :: later = [.paid, .completed]) : .paid ∈ earlier := by
  cases earlier with
  | nil => cases h
  | cons k rest =>
    obtain ⟨rfl, -⟩ := List.cons.inj h
    exact List.mem_cons_self

theorem traced_lifecycle (o : Order) (h : Traced o) : Lifecycle o := by
  obtain ⟨path, history⟩ := h
  obtain ⟨paid, completed, cancelled, apart⟩ := histories_once o.status _ history
  refine ⟨path, paid, completed, cancelled, ?_, apart⟩
  intro earlier later e
  have mem : Kind.completed ∈ announced o := by
    rw [e]
    exact List.mem_append_right _ List.mem_cons_self
  exact paid_first earlier later (e ▸ histories_completed o.status _ history mem)

/-- In every run from `create`, the changes of status follow the documented state
machine to the current status, an order is paid, completed and cancelled at most once,
completed only after it was paid and never besides a cancellation; from a terminal
status on nothing changes. -/
theorem order_trace (generated : Order.Generated) (params : CreateOrderParams) (clk : Clock)
    (o : Order) (created : Order.create host generated params clk = .ok o) (run : List Step) :
    Throughout (step host) Lifecycle o run ∧
      ∀ before later, run = before ++ later →
        (after (step host) o before).isTerminal = true →
          after (step host) o run = after (step host) o before := by
  constructor
  · apply throughout_mono (step host) Traced Lifecycle traced_lifecycle
    exact throughout_of_keep (step host) Traced (step_traced host) o run
      (created_traced host generated params clk o created)
  · rintro before later rfl terminal
    rw [after_append]
    exact run_terminal host _ later terminal

end Runs

section Samples

def sampleRun : List Step :=
  [(.markAsPaid, 6), (.startFulfillment, 7), (.cancel none, 8), (.complete, 9),
    (.applyDiscount "d1" (.ofNat 5), 10)]

theorem sample_order_trace :
    Throughout (step .fin) Lifecycle sample sampleRun ∧
      ∀ before later, sampleRun = before ++ later →
        (after (step .fin) sample before).isTerminal = true →
          after (step .fin) sample sampleRun = after (step .fin) sample before :=
  order_trace .fin sampleGenerated sampleParams (.still 5) sample sample_created sampleRun

end Samples

end KeramikStore.OrderLifecycle
