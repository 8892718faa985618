import KeramikStore.Payment.Lifecycle

/-!
# Webhooks that are delivered again

A webhook that was processed may come again after others. The payment skips it as
long as its status is still the one the webhook led to. After a later change the
same webhook is refused, and its payload has then replaced the stored one. A refused
webhook leaves nothing but its payload and its receipt.
-/

set_option autoImplicit false

namespace KeramikStore.Redelivery
open Library Library.Runs PaymentLifecycle

def announces (e : PaymentEvent) : Bool := (statusChange e).isSome || isAnnouncement e

structure Harmless (newStatus : String) (payload : Payload) (now : Date) (run : List Step)
    (p : Payment) : Prop where
  returns : (Payment.processWebhook newStatus payload now p).Returns
  status : (Payment.processWebhook newStatus payload now p).state.status = p.status
  stored : ∀ step ∈ run, ∀ s newer, step.1 = .processWebhook s newer →
    p.rawWebhookPayload = some newer →
      (Payment.processWebhook newStatus payload now p).state.rawWebhookPayload = some newer
  silent : (Payment.processWebhook newStatus payload now p).state.domainEvents.filter announces =
    p.domainEvents.filter announces

def NotNewer (payload : Payload) (run : List Step) (p : Payment) : Prop :=
  ∀ step ∈ run, ∀ s newer, step.1 = .processWebhook s newer →
    p.rawWebhookPayload = some newer → newer = payload

theorem webhook_effect (newStatus : String) (payload : Payload) (now : Date) (p : Payment) :
    Effect p now (.processWebhook newStatus payload)
      (Payment.processWebhook newStatus payload now p) :=
  exec_effect p now (.processWebhook newStatus payload)

theorem returned_status (newStatus : String) (payload : Payload) (now : Date) (p : Payment)
    (h : (Payment.processWebhook newStatus payload now p).Returns) :
    target (.processWebhook newStatus payload) =
      some (Payment.processWebhook newStatus payload now p).state.status := by
  have effect := webhook_effect newStatus payload now p
  generalize Payment.processWebhook newStatus payload now p = o at effect h
  cases effect with
  | marks t own reason o goal _ marks =>
    cases marks with
    | same status => rw [goal, ← status, Outcome.state_done]
    | moved => exact goal
    | refused e => exact absurd h (Outcome.not_returns_threw e _)
  | unmapped e => exact absurd h (Outcome.not_returns_threw e _)

theorem payload_stored (newStatus : String) (payload : Payload) (now : Date) (p : Payment) :
    (Payment.processWebhook newStatus payload now p).state.rawWebhookPayload = some payload := by
  have effect := webhook_effect newStatus payload now p
  generalize Payment.processWebhook newStatus payload now p = o at effect
  cases effect with
  | marks t own reason o _ delivered marks =>
    cases marks with
    | same => rfl
    | moved =>
      cases own with
      | none => rfl
      | some q => exact (delivered q rfl).symm
    | refused => rfl
  | unmapped => rfl

/-- A webhook that is refused, for a status that is unknown or must not follow, has stored
its payload and recorded itself, and has changed nothing else. -/
theorem refused_webhook_recorded (newStatus : String) (payload : Payload) (now : Date) (p : Payment)
    (refused : ¬ (Payment.processWebhook newStatus payload now p).Returns) :
    (Payment.processWebhook newStatus payload now p).state =
        { p with rawWebhookPayload := some payload
                 domainEvents := p.domainEvents ++ [receipt p payload] } ∧
      ∀ t, target (.processWebhook newStatus payload) = some t →
        p.status ≠ t ∧ p.status.canTransitionTo t = false := by
  have effect := webhook_effect newStatus payload now p
  generalize Payment.processWebhook newStatus payload now p = o at effect refused
  cases effect with
  | marks t own reason o goal _ marks =>
    cases marks with
    | same => exact absurd (Outcome.returns_done _) refused
    | moved => exact absurd (Outcome.returns_done _) refused
    | refused e different forbidden =>
      refine ⟨rfl, fun s mapped => ?_⟩
      obtain rfl := Option.some.inj (goal.symm.trans mapped)
      exact ⟨different, forbidden⟩
  | unmapped e goal => exact ⟨rfl, fun s mapped => nomatch goal.symm.trans mapped⟩

theorem same_status_recorded (newStatus : String) (payload : Payload) (now : Date) (p : Payment)
    (h : target (.processWebhook newStatus payload) = some p.status) :
    Payment.processWebhook newStatus payload now p =
      .done (recorded p (.processWebhook newStatus payload)) := by
  have effect := webhook_effect newStatus payload now p
  generalize Payment.processWebhook newStatus payload now p = o at effect
  cases effect with
  | marks t own reason o goal _ marks =>
    obtain rfl := Option.some.inj (goal.symm.trans h)
    cases marks with
    | same => rfl
    | moved different => exact absurd (recorded_status p _) different
    | refused e different => exact absurd (recorded_status p _) different
  | unmapped e goal => cases goal.symm.trans h

/-- After a webhook was processed and other steps have followed, delivering it again
does no harm just when the status is still what the first delivery left and no
other webhook's payload is stored. -/
theorem redelivery_harmless_iff (p : Payment) (newStatus : String) (payload : Payload)
    (first again : Date) (run : List Step)
    (processed : (Payment.processWebhook newStatus payload first p).Returns) :
    Harmless newStatus payload again run
        (after step (Payment.processWebhook newStatus payload first p).state run) ↔
      (after step (Payment.processWebhook newStatus payload first p).state run).status =
          (Payment.processWebhook newStatus payload first p).state.status ∧
        NotNewer payload run
          (after step (Payment.processWebhook newStatus payload first p).state run) := by
  have mapped := returned_status newStatus payload first p processed
  generalize (Payment.processWebhook newStatus payload first p).state = q at mapped
  generalize after step q run = t
  constructor
  · rintro ⟨returns, status, stored, -⟩
    constructor
    · have again_mapped := returned_status newStatus payload again t returns
      rw [← status]
      exact Option.some.inj (again_mapped.symm.trans mapped)
    · intro a ha s newer e kept
      have replaced := stored a ha s newer e kept
      rw [payload_stored] at replaced
      exact (Option.some.inj replaced).symm
  · rintro ⟨status, notNewer⟩
    have run_again := same_status_recorded newStatus payload again t (by rw [mapped, status])
    refine ⟨?_, ?_, ?_, ?_⟩
    · rw [run_again]
      exact Outcome.returns_done _
    · rw [run_again]
      exact recorded_status t _
    · intro a ha s newer e kept
      rw [payload_stored, notNewer a ha s newer e kept]
    · rw [run_again, Outcome.state_done, recorded, List.filter_append]
      exact List.append_nil _

section Samples

/-- The second of two equal webhooks in a row is skipped. -/
theorem duplicate_harmless :
    Harmless "pending" ⟨"a"⟩ 7 [] (Payment.processWebhook "pending" ⟨"a"⟩ 6 sample).state :=
  (redelivery_harmless_iff sample "pending" ⟨"a"⟩ 6 7 [] (by decide +kernel)).mpr
    ⟨rfl, fun _ h => absurd h List.not_mem_nil⟩

/-- A pending webhook that comes again after the settlement is refused, and the
stored payload of the settlement is gone. -/
theorem late_redelivery_throws :
    Payment.create .sample sampleInput (.still 5) = .ok sample ∧
      (Payment.processWebhook "pending" ⟨"a"⟩ 6 sample).Returns ∧
      ¬ Harmless "pending" ⟨"a"⟩ 8 [(.processWebhook "settlement" ⟨"b"⟩, 7)]
        (after step (Payment.processWebhook "pending" ⟨"a"⟩ 6 sample).state
          [(.processWebhook "settlement" ⟨"b"⟩, 7)]) := by
  refine ⟨sample_created, by decide +kernel, fun h => ?_⟩
  have returns := h.returns
  revert returns
  decide +kernel

/-- A webhook with an unknown status throws, and its payload and its event are there. -/
theorem unknown_status_recorded :
    Payment.create .sample sampleInput (.still 5) = .ok sample ∧
      ¬ (Payment.processWebhook "authorize" ⟨"a"⟩ 6 sample).Returns ∧
      (Payment.processWebhook "authorize" ⟨"a"⟩ 6 sample).state.rawWebhookPayload ≠
        sample.rawWebhookPayload ∧
      (Payment.processWebhook "authorize" ⟨"a"⟩ 6 sample).state.domainEvents ≠
        sample.domainEvents := by
  refine ⟨sample_created, ?_, ?_, ?_⟩
  · decide +kernel
  · decide +kernel
  · decide +kernel

theorem sample_refused_webhook :
    (Payment.processWebhook "authorize" ⟨"a"⟩ 6 sample).state.updatedAt = 5 ∧
      (Payment.processWebhook "authorize" ⟨"a"⟩ 6 sample).state.status = .initiated := by
  have refused : ¬ (Payment.processWebhook "authorize" ⟨"a"⟩ 6 sample).Returns := by
    decide +kernel
  have left := (refused_webhook_recorded "authorize" ⟨"a"⟩ 6 sample refused).1
  rw [left]
  exact ⟨rfl, rfl⟩

end Samples

end KeramikStore.Redelivery
