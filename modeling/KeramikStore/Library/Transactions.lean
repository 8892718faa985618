import KeramikStore.Library.Outcome

/-!
# Transactions and the clients that join them

Inside a transaction, a statement is issued through the transaction's client or
through the base client. A rollback undoes the former and not the latter, which
took effect when they were issued. A callback that uses only the base client runs
as if there were no transaction; one that uses only the transaction's client runs
entirely or not at all.
-/

set_option autoImplicit false

namespace Library.Transactions

variable {ε δ : Type*}

inductive Client where
  | base
  | transaction
deriving DecidableEq

structure Statement (ε δ : Type*) where
  client : Client
  guard : δ → Option ε
  effect : δ → δ

structure Session (δ : Type*) where
  before : δ
  issued : List (Client × (δ → δ))

namespace Session

def committed (s : Session δ) : δ := s.issued.foldl (fun d w => w.2 d) s.before

def durable (s : Session δ) : δ :=
  (s.issued.filter (·.1 = .base)).foldl (fun d w => w.2 d) s.before

def seenBy : Client → Session δ → δ
  | .base => durable
  | .transaction => committed

def issue (st : Statement ε δ) (s : Session δ) : Session δ :=
  { s with issued := s.issued ++ [(st.client, st.effect)] }

@[simp] theorem committed_issue (st : Statement ε δ) (s : Session δ) :
    (s.issue st).committed = st.effect s.committed := by
  simp [committed, issue]

theorem durable_issue_base (st : Statement ε δ) (s : Session δ) (h : st.client = .base) :
    (s.issue st).durable = st.effect s.durable := by
  simp [durable, issue, h]

theorem durable_issue_transaction (st : Statement ε δ) (s : Session δ)
    (h : st.client = .transaction) : (s.issue st).durable = s.durable := by
  simp [durable, issue, h]

end Session

def perform : List (Statement ε δ) → Session δ → Outcome ε (Session δ)
  | [], s => .done s
  | st :: rest, s =>
    match st.guard (s.seenBy st.client) with
    | some e => .threw e s
    | none => perform rest (s.issue st)

def conclude (o : Outcome ε (Session δ)) : Outcome ε δ where
  thrown := o.thrown
  state := if o.thrown.isSome then o.state.durable else o.state.committed

def withTransaction (work : List (Statement ε δ)) (db : δ) : Outcome ε δ :=
  conclude (perform work ⟨db, []⟩)

def autocommit : List (Statement ε δ) → δ → Outcome ε δ
  | [], d => .done d
  | st :: rest, d =>
    match st.guard d with
    | some e => .threw e d
    | none => autocommit rest (st.effect d)

theorem perform_base (work : List (Statement ε δ)) (h : ∀ st ∈ work, st.client = .base)
    (s : Session δ) (same : s.committed = s.durable) :
    (perform work s).thrown = (autocommit work s.durable).thrown ∧
      (perform work s).state.committed = (autocommit work s.durable).state ∧
      (perform work s).state.durable = (autocommit work s.durable).state := by
  induction work generalizing s with
  | nil => exact ⟨rfl, same, rfl⟩
  | cons st rest ih =>
    have base := h st (by simp)
    have issued := Session.durable_issue_base st s base
    have next := ih (fun t ht => h t (by simp [ht])) (s.issue st)
      (by rw [Session.committed_issue, issued, same])
    rw [issued] at next
    unfold perform autocommit
    rw [base]
    cases hg : st.guard s.durable with
    | some e =>
      simp only [Session.seenBy, hg]
      exact ⟨rfl, same, rfl⟩
    | none =>
      simp only [Session.seenBy, hg]
      exact next

/-- Through the base client alone, the transaction makes no difference. -/
theorem withTransaction_base (work : List (Statement ε δ)) (h : ∀ st ∈ work, st.client = .base)
    (db : δ) : withTransaction work db = autocommit work db := by
  obtain ⟨thrown, committed, durable⟩ := perform_base work h ⟨db, []⟩ rfl
  apply congrArg₂ Outcome.mk thrown
  rw [committed, durable, ite_self]
  rfl

theorem perform_joined (work : List (Statement ε δ)) (h : ∀ st ∈ work, st.client = .transaction)
    (s : Session δ) :
    (perform work s).thrown = (autocommit work s.committed).thrown ∧
      (perform work s).state.committed = (autocommit work s.committed).state ∧
      (perform work s).state.durable = s.durable := by
  induction work generalizing s with
  | nil => exact ⟨rfl, rfl, rfl⟩
  | cons st rest ih =>
    have joined := h st (by simp)
    have next := ih (fun t ht => h t (by simp [ht])) (s.issue st)
    rw [Session.committed_issue, Session.durable_issue_transaction st s joined] at next
    unfold perform autocommit
    rw [joined]
    cases hg : st.guard s.committed with
    | some e =>
      simp only [Session.seenBy, hg]
      exact ⟨rfl, rfl, rfl⟩
    | none =>
      simp only [Session.seenBy, hg]
      exact next

/-- Through the transaction's client alone, a callback that throws leaves the
database as it was. -/
theorem withTransaction_joined (work : List (Statement ε δ))
    (h : ∀ st ∈ work, st.client = .transaction) (db : δ) (e : ε)
    (ht : (withTransaction work db).thrown = some e) : (withTransaction work db).state = db := by
  obtain ⟨-, -, durable⟩ := perform_joined work h ⟨db, []⟩
  unfold withTransaction conclude at *
  dsimp only at ht ⊢
  rw [ht, Option.isSome_some, if_pos rfl, durable]
  rfl

end Library.Transactions
