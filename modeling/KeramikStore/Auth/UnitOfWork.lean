import KeramikStore.Library.Transactions
import KeramikStore.Auth.AuthUserRepository

/-!
# The unit of work around a save and its audit entry

Seven use cases save a user and then write an audit entry inside one transaction.
The repository takes its client when it is constructed, which is outside any
transaction, and the audit service is handed no client, so both write through the
base client and a later failure undoes neither. What other modules do when the
save announces its events is not part of it.
-/

set_option autoImplicit false

namespace KeramikStore.UnitOfWork
open Library Library.Transactions

inductive AuditAction where
  | register | login | oauthLogin | logout | passwordChange | passwordReset | emailVerification
deriving DecidableEq

inductive AuditTargetType where
  | user | product | order | document
deriving DecidableEq

structure CreateAuditLog where
  actorId : Option String
  action : AuditAction
  targetType : AuditTargetType
  targetId : Option String
  metadata : Option (List (String × String))
deriving DecidableEq

structure Database where
  users : UsersTable
  auditLogs : List CreateAuditLog

/-- `prismaCls.getStore() ?? this`, where `store` is what the async context holds. -/
def getClient (store : Option Client) : Client := store.getD .base

def repositoryClient : Client := getClient none

structure Faults where
  save : Option Error
  audit : Option Error
  later : List (Option Error)

def foreignKeyViolation : Error := .failure "P2003"

section Statements

variable (client : Client) (tx : Option Client) (u : AuthUser) (entry : CreateAuditLog)
  (fault : Option Error)

def upserted (u : AuthUser) (users : UsersTable) : Except Error UsersTable :=
  users.upsert (PrismaAuthUserMapper.toPersistence u)

def save : Statement Error Database where
  client := client
  guard db := fault.or <| match upserted u db.users with
    | .error e => some e
    | .ok _ => none
  effect db := { db with users := (upserted u db.users).toOption.getD db.users }

/-- `AuditService.create`; `tx` is its optional argument. The actor must be a user. -/
def auditCreate : Statement Error Database where
  client := tx.getD .base
  guard db := fault.or <|
    if entry.actorId.all fun id => (db.users.findById id).isSome then none
    else some foreignKeyViolation
  effect db := { db with auditLogs := db.auditLogs ++ [entry] }

def laterStep : Statement Error Database where
  client := .base
  guard _ := fault
  effect := id

end Statements

inductive AuditedUseCase where
  | register | loginWithEmail | logout | verifyEmail | changePassword | resetPassword
  | googleAuthCallback
deriving DecidableEq

namespace AuditedUseCase

def action : AuditedUseCase → AuditAction
  | register => .register
  | loginWithEmail => .login
  | logout => .logout
  | verifyEmail => .emailVerification
  | changePassword => .passwordChange
  | resetPassword => .passwordReset
  | googleAuthCallback => .oauthLogin

def metadata (u : AuthUser) : AuditedUseCase → Option (List (String × String))
  | register | verifyEmail => some [("email", u.email.getValue)]
  | googleAuthCallback => some [("provider", AuthProviderName.google.text)]
  | _ => none

def entry (u : AuthUser) (c : AuditedUseCase) : CreateAuditLog where
  actorId := some u.id.getValue
  action := c.action
  targetType := .user
  targetId := some u.id.getValue
  metadata := c.metadata u

def callback (client : Client) (tx : Option Client) (u : AuthUser) (f : Faults)
    (c : AuditedUseCase) : List (Statement Error Database) :=
  save client u f.save :: auditCreate tx (c.entry u) f.audit :: f.later.map laterStep

def run (u : AuthUser) (f : Faults) (c : AuditedUseCase) (db : Database) :
    Outcome Error Database :=
  withTransaction (c.callback repositoryClient none u f) db

end AuditedUseCase

def SameRows (t t' : UsersTable) : Prop := ∀ row, row ∈ t.rows ↔ row ∈ t'.rows

structure Atomic (u : AuthUser) (db : Database) (o : Outcome Error Database) : Prop where
  undone : o.thrown.isSome = true → SameRows o.state.users db.users
  kept : o.state.auditLogs ≠ db.auditLogs → upserted u db.users = .ok o.state.users

def FailsLate (u : AuthUser) (f : Faults) (db : Database) : Prop :=
  f.save = none ∧ (∃ t, upserted u db.users = .ok t) ∧
    (f.audit.isSome = true ∨ ∃ fault ∈ f.later, fault.isSome = true)

def Unchanged (u : AuthUser) (db : Database) : Prop :=
  ∃ row ∈ db.users.rows, row.authColumns = PrismaAuthUserMapper.toPersistence u

theorem sameRows_upserted_iff (u : AuthUser) (t t' : UsersTable) (h : upserted u t = .ok t') :
    SameRows t' t ↔ ∃ row ∈ t.rows, row.authColumns = PrismaAuthUserMapper.toPersistence u := by
  have rows := (UsersTable.upsert_ok_iff _ t t').mp h
  constructor
  · intro same
    have saved := UsersTable.savedAuthUser_mem (PrismaAuthUserMapper.toPersistence u) t
    rw [← rows] at saved
    exact ⟨_, (same _).mp saved, UserRow.authColumns_savedAuthUser _ _⟩
  · rintro ⟨row, hr, columns⟩
    have found : t.findById (PrismaAuthUserMapper.toPersistence u).id = some row :=
      (KeyedTable.find_eq_some_iff _ t.rows t.unique.id _ row).mpr ⟨hr, by rw [← columns]; rfl⟩
    have saved : UserRow.savedAuthUser (PrismaAuthUserMapper.toPersistence u) (some row) = row := by
      rw [← columns]
      rfl
    intro other
    rw [rows, UsersTable.upsertedRows, found, saved, KeyedTable.mem_put]
    constructor
    · rintro (rfl | ⟨mem, -⟩)
      · exact hr
      · exact mem
    · intro mem
      by_cases e : other.id = row.id
      · exact Or.inl (t.eq_of_id other row mem hr e)
      · exact Or.inr ⟨mem, e⟩

theorem actor_known (u : AuthUser) (t t' : UsersTable) (h : upserted u t = .ok t') :
    (t'.findById u.id.getValue).isSome = true := by
  have rows := (UsersTable.upsert_ok_iff _ t t').mp h
  unfold UsersTable.findById
  rw [rows, UsersTable.upsertedRows]
  have same := KeyedTable.find_put_same UserRow.id
    (UserRow.savedAuthUser (PrismaAuthUserMapper.toPersistence u)
      (t.findById (PrismaAuthUserMapper.toPersistence u).id)) t.rows
  rw [UserRow.id_savedAuthUser] at same
  exact Option.isSome_iff_exists.mpr ⟨_, same⟩

theorem later_outcome (later : List (Option Error)) (db : Database) :
    (autocommit (later.map laterStep) db).state = db ∧
      ((autocommit (later.map laterStep) db).thrown.isSome = true ↔
        ∃ fault ∈ later, fault.isSome = true) := by
  induction later with
  | nil => simp [autocommit, Outcome.done]
  | cons fault later ih =>
    cases fault with
    | some e => simp [autocommit, laterStep, Outcome.threw]
    | none =>
      simp only [List.map_cons, autocommit, laterStep, id]
      simpa [laterStep] using ih

theorem run_eq_autocommit (u : AuthUser) (f : Faults) (c : AuditedUseCase) (db : Database) :
    c.run u f db = autocommit (c.callback repositoryClient none u f) db := by
  refine withTransaction_base _ (fun st hst => ?_) db
  rcases List.mem_cons.mp hst with rfl | hst
  · rfl
  rcases List.mem_cons.mp hst with rfl | hst
  · rfl
  obtain ⟨fault, -, rfl⟩ := List.mem_map.mp hst
  rfl

section Runs

variable (u : AuthUser) (f : Faults) (c : AuditedUseCase) (db : Database)

theorem run_refused (h : f.save ≠ none ∨ ∀ t, upserted u db.users ≠ .ok t) :
    ∃ e, c.run u f db = .threw e db := by
  rw [run_eq_autocommit]
  unfold AuditedUseCase.callback autocommit save
  dsimp only
  cases hs : f.save with
  | some e => exact ⟨e, rfl⟩
  | none =>
    cases hu : upserted u db.users with
    | error e => exact ⟨e, rfl⟩
    | ok t => exact absurd hu (h.resolve_left (fun ne => ne hs) t)

theorem run_saved (t : UsersTable) (hs : f.save = none) (hu : upserted u db.users = .ok t) :
    c.run u f db = autocommit (auditCreate none (c.entry u) f.audit :: f.later.map laterStep)
      { db with users := t } := by
  rw [run_eq_autocommit, AuditedUseCase.callback, autocommit]
  simp only [save, hs, hu, Option.none_or, Except.toOption, Option.getD_some]

theorem run_unaudited (t : UsersTable) (e : Error) (hs : f.save = none)
    (hu : upserted u db.users = .ok t) (ha : f.audit = some e) :
    c.run u f db = .threw e { db with users := t } := by
  rw [run_saved u f c db t hs hu, autocommit]
  simp only [auditCreate, ha, Option.some_or]

theorem run_audited (t : UsersTable) (hs : f.save = none) (hu : upserted u db.users = .ok t)
    (ha : f.audit = none) :
    c.run u f db = autocommit (f.later.map laterStep)
      { users := t, auditLogs := db.auditLogs ++ [c.entry u] } := by
  have known := actor_known u db.users t hu
  rw [run_saved u f c db t hs hu, autocommit]
  simp only [auditCreate, ha, AuditedUseCase.entry, Option.none_or, Option.all_some, known, if_true]

/-- The save stands whatever follows it, and the callback throws exactly when a later
step does. -/
theorem saved_outcome (t : UsersTable) (hs : f.save = none) (hu : upserted u db.users = .ok t) :
    (c.run u f db).state.users = t ∧ ((c.run u f db).thrown.isSome = true ↔
      f.audit.isSome = true ∨ ∃ fault ∈ f.later, fault.isSome = true) := by
  cases ha : f.audit with
  | some e =>
    rw [run_unaudited u f c db t e hs hu ha]
    exact ⟨rfl, fun _ => Or.inl rfl, fun _ => rfl⟩
  | none =>
    obtain ⟨hstate, hthrown⟩ := later_outcome f.later
      { users := t, auditLogs := db.auditLogs ++ [c.entry u] }
    rw [run_audited u f c db t hs hu ha, hstate, hthrown]
    simp

theorem atomic_of_refused (e : Error) (h : c.run u f db = .threw e db) :
    Atomic u db (c.run u f db) := by
  rw [h]
  exact ⟨fun _ _ => Iff.rfl, fun ne => absurd rfl ne⟩

/-- Both writes go through the base client, so a use case is atomic exactly when no
step after its save throws, or the save had nothing to change. -/
theorem run_atomic_iff : Atomic u db (c.run u f db) ↔ (FailsLate u f db → Unchanged u db) := by
  by_cases goes : f.save = none ∧ ∃ t, upserted u db.users = .ok t
  · obtain ⟨hs, t, hu⟩ := goes
    obtain ⟨users, thrown⟩ := saved_outcome u f c db t hs hu
    have unchanged := sameRows_upserted_iff u db.users t hu
    constructor
    · rintro atomic ⟨-, -, late⟩
      have same := atomic.undone (thrown.mpr late)
      rw [users] at same
      exact unchanged.mp same
    · intro h
      constructor
      · intro late
        rw [users]
        exact unchanged.mpr (h ⟨hs, ⟨t, hu⟩, thrown.mp late⟩)
      · intro _
        rw [users]
        exact hu
  · have refused : f.save ≠ none ∨ ∀ t, upserted u db.users ≠ .ok t := by
      by_contra both
      push Not at both
      exact goes both
    obtain ⟨e, he⟩ := run_refused u f c db refused
    constructor
    · rintro - ⟨hs, ht, -⟩
      exact absurd ⟨hs, ht⟩ goes
    · intro _
      exact atomic_of_refused u f c db e he

end Runs

def emptyDatabase : Database := ⟨⟨[], by decide⟩, []⟩

/-- A registration whose audit entry fails reports the failure and keeps the user. -/
theorem failed_registration_keeps_user :
    ∃ u, AuthUser.register .sample .sample .sample ⟨"h"⟩ none (.still 0) = .ok u ∧
      (AuditedUseCase.run u ⟨none, some (.failure "down"), []⟩ .register emptyDatabase).thrown =
        some (.failure "down") ∧
      ((AuditedUseCase.run u ⟨none, some (.failure "down"), []⟩ .register
        emptyDatabase).state.users.rows.map UserRow.id) = [UserId.sample.value] ∧
      ¬ Atomic u emptyDatabase
        (AuditedUseCase.run u ⟨none, some (.failure "down"), []⟩ .register emptyDatabase) := by
  refine ⟨_, rfl, rfl, rfl, fun atomic => ?_⟩
  have row := (atomic.undone rfl _).mp (List.mem_singleton.mpr rfl)
  exact absurd row List.not_mem_nil

/-- If the repository and the audit service were handed the transaction's client,
a callback that throws would leave the whole database as it was. -/
theorem joined_callback_undone (u : AuthUser) (f : Faults) (c : AuditedUseCase) (db : Database)
    (e : Error) (h : (withTransaction
      ([save .transaction u f.save, auditCreate (some .transaction) (c.entry u) f.audit])
        db).thrown = some e) :
    (withTransaction
      ([save .transaction u f.save, auditCreate (some .transaction) (c.entry u) f.audit])
        db).state = db :=
  withTransaction_joined _ (by
    intro st hst
    rcases List.mem_cons.mp hst with rfl | hst
    · rfl
    · rw [List.mem_singleton.mp hst]
      rfl) db e h

end KeramikStore.UnitOfWork
