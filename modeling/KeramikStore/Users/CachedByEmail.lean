import KeramikStore.Library.Runs
import KeramikStore.Users.Announcements

/-!
# Look-ups by e-mail

The two look-ups by e-mail name their entries by the lower-case form of the address,
and the query compares the address as it is. So an entry that one spelling has left
answers every other spelling of the address, which the table may not hold. A look-up
answers as the table does exactly when the entry that it takes is of its spelling.
-/

set_option autoImplicit false

namespace KeramikStore

namespace UserColumns

def id : UserColumns → String
  | auth raw => raw.id
  | requested raw => raw.id
  | profile raw => raw.id
  | detail raw => raw.id

def email : UserColumns → String
  | auth raw => raw.email
  | requested raw => raw.email
  | profile raw => raw.email
  | detail raw => raw.email

end UserColumns

namespace CachedByEmail
open Library Library.KeyedTable Library.Runs Library.ReadThrough UserCaches UserOperation
open UnifiedUserCacheInvalidationListener

variable (toLowerCase : String → String)

@[simp] theorem id_select (r : ByEmail) (row : UserRow) : (r.select row).id = row.id := by
  cases r <;> rfl

@[simp] theorem email_select (r : ByEmail) (row : UserRow) :
    (r.select row).email = row.email := by
  cases r <;> rfl

def emailKey (i : ByEmail × String) : UserCacheKey := .byEmail i.1 (toLowerCase i.2)

def emailQuery (i : ByEmail × String) (t : UsersTable) : Option UserColumns :=
  (t.findByEmail i.2).map i.1.select

theorem find_eq (r : ByEmail) (email : String) (s : UserStore) :
    r.find toLowerCase email s = read (emailKey toLowerCase) emailQuery (r, email) s := by
  cases r <;> rfl

def Exact (s : UserStore) (r : ByEmail) (email : String) : Prop :=
  (r.find toLowerCase email s).1.row = (s.table.findByEmail email).map r.select

def SameSpelling (s : UserStore) (r : ByEmail) (email : String) : Prop :=
  ∀ v, s.cached (.byEmail r (toLowerCase email)) = some v → v.email = email

def CopyOf (t : UsersTable) (k : UserCacheKey) (v : UserColumns) : Prop :=
  ∀ r lowered, k = .byEmail r lowered →
    ∃ row ∈ t.rows, r.select row = v ∧ toLowerCase row.email = lowered

def Copies (s : UserStore) : Prop := Entries (CopyOf toLowerCase s.table) s

/-- Of copies, a look-up takes the right one just when the spelling is the same. -/
theorem exact_iff (s : UserStore) (h : Copies toLowerCase s) (r : ByEmail) (email : String) :
    Exact toLowerCase s r email ↔ SameSpelling toLowerCase s r email := by
  unfold Exact
  rw [find_eq]
  apply (read_row_iff (emailKey toLowerCase) emailQuery (r, email) s).trans
  apply forall_congr'
  intro v
  apply imp_congr_right
  intro hv
  constructor
  · intro found
    obtain ⟨row, hrow, rfl⟩ := Option.map_eq_some_iff.mp found
    exact (email_select r row).trans (UsersTable.findByEmail_some email s.table row hrow).2
  · intro spelled
    obtain ⟨row, mem, rfl, -⟩ := h _ v hv r _ rfl
    have hrow : s.table.findByEmail email = some row :=
      (UsersTable.findByEmail_iff email s.table row).mpr
        ⟨mem, (email_select r row).symm.trans spelled⟩
    rw [emailQuery, hrow]
    rfl

def SaveKeeps (s : UserStore) (row : UserRow) (es : List UserPayload) : Prop :=
  UniqueColumns (put UserRow.id row s.table.rows) →
    ∀ r lowered v, s.cached (.byEmail r lowered) = some v → v.id = row.id →
      ((∃ e ∈ es, row.id = e.userId) ∧ lowered = toLowerCase row.email) ∨ r.select row = v

def KeepsEmails (s : UserStore) : UserOperation → Prop
  | saveAuthUser u => SaveKeeps toLowerCase s (authRow u s.table) (announcedAuth u)
  | saveUser u => SaveKeeps toLowerCase s (userRow u s.table) (announcedUser u)
  | delete id => ∀ r lowered v, s.cached (.byEmail r lowered) = some v → v.id ≠ id
  | _ => True

theorem save_copies (row : UserRow) (es : List UserPayload) (s : UserStore)
    (h : Copies toLowerCase s) (present : row.email ≠ "") (keeps : SaveKeeps toLowerCase s row es) :
    Copies toLowerCase ((write toLowerCase row es s).toOption.getD s) := by
  cases hw : write toLowerCase row es s with
  | error e => exact h
  | ok s' =>
    obtain ⟨t', ht, rfl⟩ := (write_ok_iff toLowerCase row es s s').mp hw
    have rows := (UsersTable.write_ok_iff row s.table t').mp ht
    have same := UsersTable.findById_write_self row _ _ ht
    rintro k v hv r lowered rfl
    obtain ⟨kept, hc⟩ := (drop_some_iff _ _ _ _).mp hv
    obtain ⟨old, mem, rfl, lower⟩ := h _ v hc r lowered rfl
    by_cases own : old.id = row.id
    · have fits : UniqueColumns (put UserRow.id row s.table.rows) := rows ▸ t'.unique
      rcases keeps fits r lowered _ hc ((id_select r old).trans own) with ⟨⟨e, he, named⟩, rfl⟩ | copy
      · rw [named] at same
        exact absurd (List.mem_flatMap.mpr
          ⟨e, he, byEmail_mem_exactKeys toLowerCase t' e r row same present⟩) kept
      · have spelled : row.email = old.email := by
          rw [← email_select r row, copy, email_select]
        exact ⟨row, rows ▸ (mem_put _ _ _ _).mpr (Or.inl rfl), copy, by rw [spelled, lower]⟩
    · exact ⟨old, rows ▸ (mem_put _ _ _ _).mpr (Or.inr ⟨mem, own⟩), rfl, lower⟩

theorem delete_copies (id : String) (s : UserStore) (h : Copies toLowerCase s)
    (clear : ∀ r lowered v, s.cached (.byEmail r lowered) = some v → v.id ≠ id) :
    Copies toLowerCase ((UserCaches.PrismaUserRepository.delete id s).toOption.getD s) := by
  unfold UserCaches.PrismaUserRepository.delete
  cases ht : s.table.delete id with
  | error e => exact h
  | ok t' =>
    rintro k v hv r lowered rfl
    change s.cached _ = some v at hv
    obtain ⟨row, mem, rfl, lower⟩ := h _ v hv r lowered rfl
    have other := clear r lowered _ hv
    rw [id_select] at other
    change ∃ row' ∈ t'.rows, _
    rw [UsersTable.delete_ok id s.table t' ht]
    exact ⟨row, (mem_erase _ _ _ _).mpr ⟨mem, other⟩, rfl, lower⟩

theorem find_copies (r : ByEmail) (email : String) (s : UserStore) (h : Copies toLowerCase s) :
    Copies toLowerCase (r.find toLowerCase email s).2 := by
  rw [find_eq]
  unfold Copies ReadThrough.read
  rw [wrap_table]
  apply wrap_entries _ _ _ s h
  rintro v hv r' lowered same
  obtain ⟨rfl, rfl⟩ := UserCacheKey.byEmail.inj same
  obtain ⟨row, hrow, rfl⟩ := Option.map_eq_some_iff.mp hv
  obtain ⟨mem, spelled⟩ := UsersTable.findByEmail_some email s.table row hrow
  exact ⟨row, mem, rfl, by rw [spelled]⟩

theorem findById_copies (r : ById) (userId : String) (s : UserStore)
    (h : Copies toLowerCase s) : Copies toLowerCase (r.find userId s).2 := by
  unfold Copies
  cases r with
  | _ =>
    change Entries (CopyOf toLowerCase (wrap _ _ s).2.table) (wrap _ _ s).2
    rw [wrap_table]
    exact wrap_entries _ _ _ s h fun v _ r lowered same => nomatch same

theorem perform_copies (s : UserStore) (op : UserOperation) (h : Copies toLowerCase s)
    (keeps : KeepsEmails toLowerCase s op) : Copies toLowerCase (perform toLowerCase s op) := by
  cases op with
  | findById r userId => exact findById_copies toLowerCase r userId s h
  | findByEmail r email => exact find_copies toLowerCase r email s h
  | saveAuthUser u =>
    apply save_copies toLowerCase _ _ s h _ keeps
    rw [email_authRow]
    exact u.email.getValue_ne_empty
  | saveUser u =>
    apply save_copies toLowerCase _ _ s h _ keeps
    rw [email_userRow]
    exact u.email.getValue_ne_empty
  | delete id => exact delete_copies toLowerCase id s h keeps
  | expire key => exact drop_entries _ [key] s h

theorem cold_copies (table : UsersTable) : Copies toLowerCase (UserStore.cold table) := by
  intro k v hv
  cases hv

/-- In every state that a run reaches from a cold cache, a look-up is exact just
when the entry that it takes is of its spelling, as long as the saves of the run
keep the entries true. -/
theorem lookups_exact_iff (table : UsersTable) (run : List UserOperation)
    (keeps : Along (perform toLowerCase) (KeepsEmails toLowerCase) (UserStore.cold table) run) :
    Throughout (perform toLowerCase) (fun s => ∀ r email,
      Exact toLowerCase s r email ↔ SameSpelling toLowerCase s r email)
        (UserStore.cold table) run := by
  have copies := throughout_of_step _ _ _ (perform_copies toLowerCase) (UserStore.cold table) run
    (cold_copies toLowerCase table) keeps
  exact throughout_mono _ _ _ (fun s h r email => exact_iff toLowerCase s h r email) _ _ copies

/-- A save that announces its user and keeps the stored e-mail keeps the entries true. -/
theorem announced_saveKeeps (s : UserStore) (row : UserRow) (es : List UserPayload)
    (h : Copies toLowerCase s) (announced : ∃ e ∈ es, row.id = e.userId)
    (stored : ∀ old ∈ s.table.rows, old.id = row.id → old.email = row.email) :
    SaveKeeps toLowerCase s row es := by
  intro _ r lowered v hv own
  obtain ⟨old, mem, rfl, rfl⟩ := h _ v hv r lowered rfl
  rw [id_select] at own
  exact Or.inl ⟨announced, by rw [stored old mem own]⟩

theorem command_keepsEmails (c : AuthCommand) (clk : Clock) (u : AuthUser) (s : UserStore)
    (h : Copies toLowerCase s) (returns : (c.exec clk u).Returns)
    (stored : ∀ row ∈ s.table.rows, row.id = u.id.getValue → row.email = u.email.getValue) :
    KeepsEmails toLowerCase s (.saveAuthUser (c.exec clk u).state) := by
  apply announced_saveKeeps toLowerCase s _ _ h
  · rw [id_authRow]
    exact AuthCommand.exec_announced c clk u returns
  · rw [id_authRow, email_authRow, AccessTokens.exec_id, AuthCommand.exec_email]
    exact stored

theorem userCommand_keepsEmails (host : Host) (c : UserCommand) (clk : Clock) (u : User)
    (s : UserStore) (h : Copies toLowerCase s) (returns : (c.exec host clk u).Returns)
    (changed : (c.exec host clk u).state ≠ u)
    (stored : ∀ row ∈ s.table.rows, row.id = u.id.getValue → row.email = u.email.getValue) :
    KeepsEmails toLowerCase s (.saveUser (c.exec host clk u).state) := by
  have moves := UserCommand.exec_moves host c clk u returns
  apply announced_saveKeeps toLowerCase s _ _ h
  · rw [id_userRow]
    exact (UserCommand.exec_announced host c clk u returns).resolve_right changed
  · rw [id_userRow, email_userRow, moves.id, moves.email]
    exact stored

def sampleUser : AuthUser :=
  { PrismaAuthUserMapper.propsOf UserRow.sample.authColumns Name.sample Email.sample with
    id := UserId.sample, domainEvents := [] }

/-- A look-up leaves an entry, a save drops it, and another spelling finds nothing. -/
theorem sample_lookups_exact_iff :
    Throughout (perform lowerAscii) (fun s => ∀ r email,
      Exact lowerAscii s r email ↔ SameSpelling lowerAscii s r email)
        (UserStore.cold AccessTokens.sampleUsers)
        [.findByEmail .auth "john.doe@example.com",
          .saveAuthUser (AuthCommand.revokeAllRefreshTokens.exec (.still 12) sampleUser).state,
          .findByEmail .auth "JOHN.DOE@example.com"] := by
  have looked := find_copies lowerAscii .auth "john.doe@example.com" _
    (cold_copies lowerAscii AccessTokens.sampleUsers)
  exact lookups_exact_iff lowerAscii AccessTokens.sampleUsers _ ⟨trivial,
    command_keepsEmails lowerAscii _ _ _ _ looked rfl (by decide), trivial, trivial⟩

/-- The look-up of one spelling leaves an entry that answers another, which no row has. -/
theorem other_spelling_is_answered :
    ¬ Throughout (perform lowerAscii) (fun s => ∀ r email, Exact lowerAscii s r email)
      (UserStore.cold AccessTokens.sampleUsers) [.findByEmail .auth "john.doe@example.com"] := by
  intro exact_lookups
  have last := throughout_end _ _ _ _ exact_lookups .auth "JOHN.DOE@example.com"
  unfold Exact at last
  exact absurd last (by decide +kernel)

end CachedByEmail

end KeramikStore
