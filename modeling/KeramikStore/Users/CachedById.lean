import KeramikStore.Library.Runs
import KeramikStore.Users.Announcements

/-!
# Reads by id

The four reads of a user by the id answer as the table does exactly as long as two
things do not happen: the removal of a row of which an entry is left, and a save
that announces nothing for its user and changes what an entry holds. Every command
of the two aggregates that returns announces its user, but for a profile update that
changes nothing. The removal announces nothing.
-/

set_option autoImplicit false

namespace KeramikStore.CachedById
open Library Library.KeyedTable Library.Runs Library.ReadThrough UserCaches UserOperation
open UnifiedUserCacheInvalidationListener

def idKey (i : ById × String) : UserCacheKey := .byId i.1 i.2

def idQuery (i : ById × String) (t : UsersTable) : Option UserColumns :=
  (t.findById i.2).map i.1.select

theorem find_eq (r : ById) (userId : String) (s : UserStore) :
    r.find userId s = read idKey idQuery (r, userId) s := by
  cases r <;> rfl

def ReadsExact (s : UserStore) : Prop :=
  ∀ r userId, (ById.find r userId s).1.row = (s.table.findById userId).map r.select

theorem readsExact_iff (s : UserStore) : ReadsExact s ↔ Coherent idKey idQuery s := by
  rw [← read_exact_iff]
  unfold ReadsExact
  simp only [find_eq]
  exact ⟨fun h i => h i.1 i.2, fun h r userId => h (r, userId)⟩

def SaveKeeps (s : UserStore) (row : UserRow) (es : List UserPayload) : Prop :=
  UniqueColumns (put UserRow.id row s.table.rows) →
    (∃ e ∈ es, row.id = e.userId) ∨
      ∀ r v, s.cached (.byId r row.id) = some v → r.select row = v

def KeepsIds (s : UserStore) : UserOperation → Prop
  | saveAuthUser u => SaveKeeps s (authRow u s.table) (announcedAuth u)
  | saveUser u => SaveKeeps s (userRow u s.table) (announcedUser u)
  | delete id => ∀ r, s.cached (.byId r id) = none
  | _ => True

variable (toLowerCase : String → String)

theorem write_table_ok (row : UserRow) (t : UsersTable)
    (fits : UniqueColumns (put UserRow.id row t.rows)) :
    t.write row = .ok ⟨put UserRow.id row t.rows, fits⟩ :=
  (UsersTable.write_ok_iff row t _).mpr rfl

theorem write_refused (row : UserRow) (es : List UserPayload) (s : UserStore)
    (fits : ¬ UniqueColumns (put UserRow.id row s.table.rows)) :
    (write toLowerCase row es s).toOption.getD s = s := by
  cases hw : write toLowerCase row es s with
  | error e => rfl
  | ok s' =>
    obtain ⟨t', ht, -⟩ := (write_ok_iff toLowerCase row es s s').mp hw
    have rows := (UsersTable.write_ok_iff row s.table t').mp ht
    exact absurd (rows ▸ t'.unique) fits

theorem write_accepted (row : UserRow) (es : List UserPayload) (s : UserStore) (t' : UsersTable)
    (ht : s.table.write row = .ok t') : (write toLowerCase row es s).toOption.getD s =
      ⟨t', drop (es.flatMap (exactKeys toLowerCase t')) s.cached⟩ := by
  rw [(write_ok_iff toLowerCase row es s _).mpr ⟨t', ht, rfl⟩]
  rfl

theorem accepted_exact_iff (row : UserRow) (es : List UserPayload) (s : UserStore)
    (t' : UsersTable) (ht : s.table.write row = .ok t') (h : Coherent idKey idQuery s) :
    Coherent idKey idQuery ⟨t', drop (es.flatMap (exactKeys toLowerCase t')) s.cached⟩ ↔
      (∃ e ∈ es, row.id = e.userId) ∨
        ∀ r v, s.cached (.byId r row.id) = some v → r.select row = v := by
  rw [write_coherent_iff]
  have same := UsersTable.findById_write_self row _ _ ht
  constructor
  · intro agree
    by_cases named : ∃ e ∈ es, row.id = e.userId
    · exact Or.inl named
    · right
      intro r v hv
      have kept : idKey (r, row.id) ∉ es.flatMap (exactKeys toLowerCase t') :=
        fun mem => named ((byId_mem_keys toLowerCase t' es r row.id).mp mem)
      have here := agree (r, row.id) v kept hv
      rw [idQuery, same] at here
      exact Option.some.inj here
  · rintro keeps ⟨r, userId⟩ v kept hv
    unfold idQuery
    by_cases own : row.id = userId
    · subst own
      have unnamed : ¬ ∃ e ∈ es, row.id = e.userId :=
        fun named => kept ((byId_mem_keys toLowerCase t' es r row.id).mpr named)
      rw [same]
      exact congrArg some (keeps.resolve_left unnamed r v hv)
    · rw [UsersTable.findById_write_other row _ _ ht userId own]
      exact h _ v hv (r, userId) rfl

theorem save_exact_iff (row : UserRow) (es : List UserPayload) (s : UserStore)
    (h : Coherent idKey idQuery s) :
    Coherent idKey idQuery ((write toLowerCase row es s).toOption.getD s) ↔
      SaveKeeps s row es := by
  by_cases fits : UniqueColumns (put UserRow.id row s.table.rows)
  · have ht := write_table_ok row s.table fits
    rw [write_accepted toLowerCase row es s _ ht, accepted_exact_iff toLowerCase row es s _ ht h]
    exact ⟨fun keeps _ => keeps, fun keeps => keeps fits⟩
  · rw [write_refused toLowerCase row es s fits]
    exact ⟨fun _ allowed => absurd allowed fits, fun _ => h⟩

theorem delete_exact_iff (id : String) (s : UserStore) (h : Coherent idKey idQuery s) :
    Coherent idKey idQuery ((UserCaches.PrismaUserRepository.delete id s).toOption.getD s) ↔
      ∀ r, s.cached (.byId r id) = none := by
  unfold UserCaches.PrismaUserRepository.delete
  cases ht : s.table.delete id with
  | error e =>
    have missing : s.table.findById id = none := by
      cases hf : s.table.findById id with
      | none => rfl
      | some row => simp [UsersTable.delete, hf] at ht
    change Coherent idKey idQuery s ↔ _
    refine ⟨fun _ r => ?_, fun _ => h⟩
    cases hc : s.cached (.byId r id) with
    | none => rfl
    | some v =>
      have found := h _ v hc (r, id) rfl
      simp [idQuery, missing] at found
  | ok t' =>
    change Coherent idKey idQuery ⟨t', s.cached⟩ ↔ _
    have removed := UsersTable.findById_delete_self id s.table t' ht
    constructor
    · intro agree r
      cases hc : s.cached (.byId r id) with
      | none => rfl
      | some v =>
        have found := agree _ v hc (r, id) rfl
        simp [idQuery, removed] at found
    · rintro clear k v hv ⟨r, userId⟩ rfl
      by_cases own : id = userId
      · subst own
        exact absurd hv (by simp [idKey, clear r])
      · unfold idQuery
        rw [UsersTable.findById_delete_other id s.table t' ht userId own]
        exact h _ v hv (r, userId) rfl

theorem find_coherent (r : ById) (userId : String) (s : UserStore) (h : Coherent idKey idQuery s) :
    Coherent idKey idQuery (r.find userId s).2 := by
  rw [find_eq]
  apply wrap_coherent _ _ _ _ s h
  rintro ⟨r', userId'⟩ same
  obtain ⟨rfl, rfl⟩ := UserCacheKey.byId.inj same
  rfl

theorem findByEmail_coherent (r : ByEmail) (email : String) (s : UserStore)
    (h : Coherent idKey idQuery s) : Coherent idKey idQuery (r.find toLowerCase email s).2 := by
  cases r with
  | auth => exact wrap_coherent _ _ _ _ s h fun i same => nomatch same
  | profile => exact wrap_coherent _ _ _ _ s h fun i same => nomatch same

/-- One operation leaves the reads exact just when it meets the condition. -/
theorem perform_exact_iff (s : UserStore) (op : UserOperation) (h : Coherent idKey idQuery s) :
    Coherent idKey idQuery (perform toLowerCase s op) ↔ KeepsIds s op := by
  cases op with
  | findById r userId => exact iff_of_true (find_coherent r userId s h) trivial
  | findByEmail r email => exact iff_of_true (findByEmail_coherent toLowerCase r email s h) trivial
  | saveAuthUser u => exact save_exact_iff toLowerCase _ _ s h
  | saveUser u => exact save_exact_iff toLowerCase _ _ s h
  | delete id => exact delete_exact_iff id s h
  | expire key => exact iff_of_true (drop_coherent _ _ [key] s h) trivial

theorem cold_coherent (table : UsersTable) : Coherent idKey idQuery (UserStore.cold table) := by
  intro k v hv
  cases hv

theorem announced_keepsIds (u : AuthUser) (s : UserStore) (h : u.Announced) :
    KeepsIds s (.saveAuthUser u) := by
  intro _
  rw [id_authRow]
  exact Or.inl h

theorem announcedUser_keepsIds (u : User) (s : UserStore) (h : u.Announced) :
    KeepsIds s (.saveUser u) := by
  intro _
  rw [id_userRow]
  exact Or.inl h

theorem command_keepsIds (c : AuthCommand) (clk : Clock) (u : AuthUser) (s : UserStore)
    (returns : (c.exec clk u).Returns) : KeepsIds s (.saveAuthUser (c.exec clk u).state) :=
  announced_keepsIds _ s (AuthCommand.exec_announced c clk u returns)

theorem registered_keepsIds (id : UserId) (name : Name) (email : Email) (password : Password)
    (role : Option Role) (clk : Clock) (u : AuthUser) (s : UserStore)
    (h : AuthUser.register id name email password role clk = .ok u) :
    KeepsIds s (.saveAuthUser u) :=
  announced_keepsIds u s (AuthUser.register_announced id name email password role clk u h)

theorem signedIn_keepsIds (id : UserId) (name : Name) (email : Email) (provider : AuthProvider)
    (role : Option Role) (clk : Clock) (u : AuthUser) (s : UserStore)
    (h : AuthUser.fromOAuth id name email provider role clk = .ok u) :
    KeepsIds s (.saveAuthUser u) :=
  announced_keepsIds u s (AuthUser.fromOAuth_announced id name email provider role clk u h)

theorem userCommand_keepsIds (host : Host) (c : UserCommand) (clk : Clock) (u : User)
    (s : UserStore) (returns : (c.exec host clk u).Returns)
    (changed : (c.exec host clk u).state ≠ u) :
    KeepsIds s (.saveUser (c.exec host clk u).state) :=
  announcedUser_keepsIds _ s
    ((UserCommand.exec_announced host c clk u returns).resolve_right changed)

end KeramikStore.CachedById
