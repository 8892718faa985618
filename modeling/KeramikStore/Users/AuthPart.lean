import KeramikStore.Users.Announcements

/-!
# The store of the auth repository as a part of the whole

The auth repository was modelled with a store of its own: the table and its two
families of entries, where a save with events drops the entries of the saved user.
That store is the auth part of the store with all six caches. The look-ups agree,
and the saves do for a user whose handled events name the user and no other.
-/

set_option autoImplicit false

namespace KeramikStore
open Library Library.KeyedTable Library.ReadThrough Library.Runs
open UserCaches UnifiedUserCacheInvalidationListener

variable (toLowerCase : String → String)

namespace AuthStore

def keyOf : UserAuthCacheKey → UserCacheKey
  | .userById userId => .byId .auth userId
  | .userByEmail lowered => .byEmail .auth lowered

theorem keyOf_injective (j k : UserAuthCacheKey) (h : keyOf j = keyOf k) : j = k := by
  cases j <;> cases k <;> simp_all [keyOf]

structure PartOf (a : AuthStore) (s : UserStore) : Prop where
  table : a.table = s.table
  entry : ∀ k, (find Prod.fst k a.cached).map (fun e => UserColumns.auth e.2) =
    s.cached (keyOf k)

theorem cold_partOf (table : UsersTable) : PartOf ⟨table, []⟩ (UserStore.cold table) :=
  ⟨rfl, fun _ => rfl⟩

theorem wrap_partOf (k : UserAuthCacheKey) (row : Option UserRow) (a : AuthStore) (s : UserStore)
    (h : PartOf a s) :
    (PrismaAuthUserRepository.wrap k row a).1.map (fun found => UserColumns.auth found.2) =
        (wrap (keyOf k) (row.map fun r => .auth r.authColumns) s).1.row ∧
      PartOf (PrismaAuthUserRepository.wrap k row a).2
        (wrap (keyOf k) (row.map fun r => .auth r.authColumns) s).2 := by
  have here := h.entry k
  unfold PrismaAuthUserRepository.wrap
  cases hf : find Prod.fst k a.cached with
  | some e =>
    rw [hf] at here
    rw [wrap_hit _ _ s _ here.symm]
    exact ⟨rfl, h⟩
  | none =>
    rw [hf] at here
    rw [wrap_miss _ _ s here.symm]
    cases row with
    | none =>
      refine ⟨rfl, h.table, fun j => ?_⟩
      by_cases same : keyOf j = keyOf k
      · obtain rfl := keyOf_injective j k same
        simp [hf]
      · rw [h.entry j]
        exact (Function.update_of_ne same _ _).symm
    | some r =>
      refine ⟨rfl, h.table, fun j => ?_⟩
      by_cases same : j = k
      · subst same
        have found := find_put_same Prod.fst (j, r.authColumns) a.cached
        change (find Prod.fst j (put Prod.fst (j, r.authColumns) a.cached)).map _ = _
        rw [found]
        exact (Function.update_self (keyOf j) _ s.cached).symm
      · have other := find_put_other Prod.fst j (k, r.authColumns) a.cached (Ne.symm same)
        change (find Prod.fst j (put Prod.fst (k, r.authColumns) a.cached)).map _ = _
        rw [other, h.entry j]
        exact (Function.update_of_ne (fun e => same (keyOf_injective j k e)) _ _).symm

theorem findById_partOf (userId : String) (clk : Clock) (a : AuthStore) (s : UserStore)
    (h : PartOf a s) : PartOf (PrismaAuthUserRepository.findById userId clk a).2
      (UserCaches.PrismaAuthUserRepository.findById userId s).2 := by
  unfold UserCaches.PrismaAuthUserRepository.findById
  rw [← h.table]
  exact (wrap_partOf (.userById userId) (a.table.findById userId) a s h).2

theorem findByEmail_partOf (email : String) (clk : Clock) (a : AuthStore) (s : UserStore)
    (h : PartOf a s) : PartOf (PrismaAuthUserRepository.findByEmail toLowerCase email clk a).2
      (UserCaches.PrismaAuthUserRepository.findByEmail toLowerCase email s).2 := by
  unfold UserCaches.PrismaAuthUserRepository.findByEmail
  rw [← h.table]
  exact (wrap_partOf (.userByEmail (toLowerCase email)) (a.table.findByEmail email) a s h).2

structure OwnEvents (u : AuthUser) : Prop where
  own : u.Own
  handled : u.domainEvents ≠ [] → announcedAuth u ≠ []

/-- For a user whose handled events name the user, the listener drops the same auth entries
as the repository. -/
theorem keyOf_mem_keys (u : AuthUser) (t : UsersTable) (row : UserRow)
    (hr : t.findById u.id.getValue = some row) (email : row.email = u.email.getValue)
    (h : OwnEvents u) (k : UserAuthCacheKey) :
    keyOf k ∈ (announcedAuth u).flatMap (exactKeys toLowerCase t) ↔
      announcedAuth u ≠ [] ∧ (k = .userById u.id.getValue ∨
        k = .userByEmail (toLowerCase u.email.getValue)) := by
  have present := u.email.getValue_ne_empty
  have keys : ∀ e ∈ announcedAuth u, (keyOf k ∈ exactKeys toLowerCase t e ↔
      k = .userById u.id.getValue ∨ k = .userByEmail (toLowerCase u.email.getValue)) := by
    intro e he
    simp only [exactKeys, h.own e he, hr, Option.map_some, Option.getD_some,
      UserCache.getInvalidationKeys, UserAuthCache.getInvalidationKeys,
      UserCache.getUserByIdKey, UserCache.getUserDetailByIdKey, UserCache.getUserByEmailKey,
      UserAuthCache.getUserByIdKey, UserAuthCache.getRequestedUserByIdKey,
      UserAuthCache.getUserByEmailKey, email]
    cases k <;> simp [keyOf, present]
  rw [List.mem_flatMap]
  constructor
  · rintro ⟨e, he, mem⟩
    exact ⟨List.ne_nil_of_mem he, (keys e he).mp mem⟩
  · rintro ⟨some_event, named⟩
    obtain ⟨e, he⟩ := List.exists_mem_of_ne_nil _ some_event
    exact ⟨e, he, (keys e he).mpr named⟩

theorem ownEvents_of_event (u : AuthUser) (e : DomainEvent) (silent : u.domainEvents = [])
    (handled : ofAuthEvent e = some ⟨u.id.getValue, u.email.getValue⟩) :
    OwnEvents (u.addDomainEvent e) := by
  have told : announcedAuth (u.addDomainEvent e) = [⟨u.id.getValue, u.email.getValue⟩] := by
    rw [AuthUser.announcedAuth_addDomainEvent, handled]
    simp [announcedAuth, silent]
  refine ⟨fun p mem => ?_, fun _ => ?_⟩
  · rw [told] at mem
    obtain rfl := List.mem_singleton.mp mem
    rfl
  · rw [told]
    exact List.cons_ne_nil _ _

inductive Underway : AuthUser → Prop where
  | loaded (u : AuthUser) (silent : u.domainEvents = []) : Underway u
  | registered (id : UserId) (name : Name) (email : Email) (password : Password)
      (role : Option Role) (clk : Clock) (u : AuthUser)
      (h : AuthUser.register id name email password role clk = .ok u) : Underway u
  | signedUp (id : UserId) (name : Name) (email : Email) (provider : AuthProvider)
      (role : Option Role) (clk : Clock) (u : AuthUser)
      (h : AuthUser.fromOAuth id name email provider role clk = .ok u) : Underway u
  | changed (c : AuthCommand) (clk : Clock) (u : AuthUser) (before : Underway u)
      (returns : (c.exec clk u).Returns) : Underway (c.exec clk u).state

theorem underway_ownEvents (u : AuthUser) (h : Underway u) : OwnEvents u := by
  have fresh : ∀ (clk : Clock) (id : UserId) (props : AuthUserProps) (v : AuthUser),
      AuthUser.construct .database clk id props = .ok v → v.domainEvents = [] := by
    intro clk id props v made
    unfold AuthUser.construct at made
    split at made
    · exact Except.ok.inj made ▸ rfl
    · cases made
  induction h with
  | loaded u silent =>
    refine ⟨fun e mem => ?_, fun some_event => absurd silent some_event⟩
    simp [announcedAuth, silent] at mem
  | registered id name email password role clk u h =>
    obtain ⟨v, made, h⟩ := (bind_ok_iff _ _ _).mp h
    obtain rfl := Except.ok.inj h
    exact ownEvents_of_event v _ (fresh _ _ _ v made) rfl
  | signedUp id name email provider role clk u h =>
    obtain ⟨v, made, h⟩ := (bind_ok_iff _ _ _).mp h
    obtain rfl := Except.ok.inj h
    exact ownEvents_of_event v _ (fresh _ _ _ v made) rfl
  | changed c clk u before returns ih =>
    refine ⟨AuthCommand.exec_own c clk u ih.own returns, fun _ => ?_⟩
    obtain ⟨e, mem, -⟩ := AuthCommand.exec_announced c clk u returns
    exact List.ne_nil_of_mem mem

theorem save_partOf (u : AuthUser) (a a' : AuthStore) (s s' : UserStore) (h : PartOf a s)
    (events : OwnEvents u) (ha : PrismaAuthUserRepository.save toLowerCase u a = .ok a')
    (hs : UserCaches.PrismaAuthUserRepository.save toLowerCase u s = .ok s') : PartOf a' s' := by
  obtain ⟨ht, hc⟩ := (PrismaAuthUserRepository.save_ok_iff toLowerCase u a a').mp ha
  obtain ⟨t', hw, rfl⟩ := (write_ok_iff toLowerCase _ _ s s').mp hs
  have table : a'.table = t' := by
    rw [← h.table] at hw
    exact Except.ok.inj (ht.symm.trans hw)
  have saved := UsersTable.findById_write_self _ _ _ hw
  rw [id_authRow] at saved
  refine ⟨table, fun k => ?_⟩
  have dropped := keyOf_mem_keys toLowerCase u t' _ saved (email_authRow u s.table) events k
  change _ = drop ((announcedAuth u).flatMap (exactKeys toLowerCase t')) s.cached (keyOf k)
  unfold drop
  rw [hc]
  by_cases silent : u.domainEvents = []
  · have none_announced : announcedAuth u = [] := by simp [announcedAuth, silent]
    rw [if_pos (by simp [silent]), if_neg fun mem => (dropped.mp mem).1 none_announced]
    exact h.entry k
  · have announced := events.handled silent
    rw [if_neg (by simpa using silent)]
    unfold PrismaAuthUserRepository.invalidate
    by_cases named : k = .userById u.id.getValue ∨ k = .userByEmail (toLowerCase u.email.getValue)
    · rw [if_pos (dropped.mpr ⟨announced, named⟩)]
      rcases named with rfl | rfl
      · rw [find_erase_same]
        rfl
      · rw [find_erase_other _ _ _ _ (by simp), find_erase_same]
        rfl
    · rw [if_neg fun mem => named (dropped.mp mem).2]
      rw [find_erase_other _ _ _ _ fun e => named (Or.inl e.symm),
        find_erase_other _ _ _ _ fun e => named (Or.inr e.symm)]
      exact h.entry k

def operation : PrismaAuthUserRepository.Operation → UserOperation
  | .findById userId _ => .findById .auth userId
  | .findByEmail email _ => .findByEmail .auth email
  | .save u => .saveAuthUser u
  | .expire key => .expire (keyOf key)

theorem expire_partOf (key : UserAuthCacheKey) (a : AuthStore) (s : UserStore) (h : PartOf a s) :
    PartOf { a with cached := erase Prod.fst key a.cached }
      { s with cached := drop [keyOf key] s.cached } := by
  refine ⟨h.table, fun k => ?_⟩
  change _ = drop [keyOf key] s.cached (keyOf k)
  unfold drop
  by_cases same : key = k
  · subst same
    rw [if_pos List.mem_cons_self, find_erase_same]
    rfl
  · have other : keyOf k ∉ [keyOf key] := by
      intro mem
      exact same (keyOf_injective k key (List.mem_singleton.mp mem)).symm
    rw [if_neg other, find_erase_other _ _ _ _ same]
    exact h.entry k

theorem perform_partOf (op : PrismaAuthUserRepository.Operation) (a : AuthStore) (s : UserStore)
    (h : PartOf a s) (own : ∀ u, op = .save u → OwnEvents u) :
    PartOf (PrismaAuthUserRepository.perform toLowerCase a op)
      (UserOperation.perform toLowerCase s (operation op)) := by
  cases op with
  | findById userId clk => exact findById_partOf userId clk a s h
  | findByEmail email clk => exact findByEmail_partOf toLowerCase email clk a s h
  | expire key => exact expire_partOf key a s h
  | save u =>
    change PartOf ((PrismaAuthUserRepository.save toLowerCase u a).toOption.getD a)
      ((UserCaches.PrismaAuthUserRepository.save toLowerCase u s).toOption.getD s)
    cases ha : PrismaAuthUserRepository.save toLowerCase u a with
    | ok a' =>
      have written := ((PrismaAuthUserRepository.save_ok_iff toLowerCase u a a').mp ha).1
      rw [h.table] at written
      have hs := (write_ok_iff toLowerCase (authRow u s.table) (announcedAuth u) s _).mpr
        ⟨a'.table, written, rfl⟩
      change PartOf a' ((write toLowerCase (authRow u s.table) (announcedAuth u) s).toOption.getD s)
      rw [hs]
      exact save_partOf toLowerCase u a a' s _ h (own u rfl) ha hs
    | error e =>
      cases hs : UserCaches.PrismaAuthUserRepository.save toLowerCase u s with
      | error e' => exact h
      | ok s' =>
        obtain ⟨t', hw, -⟩ := (write_ok_iff toLowerCase _ _ s s').mp hs
        rw [← h.table] at hw
        have succeeds := PrismaAuthUserRepository.save_succeeds_iff toLowerCase u a
        obtain ⟨a', saved⟩ := succeeds.mpr ⟨t', hw⟩
        rw [ha] at saved
        cases saved

/-- Whatever the auth repository does with the users that the module makes, its store stays
the auth part of the whole. -/
theorem run_partOf (run : List PrismaAuthUserRepository.Operation) (a : AuthStore) (s : UserStore)
    (h : PartOf a s) (saves : ∀ u, .save u ∈ run → Underway u) :
    PartOf (after (PrismaAuthUserRepository.perform toLowerCase) a run)
      (after (UserOperation.perform toLowerCase) s (run.map operation)) := by
  induction run generalizing a s with
  | nil => exact h
  | cons op run ih =>
    apply ih
    · apply perform_partOf toLowerCase op a s h
      rintro u rfl
      exact underway_ownEvents u (saves u List.mem_cons_self)
    · intro u mem
      exact saves u (List.mem_cons_of_mem op mem)

end AuthStore

end KeramikStore
