import KeramikStore.Auth.SettledVerification

/-!
# What one verification does

A verification that no other request interrupts succeeds just when the hash of its token
is stored for a user that is found and can be verified: the save never fails then. It
changes the row of that user and no other, and its token is gone. Any other verification
leaves the rows and the tokens as they are.
-/

set_option autoImplicit false

namespace KeramikStore.EmailVerification
open Library Library.Runs Library.KeyedTable
open PasswordReset (Services)

theorem toPersistence_toDomain (p : RawAuthProvider) :
    RawAuthProvider.toPersistence p.toDomain = p := by
  simp [RawAuthProvider.toPersistence, RawAuthProvider.toDomain]

def verifiedRow (clk : Clock) (row : UserRow) : UserRow :=
  { row with
    fullName := Name.sanitaize row.fullName, emailVerified := true,
    emailVerifiedAt := some (clk.read 0), status := .ACTIVE, updatedAt := clk.read 2 }

section Rows

variable (o : Origin) (loading clk : Clock) (row : UserRow) (u : AuthUser)
  (loads : PrismaAuthUserMapper.toDomain o loading row.authColumns = .ok u)

include loads

/-- What the mapper writes of a user that it just loaded is the row, the spelling of the
name apart and an empty password. -/
theorem writes_loaded : UserRow.writeAuthUser (PrismaAuthUserMapper.toPersistence u) row =
    { row with
      fullName := Name.sanitaize row.fullName, password := row.password.filter (· != "") } := by
  obtain ⟨name, email, id, hn, he, hi, -, rfl⟩ :=
    (PrismaAuthUserMapper.toDomain_ok_iff _ _ _ u).mp loads
  have spelling : name.fullName = Name.sanitaize row.fullName := ((Name.create_ok_iff _ _).mp hn).2
  have address : email.value = row.email := (Email.create_ok_iff _ _).mp he
  have own : id.getValue = row.id := (UserId.fromString_ok_iff _ _).mp hi
  have password : ((row.password.filter (· != "")).map Password.fromHash).map Password.getValue =
      row.password.filter (· != "") := by
    rw [Option.map_map]
    exact Option.map_id'
  have providers : (row.authProviders.map RawAuthProvider.toDomain).map
      RawAuthProvider.toPersistence = row.authProviders := by
    rw [List.map_map]
    exact (List.map_congr_left fun p _ => toPersistence_toDomain p).trans (List.map_id _)
  simp only [UserRow.writeAuthUser, PrismaAuthUserMapper.toPersistence, PrismaAuthUserMapper.propsOf,
    UserRow.authColumns, Name.getFullName, Email.getValue, spelling, address, own, password,
    providers, EnumMapper.toPersistence_toEntity]

theorem writes_verified (can : u.canVerifyEmail = true) :
    UserRow.savedAuthUser (PrismaAuthUserMapper.toPersistence (u.verifyEmail clk).state)
      (some row) = verifiedRow clk row := by
  have written := writes_loaded o loading row u loads
  have local_user : row.password.filter (· != "") = row.password := by
    have some_password : u.password.isSome = true := by
      simp only [AuthUser.canVerifyEmail, Bool.and_eq_true] at can
      exact can.2
    obtain ⟨p, hp⟩ := Option.isSome_iff_exists.mp some_password
    obtain ⟨name, email, id, -, -, -, -, rfl⟩ :=
      (PrismaAuthUserMapper.toDomain_ok_iff _ _ _ u).mp loads
    obtain ⟨hash, hashed, -⟩ := Option.map_eq_some_iff.mp hp
    obtain ⟨present, nonempty⟩ := Option.filter_eq_some_iff.mp hashed
    change row.password = some hash at present
    rw [present]
    exact Option.filter_eq_some_iff.mpr ⟨rfl, nonempty⟩
  rw [local_user] at written
  have state : PrismaAuthUserMapper.toPersistence (u.verifyEmail clk).state =
      { PrismaAuthUserMapper.toPersistence u with
        emailVerified := true, emailVerifiedAt := some (clk.read 0), status := .ACTIVE,
        updatedAt := clk.read 2 } := by
    unfold AuthUser.verifyEmail
    rw [if_neg (by simp [can])]
    rfl
  rw [state]
  exact congrArg (fun r : UserRow => { r with
    emailVerified := true, emailVerifiedAt := some (clk.read 0), status := .ACTIVE,
    updatedAt := clk.read 2 }) written

end Rows

section Requests

variable (services : Services) (s : Site) (i : ℕ) (token : String) (loading clk : Clock)

/-- A verification from its first step to its last; the audit entry is written and the cache
does what it is asked to do. -/
def verification : List Action :=
  [.readToken i token, .verify i .prompt loading clk, .save i true true, .invalidate i true]

structure Accepts (userId : String) (u : AuthUser) : Prop where
  stored : tokenUser services token s.tokens = .ok (services.hashToken token, userId)
  found : (lookUp services .byId userId loading s.store).1 = .ok (some u)
  can : u.canVerifyEmail = true

structure Verifies (userId : String) (row : UserRow) (s' : Site) : Prop where
  mem : row ∈ s.store.table.rows
  named : row.id = userId
  rows : s'.store.table.rows = put UserRow.id (verifiedRow clk row) s.store.table.rows
  tokens : s'.tokens = erase Prod.fst (services.hashToken token) s.tokens
  log : s'.log = .verified (services.hashToken token) userId row.email :: .presented token :: s.log

structure Refuses (s' : Site) : Prop where
  table : s'.store.table = s.store.table
  tokens : s'.tokens = s.tokens
  log : s'.log = .presented token :: s.log

theorem stage_proceed (t : Site) (next : Option Stage) : stage i (proceed i next t) = next := by
  unfold stage proceed
  cases next with
  | none => exact congrArg (Option.map Prod.snd) (find_erase_same Prod.fst i t.stages)
  | some st => exact congrArg (Option.map Prod.snd) (find_put_same Prod.fst (i, st) t.stages)

theorem enter_free (t : Site) (st : Stage) (free : stage i t = none) :
    enter i (.ok st) t = proceed i (some st) t := by
  unfold enter
  rw [Option.map_eq_none_iff.mp free]

theorem enter_error (t : Site) (e : Error) : enter i (.error e) t = t := by
  unfold enter
  split
  · rename_i h
    cases h
  · rfl

def Action.continued : Action → Option ℕ
  | .createUser i .. | .saveToken i .. | .sendMail i | .verify i .. | .save i .. | .invalidate i _
  | .saveProfile i => some i
  | _ => none

theorem step_ended (t : Site) (idle : stage i t = none) (a : Action) (h : a.continued = some i) :
    step services t a = t := by
  cases a with
  | createUser j | saveToken j | sendMail j | verify j | save j | invalidate j | saveProfile j =>
    obtain rfl := Option.some.inj h
    simp only [step, createUser, saveToken, sendMail, verify, save, invalidate, saveProfile, idle]
  | _ => cases h

/-- A request that has ended does nothing more. -/
theorem after_ended (t : Site) (idle : stage i t = none) (as : List Action)
    (h : ∀ a ∈ as, a.continued = some i) : after (step services) t as = t := by
  induction as with
  | nil => rfl
  | cons a as ih =>
    rw [after_cons, step_ended services i t idle a (h a List.mem_cons_self)]
    exact ih fun b mem => h b (List.mem_cons_of_mem a mem)

variable (free : stage i s = none)
  (coherent : PrismaAuthUserRepository.Coherent services.toLowerCase s.store)

theorem found_row (coherent : PrismaAuthUserRepository.Coherent services.toLowerCase s.store)
    (userId : String) (u : AuthUser)
    (found : (lookUp services .byId userId loading s.store).1 = .ok (some u)) :
    ∃ row ∈ s.store.table.rows, row.id = userId ∧
      ∃ o, PrismaAuthUserMapper.toDomain o loading row.authColumns = .ok u := by
  obtain ⟨o, raw, hit, loads⟩ := (PrismaAuthUserRepository.load_some_iff _ _ u).mp found
  obtain ⟨row, hr, rfl, named⟩ := PrismaAuthUserRepository.wrap_found services.toLowerCase s.store
    _ _ coherent (fun r => PrismaAuthUserRepository.findById_row services.toLowerCase s.store _ r)
    o raw hit
  exact ⟨row, hr, named, o, loads⟩

theorem verified_saves (row : UserRow) (o : Origin) (u : AuthUser) (store : AuthStore)
    (hr : row ∈ store.table.rows)
    (loads : PrismaAuthUserMapper.toDomain o loading row.authColumns = .ok u)
    (can : u.canVerifyEmail = true) :
    ∃ store', PrismaAuthUserRepository.save services.toLowerCase (u.verifyEmail clk).state store =
        .ok store' ∧
      store'.table.rows = put UserRow.id (verifiedRow clk row) store.table.rows := by
  have written := writes_verified o loading clk row u loads can
  have columns := congrArg UserRow.authColumns written
  rw [UserRow.authColumns_savedAuthUser] at columns
  have own : (PrismaAuthUserMapper.toPersistence (u.verifyEmail clk).state).id = row.id := by
    rw [columns]
    rfl
  have kept : ∃ t', store.table.upsert
      (PrismaAuthUserMapper.toPersistence (u.verifyEmail clk).state) = .ok t' := by
    refine UsersTable.upsert_succeeds _ store.table row hr own ?_ ?_
    · rw [columns]
      rfl
    · rw [columns]
      rfl
  obtain ⟨store', saved⟩ := (PrismaAuthUserRepository.save_succeeds_iff services.toLowerCase _
    store).mpr kept
  refine ⟨store', saved, ?_⟩
  obtain ⟨table, -⟩ := (PrismaAuthUserRepository.save_ok_iff _ _ store store').mp saved
  have found : store.table.findById row.id = some row :=
    (find_eq_some_iff _ _ store.table.unique.id row.id row).mpr ⟨hr, rfl⟩
  rw [(UsersTable.upsert_ok_iff _ _ _).mp table, UsersTable.upsertedRows, own, found, written]

include free in
theorem accepted_verifies (userId : String) (u : AuthUser)
    (coherent : PrismaAuthUserRepository.Coherent services.toLowerCase s.store)
    (h : Accepts services s token loading userId u) :
    ∃ row, Verifies services s token clk userId row
      (after (step services) s (verification i token loading clk)) := by
  obtain ⟨row, hr, named, o, loads⟩ := found_row services s loading coherent userId u h.found
  have verified : ((lookUp services .byId userId loading s.store).1 >>=
      verifyEmail userId clk).toOption = some (u.verifyEmail clk).state := by
    refine (toOption_eq_some_iff _ _).mpr ((bind_ok_iff _ _ _).mpr ⟨some u, h.found, ?_⟩)
    refine (Outcome.toExcept_ok_iff _ _).mpr ⟨?_, rfl⟩
    unfold AuthUser.verifyEmail
    rw [if_neg (by simp [h.can])]
    rfl
  have table := lookUp_table services .byId userId loading s.store
  obtain ⟨store, saved, rows⟩ := verified_saves services loading clk row o u
    (lookUp services .byId userId loading s.store).2 (by rwa [table]) loads h.can
  have account := writes_verified o loading clk row u loads h.can
  have address : (u.verifyEmail clk).state.email.getValue = row.email := by
    have columns := congrArg UserRow.authColumns account
    rw [UserRow.authColumns_savedAuthUser] at columns
    exact congrArg RawAuthUser.email columns
  have own : (u.verifyEmail clk).state.id.getValue = userId := by
    have columns := congrArg UserRow.authColumns account
    rw [UserRow.authColumns_savedAuthUser] at columns
    exact (congrArg RawAuthUser.id columns).trans named
  have read : readToken services i token s =
      proceed i (some (.read (services.hashToken token) userId))
        { s with log := .presented token :: s.log } := by
    unfold readToken
    rw [h.stored]
    exact enter_free i _ _ free
  have verifies : ∀ t : Site, t.store = s.store →
      verify services i .prompt loading clk
          (proceed i (some (.read (services.hashToken token) userId)) t) =
        proceed i
          (some (.changed (.verifyEmail (services.hashToken token)) (u.verifyEmail clk).state))
          { proceed i (some (.read (services.hashToken token) userId)) t with
            store := (lookUp services .byId userId loading s.store).2 } := by
    intro t same
    unfold verify
    rw [stage_proceed]
    dsimp only [proceed, look]
    rw [same, verified]
    rfl
  have saves : ∀ t : Site, t.store = (lookUp services .byId userId loading s.store).2 →
      save services i true true (proceed i (some (.changed (.verifyEmail (services.hashToken token))
        (u.verifyEmail clk).state)) t) =
        proceed i (some (.verified (services.hashToken token)))
          { proceed i (some (.changed (.verifyEmail (services.hashToken token))
              (u.verifyEmail clk).state)) t with
            store := store
            log := .verified (services.hashToken token) (u.verifyEmail clk).state.id.getValue
              (u.verifyEmail clk).state.email.getValue :: t.log } := by
    intro t same
    unfold save
    rw [stage_proceed]
    dsimp only [proceed]
    rw [same, saved]
    rfl
  simp only [verification, after_cons, after_nil, step, read]
  rw [verifies, saves]
  · unfold invalidate
    rw [stage_proceed]
    refine ⟨row, hr, named, ?_, rfl, ?_⟩
    · rw [← table]
      exact rows
    · rw [← own, ← address]
      rfl
  · rfl
  · rfl

include free in
theorem refused_refuses (h : ∀ userId u, ¬ Accepts services s token loading userId u) :
    Refuses s token (after (step services) s (verification i token loading clk)) := by
  cases stored : tokenUser services token s.tokens with
  | error e =>
    have read : readToken services i token s = { s with log := .presented token :: s.log } := by
      unfold readToken
      rw [stored]
      exact enter_error i _ e
    have idle : stage i (readToken services i token s) = none := by
      rw [read]
      exact free
    have done : after (step services) s (verification i token loading clk) =
        readToken services i token s :=
      after_ended services i _ idle
        [.verify i .prompt loading clk, .save i true true, .invalidate i true]
        (by simp [Action.continued])
    rw [done, read]
    exact ⟨rfl, rfl, rfl⟩
  | ok entry =>
    obtain ⟨hashed, userId⟩ := entry
    obtain ⟨-, named⟩ := tokenUser_ok services token s.tokens _ stored
    change hashed = services.hashToken token at named
    subst named
    have fails : ((lookUp services .byId userId loading s.store).1 >>=
        verifyEmail userId clk).toOption = none := by
      refine Option.eq_none_iff_forall_ne_some.mpr fun v changed => ?_
      obtain ⟨found, load, verified⟩ := (bind_ok_iff _ _ _).mp
        ((toOption_eq_some_iff _ _).mp changed)
      obtain ⟨w, rfl, can, -⟩ := verifyEmail_ok clk v found userId verified
      exact h userId w ⟨stored, load, can⟩
    have read : readToken services i token s =
        proceed i (some (.read (services.hashToken token) userId))
          { s with log := .presented token :: s.log } := by
      unfold readToken
      rw [stored]
      exact enter_free i _ _ free
    have ends : verify services i .prompt loading clk (readToken services i token s) =
        proceed i none { readToken services i token s with
          store := (lookUp services .byId userId loading s.store).2 } := by
      rw [read]
      unfold verify
      rw [stage_proceed]
      dsimp only [proceed, look]
      rw [fails]
      rfl
    have idle :
        stage i (verify services i .prompt loading clk (readToken services i token s)) = none := by
      rw [ends]
      exact stage_proceed i _ none
    have done : after (step services) s (verification i token loading clk) =
        verify services i .prompt loading clk (readToken services i token s) :=
      after_ended services i _ idle [.save i true true, .invalidate i true]
        (by simp [Action.continued])
    rw [done, ends, read]
    exact ⟨lookUp_table services .byId userId loading s.store, rfl, rfl⟩

end Requests

/-- A verification that nothing interrupts verifies the user of its token if there is one
that can be verified, and otherwise changes no row and no token. -/
theorem uninterrupted_verification (services : Services) (s : Site) (i : ℕ) (token : String)
    (loading clk : Clock) (free : stage i s = none)
    (coherent : PrismaAuthUserRepository.Coherent services.toLowerCase s.store) :
    (∀ userId u, Accepts services s token loading userId u →
        ∃ row, Verifies services s token clk userId row
          (after (step services) s (verification i token loading clk))) ∧
      ((∀ userId u, ¬ Accepts services s token loading userId u) →
        Refuses s token (after (step services) s (verification i token loading clk))) :=
  ⟨fun userId u => accepted_verifies services s i token loading clk free userId u coherent,
    refused_refuses services s i token loading clk free⟩

section Samples
open PasswordReset (sampleServices)

def awaiting : Site := ⟨⟨newcomers, []⟩, [], [], [("#a", UserId.sample.value)], [], []⟩

theorem sample_verification :
    ∃ row, Verifies sampleServices awaiting "a" (.still 13) UserId.sample.value row
      (after (step sampleServices) awaiting (verification 0 "a" (.still 12) (.still 13))) := by
  obtain ⟨accepted, -⟩ := uninterrupted_verification sampleServices awaiting 0 "a" (.still 12)
    (.still 13) rfl (PrismaAuthUserRepository.coherent_cold _ newcomers)
  exact accepted UserId.sample.value _ ⟨rfl, rfl, by decide⟩

end Samples

end KeramikStore.EmailVerification
