import KeramikStore.Auth.AccessTokens
import KeramikStore.Users.UserCaches

/-!
# What no request changes

The requests of both modules load a user, from the table or from a copy in some cache, run
commands on what they have loaded, and write the row. Other requests move between these
steps, and a copy may be as old as the caches like. No request changes the id, the e-mail
or the role of the user that it has loaded, and a user that it makes is a customer. So the
identity of an account is the same in every row, copy and token, and for all time.
-/

set_option autoImplicit false

namespace KeramikStore.FixedIdentities
open Library Library.Runs Library.KeyedTable AccessTokens

structure Identity where
  id : String
  email : String
  role : PrismaRole
deriving DecidableEq

namespace Identity

def ofRow (row : UserRow) : Identity := ⟨row.id, row.email, row.role⟩

def ofAuthUser (u : AuthUser) : Identity :=
  ⟨u.id.getValue, u.email.getValue, roleMapper.toPersistence u.role⟩

def ofUser (u : User) : Identity :=
  ⟨u.id.getValue, u.email.getValue, roleMapper.toPersistence u.role⟩

def ofRequested (r : RequestedUser) : Identity := ⟨r.id, r.email, r.role⟩

def ofPayload (p : AccessTokenPayload) : Identity :=
  ⟨p.sub, p.email, roleMapper.toPersistence p.role⟩

end Identity

inductive Held where
  | idle
  | auth (q : Request) (found : Option AuthUser)
  | user (c : UserCommand) (u : User)
  | done

namespace Held

def identity : Held → Option Identity
  | auth _ found => found.map .ofAuthUser
  | user _ u => some (.ofUser u)
  | _ => none

def newId : Held → Option String
  | auth q _ => q.newId
  | _ => none

end Held

structure Traffic where
  site : Site
  versions : List UserRow
  held : ℕ → Held

/-- A request loads a version of a row, or finds none. It may do so from a cache, so
the version need not be the row of now. -/
inductive Move where
  | load (n : ℕ) (q : Request) (jti : String) (how : Reading) (version : ℕ)
  | save (n : ℕ) (jti : String) (clk : Clock) (returns : Bool)
  | loadUser (n : ℕ) (c : UserCommand) (loading : Clock) (version : ℕ)
  | saveUser (n : ℕ) (clk : Clock)
  | remember (version : ℕ)
  | validate (payload : AccessTokenPayload)
  | expire (jti : String)
  | drop (userId : String)

namespace Traffic

def start (users : UsersTable) : Traffic :=
  ⟨AccessTokens.start users, users.rows, fun _ => .idle⟩

def holds (n : ℕ) (h : Held) (s : Traffic) : Traffic :=
  { s with held := Function.update s.held n h }

def wrote (n : ℕ) (site : Site) (s : Traffic) : Traffic :=
  ⟨site, site.users.rows ++ s.versions, Function.update s.held n .done⟩

section Steps

variable (hasher : PasswordHasher) (host : Host)

def load (n : ℕ) (q : Request) (jti : String) (how : Reading) (version : ℕ) (s : Traffic) :
    Traffic :=
  match s.held n with
  | .idle =>
    let s := { s with site := { s.site with blacklisted := q.blacklists jti ++ s.site.blacklisted } }
    match AccessTokens.load how s.versions[version]? with
    | .ok found => s.holds n (.auth q found)
    | .error _ => s.holds n .done
  | _ => s

def loadProfile (n : ℕ) (c : UserCommand) (loading : Clock) (row : UserRow) (s : Traffic) :
    Traffic :=
  match PrismaUserMapper.toDomain host loading row.userColumns with
  | .ok u => s.holds n (.user c u)
  | .error _ => s.holds n .done

def saveAuth (q : Request) (found : Option AuthUser) (jti : String) (clk : Clock)
    (returns : Bool) (s : Site) : Except Error Site := do
  let v ← q.run hasher clk found
  let t ← s.users.upsert (PrismaAuthUserMapper.toPersistence v)
  return (s.saved v.id.getValue (!v.domainEvents.isEmpty) t).issue q returns v jti

def saveProfile (c : UserCommand) (u : User) (clk : Clock) (s : Site) : Except Error Site := do
  let v ← (c.exec host clk u).toExcept
  let t ← s.users.write (UserCaches.userRow v s.users)
  return s.saved v.id.getValue (!v.domainEvents.isEmpty) t

def finish (n : ℕ) (s : Traffic) : Except Error Site → Traffic
  | .ok site => s.wrote n site
  | .error _ => s.holds n .done

def step (s : Traffic) : Move → Traffic
  | .load n q jti how version => load n q jti how version s
  | .save n jti clk returns =>
    match s.held n with
    | .auth q found => s.finish n (saveAuth hasher q found jti clk returns s.site)
    | _ => s
  | .loadUser n c loading version =>
    match s.held n, s.versions[version]? with
    | .idle, some row => s.loadProfile host n c loading row
    | .idle, none => s.holds n .done
    | _, _ => s
  | .saveUser n clk =>
    match s.held n with
    | .user c u => s.finish n (saveProfile host c u clk s.site)
    | _ => s
  | .remember version =>
    match s.versions[version]? with
    | some row =>
      let entry := (row.id, requestedColumns row)
      { s with site := { s.site with requested := put Prod.fst entry s.site.requested } }
    | none => s
  | .validate payload => { s with site := (validateAccessToken payload s.site).2 }
  | .expire jti =>
    { s with site :=
      { s.site with
        issued := s.site.issued.filter (·.jti != jti)
        blacklisted := s.site.blacklisted.filter (· != jti) } }
  | .drop userId =>
    { s with site := { s.site with requested := erase Prod.fst userId s.site.requested } }

end Steps

end Traffic

def IdsFresh (s : Traffic) : Move → Prop
  | .save n _ _ _ => ∀ id ∈ (s.held n).newId, ∀ row ∈ s.site.users.rows, row.id ≠ id
  | _ => True

instance (s : Traffic) (m : Move) : Decidable (IdsFresh s m) := by
  cases m <;> unfold IdsFresh <;> infer_instance

section Commands

variable (u v : AuthUser) (clk : Clock)

def SameUser : Prop := v.id = u.id ∧ v.email = u.email ∧ v.role = u.role

theorem effect_same (c : AuthCommand) :
    (c.effect clk u).email = u.email ∧ (c.effect clk u).role = u.role := by
  cases c with
  | recordLogout t => cases t <;> exact ⟨rfl, rfl⟩
  | verifyEmail | unverifyEmail | changePassword p | resetPassword p | recordOAuthLogin p t a
  | linkOAuth p | unlinkOAuth p =>
    simp only [AuthCommand.effect]
    split_ifs <;> exact ⟨rfl, rfl⟩
  | recordLogin t | recordTokenRefresh old new | revokeAllRefreshTokens | activate | deactivate
  | suspend | softDelete => exact ⟨rfl, rfl⟩

theorem exec_same (c : AuthCommand) : SameUser u (c.exec clk u).state := by
  obtain ⟨id, d, props, -⟩ := AuthCommand.exec_leaves c clk u
  obtain ⟨email, role⟩ := effect_same u clk c
  refine ⟨id, ?_, ?_⟩
  · rw [props]
    exact email
  · rw [props]
    exact role

theorem SameUser.trans {u v w : AuthUser} (h : SameUser u v) (k : SameUser v w) : SameUser u w :=
  ⟨k.1.trans h.1, k.2.1.trans h.2.1, k.2.2.trans h.2.2⟩

theorem run_same (hasher : PasswordHasher) (q : Request)
    (h : q.run hasher clk (some u) = .ok v) : SameUser u v := by
  cases q with
  | command userId c =>
    obtain ⟨-, rfl⟩ := (Outcome.toExcept_ok_iff _ _).mp h
    exact exec_same u clk c
  | register newId name email password => cases h
  | loginWithEmail email password token =>
    have h : UseCases.loginWithEmail hasher password token clk u = .ok v := h
    simp only [UseCases.loginWithEmail, bind_ok_iff, Outcome.toExcept_ok_iff] at h
    obtain ⟨_, -, _, -, _, -, -, rfl⟩ := h
    exact exec_same u clk (.recordLogin token)
  | refreshToken userId presented token =>
    obtain ⟨-, rfl⟩ := (Outcome.toExcept_ok_iff _ _).mp h
    exact exec_same u clk (.recordTokenRefresh presented token)
  | logout userId token =>
    obtain ⟨-, rfl⟩ := (Outcome.toExcept_ok_iff (u.recordLogout (some token) clk) v).mp h
    exact exec_same u clk (.recordLogout (some token))
  | googleAuthCallback p c =>
    obtain ⟨w, linked, hv⟩ := (bind_ok_iff _ _ _).mp h
    obtain ⟨-, rfl⟩ := (Outcome.toExcept_ok_iff _ _).mp hv
    refine SameUser.trans ?_ (exec_same w _ (.recordOAuthLogin .google c.refreshToken p.avatarUrl))
    unfold UseCases.linkGoogle at linked
    split_ifs at linked
    · obtain rfl := Except.ok.inj linked
      exact ⟨rfl, rfl, rfl⟩
    · obtain ⟨-, rfl⟩ := (Outcome.toExcept_ok_iff _ _).mp linked
      exact exec_same u _ (.linkOAuth _)

/-- A request that has found nobody saves a customer under its new id. -/
theorem run_new (hasher : PasswordHasher) (q : Request) (h : q.run hasher clk none = .ok v) :
    q.newId = some v.id.getValue ∧ v.role = .customer := by
  cases q with
  | register newId name email password =>
    obtain ⟨same, made⟩ := AuthUser.factory_ok _ _ newId _ _ v h
    rw [made]
    exact ⟨congrArg (fun id => some (UserId.getValue id)) same.symm, rfl⟩
  | googleAuthCallback p c =>
    have h : GoogleSignIn.newUser p c = .ok v := h
    simp only [GoogleSignIn.newUser, bind_ok_iff, Outcome.toExcept_ok_iff] at h
    obtain ⟨email, -, name, -, w, made, -, rfl⟩ := h
    obtain ⟨id, -, role⟩ :=
      exec_same w (c.clock.skip 9) (.recordOAuthLogin .google c.refreshToken p.avatarUrl)
    obtain ⟨same, props⟩ := AuthUser.factory_ok _ _ c.newId _ _ w made
    refine ⟨congrArg (fun id => some (UserId.getValue id)) (id.trans same).symm, role.trans ?_⟩
    rw [props]
    rfl
  | command userId c | loginWithEmail email password token | refreshToken userId presented token
  | logout userId token => cases h

end Commands

section Rows
open Identity

def Known (rows : List UserRow) (i : Identity) : Prop := ∃ row ∈ rows, ofRow row = i

theorem loaded_same (row : UserRow) (u : AuthUser) (o : Origin) (clk : Clock)
    (h : PrismaAuthUserMapper.toDomain o clk row.authColumns = .ok u) :
    ofAuthUser u = ofRow row := by
  obtain ⟨id, email, -⟩ := GoogleSignIn.loaded_identity row u o clk h
  have role : roleMapper.toPersistence u.role = row.role := by
    obtain ⟨_, _, _, -, -, -, -, rfl⟩ := (PrismaAuthUserMapper.toDomain_ok_iff _ _ _ _).mp h
    exact roleMapper.toPersistence_toEntity row.role
  unfold ofAuthUser ofRow
  rw [id, email, role]

theorem loadedUser_same (host : Host) (row : UserRow) (u : User) (clk : Clock)
    (h : PrismaUserMapper.toDomain host clk row.userColumns = .ok u) : ofUser u = ofRow row := by
  obtain ⟨-, email, id, role, -⟩ := PrismaUserMapper.toDomain_shared host clk _ u h
  unfold ofUser ofRow
  rw [email, id, role, roleMapper.toPersistence_toEntity]
  rfl

theorem savedAuth_same (v : AuthUser) (old : Option UserRow) :
    ofRow (UserRow.savedAuthUser (PrismaAuthUserMapper.toPersistence v) old) = ofAuthUser v := by
  cases old <;> rfl

theorem savedUser_same (v : User) (t : UsersTable) : ofRow (UserCaches.userRow v t) = ofUser v := by
  unfold UserCaches.userRow
  cases t.findById v.id.getValue <;> rfl

theorem known_put_iff (t : UsersTable) (new : UserRow) (known : Known t.rows (ofRow new))
    (i : Identity) : Known (put UserRow.id new t.rows) i ↔ Known t.rows i := by
  obtain ⟨old, present, same⟩ := known
  constructor
  · rintro ⟨row, mem, rfl⟩
    obtain rfl | ⟨mem, -⟩ := (mem_put _ _ _ _).mp mem
    · exact ⟨old, present, same⟩
    · exact ⟨row, mem, rfl⟩
  · rintro ⟨row, mem, rfl⟩
    by_cases own : row.id = new.id
    · have here : old.id = new.id := congrArg Identity.id same
      obtain rfl := t.eq_of_id old row present mem (here.trans own.symm)
      exact ⟨new, (mem_put _ _ _ _).mpr (Or.inl rfl), same.symm⟩
    · exact ⟨row, (mem_put _ _ _ _).mpr (Or.inr ⟨mem, own⟩), rfl⟩

theorem known_put_new_iff (t : UsersTable) (new : UserRow)
    (fresh : ∀ row ∈ t.rows, row.id ≠ new.id) (i : Identity) :
    Known (put UserRow.id new t.rows) i ↔ Known t.rows i ∨ i = ofRow new := by
  constructor
  · rintro ⟨row, mem, rfl⟩
    obtain rfl | ⟨mem, -⟩ := (mem_put _ _ _ _).mp mem
    · exact Or.inr rfl
    · exact Or.inl ⟨row, mem, rfl⟩
  · rintro (⟨row, mem, rfl⟩ | rfl)
    · exact ⟨row, (mem_put _ _ _ _).mpr (Or.inr ⟨mem, fresh row mem⟩), rfl⟩
    · exact ⟨new, (mem_put _ _ _ _).mpr (Or.inl rfl), rfl⟩

/-- What a write of a row does, if the row has the identity of another one or is a new
customer's. -/
theorem rows_grow (t t' : UsersTable) (new : UserRow) (rows : t'.rows = put UserRow.id new t.rows)
    (known : Known t.rows (ofRow new) ∨
      (∀ row ∈ t.rows, row.id ≠ new.id) ∧ new.role = .CUSTOMER) :
    (∀ i, Known t.rows i → Known t'.rows i) ∧
      (∀ i, Known t'.rows i → Known t.rows i ∨ i.role = .CUSTOMER) ∧
      Known t'.rows (ofRow new) := by
  rw [rows]
  refine ⟨fun i old => ?_, fun i now => ?_, new, (mem_put _ _ _ _).mpr (Or.inl rfl), rfl⟩
  · obtain known | ⟨fresh, -⟩ := known
    · exact (known_put_iff t new known i).mpr old
    · exact (known_put_new_iff t new fresh i).mpr (Or.inl old)
  · obtain known | ⟨fresh, customer⟩ := known
    · exact Or.inl ((known_put_iff t new known i).mp now)
    · exact ((known_put_new_iff t new fresh i).mp now).imp_right fun same =>
        (congrArg Identity.role same).trans customer

end Rows

theorem saved_requested (userId : String) (announced : Bool) (t : UsersTable) (s : Site)
    (entry : String × RequestedUser) (mem : entry ∈ (s.saved userId announced t).requested) :
    entry ∈ s.requested := by
  unfold Site.saved at mem
  cases announced with
  | true => exact ((mem_erase _ _ _ _).mp mem).1
  | false => exact mem

theorem validate_requested (payload : AccessTokenPayload) (s : Site)
    (entry : String × RequestedUser) (mem : entry ∈ (validateAccessToken payload s).2.requested) :
    entry ∈ s.requested ∨ ∃ row ∈ s.users.rows, entry = (row.id, requestedColumns row) := by
  have looked : ∀ e ∈ (getRequestedUserById payload.sub s).2.requested,
      e ∈ s.requested ∨ ∃ row ∈ s.users.rows, e = (row.id, requestedColumns row) := by
    intro e he
    unfold getRequestedUserById at he
    cases cached : find Prod.fst payload.sub s.requested with
    | some hit =>
      rw [cached] at he
      exact Or.inl he
    | none =>
      rw [cached] at he
      cases found : s.users.findById payload.sub with
      | none =>
        rw [found] at he
        exact Or.inl he
      | some row =>
        rw [found] at he
        obtain ⟨here, named⟩ := UsersTable.findById_some _ _ row found
        obtain rfl | ⟨old, -⟩ := (mem_put _ _ _ _).mp he
        · exact Or.inr ⟨row, here, by rw [named]⟩
        · exact Or.inl old
  unfold validateAccessToken at mem
  split_ifs at mem
  · exact Or.inl mem
  · exact Or.inl mem
  · dsimp only at mem
    cases found : (getRequestedUserById payload.sub s).1 with
    | none =>
      rw [found] at mem
      exact looked entry mem
    | some user =>
      rw [found] at mem
      exact looked entry mem

theorem issue_issued (q : Request) (returns : Bool) (u : AuthUser) (jti : String) (s : Site)
    (payload : AccessTokenPayload) (mem : payload ∈ (s.issue q returns u jti).issued) :
    payload ∈ s.issued ∨ payload = generate u jti := by
  unfold Site.issue at mem
  dsimp only at mem
  split_ifs at mem
  · exact (List.mem_append.mp mem).imp_right List.mem_singleton.mp
  · exact Or.inl mem

structure Fixed (users : UsersTable) (s : Traffic) : Prop where
  kept : ∀ i, Known users.rows i → Known s.site.users.rows i
  added : ∀ i, Known s.site.users.rows i → i.role ≠ .CUSTOMER → Known users.rows i
  versions : ∀ row ∈ s.versions, Known s.site.users.rows (.ofRow row)
  held : ∀ n, ∀ i ∈ (s.held n).identity, Known s.site.users.rows i
  requested : ∀ entry ∈ s.site.requested,
    entry.2.id = entry.1 ∧ Known s.site.users.rows (.ofRequested entry.2)
  issued : ∀ payload ∈ s.site.issued,
    payload.type = accessTokenType ∧ Known s.site.users.rows (.ofPayload payload)

section Invariant

variable (users : UsersTable) (s : Traffic) (fixed : Fixed users s)

theorem fixed_start : Fixed users (.start users) where
  kept _ known := known
  added _ known _ := known
  versions row mem := ⟨row, mem, rfl⟩
  held _ _ mem := absurd mem.symm (Option.some_ne_none _)
  requested _ mem := absurd mem List.not_mem_nil
  issued _ mem := absurd mem List.not_mem_nil

include fixed

theorem fixed_holds (n : ℕ) (h : Held) (known : ∀ i ∈ h.identity, Known s.site.users.rows i) :
    Fixed users (s.holds n h) :=
  { fixed with
    held := by
      intro k
      show ∀ i ∈ (Function.update s.held n h k).identity, _
      by_cases own : k = n
      · rw [own, Function.update_self]
        exact known
      · rw [Function.update_of_ne own]
        exact fixed.held k }

theorem fixed_done (n : ℕ) : Fixed users (s.holds n .done) :=
  fixed_holds users s fixed n .done fun _ mem => absurd mem.symm (Option.some_ne_none _)

theorem fixed_site (site : Site) (same : site.users = s.site.users)
    (requested : ∀ entry ∈ site.requested,
      entry.2.id = entry.1 ∧ Known s.site.users.rows (.ofRequested entry.2))
    (issued : ∀ payload ∈ site.issued, payload ∈ s.site.issued) :
    Fixed users { s with site := site } where
  kept i known := same ▸ fixed.kept i known
  added i known := fixed.added i (same ▸ known)
  versions row mem := same ▸ fixed.versions row mem
  held n i mem := same ▸ fixed.held n i mem
  requested entry mem := same ▸ requested entry mem
  issued payload mem := same ▸ fixed.issued payload (issued payload mem)

theorem fixed_wrote (n : ℕ) (site : Site)
    (grows : ∀ i, Known s.site.users.rows i → Known site.users.rows i)
    (added : ∀ i, Known site.users.rows i → Known s.site.users.rows i ∨ i.role = .CUSTOMER)
    (requested : ∀ entry ∈ site.requested, entry ∈ s.site.requested)
    (issued : ∀ payload ∈ site.issued, payload ∈ s.site.issued ∨
      payload.type = accessTokenType ∧ Known site.users.rows (.ofPayload payload)) :
    Fixed users (s.wrote n site) where
  kept i known := grows i (fixed.kept i known)
  added i known powers := fixed.added i ((added i known).resolve_right powers) powers
  versions row mem := by
    obtain mem | mem := List.mem_append.mp mem
    · exact ⟨row, mem, rfl⟩
    · exact grows _ (fixed.versions row mem)
  held k i mem := by
    have mem : i ∈ (Function.update s.held n .done k).identity := mem
    by_cases own : k = n
    · rw [own, Function.update_self] at mem
      exact absurd mem.symm (Option.some_ne_none _)
    · rw [Function.update_of_ne own] at mem
      exact grows i (fixed.held k i mem)
  requested entry mem :=
    (fixed.requested entry (requested entry mem)).imp_right (grows _)
  issued payload mem :=
    (issued payload mem).elim (fun old => (fixed.issued payload old).imp_right (grows _)) id

theorem load_fixed (n : ℕ) (q : Request) (jti : String) (how : Reading) (version : ℕ) :
    Fixed users (s.load n q jti how version) := by
  unfold Traffic.load
  cases s.held n with
  | idle =>
    have listed := fixed_site users s fixed
      { s.site with blacklisted := q.blacklists jti ++ s.site.blacklisted } rfl fixed.requested
      fun _ mem => mem
    dsimp only
    cases found : AccessTokens.load how s.versions[version]? with
    | error e => exact fixed_done users _ listed n
    | ok found' =>
      refine fixed_holds users _ listed n _ fun i mem => ?_
      obtain ⟨u, rfl, rfl⟩ := Option.map_eq_some_iff.mp mem
      obtain ⟨row, present, loaded⟩ := load_some how _ u found
      rw [loaded_same row u how.origin how.loading loaded]
      exact fixed.versions row (List.mem_of_getElem? present)
  | auth q found => exact fixed
  | user c u => exact fixed
  | done => exact fixed

variable (hasher : PasswordHasher) (host : Host)

theorem finish_fixed (n : ℕ) (done : Except Error Site)
    (saved : ∀ site, done = .ok site → Fixed users (s.wrote n site)) :
    Fixed users (s.finish n done) := by
  cases done with
  | ok site => exact saved site rfl
  | error e => exact fixed_done users s fixed n

theorem save_fixed (n : ℕ) (q : Request) (found : Option AuthUser) (jti : String) (clk : Clock)
    (returns : Bool) (held : s.held n = .auth q found)
    (fresh : ∀ id ∈ q.newId, ∀ row ∈ s.site.users.rows, row.id ≠ id) :
    Fixed users (s.finish n (Traffic.saveAuth hasher q found jti clk returns s.site)) := by
  apply finish_fixed users s fixed
  intro site saved
  simp only [Traffic.saveAuth, bind_ok_iff] at saved
  obtain ⟨v, ran, t, written, done⟩ := saved
  obtain rfl := Except.ok.inj done
  have rows := (UsersTable.upsert_ok_iff _ _ _).mp written
  unfold UsersTable.upsertedRows at rows
  have known : Known s.site.users.rows (.ofAuthUser v) ∨
      (∀ row ∈ s.site.users.rows, row.id ≠ v.id.getValue) ∧
        roleMapper.toPersistence v.role = .CUSTOMER := by
    cases found with
    | none =>
      obtain ⟨id, role⟩ := run_new v clk hasher q ran
      exact Or.inr ⟨fresh _ id, role ▸ rfl⟩
    | some u =>
      obtain ⟨id, email, role⟩ := run_same u v clk hasher q ran
      have here := fixed.held n (.ofAuthUser u) (held ▸ rfl)
      unfold Identity.ofAuthUser at here ⊢
      rw [id, email, role]
      exact Or.inl here
  rw [← savedAuth_same v (s.site.users.findById (PrismaAuthUserMapper.toPersistence v).id)] at known
  obtain ⟨grows, added, there⟩ := rows_grow _ t _ rows <| known.imp_right fun new => by
    rw [UserRow.id_savedAuthUser]
    exact ⟨new.1, (congrArg Identity.role (savedAuth_same v _)).trans new.2⟩
  apply fixed_wrote users s fixed n _ grows added
  · exact fun entry mem => saved_requested _ _ t _ entry mem
  · intro payload mem
    obtain old | rfl := issue_issued q returns v jti _ payload mem
    · exact Or.inl old
    · exact Or.inr ⟨rfl, (savedAuth_same v _ ▸ there :)⟩

theorem saveUser_fixed (n : ℕ) (c : UserCommand) (u : User) (clk : Clock)
    (held : s.held n = .user c u) :
    Fixed users (s.finish n (Traffic.saveProfile host c u clk s.site)) := by
  apply finish_fixed users s fixed
  intro site saved
  simp only [Traffic.saveProfile, bind_ok_iff, Outcome.toExcept_ok_iff] at saved
  obtain ⟨v, ⟨returns, rfl⟩, t, written, done⟩ := saved
  obtain rfl := Except.ok.inj done
  have moves := UserCommand.exec_moves host c clk u returns
  have here := fixed.held n (.ofUser u) (held ▸ rfl)
  have same : Identity.ofUser (c.exec host clk u).state = .ofUser u := by
    unfold Identity.ofUser
    rw [moves.id, moves.email, moves.role]
  have known := (savedUser_same (c.exec host clk u).state s.site.users).trans same ▸ here
  obtain ⟨grows, added, -⟩ := rows_grow _ t _ ((UsersTable.write_ok_iff _ _ _).mp written)
    (Or.inl known)
  exact fixed_wrote users s fixed n _ grows added
    (fun entry mem => saved_requested _ _ t _ entry mem) fun payload mem => Or.inl mem

theorem loadProfile_fixed (n : ℕ) (c : UserCommand) (loading : Clock) (row : UserRow)
    (mem : row ∈ s.versions) : Fixed users (s.loadProfile host n c loading row) := by
  unfold Traffic.loadProfile
  cases loaded : PrismaUserMapper.toDomain host loading row.userColumns with
  | error e => exact fixed_done users s fixed n
  | ok u =>
    refine fixed_holds users s fixed n _ fun i same => ?_
    obtain rfl := Option.some.inj same
    rw [loadedUser_same host row u loading loaded]
    exact fixed.versions row mem

theorem remember_fixed (row : UserRow) (mem : row ∈ s.versions) :
    Fixed users { s with site :=
      { s.site with requested := put Prod.fst (row.id, requestedColumns row) s.site.requested } } :=
  fixed_site users s fixed _ rfl (fun entry mem' => by
    obtain rfl | ⟨old, -⟩ := (mem_put _ _ _ _).mp mem'
    · exact ⟨rfl, fixed.versions row mem⟩
    · exact fixed.requested entry old) fun _ mem => mem

theorem validate_fixed (payload : AccessTokenPayload) :
    Fixed users { s with site := (validateAccessToken payload s.site).2 } := by
  obtain ⟨same, -, issued⟩ := validateAccessToken_kept payload s.site
  refine fixed_site users s fixed _ same (fun entry mem => ?_) fun p mem => issued ▸ mem
  obtain old | ⟨row, here, rfl⟩ := validate_requested payload s.site entry mem
  · exact fixed.requested entry old
  · exact ⟨rfl, row, here, rfl⟩

/-- One move keeps the identities, if generated ids are new. -/
theorem step_fixed (m : Move) (fresh : IdsFresh s m) : Fixed users (s.step hasher host m) := by
  cases m with
  | load n q jti how version => exact load_fixed users s fixed n q jti how version
  | save n jti clk returns =>
    dsimp only [IdsFresh] at fresh
    dsimp only [Traffic.step]
    cases held : s.held n with
    | auth q found =>
      rw [held] at fresh
      exact save_fixed users s fixed hasher n q found jti clk returns held fresh
    | idle | user c u | done => exact fixed
  | loadUser n c loading version =>
    dsimp only [Traffic.step]
    cases s.held n with
    | idle =>
      cases found : s.versions[version]? with
      | none => exact fixed_done users s fixed n
      | some row =>
        exact loadProfile_fixed users s fixed host n c loading row (List.mem_of_getElem? found)
    | auth q found | user c u | done => exact fixed
  | saveUser n clk =>
    dsimp only [Traffic.step]
    cases held : s.held n with
    | user c u => exact saveUser_fixed users s fixed host n c u clk held
    | idle | auth q found | done => exact fixed
  | remember version =>
    dsimp only [Traffic.step]
    cases found : s.versions[version]? with
    | none => exact fixed
    | some row => exact remember_fixed users s fixed row (List.mem_of_getElem? found)
  | validate payload => exact validate_fixed users s fixed payload
  | expire jti =>
    exact fixed_site users s fixed _ rfl fixed.requested fun p mem => (List.mem_filter.mp mem).1
  | drop userId =>
    exact fixed_site users s fixed _ rfl
      (fun entry mem => fixed.requested entry ((mem_erase _ _ _ _).mp mem).1) fun _ mem => mem

end Invariant

/-- However the requests interleave and however old their copies are, the identities stay. -/
theorem fixed_throughout (hasher : PasswordHasher) (host : Host) (users : UsersTable)
    (ms : List Move) (fresh : Along (Traffic.step hasher host) IdsFresh (.start users) ms) :
    Throughout (Traffic.step hasher host) (Fixed users) (.start users) ms :=
  throughout_of_step _ (Fixed users) IdsFresh
    (fun s m fixed new => step_fixed users s fixed hasher host m new) _ ms (fixed_start users) fresh

def loggedIn : List Move := [
  .load 0 (.loginWithEmail "john.doe@example.com" "Rahasia1!" "t2") "j1"
    ⟨.database, .still 10, .still 11⟩ 0,
  .save 0 "j1" (.still 11) true]

def suspendedMeanwhile : List Move :=
  .loadUser 1 .suspend (.still 9) 0 :: loggedIn ++ [.saveUser 1 (.still 12)]

theorem suspension_keeps_identities :
    Throughout (Traffic.step sampleHasher UserRow.plainHost) (Fixed sampleUsers)
      (.start sampleUsers) suspendedMeanwhile :=
  fixed_throughout sampleHasher UserRow.plainHost sampleUsers suspendedMeanwhile (by decide)

end KeramikStore.FixedIdentities
