import KeramikStore.Auth.FixedIdentities
import KeramikStore.Auth.TokenExtraction

/-!
# Who passes the guards of a route

One guard stands before all routes and stops nobody: it only reads the payload of a live
token. On some routes a second guard has the token validated, and a third one asks for a
role. The roles that they see come from tokens and from copies. Since identities are fixed,
they are the roles of now, and those who pass a route for staff had the role from the start.
-/

set_option autoImplicit false

namespace KeramikStore
open Library Library.Runs Library.KeyedTable AccessTokens FixedIdentities

inductive Caller where
  | nobody
  | context (payload : AccessTokenPayload)
  | user (user : RequestUser)
deriving DecidableEq

def Caller.identity : Caller → Option Identity
  | nobody => none
  | context payload => some (.ofPayload payload)
  | user u => some ⟨u.id, u.email, roleMapper.toPersistence u.role⟩

inductive Refusal where
  | unauthorized
  | invalid (e : Error)
  | forbidden
deriving DecidableEq

/-- The routes of the controllers, but for those of the refresh token and of Google. The
throttlers, which may turn any request away beforehand, are left out. -/
inductive Route where
  | getAppInfo | healthCheck
  | register | verifyEmail | resendVerification | forgotPassword | resetPassword | login
  | changePassword | logout
  | browseProducts | getProductDetail
  | createProduct | updateProduct | deleteProduct
  | getCurrentUserProfile | updateCurrentUserProfile
  | getAllUsers | getUserById
deriving DecidableEq

namespace Route

def authenticated : Route → Bool
  | getAppInfo | healthCheck
  | register | verifyEmail | resendVerification | forgotPassword | resetPassword | login
  | browseProducts | getProductDetail => false
  | _ => true

def requiredRoles : Route → List Role
  | createProduct | updateProduct | deleteProduct => [.admin]
  | getAllUsers | getUserById => [.admin, .staff]
  | _ => []

end Route

section Guards

variable (jwt : RefreshTokenStrategy.ExtractJwt) (decode : String → Option AccessTokenPayload)

/-- Tokens that were issued and have not expired pass the check of the signature. -/
def verified (s : Site) (token : String) : Option AccessTokenPayload :=
  (decode token).filter (· ∈ s.issued)

def AuthContextGuard.token (authorization : Option String) : Option String :=
  (authorization.bind fun header => ((header.toList.splitOn ' ')[1]?).map String.ofList).filter
    (· != "")

def AuthContextGuard.canActivate (req : RefreshTokenStrategy.Request) (s : Site) : Caller :=
  match (AuthContextGuard.token req.authorization).bind (verified decode s) with
  | some payload => .context payload
  | none => .nobody

def JwtAuthGuard.canActivate (req : RefreshTokenStrategy.Request) (s : Site) :
    Except Refusal RequestUser × Site :=
  match jwt.fromAuthHeaderAsBearerToken req with
  | some (.text token) =>
    match verified decode s token with
    | some payload => ((validateAccessToken payload s).1.mapError .invalid,
        (validateAccessToken payload s).2)
    | none => (.error .unauthorized, s)
  | _ => (.error .unauthorized, s)

def RolesGuard.canActivate (requiredRoles : List Role) (user : RequestUser) : Bool :=
  requiredRoles.isEmpty || requiredRoles.contains user.role

def Route.enter (route : Route) (req : RefreshTokenStrategy.Request) (s : Site) :
    Except Refusal Caller × Site :=
  if route.authenticated then
    let entered := JwtAuthGuard.canActivate jwt decode req s
    (do let user ← entered.1
        if RolesGuard.canActivate route.requiredRoles user then .ok (.user user)
        else .error .forbidden,
      entered.2)
  else (.ok (AuthContextGuard.canActivate decode req s), s)

end Guards

namespace ProtectedRoutes
open RefreshTokenStrategy (ExtractJwt bearerToken)

section Sites

variable (users : UsersTable) (s : Traffic) (fixed : Fixed users s)

theorem known_unique (t : UsersTable) (i j : Identity) (hi : Known t.rows i) (hj : Known t.rows j)
    (same : i.id = j.id) : i = j := by
  obtain ⟨row, mem, rfl⟩ := hi
  obtain ⟨other, mem', rfl⟩ := hj
  rw [t.eq_of_id row other mem mem' same]

include fixed

/-- The copy or the row that a token leads to tells what the token tells. -/
theorem requested_identity (payload : AccessTokenPayload) (issued : payload ∈ s.site.issued) :
    ∃ user, (getRequestedUserById payload.sub s.site).1 = some user ∧
      Identity.ofRequested user = .ofPayload payload := by
  obtain ⟨-, known⟩ := fixed.issued payload issued
  unfold getRequestedUserById
  cases cached : find Prod.fst payload.sub s.site.requested with
  | some entry =>
    obtain ⟨mem, named⟩ := find_some _ _ _ _ cached
    obtain ⟨own, told⟩ := fixed.requested entry mem
    exact ⟨entry.2, rfl, known_unique _ _ _ told known (own.trans named)⟩
  | none =>
    obtain ⟨row, mem, same⟩ := known
    have found : s.site.users.findById payload.sub = some row :=
      (find_eq_some_iff UserRow.id s.site.users.rows s.site.users.unique.id _ row).mpr
        ⟨mem, congrArg Identity.id same⟩
    rw [found]
    exact ⟨_, rfl, same⟩

/-- A live token is accepted unless it is revoked, and then for the user that it names. -/
theorem validated_iff (payload : AccessTokenPayload) (issued : payload ∈ s.site.issued) :
    (∃ user, (validateAccessToken payload s.site).1 = .ok user) ↔
      payload.jti ∉ s.site.blacklisted := by
  obtain ⟨user, found, -⟩ := requested_identity users s fixed payload issued
  obtain ⟨type, -⟩ := fixed.issued payload issued
  unfold validateAccessToken
  by_cases listed : payload.jti ∈ s.site.blacklisted
  · rw [if_pos (List.contains_iff_mem.mpr listed)]
    exact iff_of_false (fun ⟨_, h⟩ => nomatch h) (fun h => h listed)
  · rw [if_neg (fun h => listed (List.contains_iff_mem.mp h)), type, bne_self_eq_false,
      if_neg Bool.false_ne_true]
    dsimp only
    rw [found]
    exact iff_of_true ⟨_, rfl⟩ listed

theorem validated_identity (payload : AccessTokenPayload) (issued : payload ∈ s.site.issued)
    (user : RequestUser) (accepted : (validateAccessToken payload s.site).1 = .ok user) :
    (Caller.user user).identity = some (.ofPayload payload) := by
  obtain ⟨columns, found, same⟩ := requested_identity users s fixed payload issued
  unfold validateAccessToken at accepted
  split_ifs at accepted
  dsimp only at accepted
  rw [found] at accepted
  obtain rfl := Except.ok.inj accepted
  rw [← same]
  unfold Caller.identity Identity.ofRequested
  dsimp only
  rw [roleMapper.toPersistence_toEntity]

end Sites

section Guards

variable (jwt : ExtractJwt) (decode : String → Option AccessTokenPayload)

theorem verified_iff (s : Site) (token : String) (payload : AccessTokenPayload) :
    verified decode s token = some payload ↔
      decode token = some payload ∧ payload ∈ s.issued := by
  unfold verified
  rw [Option.filter_eq_some_iff, decide_eq_true_iff]

def Bears (route : Route) (req : RefreshTokenStrategy.Request) (s : Site) (i : Identity)
    (payload : AccessTokenPayload) : Prop :=
  payload ∈ s.issued ∧ Identity.ofPayload payload = i ∧
    if route.authenticated then
      (∃ token, bearerToken req = some (.text token) ∧ decode token = some payload) ∧
        payload.jti ∉ s.blacklisted ∧
        (route.requiredRoles = [] ∨ roleMapper.toEntity i.role ∈ route.requiredRoles)
    else
      ∃ token, AuthContextGuard.token req.authorization = some token ∧ decode token = some payload

theorem rolesGuard_iff (requiredRoles : List Role) (user : RequestUser) :
    RolesGuard.canActivate requiredRoles user = true ↔
      requiredRoles = [] ∨ user.role ∈ requiredRoles := by
  simp [RolesGuard.canActivate]

theorem jwtAuthGuard_ok_iff (documented : jwt.Documented) (req : RefreshTokenStrategy.Request)
    (s : Site) (user : RequestUser) : (JwtAuthGuard.canActivate jwt decode req s).1 = .ok user ↔
      ∃ token payload, bearerToken req = some (.text token) ∧ decode token = some payload ∧
        payload ∈ s.issued ∧ (validateAccessToken payload s).1 = .ok user := by
  unfold JwtAuthGuard.canActivate
  rw [documented.bearer]
  constructor
  · intro h
    cases carried : bearerToken req with
    | none => simp [carried] at h
    | some value =>
      cases value with
      | other present => simp [carried] at h
      | text token =>
        cases checked : verified decode s token with
        | none => simp [carried, checked] at h
        | some payload =>
          obtain ⟨decoded, issued⟩ := (verified_iff decode s token payload).mp checked
          rw [carried] at h
          simp only [checked] at h
          refine ⟨token, payload, rfl, decoded, issued, ?_⟩
          cases answer : (validateAccessToken payload s).1 with
          | error e => simp [answer, Except.mapError] at h
          | ok found => simpa [answer, Except.mapError] using h
  · rintro ⟨token, payload, carried, decoded, issued, accepted⟩
    rw [carried]
    simp only [(verified_iff decode s token payload).mpr ⟨decoded, issued⟩, accepted]
    rfl

theorem enter_iff (documented : jwt.Documented) (users : UsersTable) (s : Traffic)
    (fixed : Fixed users s) (route : Route) (req : RefreshTokenStrategy.Request) (i : Identity) :
    (∃ caller, (route.enter jwt decode req s.site).1 = .ok caller ∧ caller.identity = some i) ↔
      ∃ payload, Bears decode route req s.site i payload := by
  unfold Route.enter Bears
  by_cases behind : route.authenticated = true
  · simp only [if_pos behind]
    constructor
    · rintro ⟨caller, entered, same⟩
      obtain ⟨user, accepted, entered⟩ := (bind_ok_iff _ _ _).mp entered
      split_ifs at entered with allowed
      obtain rfl := Except.ok.inj entered
      obtain ⟨token, payload, carried, decoded, issued, valid⟩ :=
        (jwtAuthGuard_ok_iff jwt decode documented req s.site user).mp accepted
      have told := validated_identity users s fixed payload issued user valid
      obtain rfl := Option.some.inj (told.symm.trans same)
      have role : user.role = roleMapper.toEntity (Identity.ofPayload payload).role := by
        rw [← congrArg Identity.role (Option.some.inj told), roleMapper.toEntity_toPersistence]
      refine ⟨payload, issued, rfl, ⟨token, carried, decoded⟩,
        (validated_iff users s fixed payload issued).mp ⟨user, valid⟩, ?_⟩
      rw [← role]
      exact (rolesGuard_iff _ user).mp allowed
    · rintro ⟨payload, issued, rfl, ⟨token, carried, decoded⟩, unlisted, asked⟩
      obtain ⟨user, valid⟩ := (validated_iff users s fixed payload issued).mpr unlisted
      have told := validated_identity users s fixed payload issued user valid
      have role : user.role = roleMapper.toEntity (Identity.ofPayload payload).role := by
        rw [← congrArg Identity.role (Option.some.inj told), roleMapper.toEntity_toPersistence]
      rw [← role] at asked
      refine ⟨.user user, (bind_ok_iff _ _ _).mpr ⟨user, ?_, if_pos ?_⟩, told⟩
      · exact (jwtAuthGuard_ok_iff jwt decode documented req s.site user).mpr
          ⟨token, payload, carried, decoded, issued, valid⟩
      · exact (rolesGuard_iff _ user).mpr asked
  · simp only [if_neg behind, Except.ok.injEq, exists_eq_left']
    unfold AuthContextGuard.canActivate
    constructor
    · intro same
      cases read : (AuthContextGuard.token req.authorization).bind (verified decode s.site) with
      | none =>
        rw [read] at same
        exact absurd same.symm (Option.some_ne_none _)
      | some payload =>
        rw [read] at same
        obtain ⟨token, carried, checked⟩ := Option.bind_eq_some_iff.mp read
        obtain ⟨decoded, issued⟩ := (verified_iff decode s.site token payload).mp checked
        exact ⟨payload, issued, Option.some.inj same, token, carried, decoded⟩
    · rintro ⟨payload, issued, rfl, token, carried, decoded⟩
      have read : (AuthContextGuard.token req.authorization).bind (verified decode s.site) =
          some payload := Option.bind_eq_some_iff.mpr
        ⟨token, carried, (verified_iff decode s.site token payload).mpr ⟨decoded, issued⟩⟩
      rw [read]
      rfl

end Guards

section Runs

variable (jwt : ExtractJwt) (documented : jwt.Documented) (decode : String → Option AccessTokenPayload)
  (hasher : PasswordHasher) (host : Host) (users : UsersTable) (ms : List Move)
  (fresh : Along (Traffic.step hasher host) IdsFresh (.start users) ms)

include documented fresh

/-- At every time, the guards let a request pass just as the row of its user says now. -/
theorem entered_iff :
    Throughout (Traffic.step hasher host) (fun s => ∀ route req i,
      (∃ caller, (Route.enter jwt decode route req s.site).1 = .ok caller ∧
          caller.identity = some i) ↔
        Known s.site.users.rows i ∧ ∃ payload, Bears decode route req s.site i payload)
      (.start users) ms := by
  refine throughout_mono _ (Fixed users) _ (fun s fixed route req i => ?_) _ ms
    (fixed_throughout hasher host users ms fresh)
  rw [enter_iff jwt decode documented users s fixed route req i, iff_and_self]
  rintro ⟨payload, issued, rfl, -⟩
  exact (fixed.issued payload issued).2

omit documented fresh in
theorem requiredRoles_staff (route : Route) (role : Role) (asked : role ∈ route.requiredRoles) :
    route.authenticated = true ∧ role ≠ .customer := by
  cases role with
  | customer => cases route <;> simp [Route.requiredRoles] at asked
  | admin | staff => cases route <;> simp_all [Route.requiredRoles, Route.authenticated]

/-- Whoever passes a route that asks for a role, or passes for staff anywhere, had that role
in the table at the start. -/
theorem privileges_from_start :
    Throughout (Traffic.step hasher host) (fun s => ∀ route req caller i,
      (Route.enter jwt decode route req s.site).1 = .ok caller → caller.identity = some i →
        (route.requiredRoles ≠ [] → roleMapper.toEntity i.role ∈ route.requiredRoles) ∧
          (route.requiredRoles ≠ [] ∨ i.role ≠ .CUSTOMER → Known users.rows i))
      (.start users) ms := by
  refine throughout_mono _ (Fixed users) _ (fun s fixed route req caller i entered same => ?_) _ ms
    (fixed_throughout hasher host users ms fresh)
  obtain ⟨payload, issued, rfl, borne⟩ :=
    (enter_iff jwt decode documented users s fixed route req i).mp ⟨caller, entered, same⟩
  have asked : route.requiredRoles ≠ [] →
      roleMapper.toEntity (Identity.ofPayload payload).role ∈ route.requiredRoles := by
    intro some
    obtain ⟨role, mem⟩ := List.exists_mem_of_ne_nil _ some
    rw [if_pos (requiredRoles_staff route role mem).1] at borne
    exact borne.2.2.resolve_left some
  refine ⟨asked, fun staff => ?_⟩
  refine fixed.added _ (fixed.issued payload issued).2 (staff.elim (fun some customer => ?_) id)
  exact (requiredRoles_staff route _ (asked some)).2 (by rw [customer]; rfl)

end Runs

def sampleDecode (role : Role) (token : String) : Option AccessTokenPayload :=
  if token = "e30" then
    some ⟨UserId.sample.value, "j1", "john.doe@example.com", role, accessTokenType⟩
  else none

theorem customer_reads_profile : ∃ caller,
    (Route.enter ExtractJwt.sample (sampleDecode .customer) .getCurrentUserProfile
      (RefreshTokenStrategy.headerRequest "Bearer e30")
      (after (Traffic.step sampleHasher UserRow.plainHost) (.start sampleUsers) loggedIn).site).1 =
        .ok caller ∧
      caller.identity = some (.ofRow UserRow.sample) := by
  have entered := throughout_end _ _ _ loggedIn (entered_iff ExtractJwt.sample
    ExtractJwt.sample_documented (sampleDecode .customer) sampleHasher UserRow.plainHost sampleUsers
    loggedIn (by decide))
  refine (entered .getCurrentUserProfile (RefreshTokenStrategy.headerRequest "Bearer e30")
    (.ofRow UserRow.sample)).mpr ⟨⟨_, List.mem_singleton.mpr rfl, rfl⟩, ?_⟩
  exact ⟨_, by decide, rfl, ⟨"e30", by decide, rfl⟩, by decide, by decide⟩

def administrator : UserRow := { UserRow.sample with role := .ADMIN }

def administered : UsersTable := ⟨[administrator], by decide⟩

theorem administrator_deletes_products : ∃ caller,
    (Route.enter ExtractJwt.sample (sampleDecode .admin) .deleteProduct
      (RefreshTokenStrategy.headerRequest "Bearer e30")
      (after (Traffic.step sampleHasher UserRow.plainHost) (.start administered) loggedIn).site).1 =
        .ok caller ∧
      Known administered.rows (.ofRow administrator) := by
  have entered : (Route.enter ExtractJwt.sample (sampleDecode .admin) .deleteProduct
      (RefreshTokenStrategy.headerRequest "Bearer e30")
      (after (Traffic.step sampleHasher UserRow.plainHost) (.start administered) loggedIn).site).1 =
        .ok (.user ⟨UserId.sample.value, "john.doe@example.com", .admin, "John Doe"⟩) := by
    rfl
  refine ⟨_, entered, ?_⟩
  exact (throughout_end _ _ _ loggedIn (privileges_from_start ExtractJwt.sample
    ExtractJwt.sample_documented (sampleDecode .admin) sampleHasher UserRow.plainHost administered
    loggedIn (by decide)) .deleteProduct _ _ _ entered rfl).2 (Or.inl (by decide))

end ProtectedRoutes

end KeramikStore
