import KeramikStore.Library.ExpiringStore
import KeramikStore.Auth.AccessTokens
import KeramikStore.Auth.UnitOfWork

/-!
# The blacklist of access tokens

A logout blacklists its access token in Redis until the token expires, and a
validation consults the blacklist. Both go through the cache service, which logs
what Redis throws and goes on. A blacklisting that Redis records is seen by every
later validation whose look-up Redis answers; a failure on either side leaves the
token as if it had not been blacklisted.
-/

set_option autoImplicit false

namespace KeramikStore.Blacklist
open Library Library.Runs Library.KeyedTable Library.ExpiringStore AccessTokens

structure Json where
  stringify : String → String
  parse : String → Option String
  stringify_ne : ∀ s, stringify s ≠ ""
  parse_stringify : ∀ s, parse (stringify s) = some s

abbrev Redis := List (Entry String String)

namespace CacheService

def getPrefixedKey (key : String) : String := "cache:" ++ key

/-- `answered` says that the Redis operation does not throw. -/
def get (json : Json) (key : String) (answered : Bool) (now : ℕ) (redis : Redis) :
    Option String :=
  if answered then
    match ExpiringStore.get now (getPrefixedKey key) redis with
    | some value => if value = "" then none else json.parse value
    | none => none
  else none

def set (json : Json) (key value : String) (ttl : ℤ) (answered : Bool) (now : ℕ) (redis : Redis) :
    Redis :=
  if answered then
    (setFor now (1000 * ttl.toNat) (getPrefixedKey key) (json.stringify value) redis).getD redis
  else redis

end CacheService

namespace BlacklistedAccessTokenRepository

def cacheKeyPrefix : String := "blacklisted-access-token:"

def get (json : Json) (jti : String) : Bool → ℕ → Redis → Option String :=
  CacheService.get json (cacheKeyPrefix ++ jti)

def save (json : Json) (jti : String) (expirationInSeconds : ℤ) : Bool → ℕ → Redis → Redis :=
  CacheService.set json (cacheKeyPrefix ++ jti) "blacklisted" expirationInSeconds

end BlacklistedAccessTokenRepository

structure AccessToken where
  payload : AccessTokenPayload
  exp : Option ℕ
deriving DecidableEq

structure IssuedTokens where
  tokens : List AccessToken
  unique : UniqueBy (fun token => [token.payload.jti]) tokens

structure Server where
  now : ℕ
  redis : Redis
  db : UnitOfWork.Database

structure LogoutCommand (issued : IssuedTokens) where
  userId : String
  refreshToken : String
  accessToken : AccessToken
  signed : accessToken ∈ issued.tokens

/-- How one logout goes: the time from `Date.now()` to Redis, whether Redis answers,
what the repository finds, and what the database throws. -/
structure LogoutCall where
  delay : ℕ
  answered : Bool
  found : Except Error (Option AuthUser)
  clock : Clock
  faults : UnitOfWork.Faults

def blacklistExpirationInSeconds (token : AccessToken) (now : ℕ) : ℤ :=
  match token.exp with
  | some exp => if exp = 0 then 60 * 15 else exp - (now / 1000 : ℕ)
  | none => 60 * 15

namespace LogoutUseCase

variable {issued : IssuedTokens} (json : Json) (command : LogoutCommand issued) (call : LogoutCall)

def blacklist (s : Server) : Server :=
  { s with now := s.now + call.delay
           redis := BlacklistedAccessTokenRepository.save json command.accessToken.payload.jti
             (blacklistExpirationInSeconds command.accessToken s.now) call.answered
             (s.now + call.delay) s.redis }

def recordLogout (db : UnitOfWork.Database) : Outcome Error UnitOfWork.Database :=
  match call.found with
  | .error e => .threw e db
  | .ok none => .done db
  | .ok (some u) =>
    match UseCases.logout command.refreshToken call.clock u with
    | .error e => .threw e db
    | .ok v => UnitOfWork.AuditedUseCase.logout.run v call.faults db

def execute (s : Server) : Outcome Error Server :=
  let blacklisted := blacklist json command call s
  let recorded := recordLogout command call s.db
  ⟨recorded.thrown, { blacklisted with db := recorded.state }⟩

end LogoutUseCase

def checkAccessToken (isBlacklisted : Option String) (payload : AccessTokenPayload)
    (getRequestedUserById : String → Except Error (Option RequestedUser)) :
    Except Error RequestUser :=
  if isBlacklisted.any (· ≠ "") then
    .error (accessTokenInvalidError "Access token has been revoked.")
  else if payload.type != accessTokenType then
    .error (accessTokenInvalidError "Invalid token type. Access token required.")
  else
    match getRequestedUserById payload.sub with
    | .error e => .error e
    | .ok none =>
      .error (accessTokenInvalidError "Unauthorized access with invalid access token.")
    | .ok (some user) => .ok ⟨user.id, user.email, roleMapper.toEntity user.role, user.fullName⟩

def validateAccessToken (json : Json) (payload : AccessTokenPayload) (answered : Bool)
    (getRequestedUserById : String → Except Error (Option RequestedUser)) (s : Server) :
    Except Error RequestUser :=
  checkAccessToken (BlacklistedAccessTokenRepository.get json payload.jti answered s.now s.redis)
    payload getRequestedUserById

/-- The validation of the site is this one over its blacklist and its look-up. -/
theorem site_validateAccessToken (payload : AccessTokenPayload) (s : Site) :
    (AccessTokens.validateAccessToken payload s).1 =
      checkAccessToken (if s.blacklisted.contains payload.jti then some "blacklisted" else none)
        payload fun userId => .ok (getRequestedUserById userId s).1 := by
  unfold AccessTokens.validateAccessToken checkAccessToken
  by_cases listed : s.blacklisted.contains payload.jti = true
  · rw [if_pos listed, if_pos listed]
    rfl
  · rw [if_neg listed, if_neg listed, Option.any_none, if_neg Bool.false_ne_true]
    by_cases wrong : (payload.type != accessTokenType) = true
    · rw [if_pos wrong, if_pos wrong]
    · rw [if_neg wrong, if_neg wrong]
      dsimp only
      cases (getRequestedUserById payload.sub s).1 <;> rfl

def blacklistKey (jti : String) : String :=
  CacheService.getPrefixedKey (BlacklistedAccessTokenRepository.cacheKeyPrefix ++ jti)

def otherFamilies : List String := [
  "auth:", "email-verification-token:", "password-reset-token:", "user:profile:", "product:"]

theorem getPrefixedKey_inj (a b : String) :
    CacheService.getPrefixedKey a = CacheService.getPrefixedKey b ↔ a = b :=
  String.append_right_inj "cache:"

/-- No other repository writes under a key of the blacklist. -/
theorem otherFamilies_apart (family : String) (h : family ∈ otherFamilies) (rest jti : String) :
    CacheService.getPrefixedKey (family ++ rest) ≠ blacklistKey jti := by
  intro same
  have keys := congrArg String.toList ((getPrefixedKey_inj _ _).mp same)
  rw [String.toList_append, String.toList_append] at keys
  -- the families differ from the prefix in their first character
  have first : ∀ f ∈ otherFamilies, f.toList ≠ [] ∧ f.toList.head? ≠ some 'b' := by decide
  obtain ⟨nonempty, differs⟩ := first family h
  have heads := congrArg List.head? keys
  rw [List.head?_append_of_ne_nil _ nonempty] at heads
  exact differs heads

structure OtherChange where
  change : Change String String
  other : ∀ jti, change.key ≠ blacklistKey jti

inductive Action (issued : IssuedTokens) where
  | logout (command : LogoutCommand issued) (call : LogoutCall)
  | cache (c : OtherChange)
  | database (db : UnitOfWork.Database)
  | tick (ms : ℕ)

def step {issued : IssuedTokens} (json : Json) (s : Server) : Action issued → Server
  | .logout command call => (LogoutUseCase.execute json command call s).state
  | .cache c => { s with redis := c.change.exec s.redis }
  | .database db => { s with db := db }
  | .tick ms => { s with now := s.now + ms }

section Recorded

variable {issued : IssuedTokens} (json : Json)

def Blacklisted (token : AccessToken) (exp : ℕ) (s : Server) : Prop :=
  HeldUntil (1000 * exp) (blacklistKey token.payload.jti) (json.stringify "blacklisted") s.redis

theorem blacklisted_refused (token : AccessToken) (exp : ℕ) (s : Server)
    (h : Blacklisted json token exp s) (live : s.now < 1000 * exp)
    (getRequestedUserById : String → Except Error (Option RequestedUser)) :
    validateAccessToken json token.payload true getRequestedUserById s =
      .error (accessTokenInvalidError "Access token has been revoked.") := by
  have found := get_of_heldUntil _ _ _ _ _ h live
  have read : BlacklistedAccessTokenRepository.get json token.payload.jti true s.now s.redis =
      some "blacklisted" := by
    unfold BlacklistedAccessTokenRepository.get CacheService.get
    rw [if_pos rfl]
    unfold blacklistKey at found
    rw [found]
    dsimp only
    rw [if_neg (json.stringify_ne _), json.parse_stringify]
  unfold validateAccessToken
  rw [read]
  rfl

/-- The lifetime that a logout computes covers the rest of the token's life, rounded up. -/
theorem blacklistExpiration_covers (token : AccessToken) (exp now delay : ℕ)
    (hexp : token.exp = some exp) :
    1000 * exp ≤ now + delay + 1000 * (blacklistExpirationInSeconds token now).toNat := by
  unfold blacklistExpirationInSeconds
  rw [hexp]
  dsimp only
  split_ifs with zero
  · omega
  · omega

theorem blacklistExpiration_pos (token : AccessToken) (exp now : ℕ) (hexp : token.exp = some exp)
    (live : now < 1000 * exp) : 0 < 1000 * (blacklistExpirationInSeconds token now).toNat := by
  have positive : exp ≠ 0 := by omega
  unfold blacklistExpirationInSeconds
  rw [hexp]
  dsimp only
  rw [if_neg positive]
  omega

variable (command : LogoutCommand issued) (call : LogoutCall)

theorem blacklist_records (exp : ℕ) (s : Server) (hexp : command.accessToken.exp = some exp)
    (answered : call.answered = true) (live : s.now < 1000 * exp) :
    Blacklisted json command.accessToken exp (LogoutUseCase.blacklist json command call s) := by
  have held := heldUntil_setFor (1000 * exp) (s.now + call.delay) _
    (blacklistKey command.accessToken.payload.jti) (json.stringify "blacklisted") s.redis
    (blacklistExpiration_pos command.accessToken exp s.now hexp live)
    (blacklistExpiration_covers command.accessToken exp s.now call.delay hexp)
  unfold Blacklisted LogoutUseCase.blacklist BlacklistedAccessTokenRepository.save CacheService.set
  dsimp only
  rw [if_pos answered]
  exact held

theorem blacklistKey_inj (i j : String) (h : blacklistKey i = blacklistKey j) : i = j :=
  (String.append_right_inj _).mp ((getPrefixedKey_inj _ _).mp h)

/-- A token has one expiry, so a second logout with it does not shorten its entry. -/
theorem blacklist_keeps (token : AccessToken) (signed : token ∈ issued.tokens) (exp : ℕ)
    (hexp : token.exp = some exp) (s : Server) (h : Blacklisted json token exp s) :
    Blacklisted json token exp (LogoutUseCase.blacklist json command call s) := by
  unfold Blacklisted LogoutUseCase.blacklist BlacklistedAccessTokenRepository.save CacheService.set
  dsimp only
  split_ifs with answered
  · apply heldUntil_setFor_over (1000 * exp) (s.now + call.delay) _ _ _ _ _ s.redis h
    intro keys
    have same := blacklistKey_inj command.accessToken.payload.jti token.payload.jti keys
    have one : command.accessToken = token :=
      eq_of_uniqueBy _ issued.tokens issued.unique _ _ command.signed signed
        command.accessToken.payload.jti (by simp) (by simp [same])
    rw [one]
    exact ⟨rfl, blacklistExpiration_covers token exp s.now call.delay hexp⟩
  · exact h

theorem step_keeps (token : AccessToken) (signed : token ∈ issued.tokens) (exp : ℕ)
    (hexp : token.exp = some exp) (s : Server) (a : Action issued)
    (h : Blacklisted json token exp s) : Blacklisted json token exp (step json s a) := by
  cases a with
  | logout command call => exact blacklist_keeps json command call token signed exp hexp s h
  | cache c => exact heldUntil_exec_other _ c.change _ _ s.redis h (c.other token.payload.jti)
  | database db => exact h
  | tick ms => exact h

theorem step_now (s : Server) (a : Action issued) : s.now ≤ (step json s a).now := by
  cases a with
  | logout command call => exact Nat.le_add_right s.now call.delay
  | cache c => exact le_refl s.now
  | database db => exact le_refl s.now
  | tick ms => exact Nat.le_add_right s.now ms

/-- Whatever the Redis operations do: a blacklisting that Redis records makes every
later validation that Redis answers refuse the token, until it expires; one that
Redis does not record changes nothing about how the logout ends; and a validation
that Redis does not answer goes on as with an empty blacklist. -/
theorem logout_blacklists (exp : ℕ) (hexp : command.accessToken.exp = some exp) (s : Server)
    (as : List (Action issued))
    (getRequestedUserById : String → Except Error (Option RequestedUser)) :
    (call.answered = true →
      Throughout (step json)
        (fun t => t.now < 1000 * exp →
          validateAccessToken json command.accessToken.payload true getRequestedUserById t =
            .error (accessTokenInvalidError "Access token has been revoked."))
        (LogoutUseCase.execute json command call s).state as) ∧
      (LogoutUseCase.execute json command { call with answered := false } s).thrown =
        (LogoutUseCase.execute json command { call with answered := true } s).thrown ∧
      (LogoutUseCase.execute json command { call with answered := false } s).state.redis = s.redis ∧
      ∀ payload t, validateAccessToken json payload false getRequestedUserById t =
        validateAccessToken json payload true getRequestedUserById { t with redis := [] } := by
  refine ⟨fun answered => ?_, rfl, rfl, fun payload t => rfl⟩
  by_cases live : s.now < 1000 * exp
  · have recorded : Blacklisted json command.accessToken exp
        (LogoutUseCase.execute json command call s).state :=
      blacklist_records json command call exp s hexp answered live
    have kept := throughout_of_keep (step json) (Blacklisted json command.accessToken exp)
      (fun t a => step_keeps json command.accessToken command.signed exp hexp t a) _ as recorded
    exact throughout_mono _ _ _
      (fun t h ht => blacklisted_refused json command.accessToken exp t h ht _) _ as kept
  · have late : s.now + call.delay ≥ 1000 * exp := by omega
    have expired := throughout_of_keep (step json) (fun t => 1000 * exp ≤ t.now)
      (fun t a h => le_trans h (step_now json t a)) _ as
      (show 1000 * exp ≤ (LogoutUseCase.execute json command call s).state.now from late)
    exact throughout_mono _ _ _ (fun t h ht => absurd ht (Nat.not_lt.mpr h)) _ as expired

end Recorded

def plainJson : Json where
  stringify s := String.ofList ('"' :: s.toList ++ ['"'])
  parse text := if text.toList.head? = some '"' then some (String.ofList text.toList.tail.dropLast)
    else none
  stringify_ne s h := by simpa using congrArg String.toList h
  parse_stringify s := by simp

def sampleToken : AccessToken := ⟨⟨UserId.sample.value, "j1", "john.doe@example.com", .customer,
  accessTokenType⟩, some 900⟩

def sampleIssued : IssuedTokens := ⟨[sampleToken], by decide⟩

def sampleServer : Server := ⟨10, [], ⟨sampleUsers, []⟩⟩

def sampleLogout : LogoutCommand sampleIssued :=
  ⟨UserId.sample.value, "t1", sampleToken, List.mem_singleton.mpr rfl⟩

def sampleCall (answered : Bool) : LogoutCall :=
  ⟨2, answered, load ⟨.database, .still 10, .still 11⟩ (sampleUsers.findById UserId.sample.value),
    .still 11, ⟨none, none, []⟩⟩

def sampleLookup (userId : String) : Except Error (Option RequestedUser) :=
  .ok (getRequestedUserById userId (start sampleUsers)).1

theorem recorded_logout_is_refused :
    Throughout (step plainJson)
      (fun t => t.now < 1000 * 900 →
        validateAccessToken plainJson sampleToken.payload true sampleLookup t =
          .error (accessTokenInvalidError "Access token has been revoked."))
      (LogoutUseCase.execute plainJson sampleLogout (sampleCall true) sampleServer).state
      [.tick 1000, .logout sampleLogout (sampleCall false), .tick 890000] :=
  (logout_blacklists plainJson sampleLogout (sampleCall true) 900 rfl sampleServer _
    sampleLookup).1 rfl

def sampleLoggedOut (answered : Bool) : Outcome Error Server :=
  LogoutUseCase.execute plainJson sampleLogout (sampleCall answered) sampleServer

/-- A logout whose blacklisting Redis does not record returns, and the token is
accepted after it; so is a blacklisted token when Redis does not answer. -/
theorem unrecorded_logout_is_accepted :
    (sampleLoggedOut false).Returns ∧ (sampleLoggedOut false).state.now < 1000 * 900 ∧
      (validateAccessToken plainJson sampleToken.payload true sampleLookup
        (sampleLoggedOut false).state).toOption =
          some ⟨UserId.sample.value, "john.doe@example.com", .customer, "John Doe"⟩ ∧
      (sampleLoggedOut true).Returns ∧ (sampleLoggedOut true).state.now < 1000 * 900 ∧
      (validateAccessToken plainJson sampleToken.payload false sampleLookup
        (sampleLoggedOut true).state).toOption =
          some ⟨UserId.sample.value, "john.doe@example.com", .customer, "John Doe"⟩ :=
  ⟨by decide, by decide, by decide, by decide, by decide, by decide⟩

end KeramikStore.Blacklist
