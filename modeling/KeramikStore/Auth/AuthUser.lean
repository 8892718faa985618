import KeramikStore.Shared.ValueObjects

/-!
# The authentication aggregate

`AuthUser` with its validation, its queries and its commands. Every command is a
function of the clock of its call and of the user; a command that throws returns
the user as it was at the throw, with whatever it had already changed. Roles,
statuses and provider names are enumerations, so the membership tests of their
constructors always pass.
-/

set_option autoImplicit false

namespace KeramikStore
open Library Library.Text

inductive DomainEvent where
  | userRegistered (userId email : String)
  | userCreatedFromOAuth (userId email : String) (provider : AuthProviderName) (fullName : String)
      (createdAt : Date)
  | authUserUpdated (userId email : String) (updatedAt : Date)
  | emailVerified (userId email : String) (verifiedAt : Date)
  | emailUnverified (userId email : String)
  | passwordChanged (userId email : String) (changedAt : Date)
  | passwordReset (userId email : String) (resetAt : Date)
  | userLoggedIn (userId email : String) (loginAt : Date)
  | userLoggedInWithOAuth (userId : String) (provider : AuthProviderName) (email : String)
      (avatarUrl : Option String) (fullName : String)
  | userActivated (userId email : String) (activatedAt : Date)
  | userDeactivated (userId email : String) (deactivatedAt : Date)
  | userSuspended (userId email : String) (suspendedAt : Date)
  | userDeleted (userId email : String) (deletedAt : Date)
  | oauthProviderLinked (userId email : String) (provider : AuthProviderName) (linkedAt : Date)
  | oauthProviderUnlinked (userId email : String) (provider : AuthProviderName) (unlinkedAt : Date)
deriving DecidableEq, Repr

structure AuthUserProps where
  name : Name
  email : Email
  emailVerified : Bool
  emailVerifiedAt : Option Date
  password : Option Password
  role : Role
  status : Status
  providers : List AuthProvider
  lastLoginAt : Option Date
  refreshTokens : List String
  createdAt : Date
  updatedAt : Date
  deletedAt : Option Date
deriving DecidableEq

structure AuthUser extends AuthUserProps where
  id : UserId
  domainEvents : List DomainEvent
deriving DecidableEq

namespace AuthUserProps

def isUsingOAuthProvider (p : AuthUserProps) : Bool := 0 < p.providers.length

def isUsingLocalProvider (p : AuthUserProps) : Bool := p.password.isSome

def validate (o : Origin) (clk : Clock) (p : AuthUserProps) : Except Error Unit :=
  raise [
    (p.isUsingOAuthProvider && (!p.emailVerified || p.emailVerifiedAt.isNone),
      invalidAuthStateError "Email must be verified for OAuth provider"),
    (!p.status.isActive && p.emailVerified,
      invalidAuthStateError "Email cannot be verified if user is not active"),
    (p.emailVerifiedAt.any (o.after · (clk.read 0)),
      invalidAuthStateError "Email verified date cannot be in the future"),
    (p.lastLoginAt.any (o.after · (clk.read 1)),
      invalidAuthStateError "Last login date cannot be in the future"),
    (!p.emailVerified && p.emailVerifiedAt.isSome,
      invalidAuthStateError "Email verified date must be null if email is not verified"),
    (p.emailVerified && p.emailVerifiedAt.isNone,
      invalidAuthStateError "Email verified date must be set if email is verified"),
    (o.after p.createdAt (clk.read 2),
      invalidAuthStateError "Creation date cannot be in the future"),
    (p.updatedAt < p.createdAt,
      invalidAuthStateError "Update date cannot be before creation date"),
    (o.after p.updatedAt (clk.read 3),
      invalidAuthStateError "Update date cannot be in the future"),
    (!p.status.isActive && 0 < p.refreshTokens.length,
      invalidAuthStateError "Inactive users cannot have active refresh tokens"),
    (p.refreshTokens.any fun token => token == "" || trim token == "",
      invalidAuthStateError "Refresh tokens cannot contain empty or invalid tokens"),
    (p.deletedAt.isNone && p.status.isDeleted,
      invalidAuthStateError "Deleted users must have a deletedAt timestamp"),
    (p.deletedAt.isSome && !p.status.isDeleted,
      invalidAuthStateError "Only deleted users can have a deletedAt timestamp"),
    (p.deletedAt.any (o.after · (clk.read 4)),
      invalidAuthStateError "DeletedAt timestamp cannot be in the future")]

end AuthUserProps

namespace AuthUser

def construct (o : Origin) (clk : Clock) (id : UserId) (props : AuthUserProps) :
    Except Error AuthUser :=
  match props.validate o clk with
  | .ok () => .ok { props with id := id, domainEvents := [] }
  | .error e => .error e

def addDomainEvent (e : DomainEvent) (u : AuthUser) : AuthUser :=
  { u with domainEvents := u.domainEvents ++ [e] }

def register (id : UserId) (name : Name) (email : Email) (password : Password)
    (role : Option Role) (clk : Clock) : Except Error AuthUser := do
  let authUser ← construct .database (clk.skip 2) id {
    name, email
    emailVerified := false
    emailVerifiedAt := none
    password := some password
    role := role.getD .customer
    status := .inactive
    providers := []
    lastLoginAt := none
    refreshTokens := []
    createdAt := clk.read 0
    updatedAt := clk.read 1
    deletedAt := none }
  return authUser.addDomainEvent (.userRegistered authUser.id.getValue authUser.email.getValue)

def fromOAuth (id : UserId) (name : Name) (email : Email) (provider : AuthProvider)
    (role : Option Role) (clk : Clock) : Except Error AuthUser := do
  let authUser ← construct .database (clk.skip 3) id {
    name, email
    emailVerified := true
    emailVerifiedAt := some (clk.read 0)
    password := none
    role := role.getD .customer
    status := .active
    providers := [provider]
    lastLoginAt := none
    refreshTokens := []
    createdAt := clk.read 1
    updatedAt := clk.read 2
    deletedAt := none }
  return authUser.addDomainEvent (.userCreatedFromOAuth authUser.id.getValue
    authUser.email.getValue provider.providerName authUser.name.getFullName authUser.createdAt)

def reconstruct (o : Origin) (clk : Clock) (id : String) (props : AuthUserProps) :
    Except Error AuthUser := do
  construct o clk (← UserId.fromString id) props

section Queries

variable (u : AuthUser)

def canAccessProtectedResources : Bool := u.status.isActive && u.emailVerified

def isInactiveForOneWeek (host : HostCalendar) (o : Origin) (now : Date) : Bool :=
  match u.lastLoginAt with
  | none => true
  | some lastLoginAt => o.before lastLoginAt (host.weekBefore now)

def isInactiveForOneMonth (host : HostCalendar) (o : Origin) (now : Date) : Bool :=
  match u.lastLoginAt with
  | none => true
  | some lastLoginAt => o.before lastLoginAt (host.monthBefore now)

def canVerifyEmail : Bool := !u.status.isActive && !u.emailVerified && u.isUsingLocalProvider

def canUnverifyEmail : Bool := u.emailVerified

def canLogin : Bool := u.status.isActive && u.isUsingLocalProvider && u.emailVerified

def canResetPassword : Bool :=
  u.status.isActive && u.isUsingLocalProvider && u.password.isSome && u.emailVerified &&
    u.emailVerifiedAt.isSome

def canChangePassword : Bool := u.canResetPassword

def canForgetPassword : Bool := u.canResetPassword

def hasProvider (providerName : AuthProviderName) : Bool :=
  u.providers.any fun p => p.providerName == providerName

def hasNoRefreshTokens : Bool := u.refreshTokens.length == 0

def canRefreshToken : Bool := u.status.isActive && !u.hasNoRefreshTokens

def hasRefreshToken (token : String) : Bool := u.refreshTokens.contains token

def ensureCanChangePassword : Except Error Unit :=
  raise [(!u.canChangePassword, .auth .cannotChangePassword "User cannot change password. Ensure user is active, using local provider, has a password set, and email is verified.")]

def ensureCanResetPassword : Except Error Unit :=
  raise [(!u.canResetPassword, .auth .cannotResetPassword "User cannot reset password. Ensure user is active, using local provider, has a password set, and email is verified.")]

def ensureCanLogin : Except Error Unit :=
  raise [
    (!u.status.isActive, .auth .cannotLogin "User account is not active. Please contact support."),
    (!u.emailVerified,
      .auth .cannotLogin "Email is not verified. Please verify your email before logging in."),
    (u.isUsingOAuthProvider && !u.isUsingLocalProvider, .auth .cannotLogin
      "User is registered with OAuth provider. Please login using the linked provider.")]

def ensureCanRefreshToken : Except Error Unit :=
  raise [(!u.canRefreshToken, .auth .cannotRefreshToken "User cannot refresh token. Ensure user is active and has at least one active refresh token.")]

end Queries

def applyChange (now : Date) (u : AuthUser) : AuthUser :=
  { u with updatedAt := now }.addDomainEvent
    (.authUserUpdated u.id.getValue u.email.getValue now)

def clearRefreshTokens (now : Date) (u : AuthUser) : AuthUser :=
  { u with refreshTokens := [], updatedAt := now }

def removeRefreshToken (token : String) (now : Date) (u : AuthUser) : AuthUser :=
  { u with refreshTokens := u.refreshTokens.filter (· != token), updatedAt := now }

def pushToken (token : String) (tokens : List String) : List String :=
  let tokens := tokens ++ [token]
  if 5 < tokens.length then tokens.tail else tokens

def addRefreshToken (token : String) (now : Date) (u : AuthUser) : Outcome Error AuthUser :=
  if u.refreshTokens.contains token then .done u
  else if !u.status.isActive then
    .threw (invalidAuthStateError "Cannot add refresh token to inactive user") u
  else .done { u with refreshTokens := pushToken token u.refreshTokens, updatedAt := now }

def verifyEmail (clk : Clock) (u : AuthUser) : Outcome Error AuthUser :=
  if !u.canVerifyEmail then
    .threw (.auth .cannotVerifyEmail "User cannot verify email. Either already verified, not active, or using non-local provider") u
  else
    let verified := { u with emailVerified := true, emailVerifiedAt := some (clk.read 0),
                             status := .active, updatedAt := clk.read 1 }
    .done <| (verified.applyChange (clk.read 2)).addDomainEvent
      (.emailVerified u.id.getValue u.email.getValue (clk.read 0))

def unverifyEmail (clk : Clock) (u : AuthUser) : Outcome Error AuthUser :=
  if !u.canUnverifyEmail then
    .threw (.auth .cannotUnverifyEmail "Email is already unverified") u
  else
    let unverified := { u with emailVerified := false, emailVerifiedAt := none,
                               status := .inactive, updatedAt := clk.read 0 }
    .done <| (unverified.applyChange (clk.read 1)).addDomainEvent
      (.emailUnverified u.id.getValue u.email.getValue)

def changePassword (newPassword : Password) (clk : Clock) (u : AuthUser) :
    Outcome Error AuthUser :=
  match u.ensureCanChangePassword with
  | .error e => .threw e u
  | .ok () =>
    let changed := { u with password := some newPassword, updatedAt := clk.read 0 }
    .done <| ((changed.clearRefreshTokens (clk.read 1)).applyChange (clk.read 2)).addDomainEvent
      (.passwordChanged u.id.getValue u.email.getValue (clk.read 2))

def resetPassword (newPassword : Password) (clk : Clock) (u : AuthUser) :
    Outcome Error AuthUser :=
  match u.ensureCanResetPassword with
  | .error e => .threw e u
  | .ok () =>
    let changed := { u with password := some newPassword }
    .done <| ((changed.clearRefreshTokens (clk.read 0)).applyChange (clk.read 1)).addDomainEvent
      (.passwordReset u.id.getValue u.email.getValue (clk.read 1))

def recordLogin (refreshToken : String) (clk : Clock) (u : AuthUser) : Outcome Error AuthUser :=
  let seen := { u with lastLoginAt := some (clk.read 0) }
  (if refreshToken == "" then .done seen else seen.addRefreshToken refreshToken (clk.read 1)).andThen
    fun v => .done <| (v.applyChange (clk.read 2)).addDomainEvent
      (.userLoggedIn v.id.getValue v.email.getValue (clk.read 0))

def recordOAuthLogin (providerName : AuthProviderName) (refreshToken : String)
    (avatarUrl : Option String) (clk : Clock) (u : AuthUser) : Outcome Error AuthUser :=
  if !u.hasProvider providerName then
    .threw (invalidProviderError
      (some ("User is not linked with " ++ providerName.text ++ " provider"))) u
  else
    (u.addRefreshToken refreshToken (clk.read 0)).andThen fun v =>
      .done <| ({ v with lastLoginAt := some (clk.read 1) }.applyChange (clk.read 2)).addDomainEvent
        (.userLoggedInWithOAuth v.id.getValue providerName v.email.getValue
          (avatarUrl.filter (· != "")) v.name.getFullName)

def recordLogout (refreshToken : Option String) (clk : Clock) (u : AuthUser) :
    Outcome Error AuthUser :=
  let out := match refreshToken with
    | none => u.clearRefreshTokens (clk.read 0)
    | some token =>
      if token.length == 0 then u.clearRefreshTokens (clk.read 0)
      else u.removeRefreshToken token (clk.read 0)
  .done (out.applyChange (clk.read 1))

def recordTokenRefresh (oldRefreshToken newRefreshToken : String) (clk : Clock) (u : AuthUser) :
    Outcome Error AuthUser :=
  ((u.removeRefreshToken oldRefreshToken (clk.read 0)).addRefreshToken newRefreshToken
    (clk.read 1)).andThen fun v => .done (v.applyChange (clk.read 2))

def revokeAllRefreshTokens (clk : Clock) (u : AuthUser) : Outcome Error AuthUser :=
  .done ((u.clearRefreshTokens (clk.read 0)).applyChange (clk.read 1))

/-- `activate`, `deactivate` and `suspend` set a status, drop every session and
announce the change; they differ in the status and in the event. -/
def setStatus (status : Status) (event : String → String → Date → DomainEvent) (clk : Clock)
    (u : AuthUser) : Outcome Error AuthUser :=
  let changed := { u with status := status }
  .done <| ((changed.clearRefreshTokens (clk.read 0)).applyChange (clk.read 1)).addDomainEvent
    (event u.id.getValue u.email.getValue (clk.read 1))

def activate : Clock → AuthUser → Outcome Error AuthUser := setStatus .active .userActivated

def deactivate : Clock → AuthUser → Outcome Error AuthUser := setStatus .inactive .userDeactivated

def suspend : Clock → AuthUser → Outcome Error AuthUser := setStatus .suspended .userSuspended

def softDelete (clk : Clock) (u : AuthUser) : Outcome Error AuthUser :=
  let cleared := { u with status := .deleted }.clearRefreshTokens (clk.read 0)
  let deleted := { cleared with deletedAt := some (clk.read 1) }
  .done <| (deleted.applyChange (clk.read 2)).addDomainEvent
    (.userDeleted u.id.getValue u.email.getValue (clk.read 1))

def linkOAuth (provider : AuthProvider) (clk : Clock) (u : AuthUser) : Outcome Error AuthUser :=
  if u.hasProvider provider.providerName then
    .threw (invalidProviderError
      (some ("User already linked with " ++ provider.providerName.text ++ " provider"))) u
  else
    let linked := { u with providers := u.providers ++ [provider] }
    .done <| (linked.applyChange (clk.read 0)).addDomainEvent
      (.oauthProviderLinked u.id.getValue u.email.getValue provider.providerName (clk.read 0))

def unlinkOAuth (providerName : AuthProviderName) (clk : Clock) (u : AuthUser) :
    Outcome Error AuthUser :=
  if !u.hasProvider providerName then
    .threw (invalidProviderError
      (some ("User is not linked with " ++ providerName.text ++ " provider"))) u
  else
    let unlinked := { u with providers := u.providers.filter (·.providerName != providerName) }
    .done <| (unlinked.applyChange (clk.read 0)).addDomainEvent
      (.oauthProviderUnlinked u.id.getValue u.email.getValue providerName (clk.read 0))

end AuthUser

inductive AuthCommand where
  | verifyEmail
  | unverifyEmail
  | changePassword (newPassword : Password)
  | resetPassword (newPassword : Password)
  | recordLogin (refreshToken : String)
  | recordOAuthLogin (providerName : AuthProviderName) (refreshToken : String)
      (avatarUrl : Option String)
  | recordLogout (refreshToken : Option String)
  | recordTokenRefresh (oldRefreshToken newRefreshToken : String)
  | revokeAllRefreshTokens
  | activate
  | deactivate
  | suspend
  | softDelete
  | linkOAuth (provider : AuthProvider)
  | unlinkOAuth (providerName : AuthProviderName)
deriving DecidableEq, Repr

namespace AuthCommand

def exec : AuthCommand → Clock → AuthUser → Outcome Error AuthUser
  | verifyEmail => AuthUser.verifyEmail
  | unverifyEmail => AuthUser.unverifyEmail
  | changePassword p => AuthUser.changePassword p
  | resetPassword p => AuthUser.resetPassword p
  | recordLogin t => AuthUser.recordLogin t
  | recordOAuthLogin p t a => AuthUser.recordOAuthLogin p t a
  | recordLogout t => AuthUser.recordLogout t
  | recordTokenRefresh old new => AuthUser.recordTokenRefresh old new
  | revokeAllRefreshTokens => AuthUser.revokeAllRefreshTokens
  | activate => AuthUser.activate
  | deactivate => AuthUser.deactivate
  | suspend => AuthUser.suspend
  | softDelete => AuthUser.softDelete
  | linkOAuth p => AuthUser.linkOAuth p
  | unlinkOAuth p => AuthUser.unlinkOAuth p

end AuthCommand

end KeramikStore
