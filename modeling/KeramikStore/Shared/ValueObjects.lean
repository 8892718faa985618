import Mathlib.Data.Int.Order.Basic
import KeramikStore.Library.Outcome
import KeramikStore.Library.Text

/-!
# Clock, exceptions and value objects

The value objects that the two user aggregates share. A value object is built
only through its `create` function, so each structure carries the proof that its
text passed the checks. The clock of one call is supplied: the `i`-th textual
`new Date()` of a function reads `clk.read i`.
-/

set_option autoImplicit false

namespace KeramikStore
open Library Library.Text

abbrev Date := ℤ

/-- The readings of the clock during one call, between its start and its end. -/
structure Clock where
  read : ℕ → Date
  start : Date
  stop : Date
  ordered : ∀ i j, i ≤ j → read i ≤ read j
  starts : ∀ i, start ≤ read i
  stops : ∀ i, read i ≤ stop

namespace Clock

def still (t : Date) : Clock where
  read _ := t
  start := t
  stop := t
  ordered _ _ _ := le_rfl
  starts _ := le_rfl
  stops _ := le_rfl

def skip (n : ℕ) (clk : Clock) : Clock where
  read i := clk.read (n + i)
  start := clk.read n
  stop := clk.stop
  ordered _ _ h := clk.ordered _ _ (Nat.add_le_add_left h n)
  starts i := clk.ordered _ _ (Nat.le_add_right n i)
  stops i := clk.stops (n + i)

theorem start_le_stop (clk : Clock) : clk.start ≤ clk.stop :=
  (clk.starts 0).trans (clk.stops 0)

end Clock

/-- A row read from the database carries dates. A row read back from the cache
went through JSON and carries their texts, which are ordered as the dates are in the
years of four digits. -/
inductive Origin where
  | database
  | cache
deriving DecidableEq, Repr

/-- The comparison `date > new Date()`. A text compared with a date is compared
as a number, which it is not, so the answer is no. -/
def Origin.after : Origin → Date → Date → Bool
  | .database, d, now => now < d
  | .cache, _, _ => false

def Origin.before : Origin → Date → Date → Bool
  | .database, d, other => d < other
  | .cache, _, _ => false

/-- The calendar of the host in its time zone: an instant with
`setDate(getDate() - 7)`, and with `setMonth(getMonth() - 1)`. -/
structure HostCalendar where
  weekBefore : Date → Date
  monthBefore : Date → Date

inductive AuthErrorCode where
  | invalidCredentials | passwordTooWeak | invalidProvider | invalidAuthState | emailAlreadyInUse
  | authUserNotFound | emailNotVerified | cannotVerifyEmail | cannotUnverifyEmail
  | cannotResetPassword | cannotChangePassword | cannotForgotPassword | cannotLogin
  | cannotAccessProtectedResource | cannotRefreshToken | accessTokenInvalid
  | invalidVerificationToken | invalidResetPasswordToken
deriving DecidableEq, Repr

inductive UserErrorCode where
  | notFound | invalidId | invalidEmail | invalidRole | invalidStatus | invalidName
  | invalidPhoneNumber | invalidAddress | invalidGender | invalidAvatar | invalidDateOfBirth
  | stateConflict | invalidOperation | cannotTransitionState | addressNotFound
deriving DecidableEq, Repr

inductive Error where
  | auth (code : AuthErrorCode) (message : String)
  | user (code : UserErrorCode) (message : String)
  /-- An exception of a built-in, of the database client or of another service. -/
  | failure (message : String)
deriving DecidableEq, Repr

def invalidAuthStateError (message : String) : Error := .auth .invalidAuthState message

def invalidProviderError (message : Option String) : Error :=
  .auth .invalidProvider ("Invalid authentication provider. " ++ message.getD "")

def invalidCredentialsError : Error :=
  .auth .invalidCredentials "The provided credentials are invalid."

def invalidNameError (message : String) : Error := .user .invalidName message
def invalidEmailError (email : String) : Error := .user .invalidEmail ("Invalid Email: " ++ email)
def invalidUserIdError (id : String) : Error := .user .invalidId ("Invalid User ID: " ++ id)

inductive Role where
  | admin | staff | customer
deriving DecidableEq, Repr

inductive Status where
  | active | inactive | suspended | deleted
deriving DecidableEq, Repr

namespace Status

def isActive (s : Status) : Bool := s == active
def isDeleted (s : Status) : Bool := s == deleted
def isSuspended (s : Status) : Bool := s == suspended

@[simp] theorem isActive_iff (s : Status) : s.isActive = true ↔ s = active := beq_iff_eq
@[simp] theorem isDeleted_iff (s : Status) : s.isDeleted = true ↔ s = deleted := beq_iff_eq
@[simp] theorem isSuspended_iff (s : Status) : s.isSuspended = true ↔ s = suspended := beq_iff_eq

@[simp] theorem isActive_eq_false_iff (s : Status) : s.isActive = false ↔ s ≠ active :=
  beq_eq_false_iff_ne

@[simp] theorem isDeleted_eq_false_iff (s : Status) : s.isDeleted = false ↔ s ≠ deleted :=
  beq_eq_false_iff_ne

end Status

namespace Name

def isNameChar (c : Char) : Bool :=
  between 'a' 'z' c || between 'A' 'Z' c || between 'à' 'ž' c || between 'À' 'Ž' c ||
    c == Char.ofNat 0x27 || c == '´' || c == Char.ofNat 0x60 || c == '-'

def regex : Regex :=
  .concat [.atLeast 3 (.cls isNameChar),
    .star (.seq (.literal ' ') (.atLeast 1 (.cls isNameChar)))]

def validate (fullName : String) : Except Error Unit :=
  raise [
    (units (trim fullName) == 0, invalidNameError "Full name cannot be empty"),
    (units (trim fullName) < 3, invalidNameError "Full name must be at least 3 characters long"),
    (100 < units (trim fullName), invalidNameError "Full name cannot exceed 100 characters"),
    (!regex.test fullName, invalidNameError "Full name contains invalid characters or format")]

def sanitaize (fullName : String) : String :=
  let kept := (trimList fullName.toList).filter fun c => isNameChar c || isSpace c
  String.ofList <|
    collapse isSpace ' ' <| joinHyphens <| collapse (· == ' ') ' ' <| collapse (· == '-') '-' kept

end Name

/-- The name that `create` keeps is the cleaned text, which need not pass the
checks that the raw text passed. -/
structure Name where
  fullName : String
  created : ∃ raw, Name.validate raw = .ok () ∧ fullName = Name.sanitaize raw

namespace Name

@[ext] theorem ext (a b : Name) (h : a.fullName = b.fullName) : a = b := by
  cases a
  cases b
  congr

instance : DecidableEq Name := fun a b =>
  decidable_of_iff (a.fullName = b.fullName) ⟨ext a b, congrArg _⟩

def create (raw : String) : Except Error Name :=
  match h : validate raw with
  | .ok () => .ok ⟨sanitaize raw, raw, h, rfl⟩
  | .error e => .error e

def getFullName (n : Name) : String := n.fullName

def Stable (n : Name) : Prop :=
  validate n.fullName = .ok () ∧ sanitaize n.fullName = n.fullName

instance (n : Name) : Decidable n.Stable :=
  inferInstanceAs (Decidable (validate n.fullName = .ok () ∧ sanitaize n.fullName = n.fullName))

theorem create_ok_iff (raw : String) (n : Name) :
    create raw = .ok n ↔ validate raw = .ok () ∧ n.fullName = sanitaize raw := by
  unfold create
  split
  · next h =>
    rw [Except.ok.injEq, Name.ext_iff]
    exact ⟨fun e => ⟨h, e.symm⟩, fun e => e.2.symm⟩
  · next e h => simp [h]

theorem create_getFullName_iff (n : Name) : create n.getFullName = .ok n ↔ n.Stable := by
  rw [create_ok_iff, Stable, getFullName]
  exact and_congr_right fun _ => eq_comm

end Name

namespace Email

def regex : Regex :=
  let part := Regex.atLeast 1 (.cls fun c => !isSpace c && c != '@')
  .concat [part, .literal '@', part, .literal '.', part]

end Email

structure Email where
  value : String
  accepted : Email.regex.test value = true
deriving DecidableEq

namespace Email

def create (email : String) : Except Error Email :=
  if h : regex.test email = true then .ok ⟨email, h⟩ else .error (invalidEmailError email)

def getValue (e : Email) : String := e.value

theorem create_ok_iff (raw : String) (e : Email) : create raw = .ok e ↔ e.value = raw := by
  unfold create
  split
  · rw [Except.ok.injEq, Email.mk.injEq, eq_comm]
  · next h => exact ⟨nofun, fun he => absurd (he ▸ e.accepted) h⟩

@[simp] theorem create_getValue (e : Email) : create e.getValue = .ok e :=
  (create_ok_iff _ e).mpr rfl

theorem getValue_ne_empty (e : Email) : e.getValue ≠ "" := by
  intro h
  have accepted : regex.test "" = true := h ▸ e.accepted
  exact absurd accepted (by decide)

end Email

namespace UserId

def hex (n : ℕ) : Regex :=
  .times n (.cls fun c => between '0' '9' c || between 'a' 'f' c || between 'A' 'F' c)

def regex : Regex :=
  .concat [hex 8, .literal '-', hex 4, .literal '-', .cls (between '1' '8'), hex 3, .literal '-',
    .cls (fun c => c == '8' || c == '9' || c == 'a' || c == 'b' || c == 'A' || c == 'B'), hex 3,
    .literal '-', hex 12]

end UserId

structure UserId where
  value : String
  accepted : UserId.regex.test value = true
deriving DecidableEq

namespace UserId

def fromString (id : String) : Except Error UserId :=
  if h : regex.test id = true then .ok ⟨id, h⟩ else .error (invalidUserIdError id)

def getValue (i : UserId) : String := i.value

theorem fromString_ok_iff (raw : String) (i : UserId) :
    fromString raw = .ok i ↔ i.value = raw := by
  unfold fromString
  split
  · rw [Except.ok.injEq, UserId.mk.injEq, eq_comm]
  · next h => exact ⟨nofun, fun hi => absurd (hi ▸ i.accepted) h⟩

@[simp] theorem fromString_getValue (i : UserId) : fromString i.getValue = .ok i :=
  (fromString_ok_iff _ i).mpr rfl

end UserId

structure Password where
  value : String
deriving DecidableEq, Repr

def passwordTooWeakError (message : String) : Error := .auth .passwordTooWeak message

def Password.specialChars : List Char :=
  "!@#$%^&*(),.?\":|<>".toList ++ [Char.ofNat 0x7B, Char.ofNat 0x7D]

def Password.validateRaw (raw : String) : Except Error Unit :=
  raise [
    (units raw < 8, passwordTooWeakError "The password is too short."),
    (64 < units raw, passwordTooWeakError "The password is too long."),
    (!raw.toList.any (between 'a' 'z'),
      passwordTooWeakError "The password must contain at least one lowercase letter."),
    (!raw.toList.any (between 'A' 'Z'),
      passwordTooWeakError "The password must contain at least one uppercase letter."),
    (!raw.toList.any (between '0' '9'),
      passwordTooWeakError "The password must contain at least one number."),
    (!raw.toList.any Password.specialChars.contains,
      passwordTooWeakError "The password must contain at least one special character.")]

def Password.fromHash (hashed : String) : Password := ⟨hashed⟩
def Password.getValue (p : Password) : String := p.value

inductive AuthProviderName where
  | google | facebook
deriving DecidableEq, Repr

def AuthProviderName.text : AuthProviderName → String
  | google => "google"
  | facebook => "facebook"

structure AuthProvider where
  providerName : AuthProviderName
  providerId : String
  linkedAt : Date
deriving DecidableEq, Repr

def AuthProvider.createGoogleProvider (providerId : String) (clk : Clock) : AuthProvider :=
  ⟨.google, providerId, clk.read 0⟩

structure EnumMapper (T U : Type) where
  toPersistence : T → U
  toEntity : U → T
  toEntity_toPersistence : ∀ t, toEntity (toPersistence t) = t
  toPersistence_toEntity : ∀ u, toPersistence (toEntity u) = u

attribute [simp] EnumMapper.toEntity_toPersistence EnumMapper.toPersistence_toEntity

/-! Sample values for concrete runs. -/

def Name.sample : Name := ⟨"John Doe", "John Doe", by decide, by decide⟩
def Email.sample : Email := ⟨"john.doe@example.com", by decide⟩
def UserId.sample : UserId := ⟨"6f1f2c3e-0a4b-4c5d-8e6f-102030405060", by decide⟩

end KeramikStore
