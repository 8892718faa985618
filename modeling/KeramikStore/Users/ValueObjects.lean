import KeramikStore.Library.JsNumber
import KeramikStore.Shared.ValueObjects

/-!
# Value objects of the profile

Telephone numbers, addresses, pictures and dates of birth. What the host
provides is supplied: its address parser, its calendar and its printing of
numbers.
-/

set_option autoImplicit false

namespace KeramikStore
open Library Library.Text

structure Host where
  /-- `new URL(text)` returns. -/
  parsesUrl : String → Bool
  /-- The same calendar day of the local time zone, 120 years earlier. -/
  oldestValidDate : Date → Date
  numberText : JsNumber → String

def userStateConflictError (message : String) : Error := .user .stateConflict message
def userInvalidOperationError (message : String) : Error := .user .invalidOperation message
def userCannotTransitionStateError (message : String) : Error :=
  .user .cannotTransitionState message
def userAddressNotFoundError (message : String) : Error := .user .addressNotFound message
def invalidPhoneNumberError (message : String) : Error := .user .invalidPhoneNumber message
def invalidAddressError (message : String) : Error := .user .invalidAddress message
def invalidDateOfBirthError (message : String) : Error := .user .invalidDateOfBirth message

inductive Gender where
  | male | female
deriving DecidableEq, Repr

inductive AddressLabel where
  | home | office | other
deriving DecidableEq, Repr

namespace PhoneNumber

def cleaned (value : String) : List Char :=
  value.toList.filter fun c => !(isSpace c || c == '-' || c == '(' || c == ')')

def regex : Regex :=
  .concat [.optional (.literal '+'), .atLeast 1 (.cls (between '0' '9'))]

def afterCountryCode (cs : List Char) : List Char :=
  match cs with
  | '+' :: '6' :: '2' :: rest => rest
  | '6' :: '2' :: rest => rest
  | cs => cs

def isIndonesian (cs : List Char) : Bool :=
  ['+', '6', '2'].isPrefixOf cs || ['6', '2'].isPrefixOf cs

def validate (value : String) : Except Error Unit :=
  let cs := cleaned value
  let digitsOnly := cs.erase '+'
  let number := afterCountryCode cs
  let mobile := ['8'].isPrefixOf number
  raise [
    (!regex.test (String.ofList cs),
      invalidPhoneNumberError "Phone number must contain only digits and optional + prefix."),
    (digitsOnly.length < 8,
      invalidPhoneNumberError "Phone number must contain at least 8 digits."),
    (15 < digitsOnly.length, invalidPhoneNumberError "Phone number cannot exceed 15 digits."),
    (isIndonesian cs && mobile && (number.length < 9 || 12 < number.length),
      invalidPhoneNumberError
        "Indonesian mobile number must have 9-12 digits after country code."),
    (isIndonesian cs && !mobile && (number.length < 8 || 11 < number.length),
      invalidPhoneNumberError
        "Indonesian landline number must have 8-11 digits after country code.")]

end PhoneNumber

structure PhoneNumber where
  value : String
  accepted : PhoneNumber.validate value = .ok ()
deriving DecidableEq

namespace PhoneNumber

def create (value : String) : Except Error PhoneNumber :=
  match h : validate value with
  | .ok () => .ok ⟨value, h⟩
  | .error e => .error e

def getValue (p : PhoneNumber) : String := p.value

def getE164Format (p : PhoneNumber) : List Char :=
  match cleaned p.value with
  | '+' :: rest => '+' :: rest
  | '0' :: rest => ['+', '6', '2'] ++ rest
  | cs => '+' :: cs

def equals (p q : PhoneNumber) : Bool := p.getE164Format == q.getE164Format

end PhoneNumber

structure AddressProps where
  label : AddressLabel
  recipient : String
  phone : PhoneNumber
  street : String
  city : String
  province : String
  postalCode : String
  country : String
  latitude : Option JsNumber
  longitude : Option JsNumber
  isDefault : Bool
deriving DecidableEq

namespace Address

def textChecks (value name : String) (limit : ℕ) : List (Bool × Error) := [
  (value == "" || units (trim value) == 0, invalidAddressError (name ++ " cannot be empty.")),
  (limit < units value, invalidAddressError
    (name ++ " cannot exceed " ++ toString limit ++ " characters."))]

def isIndonesia (country : String) : Bool := country.toLower == "indonesia"

def outside (bound : ℚ) (c : Option JsNumber) : Bool :=
  c.any fun n => n.lt (.fin (-bound)) || JsNumber.lt (.fin bound) n

def validate (p : AddressProps) : Except Error Unit :=
  raise (textChecks p.recipient "Recipient name" 255 ++
    textChecks p.street "Street address" 500 ++
    textChecks p.city "City" 255 ++
    textChecks p.province "Province" 255 ++
    textChecks p.postalCode "Postal code" 20 ++
    [(isIndonesia p.country &&
        !(Regex.times 5 (.cls (between '0' '9'))).test p.postalCode,
      invalidAddressError "Indonesian postal code must be exactly 5 digits.")] ++
    textChecks p.country "Country" 100 ++
    [(outside 90 p.latitude, invalidAddressError "Latitude must be between -90 and 90 degrees."),
      (outside 180 p.longitude,
        invalidAddressError "Longitude must be between -180 and 180 degrees."),
      (p.latitude.isSome != p.longitude.isSome,
        invalidAddressError "Both latitude and longitude must be provided together.")])

end Address

structure Address where
  props : AddressProps
  accepted : Address.validate props = .ok ()
deriving DecidableEq

namespace Address

def create (p : AddressProps) : Except Error Address :=
  let props := { p with country := if p.country == "" then "Indonesia" else p.country }
  match h : validate props with
  | .ok () => .ok ⟨props, h⟩
  | .error e => .error e

end Address

/-- The checks of the picture throw inside the `try` whose handler swallows them,
so only the parser can refuse a text. -/
structure Avatar where
  url : String
deriving DecidableEq, Repr

def Avatar.create (host : Host) (url : String) : Except Error Avatar :=
  if host.parsesUrl url then .ok ⟨url⟩ else .error (.failure "Invalid URL")

structure DateOfBirth where
  value : Date
deriving DecidableEq, Repr

/-- An age is an absolute value, so the lower bound on it is never violated. -/
def DateOfBirth.create (host : Host) (clk : Clock) (date : Date) : Except Error DateOfBirth := do
  raise [
    (clk.read 0 < date, invalidDateOfBirthError "Date of birth cannot be in the future."),
    (date < host.oldestValidDate (clk.read 2), invalidDateOfBirthError
      "Date of birth indicates age greater than 120 years.")]
  return ⟨date⟩

/-! A value object gives itself again when it is made of its own value. -/

theorem PhoneNumber.create_getValue (p : PhoneNumber) : PhoneNumber.create p.getValue = .ok p := by
  unfold PhoneNumber.create
  split
  · rfl
  · next e h => exact nomatch h.symm.trans p.accepted

theorem PhoneNumber.getValue_ne_empty (p : PhoneNumber) : p.getValue ≠ "" := by
  intro empty
  have accepted := p.accepted
  rw [show p.value = "" from empty] at accepted
  revert accepted
  decide

theorem Address.country_ne_empty (a : Address) : a.props.country ≠ "" := by
  intro empty
  have accepted := (raise_ok_iff _).mp a.accepted
  have := accepted _ (List.mem_append_left _ (List.mem_append_right _ (List.mem_cons_self)))
  simp [empty] at this

theorem Address.create_props (a : Address) : Address.create a.props = .ok a := by
  obtain ⟨props, accepted⟩ := a
  have country := Address.country_ne_empty ⟨props, accepted⟩
  have kept : { props with country := if props.country == "" then "Indonesia" else props.country }
      = props := by
    rw [if_neg (by simpa using country)]
  unfold Address.create
  dsimp only
  split
  · next h => simp only [kept]
  · next e h =>
    rw [kept, accepted] at h
    exact nomatch h

end KeramikStore
