import KeramikStore.Users.ValueObjects

/-!
# The profile aggregate

`User` with its validation and its commands. It owns the profile, the telephone
number and the addresses, and moves the status by rules of its own; of the
authentication it knows the e-mail and the role, which it never changes.
-/

set_option autoImplicit false

namespace KeramikStore
open Library Library.Text

structure ProfileParams where
  name : Option Name
  dateOfBirth : Option (Option DateOfBirth)
  gender : Option (Option Gender)
  avatarUrl : Option (Option Avatar)
deriving DecidableEq

inductive UserEvent where
  | userUpdated (userId email : String) (phoneNumber : Option String) (updatedAt : Date)
  | userProfileUpdated (userId : String) (profile : ProfileParams)
  | phoneNumberUpdated (userId : String) (phoneNumber : Option String) (wasVerified : Bool)
  | phoneNumberVerified (userId phoneNumber : String) (verifiedAt : Date)
  | phoneNumberUnverified (userId : String)
  | addressAdded (userId : String) (addressIndex : ℕ)
  | addressUpdated (userId : String) (addressIndex : JsNumber)
  | addressRemoved (userId : String) (addressIndex : JsNumber)
  | userActivated (userId : String) (activatedAt : Date)
  | userDeactivated (userId : String) (deactivatedAt : Date)
  | userSuspended (userId : String) (suspendedAt : Date)
  | userUnsuspended (userId : String) (unsuspendedAt : Date)
  | userDeleted (userId : String) (deletedAt : Date)
  | userRestored (userId : String) (restoredAt : Date)
deriving DecidableEq

structure UserProps where
  name : Name
  dateOfBirth : Option DateOfBirth
  gender : Option Gender
  avatarUrl : Option Avatar
  phoneNumber : Option PhoneNumber
  phoneVerified : Bool
  phoneVerifiedAt : Option Date
  addresses : List Address
  email : Email
  role : Role
  status : Status
  createdAt : Date
  updatedAt : Date
  deletedAt : Option Date
deriving DecidableEq

structure User extends UserProps where
  id : UserId
  domainEvents : List UserEvent
deriving DecidableEq

namespace User

def validate (p : UserProps) : Except Error Unit :=
  raise [
    (1 < (p.addresses.filter fun addr => addr.props.isDefault).length,
      userStateConflictError "User cannot have more than one default address."),
    (p.phoneVerified && p.phoneNumber.isNone,
      userStateConflictError "Phone number must be provided if phone is verified."),
    (p.phoneVerifiedAt.isSome && !p.phoneVerified,
      userStateConflictError "phoneVerified must be true if phoneVerifiedAt is set."),
    (p.phoneVerifiedAt.isNone && p.phoneVerified,
      userStateConflictError "phoneVerifiedAt must be set if phoneVerified is true."),
    (!p.status.isDeleted && p.deletedAt.isSome,
      userStateConflictError "deletedAt must be null when status is not deleted."),
    (p.status.isDeleted && p.deletedAt.isNone,
      userStateConflictError "deletedAt must be set when status is deleted."),
    (p.updatedAt < p.createdAt, userStateConflictError "updatedAt cannot be before createdAt.")]

def reconstruct (id : String) (props : UserProps) : Except Error User := do
  let id ← UserId.fromString id
  validate props
  return { props with id := id, domainEvents := [] }

def addDomainEvent (e : UserEvent) (u : User) : User :=
  { u with domainEvents := u.domainEvents ++ [e] }

def applyChange (now : Date) (u : User) : User :=
  { u with updatedAt := now }.addDomainEvent
    (.userUpdated u.id.getValue u.email.getValue (u.phoneNumber.map PhoneNumber.getValue) now)

def ensureCanBeModified (u : User) : Except Error Unit :=
  raise [
    (u.status.isDeleted, userInvalidOperationError "Cannot modify a deleted user."),
    (u.status.isSuspended, userInvalidOperationError "Cannot modify a suspended user.")]

def guarded (checks : Except Error Unit) (body : User → User) (u : User) : Outcome Error User :=
  match checks with
  | .error e => .threw e u
  | .ok () => .done (body u)

/-- An optional field of the profile and a new value for it: the field, and
whether it counts as updated. Only two present equal values count as equal. -/
def updateField {α : Type} (equals : α → α → Bool) (old : Option α) :
    Option (Option α) → Option α × Bool
  | none => (old, false)
  | some new =>
    match old, new with
    | some a, some b => if equals a b then (old, false) else (new, true)
    | _, _ => (new, true)

def updateProfile (params : ProfileParams) (clk : Clock) (u : User) : Outcome Error User :=
  guarded u.ensureCanBeModified (fun u =>
    let renamed := params.name.filter fun n => u.name != n
    let dateOfBirth := updateField (fun a b => a.value == b.value) u.dateOfBirth params.dateOfBirth
    let gender := updateField (· == ·) u.gender params.gender
    let avatarUrl := updateField (fun a b => a.url == b.url) u.avatarUrl params.avatarUrl
    let changed := { u with name := renamed.getD u.name, dateOfBirth := dateOfBirth.1,
                            gender := gender.1, avatarUrl := avatarUrl.1 }
    if renamed.isSome || dateOfBirth.2 || gender.2 || avatarUrl.2 then
      (changed.applyChange (clk.read 0)).addDomainEvent (.userProfileUpdated u.id.getValue params)
    else changed) u

/-- The number is compared after it was assigned, that is with itself. -/
def updatePhoneNumber (phoneNumber : Option PhoneNumber) (clk : Clock) (u : User) :
    Outcome Error User :=
  guarded u.ensureCanBeModified (fun u =>
    let assigned := { u with phoneNumber := phoneNumber }
    let reset : Bool := match phoneNumber with
      | none => true
      | some p => assigned.phoneNumber.any fun q => !q.equals p
    let changed :=
      if reset then { assigned with phoneVerified := false, phoneVerifiedAt := none } else assigned
    (changed.applyChange (clk.read 0)).addDomainEvent (.phoneNumberUpdated u.id.getValue
      (phoneNumber.map PhoneNumber.getValue) u.phoneVerified)) u

def clearPhoneNumber : Clock → User → Outcome Error User := updatePhoneNumber none

def verifyPhone (clk : Clock) (u : User) : Outcome Error User :=
  match u.ensureCanBeModified, u.phoneNumber with
  | .error e, _ => .threw e u
  | .ok (), none =>
    .threw (userStateConflictError "Cannot verify phone: phone number is not set.") u
  | .ok (), some phone =>
    if u.phoneVerified then .threw (userStateConflictError "Phone number is already verified.") u
    else
      let verified := { u with phoneVerified := true, phoneVerifiedAt := some (clk.read 0) }
      .done <| (verified.applyChange (clk.read 1)).addDomainEvent
        (.phoneNumberVerified u.id.getValue phone.getValue (clk.read 0))

def unverifyPhone (clk : Clock) (u : User) : Outcome Error User :=
  guarded u.ensureCanBeModified (fun u =>
    ({ u with phoneVerified := false, phoneVerifiedAt := none }.applyChange
      (clk.read 0)).addDomainEvent (.phoneNumberUnverified u.id.getValue)) u

def addAddress (address : Address) (clk : Clock) (u : User) : Outcome Error User :=
  guarded u.ensureCanBeModified (fun u =>
    ({ u with addresses := u.addresses ++ [address] }.applyChange (clk.read 0)).addDomainEvent
      (.addressAdded u.id.getValue u.addresses.length)) u

def ensureAddress (host : Host) (index : JsNumber) (u : User) : Except Error Unit := do
  u.ensureCanBeModified
  raise [(index.lt (.fin 0) || index.ge (.ofNat u.addresses.length), userAddressNotFoundError
    ("Address at index " ++ host.numberText index ++ " not found."))]

/-- An index that is no array position sets a property beside the elements. -/
def updateAddress (host : Host) (index : JsNumber) (address : Address) (clk : Clock) (u : User) :
    Outcome Error User :=
  guarded (u.ensureAddress host index) (fun u =>
    let addresses := match index.position with
      | some i => u.addresses.set i address
      | none => u.addresses
    ({ u with addresses := addresses }.applyChange (clk.read 0)).addDomainEvent
      (.addressUpdated u.id.getValue index)) u

def removeAddress (host : Host) (index : JsNumber) (clk : Clock) (u : User) :
    Outcome Error User :=
  guarded (u.ensureAddress host index) (fun u =>
    let addresses := u.addresses.eraseIdx (index.spliceStart u.addresses.length)
    ({ u with addresses := addresses }.applyChange (clk.read 0)).addDomainEvent
      (.addressRemoved u.id.getValue index)) u

def transition (checks : Except Error Unit) (status : Status) (event : String → Date → UserEvent)
    (clk : Clock) : User → Outcome Error User :=
  guarded checks fun u =>
    ({ u with status := status }.applyChange (clk.read 0)).addDomainEvent
      (event u.id.getValue (clk.read 0))

def activate (clk : Clock) (u : User) : Outcome Error User :=
  transition (raise [
    (u.status.isActive, userCannotTransitionStateError "User is already active."),
    (u.status.isDeleted, userCannotTransitionStateError
      "Cannot activate a deleted user. Use restore() instead."),
    (u.status.isSuspended, userCannotTransitionStateError
      "Cannot activate a suspended user directly. Unsuspend first or use restore().")])
    .active .userActivated clk u

def deactivate (clk : Clock) (u : User) : Outcome Error User :=
  transition (raise [
    (u.status == .inactive, userCannotTransitionStateError "User is already inactive."),
    (u.status.isDeleted, userCannotTransitionStateError "Cannot deactivate a deleted user."),
    (u.status.isSuspended, userCannotTransitionStateError
      "Cannot deactivate a suspended user. Unsuspend first.")])
    .inactive .userDeactivated clk u

def suspend (clk : Clock) (u : User) : Outcome Error User :=
  transition (raise [
    (u.status.isSuspended, userCannotTransitionStateError "User is already suspended."),
    (u.status.isDeleted, userCannotTransitionStateError "Cannot suspend a deleted user.")])
    .suspended .userSuspended clk u

def unsuspend (clk : Clock) (u : User) : Outcome Error User :=
  transition (raise [
    (!u.status.isSuspended, userCannotTransitionStateError
      "Cannot unsuspend a user that is not suspended.")])
    .active .userUnsuspended clk u

def delete (clk : Clock) (u : User) : Outcome Error User :=
  guarded (raise [
    (u.status.isDeleted, userCannotTransitionStateError "User is already deleted.")])
    (fun u =>
      ({ u with status := .deleted, deletedAt := some (clk.read 0) }.applyChange
        (clk.read 1)).addDomainEvent (.userDeleted u.id.getValue (clk.read 0))) u

def restore (clk : Clock) (u : User) : Outcome Error User :=
  guarded (raise [
    (!u.status.isDeleted, userCannotTransitionStateError
      "Cannot restore a user that is not deleted.")])
    (fun u =>
      ({ u with status := .inactive, deletedAt := none }.applyChange (clk.read 0)).addDomainEvent
        (.userRestored u.id.getValue (clk.read 0))) u

end User

inductive UserCommand where
  | updateProfile (params : ProfileParams)
  | updatePhoneNumber (phoneNumber : Option PhoneNumber)
  | clearPhoneNumber
  | verifyPhone
  | unverifyPhone
  | addAddress (address : Address)
  | updateAddress (index : JsNumber) (address : Address)
  | removeAddress (index : JsNumber)
  | activate
  | deactivate
  | suspend
  | unsuspend
  | delete
  | restore
deriving DecidableEq

namespace UserCommand

def exec (host : Host) : UserCommand → Clock → User → Outcome Error User
  | updateProfile p => User.updateProfile p
  | updatePhoneNumber p => User.updatePhoneNumber p
  | clearPhoneNumber => User.clearPhoneNumber
  | verifyPhone => User.verifyPhone
  | unverifyPhone => User.unverifyPhone
  | addAddress a => User.addAddress a
  | updateAddress i a => User.updateAddress host i a
  | removeAddress i => User.removeAddress host i
  | activate => User.activate
  | deactivate => User.deactivate
  | suspend => User.suspend
  | unsuspend => User.unsuspend
  | delete => User.delete
  | restore => User.restore

end UserCommand

end KeramikStore
