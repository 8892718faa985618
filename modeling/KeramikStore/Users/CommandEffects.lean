import KeramikStore.Users.User

/-!
# What the commands of a profile do to the properties

One equation for each command gives the properties that it leaves, the throwing
branches included. The number of a telephone is compared with itself, so a new one
keeps the verification of the old one.
-/

set_option autoImplicit false

namespace KeramikStore
open Library Library.Text

theorem PhoneNumber.equals_iff (p q : PhoneNumber) :
    p.equals q = true ↔ p.getE164Format = q.getE164Format := beq_iff_eq

theorem PhoneNumber.equals_refl (p : PhoneNumber) : p.equals p = true := beq_self_eq_true _

namespace User

structure Valid (p : UserProps) : Prop where
  oneDefault : (p.addresses.filter fun addr => addr.props.isDefault).length ≤ 1
  numbered : p.phoneVerified = true → p.phoneNumber.isSome = true
  verifiedAt : p.phoneVerifiedAt.isSome = p.phoneVerified
  deletedAt : p.deletedAt.isSome = p.status.isDeleted
  ordered : p.createdAt ≤ p.updatedAt

theorem validate_ok_iff (p : UserProps) : validate p = .ok () ↔ Valid p := by
  have shape : Valid p ↔ (p.addresses.filter fun addr => addr.props.isDefault).length ≤ 1 ∧
      (p.phoneVerified = true → p.phoneNumber.isSome = true) ∧
      p.phoneVerifiedAt.isSome = p.phoneVerified ∧ p.deletedAt.isSome = p.status.isDeleted ∧
      p.createdAt ≤ p.updatedAt :=
    ⟨fun h => ⟨h.1, h.2, h.3, h.4, h.5⟩, fun ⟨h1, h2, h3, h4, h5⟩ => ⟨h1, h2, h3, h4, h5⟩⟩
  rw [shape, validate, raise_ok_iff]
  simp only [List.forall_mem_cons, List.not_mem_nil, false_imp_iff, implies_true, and_true,
    decide_eq_false_iff_not, not_lt]
  cases p.phoneVerified <;> cases p.phoneVerifiedAt <;> cases p.phoneNumber <;>
    cases p.status.isDeleted <;> cases p.deletedAt <;> simp

def Modifiable (u : User) : Prop := u.status ≠ .deleted ∧ u.status ≠ .suspended

instance (u : User) : Decidable u.Modifiable :=
  inferInstanceAs (Decidable (u.status ≠ .deleted ∧ u.status ≠ .suspended))

def InRange (index : JsNumber) (u : User) : Prop :=
  (index.lt (.fin 0) || index.ge (.ofNat u.addresses.length)) = false

instance (index : JsNumber) (u : User) : Decidable (u.InRange index) :=
  inferInstanceAs (Decidable (_ = false))

theorem ensureCanBeModified_ok_iff (u : User) : u.ensureCanBeModified = .ok () ↔ u.Modifiable := by
  unfold ensureCanBeModified Modifiable
  simp [raise_ok_iff, Status.isDeleted, Status.isSuspended]

theorem ensureAddress_ok_iff (host : Host) (index : JsNumber) (u : User) :
    u.ensureAddress host index = .ok () ↔ u.Modifiable ∧ u.InRange index := by
  unfold ensureAddress InRange
  rw [← ensureCanBeModified_ok_iff]
  cases u.ensureCanBeModified with
  | error e => exact ⟨nofun, fun h => nomatch h.1⟩
  | ok _ => exact (raise_ok_iff _).trans (by simp)

def withPhone (phone : Option PhoneNumber) (u : User) : UserProps :=
  { u.toUserProps with
    phoneNumber := phone
    phoneVerified := phone.isSome && u.phoneVerified
    phoneVerifiedAt := if phone.isSome then u.phoneVerifiedAt else none }

end User

namespace UserCommand

def effect (clk : Clock) (u : User) : UserCommand → UserProps
  | updateProfile params =>
    if u.Modifiable then
      { u.toUserProps with
        name := params.name.getD u.name
        dateOfBirth := params.dateOfBirth.getD u.dateOfBirth
        gender := params.gender.getD u.gender
        avatarUrl := params.avatarUrl.getD u.avatarUrl }
    else u.toUserProps
  | updatePhoneNumber phone => if u.Modifiable then u.withPhone phone else u.toUserProps
  | clearPhoneNumber => if u.Modifiable then u.withPhone none else u.toUserProps
  | verifyPhone =>
    if u.Modifiable ∧ u.phoneNumber.isSome = true ∧ u.phoneVerified = false then
      { u.toUserProps with phoneVerified := true, phoneVerifiedAt := some (clk.read 0) }
    else u.toUserProps
  | unverifyPhone =>
    if u.Modifiable then { u.toUserProps with phoneVerified := false, phoneVerifiedAt := none }
    else u.toUserProps
  | addAddress address =>
    if u.Modifiable then { u.toUserProps with addresses := u.addresses ++ [address] }
    else u.toUserProps
  | updateAddress index address =>
    if u.Modifiable ∧ u.InRange index then
      { u.toUserProps with
        addresses := match index.position with
          | some i => u.addresses.set i address
          | none => u.addresses }
    else u.toUserProps
  | removeAddress index =>
    if u.Modifiable ∧ u.InRange index then
      { u.toUserProps with
        addresses := u.addresses.eraseIdx (index.spliceStart u.addresses.length) }
    else u.toUserProps
  | activate =>
    if u.status = .inactive then { u.toUserProps with status := .active } else u.toUserProps
  | deactivate =>
    if u.status = .active then { u.toUserProps with status := .inactive } else u.toUserProps
  | suspend =>
    if u.Modifiable then { u.toUserProps with status := .suspended } else u.toUserProps
  | unsuspend =>
    if u.status = .suspended then { u.toUserProps with status := .active } else u.toUserProps
  | delete =>
    if u.status ≠ .deleted then
      { u.toUserProps with status := .deleted, deletedAt := some (clk.read 0) }
    else u.toUserProps
  | restore =>
    if u.status = .deleted then { u.toUserProps with status := .inactive, deletedAt := none }
    else u.toUserProps

def Leaves (clk : Clock) (u v : User) (p : UserProps) : Prop :=
  v.id = u.id ∧ ∃ d, v.toUserProps = { p with updatedAt := d } ∧
    (d = u.updatedAt ∨ ∃ i, d = clk.read i)

theorem leaves_unchanged (clk : Clock) (u : User) : Leaves clk u u u.toUserProps :=
  ⟨rfl, u.updatedAt, rfl, Or.inl rfl⟩

theorem guarded_leaves (clk : Clock) (u : User) (checks : Except Error Unit) (body : User → User)
    (c : Prop) [Decidable c] (p : UserProps) (passes : checks = .ok () ↔ c)
    (h : c → Leaves clk u (body u) p) :
    Leaves clk u (User.guarded checks body u).state (if c then p else u.toUserProps) := by
  unfold User.guarded
  cases checks with
  | error e =>
    have fails : ¬ c := fun hc => nomatch passes.mpr hc
    rw [if_neg fails]
    exact leaves_unchanged clk u
  | ok _ =>
    have holds : c := passes.mp rfl
    rw [if_pos holds]
    exact h holds

theorem updateField_fst {α : Type} (equals : α → α → Bool)
    (exact_equals : ∀ a b, equals a b = true → a = b) (old : Option α) (new : Option (Option α)) :
    (User.updateField equals old new).1 = new.getD old := by
  rcases new with _ | _ | b
  · rfl
  · cases old <;> rfl
  · cases old with
    | none => rfl
    | some a =>
      unfold User.updateField
      dsimp only
      split_ifs with same
      · rw [exact_equals a b same]
        rfl
      · rfl

theorem renamed_getD (name : Name) (given : Option Name) :
    (given.filter fun n => name != n).getD name = given.getD name := by
  cases given with
  | none => rfl
  | some n =>
    by_cases same : name = n
    · simp [Option.filter, same]
    · simp [Option.filter, same]

theorem updateProfile_leaves (params : ProfileParams) (clk : Clock) (u : User) :
    Leaves clk u (u.updateProfile params clk).state (effect clk u (updateProfile params)) := by
  refine guarded_leaves clk u _ _ _ _ u.ensureCanBeModified_ok_iff fun _ => ?_
  have birth := updateField_fst (fun a b : DateOfBirth => a.value == b.value)
    (fun a b h => by cases a; cases b; simpa using h) u.dateOfBirth params.dateOfBirth
  have gender := updateField_fst (fun a b : Gender => a == b)
    (fun a b h => beq_iff_eq.mp h) u.gender params.gender
  have avatar := updateField_fst (fun a b : Avatar => a.url == b.url)
    (fun a b h => by cases a; cases b; simpa using h) u.avatarUrl params.avatarUrl
  dsimp only
  rw [renamed_getD, birth, gender, avatar]
  split_ifs
  · exact ⟨rfl, clk.read 0, rfl, Or.inr ⟨0, rfl⟩⟩
  · exact ⟨rfl, u.updatedAt, rfl, Or.inl rfl⟩

theorem updatePhoneNumber_leaves (phone : Option PhoneNumber) (clk : Clock) (u : User) :
    Leaves clk u (u.updatePhoneNumber phone clk).state
      (if u.Modifiable then u.withPhone phone else u.toUserProps) := by
  refine guarded_leaves clk u _ _ _ _ u.ensureCanBeModified_ok_iff fun _ => ?_
  cases phone with
  | none => exact ⟨rfl, clk.read 0, rfl, Or.inr ⟨0, rfl⟩⟩
  | some p =>
    -- the number has been assigned already when it is compared
    have same := p.equals_refl
    refine ⟨?_, clk.read 0, ?_, Or.inr ⟨0, rfl⟩⟩ <;>
      simp [same, User.addDomainEvent, User.applyChange, User.withPhone]

theorem verifyPhone_leaves (clk : Clock) (u : User) :
    Leaves clk u (u.verifyPhone clk).state
      (if u.Modifiable ∧ u.phoneNumber.isSome = true ∧ u.phoneVerified = false then
        { u.toUserProps with phoneVerified := true, phoneVerifiedAt := some (clk.read 0) }
      else u.toUserProps) := by
  have modifiable := u.ensureCanBeModified_ok_iff
  unfold User.verifyPhone
  cases checks : u.ensureCanBeModified with
  | error e =>
    rw [checks] at modifiable
    have fails : ¬ u.Modifiable := fun h => nomatch modifiable.mpr h
    rw [if_neg fun h => fails h.1]
    exact leaves_unchanged clk u
  | ok _ =>
    rw [checks] at modifiable
    have passes := modifiable.mp rfl
    cases number : u.phoneNumber with
    | none =>
      rw [if_neg fun h => nomatch h.2.1]
      exact leaves_unchanged clk u
    | some phone =>
      cases verified : u.phoneVerified with
      | true =>
        rw [if_neg fun h => nomatch h.2.2]
        exact leaves_unchanged clk u
      | false =>
        rw [if_pos ⟨passes, rfl, rfl⟩]
        refine ⟨rfl, clk.read 1, ?_, Or.inr ⟨1, rfl⟩⟩
        simp [User.addDomainEvent, User.applyChange, number]

theorem transition_leaves (clk : Clock) (u : User) (checks : Except Error Unit) (status : Status)
    (event : String → Date → UserEvent) (c : Prop) [Decidable c] (passes : checks = .ok () ↔ c) :
    Leaves clk u (User.transition checks status event clk u).state
      (if c then { u.toUserProps with status := status } else u.toUserProps) :=
  guarded_leaves clk u checks _ c _ passes fun _ => ⟨rfl, clk.read 0, rfl, Or.inr ⟨0, rfl⟩⟩

/-- Every command, returning or throwing, leaves its effect. -/
theorem exec_leaves (host : Host) (c : UserCommand) (clk : Clock) (u : User) :
    Leaves clk u (c.exec host clk u).state (c.effect clk u) := by
  cases c with
  | updateProfile params => exact updateProfile_leaves params clk u
  | updatePhoneNumber phone => exact updatePhoneNumber_leaves phone clk u
  | clearPhoneNumber => exact updatePhoneNumber_leaves none clk u
  | verifyPhone => exact verifyPhone_leaves clk u
  | unverifyPhone | addAddress address =>
    exact guarded_leaves clk u _ _ _ _ u.ensureCanBeModified_ok_iff fun _ =>
      ⟨rfl, clk.read 0, rfl, Or.inr ⟨0, rfl⟩⟩
  | updateAddress index address | removeAddress index =>
    exact guarded_leaves clk u _ _ _ _ (u.ensureAddress_ok_iff host index) fun _ =>
      ⟨rfl, clk.read 0, rfl, Or.inr ⟨0, rfl⟩⟩
  | activate =>
    apply transition_leaves
    rw [raise_ok_iff]
    cases u.status <;> decide
  | deactivate =>
    apply transition_leaves
    rw [raise_ok_iff]
    cases u.status <;> decide
  | suspend =>
    apply transition_leaves
    rw [raise_ok_iff, User.Modifiable]
    cases u.status <;> decide
  | unsuspend =>
    apply transition_leaves
    rw [raise_ok_iff]
    cases u.status <;> decide
  | delete =>
    refine guarded_leaves clk u _ _ _ _ ?_ fun _ => ⟨rfl, clk.read 1, rfl, Or.inr ⟨1, rfl⟩⟩
    rw [raise_ok_iff]
    cases u.status <;> decide
  | restore =>
    refine guarded_leaves clk u _ _ _ _ ?_ fun _ => ⟨rfl, clk.read 0, rfl, Or.inr ⟨0, rfl⟩⟩
    rw [raise_ok_iff]
    cases u.status <;> decide

end UserCommand

def PhoneNumber.sample : PhoneNumber := ⟨"+62 812-3456-7890", by decide⟩

def UserProps.sample : UserProps where
  name := .sample
  dateOfBirth := none
  gender := none
  avatarUrl := none
  phoneNumber := some .sample
  phoneVerified := false
  phoneVerifiedAt := none
  addresses := []
  email := .sample
  role := .customer
  status := .active
  createdAt := 0
  updatedAt := 6
  deletedAt := none

def User.sample : User := { UserProps.sample with id := .sample, domainEvents := [] }

theorem User.sample_created : User.reconstruct UserId.sample.value .sample = .ok .sample := by
  decide

end KeramikStore
