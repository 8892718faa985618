import KeramikStore.Library.Runs
import KeramikStore.Users.CommandEffects
import KeramikStore.Users.SharedRow

/-!
# Users that can be saved and loaded back

The rules of a user are checked where it is loaded. Its commands keep those about the
telephone, the deletion and the dates. No command looks for a second default address, the
text that a name keeps need not be one that makes a name, and a date of birth that
was young enough once grows too old.
-/

set_option autoImplicit false

namespace KeramikStore.StoredUsers
open Library Library.Runs

structure Saved where
  user : User
  loading : Clock

structure Step where
  command : UserCommand
  clk : Clock
  loading : Clock

structure Made (host : Host) (now : Date) (birth : Option DateOfBirth) (avatar : Option Avatar) :
    Prop where
  birth : ∀ b ∈ birth, ∃ clk : Clock, clk.stop ≤ now ∧ DateOfBirth.create host clk b.value = .ok b
  avatar : ∀ a ∈ avatar, Avatar.create host a.url = .ok a

structure InOrder (host : Host) (s : Saved) (a : Step) : Prop where
  before : s.loading.stop ≤ a.clk.start
  after : a.clk.stop ≤ a.loading.start
  made : ∀ params, a.command = .updateProfile params →
    Made host a.clk.start params.dateOfBirth.join params.avatarUrl.join

def OneDefault (addresses : List Address) : Prop :=
  (addresses.filter fun addr => addr.props.isDefault).length ≤ 1

def NoDefault (addresses : List Address) : Prop :=
  ∀ addr ∈ addresses, addr.props.isDefault = false

def Named (name : Name) : Prop := Name.validate name.fullName = .ok ()

section Runs

variable (host : Host)

def step (s : Saved) (a : Step) : Saved where
  user := (a.command.exec host a.clk s.user).state
  loading := a.loading

def Reloads (s : Saved) : Prop :=
  User.validate s.user.toUserProps = .ok () ∧
    ∃ v, PrismaUserMapper.toDomain host s.loading (PrismaUserMapper.toPersistence s.user) = .ok v

def Young (loading : Clock) (birth : Option DateOfBirth) : Prop :=
  ∀ b ∈ birth, host.oldestValidDate (loading.read 2) ≤ b.value

def Fits (u : User) : UserCommand → Prop
  | .updateProfile params => ∀ name ∈ params.name, Named name
  | .addAddress address => address.props.isDefault = true → NoDefault u.addresses
  | .updateAddress index address => u.InRange index → ∀ i ∈ index.position,
      address.props.isDefault = true → NoDefault (u.addresses.eraseIdx i)
  | _ => True

def birthDate (u : User) : UserCommand → Option DateOfBirth
  | .updateProfile params =>
    if u.Modifiable then params.dateOfBirth.getD u.dateOfBirth else u.dateOfBirth
  | _ => u.dateOfBirth

def Sound (s : Saved) (a : Step) : Prop :=
  (s.user.Modifiable → Fits s.user a.command) ∧
    Young host a.loading (birthDate s.user a.command)

end Runs

section Addresses

variable (xs ys : List Address)

theorem oneDefault_perm (h : xs.Perm ys) : OneDefault xs ↔ OneDefault ys := by
  unfold OneDefault
  rw [(h.filter _).length_eq]

theorem oneDefault_sublist (h : xs.Sublist ys) (one : OneDefault ys) : OneDefault xs :=
  (h.filter _).length_le.trans one

theorem oneDefault_cons_iff (a : Address) (one : OneDefault xs) :
    OneDefault (a :: xs) ↔ (a.props.isDefault = true → NoDefault xs) := by
  unfold OneDefault NoDefault at *
  by_cases first : a.props.isDefault = true
  · have none_iff : (xs.filter fun addr => addr.props.isDefault).length = 0 ↔
        ∀ addr ∈ xs, addr.props.isDefault = false := by
      simp
    rw [List.filter_cons, if_pos first, List.length_cons, ← none_iff]
    exact ⟨fun h _ => by omega, fun h => by have := h first; omega⟩
  · rw [List.filter_cons, if_neg first]
    exact ⟨fun _ h => absurd h first, fun _ => one⟩

theorem oneDefault_append_iff (a : Address) (one : OneDefault xs) :
    OneDefault (xs ++ [a]) ↔ (a.props.isDefault = true → NoDefault xs) :=
  (oneDefault_perm _ _ (List.perm_append_singleton a xs)).trans (oneDefault_cons_iff xs a one)

theorem oneDefault_set_iff (i : ℕ) (bound : i < xs.length) (a : Address) (one : OneDefault xs) :
    OneDefault (xs.set i a) ↔ (a.props.isDefault = true → NoDefault (xs.eraseIdx i)) :=
  (oneDefault_perm _ _ (List.set_perm_cons_eraseIdx bound a)).trans
    (oneDefault_cons_iff _ a (oneDefault_sublist _ _ (List.eraseIdx_sublist xs i) one))

theorem position_lt (index : JsNumber) (u : User) (i : ℕ) (inRange : u.InRange index)
    (position : index.position = some i) : i < u.addresses.length := by
  cases index with
  | fin q =>
    simp only [JsNumber.position, Option.ite_none_right_eq_some, Option.some.injEq] at position
    obtain ⟨⟨whole, positive⟩, rfl⟩ := position
    simp only [User.InRange, JsNumber.ge, JsNumber.ofNat, JsNumber.lt, Bool.or_eq_false_iff,
      Bool.not_eq_false', decide_eq_true_eq] at inRange
    have below : (q.num : ℚ) < u.addresses.length := by
      rw [Rat.coe_int_num_of_den_eq_one whole]
      exact inRange.2
    have : q.num < u.addresses.length := by exact_mod_cast below
    omega
  | _ => cases position

end Addresses

section Effects

variable (clk : Clock) (u : User) (c : UserCommand)

theorem effect_createdAt : (c.effect clk u).createdAt = u.createdAt := by
  cases c <;> dsimp only [UserCommand.effect] <;> split_ifs <;> rfl

theorem effect_dateOfBirth : (c.effect clk u).dateOfBirth = birthDate u c := by
  cases c <;> dsimp only [UserCommand.effect, birthDate] <;> split_ifs <;> rfl

theorem effect_phone (valid : User.Valid u.toUserProps) :
    ((c.effect clk u).phoneVerified = true → (c.effect clk u).phoneNumber.isSome = true) ∧
      (c.effect clk u).phoneVerifiedAt.isSome = (c.effect clk u).phoneVerified := by
  have kept := And.intro valid.numbered valid.verifiedAt
  have given (phone : Option PhoneNumber) :
      ((u.withPhone phone).phoneVerified = true → (u.withPhone phone).phoneNumber.isSome = true) ∧
        (u.withPhone phone).phoneVerifiedAt.isSome = (u.withPhone phone).phoneVerified := by
    cases phone with
    | none => exact ⟨nofun, rfl⟩
    | some _ => exact ⟨fun _ => rfl, valid.verifiedAt⟩
  cases c with
  | updatePhoneNumber phone =>
    dsimp only [UserCommand.effect]
    split_ifs
    · exact given phone
    · exact kept
  | clearPhoneNumber =>
    dsimp only [UserCommand.effect]
    split_ifs
    · exact given none
    · exact kept
  | verifyPhone =>
    dsimp only [UserCommand.effect]
    split_ifs with allowed
    · exact ⟨fun _ => allowed.2.1, rfl⟩
    · exact kept
  | unverifyPhone =>
    dsimp only [UserCommand.effect]
    split_ifs
    · exact ⟨nofun, rfl⟩
    · exact kept
  | _ =>
    dsimp only [UserCommand.effect]
    split_ifs <;> exact kept

theorem effect_deletion (valid : User.Valid u.toUserProps) :
    (c.effect clk u).deletedAt.isSome = (c.effect clk u).status.isDeleted := by
  have kept := valid.deletedAt
  have alive (status : Status) (old : u.status ≠ .deleted) (new : status ≠ .deleted) :
      u.deletedAt.isSome = status.isDeleted := by
    rw [kept, (Status.isDeleted_eq_false_iff _).mpr old, (Status.isDeleted_eq_false_iff _).mpr new]
  cases c with
  | activate | deactivate | unsuspend =>
    dsimp only [UserCommand.effect]
    split_ifs with old
    · exact alive _ (old ▸ nofun) nofun
    · exact kept
  | suspend =>
    dsimp only [UserCommand.effect]
    split_ifs with old
    · exact alive _ old.1 nofun
    · exact kept
  | delete | restore =>
    dsimp only [UserCommand.effect]
    split_ifs
    · rfl
    · exact kept
  | _ =>
    dsimp only [UserCommand.effect, User.withPhone]
    split_ifs <;> exact kept

theorem effect_valid_iff (valid : User.Valid u.toUserProps) (d : Date) (later : u.createdAt ≤ d) :
    User.Valid { c.effect clk u with updatedAt := d } ↔ OneDefault (c.effect clk u).addresses := by
  refine ⟨fun h => h.oneDefault, fun one => ?_⟩
  obtain ⟨numbered, verifiedAt⟩ := effect_phone clk u c valid
  exact ⟨one, numbered, verifiedAt, effect_deletion clk u c valid,
    (effect_createdAt clk u c).trans_le later⟩

/-- The name and the addresses stay in order just when the command brings what fits. -/
theorem effect_fits_iff (named : Named u.name) (one : OneDefault u.addresses) :
    Named (c.effect clk u).name ∧ OneDefault (c.effect clk u).addresses ↔
      (u.Modifiable → Fits u c) := by
  have kept := And.intro named one
  cases c with
  | updateProfile params =>
    dsimp only [UserCommand.effect, Fits]
    split_ifs with modifiable
    · refine ⟨fun h _ name given => ?_, fun h => ⟨?_, one⟩⟩
      · rw [Option.mem_def.mp given] at h
        exact h.1
      · cases given : params.name with
        | none => exact named
        | some name => exact h modifiable name given
    · exact ⟨fun _ h => absurd h modifiable, fun _ => kept⟩
  | addAddress address =>
    dsimp only [UserCommand.effect, Fits]
    split_ifs with modifiable
    · have fits := oneDefault_append_iff u.addresses address one
      exact ⟨fun h _ => fits.mp h.2, fun h => ⟨named, fits.mpr (h modifiable)⟩⟩
    · exact ⟨fun _ h => absurd h modifiable, fun _ => kept⟩
  | updateAddress index address =>
    dsimp only [UserCommand.effect, Fits]
    split_ifs with allowed
    · cases position : index.position with
      | none => exact ⟨fun _ _ _ _ => nofun, fun _ => kept⟩
      | some i =>
        have bound := position_lt index u i allowed.2 position
        have fits := oneDefault_set_iff u.addresses i bound address one
        constructor
        · intro h _ _ j same
          obtain rfl := Option.some.inj same
          exact fits.mp h.2
        · intro h
          exact ⟨named, fits.mpr (h allowed.1 allowed.2 i rfl)⟩
    · exact ⟨fun _ modifiable inRange => absurd ⟨modifiable, inRange⟩ allowed, fun _ => kept⟩
  | removeAddress index =>
    dsimp only [UserCommand.effect, Fits]
    split_ifs
    · exact ⟨fun _ _ => trivial,
        fun _ => ⟨named, oneDefault_sublist _ _ (List.eraseIdx_sublist _ _) one⟩⟩
    · exact ⟨fun _ _ => trivial, fun _ => kept⟩
  | _ =>
    dsimp only [UserCommand.effect, Fits, User.withPhone]
    split_ifs <;> exact ⟨fun _ _ => trivial, fun _ => kept⟩

end Effects

section Loads

variable (host : Host)

theorem create_birth_iff (clk : Clock) (d : Date) :
    (∃ b, DateOfBirth.create host clk d = .ok b) ↔
      d ≤ clk.read 0 ∧ host.oldestValidDate (clk.read 2) ≤ d := by
  have checks : DateOfBirth.create host clk d = raise [
      (clk.read 0 < d, invalidDateOfBirthError "Date of birth cannot be in the future."),
      (d < host.oldestValidDate (clk.read 2), invalidDateOfBirthError
        "Date of birth indicates age greater than 120 years.")] >>= fun _ => pure ⟨d⟩ := rfl
  simp only [checks, bind_ok_iff]
  constructor
  · rintro ⟨_, _, passed, -⟩
    simpa using (raise_ok_iff _).mp passed
  · rintro ⟨past, young⟩
    refine ⟨⟨d⟩, (), ?_, rfl⟩
    simp [raise_ok_iff, past, young]

structure Kept (s : Saved) : Prop where
  created : s.user.createdAt ≤ s.loading.start
  birth : ∀ b ∈ s.user.dateOfBirth, b.value ≤ s.loading.start
  avatar : ∀ a ∈ s.user.avatarUrl, Avatar.create host a.url = .ok a

theorem reloads_iff (s : Saved) (kept : Kept host s) : Reloads host s ↔
    User.Valid s.user.toUserProps ∧ Named s.user.name ∧
      Young host s.loading s.user.dateOfBirth := by
  unfold Reloads Named Young
  rw [PrismaUserMapper.toDomain_toPersistence_iff, User.validate_ok_iff]
  constructor
  · rintro ⟨valid, ⟨name, named⟩, births, -, -⟩
    refine ⟨valid, ((Name.create_ok_iff _ _).mp named).1, fun b given => ?_⟩
    exact ((create_birth_iff host _ _).mp (births b given)).2
  · rintro ⟨valid, named, young⟩
    refine ⟨valid, ⟨⟨_, _, named, rfl⟩, (Name.create_ok_iff _ _).mpr ⟨named, rfl⟩⟩, ?_, ?_, valid⟩
    · intro b given
      have past := (kept.birth b given).trans (s.loading.starts 0)
      exact (create_birth_iff host _ _).mpr ⟨past, young b given⟩
    · exact fun a given _ => ⟨a, kept.avatar a given⟩

theorem forall_getD {α : Type} (P : α → Prop) (given : Option (Option α)) (old : Option α)
    (new : ∀ a ∈ given.join, P a) (h : ∀ a ∈ old, P a) : ∀ a ∈ given.getD old, P a := by
  cases given with
  | none => exact h
  | some _ => exact new

theorem effect_profile (clk : Clock) (u : User) (c : UserCommand) :
    (c.effect clk u).dateOfBirth = u.dateOfBirth ∧ (c.effect clk u).avatarUrl = u.avatarUrl ∨
      ∃ params, c = .updateProfile params ∧
        (c.effect clk u).dateOfBirth = params.dateOfBirth.getD u.dateOfBirth ∧
        (c.effect clk u).avatarUrl = params.avatarUrl.getD u.avatarUrl := by
  cases c with
  | updateProfile params =>
    dsimp only [UserCommand.effect]
    split_ifs
    · exact Or.inr ⟨params, rfl, rfl, rfl⟩
    · exact Or.inl ⟨rfl, rfl⟩
  | _ =>
    refine Or.inl ?_
    dsimp only [UserCommand.effect, User.withPhone]
    split_ifs <;> exact ⟨rfl, rfl⟩

theorem later_start (s : Saved) (a : Step) (inOrder : InOrder host s a) :
    s.loading.start ≤ a.loading.start :=
  (s.loading.start_le_stop.trans inOrder.before).trans
    (a.clk.start_le_stop.trans inOrder.after)

variable (s : Saved) (a : Step) (kept : Kept host s) (inOrder : InOrder host s a)
include kept inOrder

theorem step_kept : Kept host (step host s a) := by
  obtain ⟨-, d, left, -⟩ := UserCommand.exec_leaves host a.command a.clk s.user
  have later := later_start host s a inOrder
  have before : a.clk.start ≤ a.loading.start := a.clk.start_le_stop.trans inOrder.after
  refine ⟨?_, ?_, ?_⟩
  · change (a.command.exec host a.clk s.user).state.createdAt ≤ _
    rw [left]
    exact ((effect_createdAt a.clk s.user a.command).trans_le kept.created).trans later
  · change ∀ b ∈ (a.command.exec host a.clk s.user).state.dateOfBirth, _
    rw [left]
    have old : ∀ b ∈ s.user.dateOfBirth, b.value ≤ a.loading.start :=
      fun b given => (kept.birth b given).trans later
    obtain ⟨same, -⟩ | ⟨params, command, changed, -⟩ := effect_profile a.clk s.user a.command
    · dsimp only
      rw [same]
      exact old
    · dsimp only
      rw [changed]
      refine forall_getD _ _ _ (fun b given => ?_) old
      obtain ⟨clk, made, birth⟩ := (inOrder.made params command).birth b given
      have past := ((create_birth_iff host clk b.value).mp ⟨b, birth⟩).1
      exact ((past.trans (clk.stops 0)).trans made).trans before
  · change ∀ v ∈ (a.command.exec host a.clk s.user).state.avatarUrl, _
    rw [left]
    obtain ⟨-, same⟩ | ⟨params, command, -, changed⟩ := effect_profile a.clk s.user a.command
    · dsimp only
      rw [same]
      exact kept.avatar
    · dsimp only
      rw [changed]
      exact forall_getD _ _ _ (inOrder.made params command).avatar kept.avatar

theorem step_iff (loads : Reloads host s) : Reloads host (step host s a) ↔ Sound host s a := by
  obtain ⟨valid, named, -⟩ := (reloads_iff host s kept).mp loads
  obtain ⟨-, d, left, written⟩ := UserCommand.exec_leaves host a.command a.clk s.user
  have later : s.user.createdAt ≤ d := by
    rcases written with rfl | ⟨i, rfl⟩
    · exact valid.ordered
    · exact (kept.created.trans (s.loading.start_le_stop.trans inOrder.before)).trans
        (a.clk.starts i)
  have next := reloads_iff host (step host s a) (step_kept host s a kept inOrder)
  have props : (step host s a).user.toUserProps =
      { a.command.effect a.clk s.user with updatedAt := d } := left
  rw [next, props, effect_valid_iff a.clk s.user a.command valid d later]
  dsimp only
  rw [effect_dateOfBirth, and_left_comm, ← and_assoc,
    effect_fits_iff a.clk s.user a.command named valid.oneDefault]
  rfl

end Loads

/-- Every saved user of a run is valid and loaded just when the one at the start is loaded, a
command that is let through brings no name whose text makes none and no second default
address, and the date of birth is never too long ago where it is loaded. -/
theorem stays_loadable_iff (host : Host) (id : String) (props : UserProps) (u : User)
    (created : User.reconstruct id props = .ok u) (loading : Clock)
    (made : Made host loading.start u.dateOfBirth u.avatarUrl)
    (past : u.createdAt ≤ loading.start) (run : List Step)
    (inOrder : Along (step host) (InOrder host) ⟨u, loading⟩ run) :
    Throughout (step host) (Reloads host) ⟨u, loading⟩ run ↔
      (Named u.name ∧ Young host loading u.dateOfBirth) ∧
        Along (step host) (Sound host) ⟨u, loading⟩ run := by
  have kept : Kept host ⟨u, loading⟩ := by
    refine ⟨past, fun b given => ?_, made.avatar⟩
    obtain ⟨clk, before, birth⟩ := made.birth b given
    exact (((create_birth_iff host clk b.value).mp ⟨b, birth⟩).1.trans (clk.stops 0)).trans before
  have valid : User.Valid u.toUserProps := by
    obtain ⟨_, -, created⟩ := (bind_ok_iff _ _ _).mp created
    obtain ⟨_, valid, created⟩ := (bind_ok_iff _ _ _).mp created
    obtain rfl := Except.ok.inj created
    exact (User.validate_ok_iff props).mp valid
  have start := reloads_iff host ⟨u, loading⟩ kept
  rw [and_iff_right valid] at start
  rw [← start]
  exact throughout_exact _ (Kept host) _ _ _ (step_kept host) (step_iff host) _ _ kept inOrder

def home : Address where
  props :=
    { label := .home, recipient := "John Doe", phone := .sample, street := "Jl. Braga 1",
      city := "Bandung", province := "Jawa Barat", postalCode := "40111", country := "Indonesia",
      latitude := none, longitude := none, isDefault := true }
  accepted := by decide +kernel

def sampleStart : Saved := ⟨.sample, .still 10⟩

def addHome (now : Date) : Step := ⟨.addAddress home, .still now, .still (now + 1)⟩

theorem addHome_inOrder (s : Saved) (now : Date) (before : s.loading.stop ≤ now) :
    InOrder UserRow.plainHost s (addHome now) :=
  ⟨before, (lt_add_one now).le, fun _ h => UserCommand.noConfusion h⟩

theorem sample_stays_loadable :
    Throughout (step UserRow.plainHost) (Reloads UserRow.plainHost) sampleStart [addHome 11] := by
  have unborn (loading : Clock) : Young UserRow.plainHost loading none :=
    fun _ given => absurd given (Option.not_mem_none _)
  refine (stays_loadable_iff UserRow.plainHost _ _ _ User.sample_created (.still 10)
    ⟨fun _ given => absurd given (Option.not_mem_none _),
      fun _ given => absurd given (Option.not_mem_none _)⟩ (by decide) [addHome 11]
    ⟨addHome_inOrder _ 11 (by decide), trivial⟩).mpr
      ⟨⟨rfl, unborn _⟩, ⟨fun _ _ _ member => absurd member List.not_mem_nil, unborn _⟩, trivial⟩

/-- A second default address is stored, and the row can no longer be loaded. -/
theorem second_default_is_stored :
    User.reconstruct UserId.sample.value .sample = .ok .sample ∧
      Along (step UserRow.plainHost) (InOrder UserRow.plainHost) sampleStart
        [addHome 11, addHome 13] ∧
      User.validate (after (step UserRow.plainHost) sampleStart
        [addHome 11, addHome 13]).user.toUserProps =
          .error (userStateConflictError "User cannot have more than one default address.") ∧
      PrismaUserMapper.toDomain UserRow.plainHost (.still 14) (PrismaUserMapper.toPersistence
        (after (step UserRow.plainHost) sampleStart [addHome 11, addHome 13]).user) =
          .error (userStateConflictError "User cannot have more than one default address.") := by
  refine ⟨User.sample_created, ⟨addHome_inOrder _ 11 (by decide), addHome_inOrder _ 13 (by decide),
    trivial⟩, ?_, ?_⟩
  · decide +kernel
  · decide +kernel

end KeramikStore.StoredUsers
