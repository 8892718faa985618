import KeramikStore.Shared.Moments
import KeramikStore.Users.CachedById
import KeramikStore.Users.StoredUsers

/-!
# A user updates the own profile

The request loads the user, sets the fields that are given and saves the whole row. An
absent field keeps its value and an empty text clears it. What is saved is the user as it
was loaded, with its name in the cleaned spelling, so the profile that is read next may not
be the one that the update has shown: the exact condition is that the saved name makes
itself again, unless nothing was changed.
-/

set_option autoImplicit false

namespace KeramikStore
open Library Library.ReadThrough Library.KeyedTable

def userNotFoundError (message : String) : Error := .user .notFound message

def Gender.getValue : Gender → String
  | .male => "male"
  | .female => "female"

def Gender.create (value : String) : Except Error Gender :=
  match [Gender.male, Gender.female].find? fun gender => gender.getValue = value with
  | some gender => .ok gender
  | none => .error (.user .invalidGender
      ("Invalid gender: " ++ value ++ ". Must be either 'male' or 'female'."))

def DateOfBirth.fromString (host : Host) (parse : String → Option Date) (clk : Clock)
    (dateString : String) : Except Error DateOfBirth :=
  match parse dateString with
  | some date => DateOfBirth.create host clk date
  | none => .error (invalidDateOfBirthError "Invalid date format provided.")

structure UpdateCurrentUserProfileCommand where
  fullName : Option String
  gender : Option String
  dateOfBirth : Option String
  avatarUrl : Option String
  phoneNumber : Option String

structure ProfileResult where
  id : String
  fullName : String
  email : String
  gender : Option Gender
  dateOfBirth : Option String
  avatarUrl : Option String
  phoneNumber : Option String
  isPhoneVerified : Bool
  role : Role
  status : Status
  updatedAt : Date
deriving DecidableEq

structure ProfileAddress where
  label : AddressLabel
  street : String
  city : String
  state : String
  postalCode : String
  country : String
  latitude : Option JsNumber
  longitude : Option JsNumber
  isDefault : Bool
deriving DecidableEq

structure CurrentProfileResult extends ProfileResult where
  addresses : List ProfileAddress
  createdAt : Date
deriving DecidableEq

def ProfileParams.isEmpty (params : ProfileParams) : Bool :=
  params.name.isNone && params.dateOfBirth.isNone && params.gender.isNone &&
    params.avatarUrl.isNone

def PrismaUserRepository.findUser (host : Host) (loading : Clock) (userId : String)
    (s : UserStore) : Except Error (Option User) × UserStore :=
  let found := UserCaches.PrismaUserRepository.findById userId s
  (match found.1.row with
    | some (.profile raw) => (PrismaUserMapper.toDomain host loading raw).map some
    | _ => .ok none, found.2)

def User.profileResult (dates : DateHost) (u : User) : ProfileResult where
  id := u.id.getValue
  fullName := u.name.getFullName
  email := u.email.getValue
  gender := u.gender
  dateOfBirth := u.dateOfBirth.map fun birth => dates.toISOString birth.value
  avatarUrl := (u.avatarUrl.map Avatar.url).filter (· != "")
  phoneNumber := u.phoneNumber.map PhoneNumber.getValue
  isPhoneVerified := u.phoneVerified
  role := u.role
  status := u.status
  updatedAt := u.updatedAt

def Address.profileResult (address : Address) : ProfileAddress where
  label := address.props.label
  street := address.props.street
  city := address.props.city
  state := address.props.province
  postalCode := address.props.postalCode
  country := address.props.country
  latitude := address.props.latitude
  longitude := address.props.longitude
  isDefault := address.props.isDefault

def GetCurrentUserProfileUseCase.execute (host : Host) (dates : DateHost) (loading : Clock)
    (userId : String) (s : UserStore) : Except Error CurrentProfileResult × UserStore :=
  let found := PrismaUserRepository.findUser host loading userId s
  (do match ← found.1 with
      | none => .error (userNotFoundError ("User with ID " ++ userId ++ " not found."))
      | some u => .ok { u.profileResult dates with
          addresses := u.addresses.map Address.profileResult, createdAt := u.createdAt },
    found.2)

namespace UpdateCurrentUserProfileUseCase

def given {α : Type} (make : String → Except Error α) :
    Option String → Except Error (Option (Option α))
  | none => .ok none
  | some text => if text = "" then .ok (some none) else (make text).map fun a => some (some a)

variable (host : Host) (parse : String → Option Date) (clk : Clock)
  (command : UpdateCurrentUserProfileCommand)

def updateData : Except Error ProfileParams := do
  let name ← command.fullName.mapM Name.create
  let gender ← given Gender.create command.gender
  let dateOfBirth ← given (DateOfBirth.fromString host parse clk) command.dateOfBirth
  let avatarUrl ← given (Avatar.create host) command.avatarUrl
  return ⟨name, dateOfBirth, gender, avatarUrl⟩

def update (params : ProfileParams) (u : User) : Except Error User :=
  if params.isEmpty then .ok u else (u.updateProfile params (clk.skip 3)).toExcept

def change (u : User) : Except Error User := do
  let params ← updateData host parse clk command
  let updated ← update clk params u
  match ← given PhoneNumber.create command.phoneNumber with
  | none => .ok updated
  | some phoneNumber => (updated.updatePhoneNumber phoneNumber (clk.skip 4)).toExcept

def execute (toLowerCase : String → String) (dates : DateHost) (loading : Clock)
    (userId : String) (s : UserStore) : Except Error ProfileResult × UserStore :=
  let found := PrismaUserRepository.findUser host loading userId s
  let saved : Except Error (ProfileResult × UserStore) := do
    match ← found.1 with
    | none => .error (userNotFoundError ("User with ID " ++ userId ++ " not found."))
    | some u =>
      let v ← change host parse clk command u
      let s' ← UserCaches.PrismaUserRepository.save toLowerCase v found.2
      .ok (v.profileResult dates, s')
  match saved with
  | .ok (result, s') => (.ok result, s')
  | .error e => (.error e, found.2)

/-! What the commands of an accepted update leave. -/

def Accepted (params : ProfileParams) (phone : Option (Option PhoneNumber)) : Prop :=
  updateData host parse clk command = .ok params ∧
    given PhoneNumber.create command.phoneNumber = .ok phone

def updated (params : ProfileParams) (u : User) : User :=
  if params.isEmpty then u else (u.updateProfile params (clk.skip 3)).state

def changed (params : ProfileParams) (phone : Option (Option PhoneNumber)) (u : User) : User :=
  phone.elim (updated clk params u) fun phoneNumber =>
    ((updated clk params u).updatePhoneNumber phoneNumber (clk.skip 4)).state

def Asks (params : ProfileParams) (phone : Option (Option PhoneNumber)) : Prop :=
  params.isEmpty = false ∨ phone.isSome = true

theorem updateProfile_returns_iff (params : ProfileParams) (clk : Clock) (u : User) :
    (u.updateProfile params clk).Returns ↔ u.Modifiable := by
  rw [← u.ensureCanBeModified_ok_iff]
  unfold User.updateProfile User.guarded
  cases u.ensureCanBeModified <;> simp

theorem updatePhoneNumber_returns_iff (phone : Option PhoneNumber) (clk : Clock) (u : User) :
    (u.updatePhoneNumber phone clk).Returns ↔ u.Modifiable := by
  rw [← u.ensureCanBeModified_ok_iff]
  unfold User.updatePhoneNumber User.guarded
  cases u.ensureCanBeModified <;> simp

def named (params : ProfileParams) (p : UserProps) : UserProps :=
  { p with
    name := params.name.getD p.name
    dateOfBirth := params.dateOfBirth.getD p.dateOfBirth
    gender := params.gender.getD p.gender
    avatarUrl := params.avatarUrl.getD p.avatarUrl }

def dialled (phone : Option (Option PhoneNumber)) (p : UserProps) : UserProps :=
  match phone with
  | none => p
  | some number =>
    { p with
      phoneNumber := number
      phoneVerified := number.isSome && p.phoneVerified
      phoneVerifiedAt := if number.isSome then p.phoneVerifiedAt else none }

def DatedBy (u : User) (d : Date) : Prop := d = u.updatedAt ∨ ∃ i, d = clk.read i

theorem updated_props (params : ProfileParams) (u : User) (modifiable : u.Modifiable) :
    (updated clk params u).id = u.id ∧ ∃ d, DatedBy clk u d ∧
      (updated clk params u).toUserProps = { named params u.toUserProps with updatedAt := d } := by
  unfold updated
  split_ifs with empty
  · obtain ⟨name, birth, gender, avatar⟩ := params
    simp only [ProfileParams.isEmpty, Bool.and_eq_true, Option.isNone_iff_eq_none] at empty
    obtain ⟨⟨⟨rfl, rfl⟩, rfl⟩, rfl⟩ := empty
    exact ⟨rfl, u.updatedAt, Or.inl rfl, rfl⟩
  · obtain ⟨id, d, props, date⟩ := UserCommand.updateProfile_leaves params (clk.skip 3) u
    have effect : UserCommand.effect (clk.skip 3) u (.updateProfile params) =
        named params u.toUserProps := if_pos modifiable
    rw [effect] at props
    exact ⟨id, d, date.imp_right fun ⟨i, reading⟩ => ⟨3 + i, reading⟩, props⟩

theorem updated_modifiable (params : ProfileParams) (u : User) (modifiable : u.Modifiable) :
    (updated clk params u).Modifiable := by
  obtain ⟨-, d, -, props⟩ := updated_props clk params u modifiable
  unfold User.Modifiable
  rw [props]
  exact modifiable

theorem changed_props (params : ProfileParams) (phone : Option (Option PhoneNumber)) (u : User)
    (allowed : Asks params phone → u.Modifiable) :
    (changed clk params phone u).id = u.id ∧ ∃ d, DatedBy clk u d ∧
      (changed clk params phone u).toUserProps =
        { dialled phone (named params u.toUserProps) with updatedAt := d } := by
  cases phone with
  | none =>
    show (updated clk params u).id = u.id ∧ _
    by_cases empty : params.isEmpty = true
    · have kept : updated clk params u = u := if_pos empty
      obtain ⟨name, birth, gender, avatar⟩ := params
      simp only [ProfileParams.isEmpty, Bool.and_eq_true, Option.isNone_iff_eq_none] at empty
      obtain ⟨⟨⟨rfl, rfl⟩, rfl⟩, rfl⟩ := empty
      exact ⟨congrArg User.id kept, u.updatedAt, Or.inl rfl, congrArg User.toUserProps kept⟩
    · exact updated_props clk params u (allowed (Or.inl (Bool.not_eq_true _ ▸ empty)))
  | some number =>
    have modifiable := allowed (Or.inr rfl)
    obtain ⟨id, d, dated, props⟩ := updated_props clk params u modifiable
    have still := updated_modifiable clk params u modifiable
    obtain ⟨same, d', next, dated'⟩ :=
      UserCommand.updatePhoneNumber_leaves number (clk.skip 4) (updated clk params u)
    rw [if_pos still] at next
    refine ⟨same.trans id, d', ?_, ?_⟩
    · obtain kept | ⟨i, reading⟩ := dated'
      · rw [props] at kept
        exact kept ▸ dated
      · exact Or.inr ⟨4 + i, reading⟩
    · show (User.updatePhoneNumber _ _ _).state.toUserProps = _
      rw [next]
      unfold User.withPhone
      rw [props]
      rfl

theorem update_ok_iff (params : ProfileParams) (u w : User) : update clk params u = .ok w ↔
    (params.isEmpty = false → u.Modifiable) ∧ w = updated clk params u := by
  unfold update updated
  split_ifs with empty
  · simp only [empty, Except.ok.injEq, Bool.true_eq_false, false_imp_iff, true_and]
    exact eq_comm
  · rw [Outcome.toExcept_ok_iff, updateProfile_returns_iff]
    simp only [Bool.not_eq_true] at empty
    simp only [empty, true_imp_iff]
    exact and_congr_right fun _ => eq_comm

/-- The update returns just when its texts are accepted, and the user may be modified unless
nothing is given. -/
theorem change_ok_iff (u v : User) : change host parse clk command u = .ok v ↔
    ∃ params phone, Accepted host parse clk command params phone ∧
      (Asks params phone → u.Modifiable) ∧ v = changed clk params phone u := by
  unfold change Accepted
  simp only [bind_ok_iff, update_ok_iff]
  constructor
  · rintro ⟨params, hparams, w, ⟨allowed, rfl⟩, phone, hphone, done⟩
    refine ⟨params, phone, ⟨hparams, hphone⟩, ?_⟩
    cases phone with
    | none =>
      refine ⟨fun asks => allowed (asks.resolve_right Bool.false_ne_true), ?_⟩
      exact (Except.ok.inj done).symm
    | some number =>
      obtain ⟨returns, state⟩ := (Outcome.toExcept_ok_iff _ _).mp done
      refine ⟨fun _ => ?_, state.symm⟩
      by_cases empty : params.isEmpty = true
      · have same : updated clk params u = u := if_pos empty
        rw [same] at returns
        exact (updatePhoneNumber_returns_iff _ _ _).mp returns
      · exact allowed (Bool.not_eq_true _ ▸ empty)
  · rintro ⟨params, phone, ⟨hparams, hphone⟩, allowed, rfl⟩
    refine ⟨params, hparams, updated clk params u, ⟨fun some => allowed (Or.inl some), rfl⟩,
      phone, hphone, ?_⟩
    cases phone with
    | none => rfl
    | some number =>
      have modifiable := allowed (Or.inr rfl)
      have still := updated_modifiable clk params u modifiable
      exact (Outcome.toExcept_ok_iff _ _).mpr
        ⟨(updatePhoneNumber_returns_iff _ _ _).mpr still, rfl⟩

theorem changed_announced (params : ProfileParams) (phone : Option (Option PhoneNumber)) (u : User)
    (allowed : Asks params phone → u.Modifiable) :
    (changed clk params phone u).Announced ∨ changed clk params phone u = u := by
  cases phone with
  | none =>
    show (updated clk params u).Announced ∨ updated clk params u = u
    unfold updated
    split_ifs with empty
    · exact Or.inr rfl
    · have modifiable := allowed (Or.inl (Bool.not_eq_true _ ▸ empty))
      exact UserCommand.updateProfile_announced params (clk.skip 3) u
        ((updateProfile_returns_iff _ _ _).mpr modifiable)
  | some number =>
    left
    have modifiable := allowed (Or.inr rfl)
    have still := updated_modifiable clk params u modifiable
    exact UserCommand.ensures_guarded User.Announced _ _ _ (User.announced_change _ _ _)
      ((updatePhoneNumber_returns_iff number (clk.skip 4) _).mpr still)

end UpdateCurrentUserProfileUseCase

namespace ProfileUpdate
open CachedById UpdateCurrentUserProfileUseCase
open StoredUsers (Young)

section Loads

variable (host : Host)

theorem create_birth (clk : Clock) (d : Date) (b : DateOfBirth) :
    DateOfBirth.create host clk d = .ok b ↔
      b = ⟨d⟩ ∧ d ≤ clk.read 0 ∧ host.oldestValidDate (clk.read 2) ≤ d := by
  rw [← StoredUsers.create_birth_iff]
  unfold DateOfBirth.create
  simp only [bind_ok_iff]
  constructor
  · rintro ⟨_, passed, made⟩
    exact ⟨(Except.ok.inj made).symm, ⟨d⟩, (), passed, rfl⟩
  · rintro ⟨rfl, _, _, passed, -⟩
    exact ⟨(), passed, rfl⟩

theorem births_ok_iff (clk : Clock) (d : Option Date) (b : Option DateOfBirth) :
    d.mapM (DateOfBirth.create host clk) = .ok b ↔ b = d.map DateOfBirth.mk ∧
      ∀ x ∈ d, x ≤ clk.read 0 ∧ host.oldestValidDate (clk.read 2) ≤ x := by
  cases d with
  | none =>
    have shape : (none : Option Date).mapM (DateOfBirth.create host clk) = .ok none := rfl
    rw [shape, Except.ok.injEq]
    exact ⟨fun h => ⟨h.symm, fun _ mem => absurd mem.symm (Option.some_ne_none _)⟩,
      fun h => h.1.symm⟩
  | some d =>
    rw [option_mapM_some, bind_ok_iff]
    simp only [create_birth, Option.mem_def, Option.some.injEq, forall_eq', Option.map_some]
    constructor
    · rintro ⟨_, ⟨rfl, valid⟩, made⟩
      exact ⟨(Except.ok.inj made).symm, valid⟩
    · rintro ⟨rfl, valid⟩
      exact ⟨⟨d⟩, ⟨rfl, valid⟩, rfl⟩

theorem avatars_made (url : Option String) (avatar : Option Avatar)
    (h : (url.filter (· != "")).mapM (Avatar.create host) = .ok avatar) :
    avatar = (url.filter (· != "")).map Avatar.mk ∧
      ∀ a ∈ avatar, a.url ≠ "" ∧ Avatar.create host a.url = .ok a := by
  cases given : url.filter (· != "") with
  | none =>
    rw [given] at h
    obtain rfl := Except.ok.inj h
    exact ⟨rfl, fun _ mem => absurd mem.symm (Option.some_ne_none _)⟩
  | some text =>
    rw [given, option_mapM_some, bind_ok_iff] at h
    obtain ⟨a, made, some⟩ := h
    have filled := (Option.filter_eq_some_iff.mp given).2
    unfold Avatar.create at made
    split_ifs at made with parses
    obtain rfl := Except.ok.inj made
    obtain rfl := Except.ok.inj some
    refine ⟨rfl, fun b mem => ?_⟩
    obtain rfl := Option.some.inj mem
    exact ⟨by simpa using filled, if_pos parses⟩

theorem births_loaded (clk : Clock) (raw : RawUser) (u : User)
    (h : PrismaUserMapper.toDomain host clk raw = .ok u) :
    raw.dateOfBirth.mapM (DateOfBirth.create host clk) = .ok u.dateOfBirth := by
  simp only [PrismaUserMapper.toDomain, User.reconstruct, bind_ok_iff] at h
  obtain ⟨_, -, _, -, birth, hb, _, -, _, -, _, -, _, -, _, -, done⟩ := h
  obtain rfl := Except.ok.inj done
  exact hb

/-- Whenever a row is loaded, it gives the same user. -/
theorem loads_alike (clk later : Clock) (raw : RawUser) (u v : User)
    (h : PrismaUserMapper.toDomain host clk raw = .ok u)
    (h' : PrismaUserMapper.toDomain host later raw = .ok v) : v = u := by
  have births := ((births_ok_iff host clk _ _).mp (births_loaded host clk raw u h)).1
  have births' := ((births_ok_iff host later _ _).mp (births_loaded host later raw v h')).1
  simp only [PrismaUserMapper.toDomain, User.reconstruct, bind_ok_iff] at h h'
  obtain ⟨name, hn, email, he, birth, -, avatar, ha, phone, hp, addresses, hs, id, hi, _, -, done⟩ := h
  obtain ⟨name', hn', email', he', birth', -, avatar', ha', phone', hp', addresses', hs', id', hi', _,
    -, done'⟩ := h'
  obtain rfl := Except.ok.inj done
  obtain rfl := Except.ok.inj done'
  obtain rfl := Except.ok.inj (hn.symm.trans hn')
  obtain rfl := Except.ok.inj (he.symm.trans he')
  obtain rfl := Except.ok.inj (ha.symm.trans ha')
  obtain rfl := Except.ok.inj (hp.symm.trans hp')
  obtain rfl := Except.ok.inj (hs.symm.trans hs')
  obtain rfl := Except.ok.inj (hi.symm.trans hi')
  obtain rfl : birth = birth' := births.trans births'.symm
  rfl

/-- A row that was loaded is loaded later, unless its user has grown too old. -/
theorem loads_later_iff (clk later : Clock) (raw : RawUser) (u : User)
    (h : PrismaUserMapper.toDomain host clk raw = .ok u) (order : clk.read 0 ≤ later.read 0) :
    PrismaUserMapper.toDomain host later raw = .ok u ↔ Young host later u.dateOfBirth := by
  obtain ⟨births, past⟩ := (births_ok_iff host clk _ _).mp (births_loaded host clk raw u h)
  constructor
  · intro loaded b given
    rw [births] at given
    obtain ⟨x, mem, rfl⟩ := Option.map_eq_some_iff.mp given
    exact (((births_ok_iff host later _ _).mp (births_loaded host later raw u loaded)).2 x mem).2
  · intro young
    have births_later : raw.dateOfBirth.mapM (DateOfBirth.create host later) =
        .ok u.dateOfBirth := by
      refine (births_ok_iff host later _ _).mpr ⟨births, fun x mem => ?_⟩
      refine ⟨(past x mem).1.trans order, young ⟨x⟩ ?_⟩
      rw [births]
      exact Option.map_eq_some_iff.mpr ⟨x, mem, rfl⟩
    simp only [PrismaUserMapper.toDomain, User.reconstruct, bind_ok_iff] at h ⊢
    obtain ⟨name, hn, email, he, birth, -, avatar, ha, phone, hp, addresses, hs, id, hi, _, valid,
      done⟩ := h
    obtain rfl := Except.ok.inj done
    exact ⟨name, hn, email, he, birth, births_later, avatar, ha, phone, hp, addresses, hs, id, hi,
      (), valid, rfl⟩

structure Loaded (clk : Clock) (u : User) : Prop where
  valid : User.Valid u.toUserProps
  events : u.domainEvents = []
  birth : ∀ b ∈ u.dateOfBirth, b.value ≤ clk.read 0
  avatar : ∀ a ∈ u.avatarUrl, a.url ≠ "" ∧ Avatar.create host a.url = .ok a

theorem loaded_of_toDomain (clk : Clock) (raw : RawUser) (u : User)
    (h : PrismaUserMapper.toDomain host clk raw = .ok u) : Loaded host clk u := by
  obtain ⟨births, past⟩ := (births_ok_iff host clk _ _).mp (births_loaded host clk raw u h)
  simp only [PrismaUserMapper.toDomain, User.reconstruct, bind_ok_iff] at h
  obtain ⟨name, -, email, -, birth, -, avatar, ha, phone, -, addresses, -, id, -, _, valid, done⟩ := h
  obtain rfl := Except.ok.inj done
  refine ⟨(User.validate_ok_iff _).mp valid, rfl, ?_, (avatars_made host _ _ ha).2⟩
  rw [births]
  intro b given
  obtain ⟨x, mem, rfl⟩ := Option.map_eq_some_iff.mp given
  exact (past x mem).1

structure Savable (clk : Clock) (v : User) : Prop where
  valid : User.Valid v.toUserProps
  birth : ∀ b ∈ v.dateOfBirth, b.value ≤ clk.read 0
  avatar : ∀ a ∈ v.avatarUrl, a.url ≠ "" ∧ Avatar.create host a.url = .ok a

theorem given_ok {α : Type} (make : String → Except Error α) (text : Option String)
    (value : Option (Option α)) (h : given make text = .ok value) (a : α) (mem : a ∈ value.join) :
    ∃ t ≠ "", make t = .ok a := by
  unfold given at h
  cases text with
  | none =>
    obtain rfl := Except.ok.inj h
    cases mem
  | some t =>
    dsimp only at h
    split_ifs at h with empty
    · obtain rfl := Except.ok.inj h
      cases mem
    · obtain ⟨b, made, rfl⟩ := (map_ok_iff _ _ _).mp h
      obtain rfl := Option.some.inj mem
      exact ⟨t, empty, made⟩

theorem updateData_made (parse : String → Option Date) (clk : Clock)
    (command : UpdateCurrentUserProfileCommand) (params : ProfileParams)
    (h : updateData host parse clk command = .ok params) :
    (∀ b ∈ params.dateOfBirth.join, b.value ≤ clk.read 0) ∧
      ∀ a ∈ params.avatarUrl.join, a.url ≠ "" ∧ Avatar.create host a.url = .ok a := by
  simp only [updateData, bind_ok_iff] at h
  obtain ⟨name, -, gender, -, birth, hb, avatar, ha, done⟩ := h
  obtain rfl := Except.ok.inj done
  constructor
  · intro b mem
    obtain ⟨text, -, made⟩ := given_ok _ _ _ hb b mem
    unfold DateOfBirth.fromString at made
    cases parsed : parse text with
    | none => simp [parsed] at made
    | some d =>
      rw [parsed] at made
      obtain ⟨rfl, past, -⟩ := (create_birth host clk d b).mp made
      exact past
  · intro a mem
    obtain ⟨text, filled, made⟩ := given_ok _ _ _ ha a mem
    have parses := made
    unfold Avatar.create at parses
    split_ifs at parses
    obtain rfl := Except.ok.inj parses
    exact ⟨filled, made⟩

theorem changed_savable (parse : String → Option Date) (loading clk : Clock)
    (command : UpdateCurrentUserProfileCommand) (params : ProfileParams)
    (phone : Option (Option PhoneNumber)) (u : User) (loaded : Loaded host loading u)
    (accepted : Accepted host parse clk command params phone)
    (allowed : Asks params phone → u.Modifiable) (order : loading.stop ≤ clk.start)
    (past : u.createdAt ≤ clk.start) : Savable host clk (changed clk params phone u) := by
  obtain ⟨-, d, dated, props⟩ := changed_props clk params phone u allowed
  obtain ⟨births, avatars⟩ := updateData_made host parse clk command params accepted.1
  have old_births : ∀ b ∈ u.dateOfBirth, b.value ≤ clk.read 0 := fun b mem =>
    (loaded.birth b mem).trans ((loading.stops 0).trans (order.trans (clk.starts 0)))
  have later : u.createdAt ≤ d := by
    obtain rfl | ⟨i, rfl⟩ := dated
    · exact loaded.valid.ordered
    · exact past.trans (clk.starts i)
  have valid : User.Valid { dialled phone (named params u.toUserProps) with updatedAt := d } := by
    cases phone with
    | none => exact { loaded.valid with ordered := later }
    | some number =>
      cases number with
      | none => exact ⟨loaded.valid.oneDefault, fun verified => absurd verified Bool.false_ne_true,
          rfl, loaded.valid.deletedAt, later⟩
      | some number => exact ⟨loaded.valid.oneDefault, fun _ => rfl, loaded.valid.verifiedAt,
          loaded.valid.deletedAt, later⟩
  have birth_kept : (dialled phone (named params u.toUserProps)).dateOfBirth =
      params.dateOfBirth.getD u.dateOfBirth := by cases phone <;> rfl
  have avatar_kept : (dialled phone (named params u.toUserProps)).avatarUrl =
      params.avatarUrl.getD u.avatarUrl := by cases phone <;> rfl
  refine ⟨props ▸ valid, ?_, ?_⟩
  · rw [props]
    dsimp only
    rw [birth_kept]
    exact StoredUsers.forall_getD _ _ _ births old_births
  · rw [props]
    dsimp only
    rw [avatar_kept]
    exact StoredUsers.forall_getD _ _ _ avatars loaded.avatar

/-- The row of a saved user gives it again, the name apart. -/
theorem reloaded_fields (later : Clock) (v w : User)
    (avatars : ∀ a ∈ v.avatarUrl, a.url ≠ "")
    (h : PrismaUserMapper.toDomain host later (PrismaUserMapper.toPersistence v) = .ok w) :
    Name.create v.name.getFullName = .ok w.name ∧ w.id = v.id ∧
      w.toUserProps = { v.toUserProps with name := w.name } := by
  have births := ((births_ok_iff host later _ _).mp (births_loaded host later _ w h)).1
  simp only [PrismaUserMapper.toDomain, PrismaUserMapper.toPersistence, User.reconstruct,
    bind_ok_iff, Email.create_getValue, PrismaUserMapper.phone_loaded,
    PrismaUserMapper.addresses_loaded, Except.ok.injEq, UserId.fromString_getValue,
    EnumMapper.toEntity_toPersistence, exists_eq_left'] at h
  obtain ⟨name, hn, birth, -, avatar, ha, _, -, done⟩ := h
  obtain rfl := Except.ok.inj done
  have kept : avatar = v.avatarUrl := by
    obtain ⟨same, -⟩ := avatars_made host _ _ ha
    rw [same]
    cases given : v.avatarUrl with
    | none => rfl
    | some a =>
      have filled : (some a.url).filter (· != "") = some a.url := by
        simp [Option.filter, avatars a given]
      rw [Option.map_some, filled]
      rfl
  have birth_kept : birth = v.dateOfBirth := by
    change birth = _ at births
    rw [births]
    show (v.dateOfBirth.map DateOfBirth.value).map DateOfBirth.mk = _
    cases v.dateOfBirth <;> rfl
  have gender_kept : (v.gender.map genderMapper.toPersistence).map genderMapper.toEntity =
      v.gender := by
    cases v.gender with
    | none => rfl
    | some g => exact congrArg some (genderMapper.toEntity_toPersistence g)
  refine ⟨hn, rfl, ?_⟩
  dsimp only
  rw [kept, birth_kept, gender_kept]

/-- The row of a saved user is read as it was shown just when its name makes itself again
and it has not grown too old. -/
theorem reads_back_iff (dates : DateHost) (clk later : Clock) (v : User)
    (savable : Savable host clk v) (order : clk.read 0 ≤ later.read 0) :
    (∃ w, PrismaUserMapper.toDomain host later (PrismaUserMapper.toPersistence v) = .ok w ∧
        w.profileResult dates = v.profileResult dates) ↔
      v.name.Stable ∧ Young host later v.dateOfBirth := by
  have avatars := fun a mem => (savable.avatar a mem).1
  constructor
  · rintro ⟨w, loaded, same⟩
    obtain ⟨made, -, -⟩ := reloaded_fields host later v w avatars loaded
    have spelled : w.name.getFullName = v.name.getFullName := congrArg ProfileResult.fullName same
    rw [Name.ext _ _ spelled] at made
    refine ⟨(Name.create_getFullName_iff v.name).mp made, fun b given => ?_⟩
    obtain ⟨-, births, -, -⟩ :=
      (PrismaUserMapper.toDomain_toPersistence_iff host later v).mp ⟨w, loaded⟩
    obtain ⟨birth, again⟩ := births b given
    exact ((create_birth host later _ _).mp again).2.2
  · rintro ⟨stable, young⟩
    have made := (Name.create_getFullName_iff v.name).mpr stable
    obtain ⟨w, loaded⟩ := (PrismaUserMapper.toDomain_toPersistence_iff host later v).mpr
      ⟨⟨v.name, made⟩, fun b given => ⟨b, (create_birth host later _ _).mpr
          ⟨rfl, (savable.birth b given).trans order, young b given⟩⟩,
        fun a given _ => ⟨a, (savable.avatar a given).2⟩,
        (User.validate_ok_iff _).mpr savable.valid⟩
    obtain ⟨again, id, props⟩ := reloaded_fields host later v w avatars loaded
    obtain same := Except.ok.inj (made.symm.trans again)
    refine ⟨w, loaded, ?_⟩
    rw [← same] at props
    unfold User.profileResult
    rw [id, props]

end Loads

section Requests

variable (host : Host) (parse : String → Option Date) (dates : DateHost)
  (toLowerCase : String → String) (loading clk : Clock)
  (command : UpdateCurrentUserProfileCommand) (userId : String) (s : UserStore)
  (coherent : Coherent idKey idQuery s)

include coherent

theorem findById_row : (UserCaches.PrismaUserRepository.findById userId s).1.row =
    (s.table.findById userId).map fun row => .profile row.userColumns :=
  (readsExact_iff s).mpr coherent .profile userId

theorem findUser_ok_iff (u : User) :
    (PrismaUserRepository.findUser host loading userId s).1 = .ok (some u) ↔
      ∃ row, s.table.findById userId = some row ∧
        PrismaUserMapper.toDomain host loading row.userColumns = .ok u := by
  unfold PrismaUserRepository.findUser
  dsimp only
  rw [findById_row userId s coherent]
  cases s.table.findById userId with
  | none => exact ⟨fun h => absurd (Except.ok.inj h).symm (Option.some_ne_none _),
      fun ⟨_, h, _⟩ => absurd h.symm (Option.some_ne_none _)⟩
  | some row =>
    show (PrismaUserMapper.toDomain host loading row.userColumns).map some = _ ↔ _
    rw [map_ok_iff]
    simp only [Option.some.injEq, exists_eq_right, exists_eq_left']

theorem found_store : (PrismaUserRepository.findUser host loading userId s).2.table = s.table ∧
    Coherent idKey idQuery (PrismaUserRepository.findUser host loading userId s).2 ∧
    (PrismaUserRepository.findUser host loading userId s).2.cached (.byId .profile userId) =
      (s.table.findById userId).map fun row => .profile row.userColumns := by
  refine ⟨wrap_table _ _ _, find_coherent .profile userId s coherent, ?_⟩
  rw [← findById_row userId s coherent]
  exact wrap_filled _ _ _

omit coherent in
theorem save_writes (row : UserRow) (u v : User) (found : s.table.findById userId = some row)
    (loaded : PrismaUserMapper.toDomain host loading row.userColumns = .ok u) (id : v.id = u.id)
    (email : v.email = u.email) :
    ∃ t', s.table.write (row.saveUser v) = .ok t' ∧ UserCaches.userRow v s.table = row.saveUser v ∧
      (row.saveUser v).id = userId ∧ t'.rows = put UserRow.id (row.saveUser v) s.table.rows := by
  obtain ⟨mem, rfl⟩ := UsersTable.findById_some userId s.table row found
  obtain ⟨-, emails, ids, -⟩ := PrismaUserMapper.toDomain_shared host loading _ u loaded
  have same_id : (row.saveUser v).id = row.id := by
    show v.id.getValue = _
    rw [id, ids]
    rfl
  have same_email : (row.saveUser v).email = row.email := by
    show v.email.getValue = _
    rw [email, emails]
    rfl
  have written : UserCaches.userRow v s.table = row.saveUser v := by
    unfold UserCaches.userRow
    rw [show v.id.getValue = row.id from same_id, found]
    rfl
  have unique : UniqueColumns (put UserRow.id (row.saveUser v) s.table.rows) :=
    ⟨uniqueBy_put _ _ _ s.table.unique.id s.table.unique.id row _ mem same_id (by rw [same_id]),
      uniqueBy_put _ _ _ s.table.unique.id s.table.unique.email row _ mem same_id
        (by rw [same_email]),
      uniqueBy_put _ _ _ s.table.unique.id s.table.unique.provider row _ mem same_id rfl⟩
  exact ⟨⟨_, unique⟩, write_table_ok _ _ unique, written, same_id, rfl⟩

def Acceptable : Prop :=
  ∃ row u params phone, s.table.findById userId = some row ∧
    PrismaUserMapper.toDomain host loading row.userColumns = .ok u ∧
    Accepted host parse clk command params phone ∧ (Asks params phone → u.Modifiable)

/-- The one row of the user is replaced. It has the given fields, a date of this request if
anything was changed, and all else as it was loaded; the columns of the other module are
not written. -/
structure Updates (result : ProfileResult) (t t' : UsersTable) : Prop where
  updated : ∃ row u v params phone d, t.findById userId = some row ∧
    PrismaUserMapper.toDomain host loading row.userColumns = .ok u ∧
    Accepted host parse clk command params phone ∧ (Asks params phone → u.Modifiable) ∧
    v.id = u.id ∧ DatedBy clk u d ∧
    v.toUserProps = { dialled phone (named params u.toUserProps) with updatedAt := d } ∧
    result = v.profileResult dates ∧ t'.rows = put UserRow.id (row.saveUser v) t.rows

theorem execute_accepted (row : UserRow) (u : User) (params : ProfileParams)
    (phone : Option (Option PhoneNumber)) (found : s.table.findById userId = some row)
    (loaded : PrismaUserMapper.toDomain host loading row.userColumns = .ok u)
    (accepted : Accepted host parse clk command params phone)
    (allowed : Asks params phone → u.Modifiable) :
    ∃ s', UserCaches.PrismaUserRepository.save toLowerCase (changed clk params phone u)
        (PrismaUserRepository.findUser host loading userId s).2 = .ok s' ∧
      execute host parse clk command toLowerCase dates loading userId s =
        (.ok ((changed clk params phone u).profileResult dates), s') ∧
      s'.table.findById userId = some (row.saveUser (changed clk params phone u)) ∧
      s'.table.rows = put UserRow.id (row.saveUser (changed clk params phone u)) s.table.rows := by
  obtain ⟨table, -, -⟩ := found_store host loading userId s coherent
  obtain ⟨id, d, -, props⟩ := changed_props clk params phone u allowed
  have email : (changed clk params phone u).email = u.email := by
    rw [props]
    cases phone <;> rfl
  have loads := (findUser_ok_iff host loading userId s coherent u).mpr ⟨row, found, loaded⟩
  have changes := (change_ok_iff host parse clk command u _).mpr
    ⟨params, phone, accepted, allowed, rfl⟩
  unfold execute
  generalize PrismaUserRepository.findUser host loading userId s = at_hand at *
  obtain ⟨answer, s₁⟩ := at_hand
  dsimp only at table loads ⊢
  rw [← table] at found
  obtain ⟨t', written, row_of, own, rows⟩ := save_writes host loading userId s₁ row u _ found loaded
    id email
  have saved : UserCaches.PrismaUserRepository.save toLowerCase (changed clk params phone u) s₁ =
      .ok ⟨t', _⟩ := (UserCaches.write_ok_iff toLowerCase _ _ s₁ _).mpr
    ⟨t', row_of ▸ written, rfl⟩
  refine ⟨_, saved, ?_, ?_, ?_⟩
  · rw [loads]
    simp only [bind, Except.bind, changes, saved]
  · rw [← own]
    exact UsersTable.findById_write_self _ _ _ written
  · rw [← table]
    exact rows

def nameOnly (fullName : String) : UpdateCurrentUserProfileCommand :=
  ⟨some fullName, none, none, none, none⟩

omit coherent in
theorem current_profile_iff (shown : ProfileResult) :
    (∃ full, (GetCurrentUserProfileUseCase.execute host dates loading userId s).1 = .ok full ∧
        full.toProfileResult = shown) ↔
      ∃ w, (PrismaUserRepository.findUser host loading userId s).1 = .ok (some w) ∧
        w.profileResult dates = shown := by
  unfold GetCurrentUserProfileUseCase.execute
  dsimp only
  constructor
  · rintro ⟨full, answered, same⟩
    obtain ⟨found, looked, answered⟩ := (bind_ok_iff _ _ _).mp answered
    cases found with
    | none => cases answered
    | some w =>
      obtain rfl := Except.ok.inj answered
      exact ⟨w, looked, same⟩
  · rintro ⟨w, looked, same⟩
    exact ⟨_, (bind_ok_iff _ _ _).mpr ⟨some w, looked, rfl⟩, same⟩

omit coherent in
theorem findUser_hit (raw : RawUser) (cached : s.cached (.byId .profile userId) =
    some (.profile raw)) : (PrismaUserRepository.findUser host loading userId s).1 =
      (PrismaUserMapper.toDomain host loading raw).map some := by
  unfold PrismaUserRepository.findUser UserCaches.PrismaUserRepository.findById
  rw [wrap_hit (UserCache.getUserByIdKey userId) _ s _ cached]
  rfl

theorem save_unannounced (u : User) (s' : UserStore) (quiet : u.domainEvents = [])
    (saved : UserCaches.PrismaUserRepository.save toLowerCase u
      (PrismaUserRepository.findUser host loading userId s).2 = .ok s') :
    s'.cached (.byId .profile userId) =
      (s.table.findById userId).map fun row => .profile row.userColumns := by
  obtain ⟨-, -, entry⟩ := found_store host loading userId s coherent
  obtain ⟨t', -, rfl⟩ := (UserCaches.write_ok_iff toLowerCase _ _ _ s').mp saved
  have silent : UserCaches.announcedUser u = [] := by
    unfold UserCaches.announcedUser
    rw [quiet]
    rfl
  rw [silent]
  exact (congrFun (drop_nil _) _).trans entry

theorem save_announced (v : User) (s' : UserStore) (announced : v.Announced)
    (saved : UserCaches.PrismaUserRepository.save toLowerCase v
      (PrismaUserRepository.findUser host loading userId s).2 = .ok s') :
    Coherent idKey idQuery s' := by
  obtain ⟨-, coherent₁, -⟩ := found_store host loading userId s coherent
  have kept := (perform_exact_iff toLowerCase _ (.saveUser v) coherent₁).mpr
    (announcedUser_keepsIds v _ announced)
  unfold UserOperation.perform at kept
  dsimp only at kept
  rw [saved] at kept
  exact kept

/-- The profile that an update has shown is the one that is read next just when the name that
was saved makes itself again, or nothing was changed, and the user has not grown too old. -/
theorem shown_is_read_iff (later : Clock) (u v : User)
    (loads : (PrismaUserRepository.findUser host loading userId s).1 = .ok (some u))
    (changes : change host parse clk command u = .ok v) (order : loading.stop ≤ clk.start)
    (next : clk.stop ≤ later.start) (past : u.createdAt ≤ clk.start) : ∃ s',
      execute host parse clk command toLowerCase dates loading userId s =
        (.ok (v.profileResult dates), s') ∧
      ((∃ full, (GetCurrentUserProfileUseCase.execute host dates later userId s').1 = .ok full ∧
          full.toProfileResult = v.profileResult dates) ↔
        (v = u ∨ v.name.Stable) ∧ Young host later v.dateOfBirth) := by
  obtain ⟨row, found, loaded⟩ := (findUser_ok_iff host loading userId s coherent u).mp loads
  obtain ⟨params, phone, accepted, allowed, rfl⟩ :=
    (change_ok_iff host parse clk command u v).mp changes
  have known := loaded_of_toDomain host loading _ u loaded
  have savable := changed_savable host parse loading clk command params phone u known accepted
    allowed order past
  obtain ⟨s', saved, done, written, -⟩ := execute_accepted host parse dates toLowerCase loading clk
    command userId s coherent row u params phone found loaded accepted allowed
  have in_order : clk.read 0 ≤ later.read 0 := (clk.stops 0).trans (next.trans (later.starts 0))
  refine ⟨s', done, ?_⟩
  rw [current_profile_iff]
  obtain announced | same := changed_announced clk params phone u allowed
  · -- the entries are dropped, and the row is read
    have coherent' := save_announced host toLowerCase loading userId s coherent _ s' announced saved
    have moved : changed clk params phone u ≠ u := by
      intro same
      obtain ⟨e, mem, -⟩ := same ▸ announced
      unfold UserCaches.announcedUser at mem
      rw [known.events] at mem
      exact List.not_mem_nil mem
    simp only [findUser_ok_iff host later userId s' coherent', written, Option.some.injEq,
      exists_eq_left', moved, false_or]
    exact reads_back_iff host dates clk later _ savable in_order
  · -- the entry of the read is still there
    have entry := save_unannounced host toLowerCase loading userId s coherent u s' known.events
      (same ▸ saved)
    rw [found] at entry
    rw [same, findUser_hit host later userId s' _ entry]
    simp only [map_ok_iff, Option.some.injEq, exists_eq_right, true_or, true_and]
    rw [← loads_later_iff host loading later _ u loaded
      ((loading.stops 0).trans (order.trans ((clk.starts 0).trans in_order)))]
    constructor
    · rintro ⟨w, again, -⟩
      rwa [← loads_alike host loading later _ u w loaded again]
    · intro again
      exact ⟨u, again, rfl⟩

def renamed : ProfileResult where
  id := UserId.sample.value
  fullName := "Jane Doe"
  email := "john.doe@example.com"
  gender := none
  dateOfBirth := none
  avatarUrl := none
  phoneNumber := none
  isPhoneVerified := false
  role := .customer
  status := .active
  updatedAt := 12

omit coherent in
theorem renamed_customer_read : ∃ s',
    execute UserRow.plainHost (fun _ => none) (.still 12) (nameOnly "Jane Doe") lowerAscii
        Calendar.host (.still 11) UserId.sample.value (.cold AccessTokens.sampleUsers) =
      (.ok renamed, s') ∧
    ∃ full, (GetCurrentUserProfileUseCase.execute UserRow.plainHost Calendar.host (.still 13)
        UserId.sample.value s').1 = .ok full ∧ full.toProfileResult = renamed := by
  obtain ⟨s', done, shown⟩ := shown_is_read_iff UserRow.plainHost (fun _ => none) Calendar.host
    lowerAscii (.still 11) (.still 12) (nameOnly "Jane Doe") UserId.sample.value
    (.cold AccessTokens.sampleUsers) (cold_coherent AccessTokens.sampleUsers) (.still 13) _ _ rfl rfl
    (by decide) (by decide) (by decide)
  exact ⟨s', done, shown.mpr ⟨Or.inr (by decide), fun _ mem =>
    absurd mem.symm (Option.some_ne_none _)⟩⟩

end Requests

end ProfileUpdate

end KeramikStore
