import KeramikStore.Auth.Validity
import KeramikStore.Users.UserMapper

/-!
# One row for two aggregates

A row of the users table with every column that either aggregate reads. Each
repository reads its own columns and writes its own, and keeps the others. The
profile aggregate moves the status without looking at the verification and the
sessions, so what it writes need not be loadable by the auth mapper; the exact
condition is stated for each of its commands.
-/

set_option autoImplicit false

namespace KeramikStore
open Library Library.Text

structure UserRow where
  id : String
  email : String
  emailVerified : Bool
  emailVerifiedAt : Option Date
  password : Option String
  fullName : String
  gender : Option PrismaGender
  dateOfBirth : Option Date
  phoneNumber : Option String
  phoneVerified : Bool
  phoneVerifiedAt : Option Date
  avatarUrl : Option String
  role : PrismaRole
  status : PrismaUserStatus
  refreshTokens : List String
  createdAt : Date
  updatedAt : Date
  deletedAt : Option Date
  lastLoginAt : Option Date
  authProviders : List RawAuthProvider
  addresses : List RawAddress
deriving DecidableEq

namespace UserRow

def authColumns (row : UserRow) : RawAuthUser where
  id := row.id
  fullName := row.fullName
  email := row.email
  emailVerified := row.emailVerified
  emailVerifiedAt := row.emailVerifiedAt
  password := row.password
  role := row.role
  status := row.status
  refreshTokens := row.refreshTokens
  lastLoginAt := row.lastLoginAt
  createdAt := row.createdAt
  updatedAt := row.updatedAt
  deletedAt := row.deletedAt
  authProviders := row.authProviders

def userColumns (row : UserRow) : RawUser where
  id := row.id
  fullName := row.fullName
  email := row.email
  dateOfBirth := row.dateOfBirth
  gender := row.gender
  avatarUrl := row.avatarUrl
  phoneNumber := row.phoneNumber
  phoneVerified := row.phoneVerified
  phoneVerifiedAt := row.phoneVerifiedAt
  role := row.role
  status := row.status
  createdAt := row.createdAt
  updatedAt := row.updatedAt
  deletedAt := row.deletedAt
  addresses := row.addresses

def writeUser (raw : RawUser) (row : UserRow) : UserRow :=
  { row with
    id := raw.id, fullName := raw.fullName, email := raw.email, dateOfBirth := raw.dateOfBirth,
    gender := raw.gender, avatarUrl := raw.avatarUrl, phoneNumber := raw.phoneNumber,
    phoneVerified := raw.phoneVerified, phoneVerifiedAt := raw.phoneVerifiedAt, role := raw.role,
    status := raw.status, createdAt := raw.createdAt, updatedAt := raw.updatedAt,
    deletedAt := raw.deletedAt, addresses := raw.addresses }

def writeAuthUser (raw : RawAuthUser) (row : UserRow) : UserRow :=
  { row with
    id := raw.id, fullName := raw.fullName, email := raw.email,
    emailVerified := raw.emailVerified, emailVerifiedAt := raw.emailVerifiedAt,
    password := raw.password, role := raw.role, status := raw.status,
    refreshTokens := raw.refreshTokens, lastLoginAt := raw.lastLoginAt,
    createdAt := raw.createdAt, updatedAt := raw.updatedAt, deletedAt := raw.deletedAt,
    authProviders := raw.authProviders }

end UserRow

namespace UserCommand

def lowers : UserCommand → Bool
  | deactivate | suspend | delete => true
  | _ => false

def givenName : UserCommand → Option Name
  | updateProfile params => params.name
  | _ => none

theorem guarded_returns (checks : Except Error Unit) (body : User → User) (u : User)
    (h : (User.guarded checks body u).Returns) :
    checks = .ok () ∧ (User.guarded checks body u).state = body u := by
  unfold User.guarded at *
  cases checks with
  | ok _ => exact ⟨rfl, rfl⟩
  | error e => cases h

structure Moves (c : UserCommand) (clk : Clock) (u v : User) : Prop where
  id : v.id = u.id
  email : v.email = u.email
  role : v.role = u.role
  createdAt : v.createdAt = u.createdAt
  name : v.name = c.givenName.getD u.name
  updatedAt : v.updatedAt = u.updatedAt ∨ ∃ i, v.updatedAt = clk.read i
  deletedAt : AuthCommand.Kept clk u.deletedAt v.deletedAt
  stays_active : c.lowers = false → u.status = .active → v.status = .active
  leaves_active : c.lowers = true → v.status ≠ .active
  deleted_dated : u.deletedAt.isSome = u.status.isDeleted →
    v.deletedAt.isSome = v.status.isDeleted

theorem moves_of_same (c : UserCommand) (clk : Clock) (u v : User) (hid : v.id = u.id)
    (hemail : v.email = u.email) (hrole : v.role = u.role) (hcreated : v.createdAt = u.createdAt)
    (hname : v.name = c.givenName.getD u.name)
    (hupdated : v.updatedAt = u.updatedAt ∨ ∃ i, v.updatedAt = clk.read i)
    (hstatus : v.status = u.status) (hdeleted : v.deletedAt = u.deletedAt)
    (hlowers : c.lowers = false) : Moves c clk u v where
  id := hid
  email := hemail
  role := hrole
  createdAt := hcreated
  name := hname
  updatedAt := hupdated
  deletedAt := Or.inr (Or.inl hdeleted)
  stays_active _ h := hstatus.trans h
  leaves_active h := absurd h (by simp [hlowers])
  deleted_dated h := by rw [hstatus, hdeleted, h]

theorem updateProfile_moves (params : ProfileParams) (clk : Clock) (u : User)
    (h : (u.updateProfile params clk).Returns) :
    Moves (updateProfile params) clk u (u.updateProfile params clk).state := by
  obtain ⟨-, hs⟩ := guarded_returns _ _ u h
  have hname : (params.name.filter fun n => u.name != n).getD u.name = params.name.getD u.name := by
    cases params.name with
    | none => rfl
    | some n => by_cases hn : u.name = n <;> simp [Option.filter, hn]
  change Moves _ clk u (User.guarded _ _ u).state
  rw [hs]
  dsimp only
  split_ifs
  · exact moves_of_same _ clk u _ rfl rfl rfl rfl hname (Or.inr ⟨0, rfl⟩) rfl rfl rfl
  · exact moves_of_same _ clk u _ rfl rfl rfl rfl hname (Or.inl rfl) rfl rfl rfl

theorem updatePhoneNumber_moves (c : UserCommand) (phone : Option PhoneNumber) (clk : Clock)
    (u : User) (hc : c.lowers = false) (hn : c.givenName = none)
    (h : (u.updatePhoneNumber phone clk).Returns) :
    Moves c clk u (u.updatePhoneNumber phone clk).state := by
  obtain ⟨-, hs⟩ := guarded_returns _ _ u h
  change Moves _ clk u (User.guarded _ _ u).state
  rw [hs]
  refine moves_of_same c clk u _ ?_ ?_ ?_ ?_ ?_ (Or.inr ⟨0, rfl⟩) ?_ ?_ hc
  all_goals
    simp only [User.addDomainEvent, User.applyChange, hn]
    split_ifs <;> rfl

theorem verifyPhone_moves (clk : Clock) (u : User) (h : (u.verifyPhone clk).Returns) :
    Moves verifyPhone clk u (u.verifyPhone clk).state := by
  unfold User.verifyPhone at *
  cases hg : u.ensureCanBeModified with
  | error e =>
    rw [hg] at h
    exact absurd h (Outcome.not_returns_threw _ _)
  | ok _ =>
    rw [hg] at h
    cases hp : u.phoneNumber with
    | none =>
      rw [hp] at h
      exact absurd h (Outcome.not_returns_threw _ _)
    | some phone =>
      rw [hp] at h
      by_cases hv : u.phoneVerified = true
      · simp [hv] at h
      · simp only [hv]
        exact moves_of_same _ clk u _ rfl rfl rfl rfl rfl (Or.inr ⟨1, rfl⟩) rfl rfl rfl

theorem guarded_moves (c : UserCommand) (clk : Clock) (u : User) (checks : Except Error Unit)
    (body : User → User) (h : (User.guarded checks body u).Returns) (hb : Moves c clk u (body u)) :
    Moves c clk u (User.guarded checks body u).state := by
  rw [(guarded_returns checks body u h).2]
  exact hb

theorem transition_moves (c : UserCommand) (checks : Except Error Unit) (status : Status)
    (event : String → Date → UserEvent) (clk : Clock) (u : User) (hn : c.givenName = none)
    (hto : status ≠ .deleted) (hfrom : checks = .ok () → u.status ≠ .deleted)
    (hl : c.lowers = false → status = .active) (ha : c.lowers = true → status ≠ .active)
    (h : (User.transition checks status event clk u).Returns) :
    Moves c clk u (User.transition checks status event clk u).state := by
  obtain ⟨hc, -⟩ := guarded_returns _ _ u h
  refine guarded_moves c clk u _ _ h {
    id := rfl, email := rfl, role := rfl, createdAt := rfl
    name := by rw [hn]; rfl
    updatedAt := Or.inr ⟨0, rfl⟩
    deletedAt := Or.inr (Or.inl rfl)
    stays_active := fun hlow _ => hl hlow
    leaves_active := ha
    deleted_dated := fun hd => ?_ }
  have hu : u.status.isDeleted = false := (Status.isDeleted_eq_false_iff _).mpr (hfrom hc)
  have hs : status.isDeleted = false := (Status.isDeleted_eq_false_iff _).mpr hto
  change u.deletedAt.isSome = status.isDeleted
  rw [hd, hu, hs]

theorem delete_moves (clk : Clock) (u : User) (h : (u.delete clk).Returns) :
    Moves delete clk u (u.delete clk).state :=
  guarded_moves _ clk u _ _ h {
    id := rfl, email := rfl, role := rfl, createdAt := rfl, name := rfl
    updatedAt := Or.inr ⟨1, rfl⟩
    deletedAt := Or.inr (Or.inr ⟨0, rfl⟩)
    stays_active := nofun
    leaves_active := nofun
    deleted_dated := fun _ => rfl }

theorem restore_moves (clk : Clock) (u : User) (h : (u.restore clk).Returns) :
    Moves restore clk u (u.restore clk).state := by
  obtain ⟨hc, -⟩ := guarded_returns _ _ u h
  have hdel : u.status = .deleted := by
    simpa [raise_ok_iff] using hc
  exact guarded_moves _ clk u _ _ h {
    id := rfl, email := rfl, role := rfl, createdAt := rfl, name := rfl
    updatedAt := Or.inr ⟨0, rfl⟩
    deletedAt := Or.inl rfl
    stays_active := fun _ ha => absurd (hdel.symm.trans ha) (by decide)
    leaves_active := nofun
    deleted_dated := fun _ => rfl }

theorem exec_moves (host : Host) (c : UserCommand) (clk : Clock) (u : User)
    (h : (c.exec host clk u).Returns) : Moves c clk u (c.exec host clk u).state := by
  cases c with
  | updateProfile params => exact updateProfile_moves params clk u h
  | updatePhoneNumber p => exact updatePhoneNumber_moves _ p clk u rfl rfl h
  | clearPhoneNumber => exact updatePhoneNumber_moves _ none clk u rfl rfl h
  | verifyPhone => exact verifyPhone_moves clk u h
  | unverifyPhone | addAddress a | updateAddress i a | removeAddress i =>
    exact guarded_moves _ clk u _ _ h
      (moves_of_same _ clk u _ rfl rfl rfl rfl rfl (Or.inr ⟨0, rfl⟩) rfl rfl rfl)
  | activate =>
    refine transition_moves _ _ _ _ clk u rfl (by decide) (fun hc => ?_) (fun _ => rfl) nofun h
    simp only [raise_ok_iff, List.forall_mem_cons] at hc
    simpa using hc.2.1
  | deactivate | suspend =>
    refine transition_moves _ _ _ _ clk u rfl (by decide) (fun hc => ?_) nofun (by decide) h
    simp only [raise_ok_iff, List.forall_mem_cons] at hc
    simpa using hc.2.1
  | unsuspend =>
    refine transition_moves _ _ _ _ clk u rfl (by decide) (fun hc => ?_) (fun _ => rfl) nofun h
    have hsus : u.status = .suspended := by
      simpa [raise_ok_iff] using hc
    simp [hsus]
  | delete => exact delete_moves clk u h
  | restore => exact restore_moves clk u h

end UserCommand

namespace UserRow

open UserCommand

def saveUser (row : UserRow) (u : User) : UserRow :=
  row.writeUser (PrismaUserMapper.toPersistence u)

def moved (p : AuthUserProps) (name : Name) (v : User) : AuthUserProps :=
  { p with name := name, email := v.email, role := v.role, status := v.status,
           createdAt := v.createdAt, updatedAt := v.updatedAt, deletedAt := v.deletedAt }

theorem propsOf_saveUser (row : UserRow) (v : User) (name name' : Name) (email : Email) :
    PrismaAuthUserMapper.propsOf (row.saveUser v).authColumns name' v.email =
      moved (PrismaAuthUserMapper.propsOf row.authColumns name email) name' v := by
  simp only [PrismaAuthUserMapper.propsOf, moved, saveUser, writeUser, authColumns,
    PrismaUserMapper.toPersistence, EnumMapper.toEntity_toPersistence]

/-- The auth mapper loads a saved row just when it accepts the saved name and
what it reads validates. -/
theorem loads_saveUser_iff (row : UserRow) (v : User) (name : Name) (email : Email) (clk : Clock) :
    (∃ w, PrismaAuthUserMapper.toDomain .database clk (row.saveUser v).authColumns = .ok w) ↔
      ∃ name', Name.create v.name.getFullName = .ok name' ∧
        (moved (PrismaAuthUserMapper.propsOf row.authColumns name email) name' v).validate
          .database clk = .ok () := by
  simp only [PrismaAuthUserMapper.toDomain_ok_iff]
  constructor
  · rintro ⟨_, name', email', id, hn, he, -, hv, -⟩
    obtain rfl := Except.ok.inj ((Email.create_getValue v.email).symm.trans he)
    exact ⟨name', hn, by rwa [propsOf_saveUser row v name name' email] at hv⟩
  · rintro ⟨name', hn, hv⟩
    exact ⟨_, name', v.email, v.id, hn, Email.create_getValue _, UserId.fromString_getValue _,
      by rwa [propsOf_saveUser row v name name' email], rfl⟩

theorem moved_dated (c : UserCommand) (clk : Clock) (u v : User) (p : AuthUserProps) (name : Name)
    (now : Date) (m : Moves c clk u v) (hd : Dated now p) (hn : now ≤ clk.start)
    (hcreated : p.createdAt = u.createdAt) (hupdated : p.updatedAt = u.updatedAt)
    (hdeleted : p.deletedAt = u.deletedAt) : Dated clk.stop (moved p name v) := by
  have stops : now ≤ clk.stop := hn.trans clk.start_le_stop
  have moves : v.updatedAt = p.updatedAt ∨ ∃ i, v.updatedAt = clk.read i := by
    rw [hupdated]
    exact m.updatedAt
  obtain ⟨created, updated⟩ := AuthCommand.updated_between clk now p.createdAt p.updatedAt
    v.updatedAt moves hd.created hd.updated hn
  exact {
    verified := fun d h => (hd.verified d h).trans stops
    login := fun d h => (hd.login d h).trans stops
    deleted := AuthCommand.kept_before clk now _ _ m.deletedAt hn (hdeleted ▸ hd.deleted)
    created := (m.createdAt.trans hcreated.symm).trans_le created
    updated := updated }

/-- A move of the profile keeps the coupling unless it takes an account with a
verified e-mail or with sessions out of the active status. -/
theorem moved_coupled_iff (c : UserCommand) (clk : Clock) (u v : User) (p : AuthUserProps)
    (name : Name) (m : Moves c clk u v) (hc : Coupled p) (hstatus : p.status = u.status)
    (hdeleted : p.deletedAt = u.deletedAt) :
    Coupled (moved p name v) ↔
      ¬ (c.lowers = true ∧ (p.emailVerified = true ∨ p.refreshTokens ≠ [])) := by
  constructor
  · rintro h ⟨hl, hv | ht⟩
    · exact m.leaves_active hl (h.verified_active hv)
    · exact m.leaves_active hl (h.tokens_active ht)
  · intro h
    have active : p.status = .active → p.emailVerified = true ∨ p.refreshTokens ≠ [] →
        v.status = .active := by
      intro ha hor
      have hl : c.lowers = false := by
        by_contra hne
        exact h ⟨by simpa using hne, hor⟩
      exact m.stays_active hl (hstatus ▸ ha)
    exact {
      providers_verified := hc.providers_verified
      verified_active := fun hv => active (hc.verified_active hv) (Or.inl hv)
      verified_dated := hc.verified_dated
      tokens_active := fun ht => active (hc.tokens_active ht) (Or.inr ht)
      tokens_text := hc.tokens_text
      deleted_dated := m.deleted_dated (hdeleted ▸ hstatus ▸ hc.deleted_dated) }

theorem createName_iff (n : Name) :
    (∃ name, Name.create n.getFullName = .ok name) ↔ Name.validate n.fullName = .ok () := by
  simp only [Name.create_ok_iff, Name.getFullName]
  constructor
  · rintro ⟨-, h, -⟩
    exact h
  · intro h
    exact ⟨⟨Name.sanitaize n.fullName, _, h, rfl⟩, h, rfl⟩

/-- A row that both aggregates load, after a profile command that returned and
was saved, is loaded by the auth mapper at any later time exactly when the saved
name is accepted again and the command did not take an account with a verified
e-mail or with sessions out of the active status. -/
theorem saved_row_loads_iff (host : Host) (c : UserCommand) (row : UserRow) (a : AuthUser)
    (u : User) (authClk userClk clk later : Clock)
    (ha : PrismaAuthUserMapper.toDomain .database authClk row.authColumns = .ok a)
    (hu : PrismaUserMapper.toDomain host userClk row.userColumns = .ok u)
    (hreturns : (c.exec host clk u).Returns) (hbefore : authClk.stop ≤ clk.start)
    (hafter : clk.stop ≤ later.start) :
    (∃ w, PrismaAuthUserMapper.toDomain .database later
      (row.saveUser (c.exec host clk u).state).authColumns = .ok w) ↔
      Name.validate (c.givenName.getD u.name).fullName = .ok () ∧
        ¬ (c.lowers = true ∧ (row.emailVerified = true ∨ row.refreshTokens ≠ [])) := by
  obtain ⟨name, email, id, -, -, -, hv, -⟩ := (PrismaAuthUserMapper.toDomain_ok_iff _ _ _ _).mp ha
  obtain ⟨-, -, -, -, hstatus, hcreated, hupdated, hdeleted⟩ :=
    PrismaUserMapper.toDomain_shared host userClk _ u hu
  have m := exec_moves host c clk u hreturns
  have hc := ((validate_ok_iff _ _ _).mp hv).1
  have hd := dated_of_validate authClk _ hv
  have later_iff : ∀ n, (moved (PrismaAuthUserMapper.propsOf row.authColumns name email) n
      (c.exec host clk u).state).validate .database later = .ok () ↔
      ¬ (c.lowers = true ∧ (row.emailVerified = true ∨ row.refreshTokens ≠ [])) := by
    intro n
    have dated := moved_dated c clk u _ _ n _ m hd hbefore hcreated.symm hupdated.symm hdeleted.symm
    rw [validate_iff_coupled _ later _ _ dated hafter]
    exact moved_coupled_iff c clk u _ _ n m hc hstatus.symm hdeleted.symm
  rw [loads_saveUser_iff row _ name email later]
  simp only [later_iff]
  rw [exists_and_right, createName_iff, m.name]

def sample : UserRow where
  id := UserId.sample.value
  email := "john.doe@example.com"
  emailVerified := true
  emailVerifiedAt := some 5
  password := some "h"
  fullName := "John Doe"
  gender := none
  dateOfBirth := none
  phoneNumber := none
  phoneVerified := false
  phoneVerifiedAt := none
  avatarUrl := none
  role := .CUSTOMER
  status := .ACTIVE
  refreshTokens := ["t1"]
  createdAt := 0
  updatedAt := 6
  deletedAt := none
  lastLoginAt := some 6
  authProviders := []
  addresses := []

def plainHost : Host := ⟨fun _ => true, fun now => now - 3786912000000, fun _ => ""⟩

def newcomer : UserRow :=
  { sample with
    emailVerified := false, emailVerifiedAt := none, status := .INACTIVE, refreshTokens := [] }

theorem suspended_newcomer_loads :
    ∃ a u w, PrismaAuthUserMapper.toDomain .database (.still 10) newcomer.authColumns = .ok a ∧
      PrismaUserMapper.toDomain plainHost (.still 11) newcomer.userColumns = .ok u ∧
      PrismaAuthUserMapper.toDomain .database (.still 13)
        (newcomer.saveUser (UserCommand.suspend.exec plainHost (.still 12) u).state).authColumns =
          .ok w := by
  obtain ⟨w, hw⟩ := (saved_row_loads_iff plainHost .suspend newcomer _ _ (.still 10) (.still 11)
    (.still 12) (.still 13) rfl rfl rfl (by decide) (by decide)).mpr ⟨by decide, by decide⟩
  exact ⟨_, _, w, rfl, rfl, hw⟩

/-- An administrator suspends an active customer through the profile aggregate,
and no request of the authentication loads the row any more. -/
theorem suspended_row_is_lost :
    ∃ a u, PrismaAuthUserMapper.toDomain .database (.still 10) sample.authColumns = .ok a ∧
      PrismaUserMapper.toDomain plainHost (.still 11) sample.userColumns = .ok u ∧
      (UserCommand.suspend.exec plainHost (.still 12) u).Returns ∧
      PrismaAuthUserMapper.toDomain .database (.still 13)
        (sample.saveUser (UserCommand.suspend.exec plainHost (.still 12) u).state).authColumns =
          .error (invalidAuthStateError "Email cannot be verified if user is not active") :=
  ⟨_, _, rfl, rfl, rfl, rfl⟩

end UserRow

end KeramikStore
