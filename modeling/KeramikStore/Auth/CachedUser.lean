import KeramikStore.Auth.PasswordReset
import KeramikStore.Auth.Validity

/-!
# The answers of a cached auth user

A hit builds the user from the texts of its dates. No test of the validation that looks
for a date in the future finds one among texts, and a text is before no date. So a hit
accepts whatever a miss accepts, builds the same user, and answers differently only about
the time since the last login.
-/

set_option autoImplicit false

namespace KeramikStore.CachedAuthUser
open Library Library.KeyedTable PrismaAuthUserRepository

structure Answers where
  canLogin : Bool
  canVerifyEmail : Bool
  canRefreshToken : Bool
  canAccessProtectedResources : Bool
  canResetPassword : Bool
  isInactiveForOneWeek : Bool
  isInactiveForOneMonth : Bool
  hasRefreshToken : String → Bool
  hasProvider : AuthProviderName → Bool

section Statement

variable (host : HostCalendar) (now : Date) (clk : Clock) (userId : String) (s s' : AuthStore)

def answers (o : Origin) (u : AuthUser) : Answers where
  canLogin := u.canLogin
  canVerifyEmail := u.canVerifyEmail
  canRefreshToken := u.canRefreshToken
  canAccessProtectedResources := u.canAccessProtectedResources
  canResetPassword := u.canResetPassword
  isInactiveForOneWeek := u.isInactiveForOneWeek host o now
  isInactiveForOneMonth := u.isInactiveForOneMonth host o now
  hasRefreshToken := u.hasRefreshToken
  hasProvider := u.hasProvider

def origin : Origin :=
  ((wrap (.userById userId) (s.table.findById userId) s).1.map Prod.fst).getD .database

structure BehavesAlike : Prop where
  accepted : (findById userId clk s).1.isOk = (findById userId clk s').1.isOk
  answered : ∀ u v, (findById userId clk s).1 = .ok (some u) →
    (findById userId clk s').1 = .ok (some v) →
      answers host now (origin userId s) u = answers host now (origin userId s') v

structure InThePast (raw : RawAuthUser) : Prop where
  verified : ∀ d ∈ raw.emailVerifiedAt, d ≤ clk.read 0
  login : ∀ d ∈ raw.lastLoginAt, d ≤ clk.read 1
  created : raw.createdAt ≤ clk.read 2
  updated : raw.updatedAt ≤ clk.read 3
  deleted : ∀ d ∈ raw.deletedAt, d ≤ clk.read 4

def SeenLately (lastLoginAt : Option Date) : Prop :=
  ∀ d ∈ lastLoginAt, host.weekBefore now ≤ d ∧ host.monthBefore now ≤ d

end Statement

section Rows

variable (clk : Clock) (raw : RawAuthUser) (name : Name) (email : Email)

theorem none_after_text (d : Option Date) (now : Date) :
    d.any (Origin.cache.after · now) = false := by
  cases d <;> rfl

theorem datesPass_cache_iff (p : AuthUserProps) :
    DatesPass .cache clk p ↔ p.createdAt ≤ p.updatedAt := by
  constructor
  · exact fun pass => pass.ordered
  · intro ordered
    exact {
      verified := none_after_text _ _
      login := none_after_text _ _
      created := rfl
      ordered := ordered
      updated := rfl
      deleted := none_after_text _ _ }

theorem datesPass_database_iff :
    DatesPass .database clk (PrismaAuthUserMapper.propsOf raw name email) ↔
      raw.createdAt ≤ raw.updatedAt ∧ InThePast clk raw := by
  constructor
  · rintro ⟨verified, login, created, ordered, updated, deleted⟩
    exact ⟨ordered, all_before _ _ verified, all_before _ _ login,
      before_of_not_after _ _ created, before_of_not_after _ _ updated, all_before _ _ deleted⟩
  · rintro ⟨ordered, verified, login, created, updated, deleted⟩
    exact {
      verified := none_after _ _ _ verified
      login := none_after _ _ _ login
      created := not_after _ _ _ created
      ordered := ordered
      updated := not_after _ _ _ updated
      deleted := none_after _ _ _ deleted }

/-- A miss gives the user that a hit gives, as long as no date lies in the future. -/
theorem miss_loads_iff (u : AuthUser) :
    PrismaAuthUserMapper.toDomain .database clk raw = .ok u ↔
      PrismaAuthUserMapper.toDomain .cache clk raw = .ok u ∧ InThePast clk raw := by
  simp only [PrismaAuthUserMapper.toDomain_ok_iff, validate_ok_iff, datesPass_cache_iff,
    datesPass_database_iff]
  constructor
  · rintro ⟨name, email, id, hn, he, hi, ⟨coupled, ordered, past⟩, hu⟩
    exact ⟨⟨name, email, id, hn, he, hi, ⟨coupled, ordered⟩, hu⟩, past⟩
  · rintro ⟨⟨name, email, id, hn, he, hi, ⟨coupled, ordered⟩, hu⟩, past⟩
    exact ⟨name, email, id, hn, he, hi, ⟨coupled, ordered, past⟩, hu⟩

theorem hit_loads (loads : ∃ o u, PrismaAuthUserMapper.toDomain o clk raw = .ok u) :
    ∃ u, PrismaAuthUserMapper.toDomain .cache clk raw = .ok u := by
  obtain ⟨o, u, hu⟩ := loads
  cases o with
  | database => exact ⟨u, ((miss_loads_iff clk raw u).mp hu).1⟩
  | cache => exact ⟨u, hu⟩

theorem accepted_iff (u : AuthUser) (hit : PrismaAuthUserMapper.toDomain .cache clk raw = .ok u) :
    ((PrismaAuthUserMapper.toDomain .database clk raw).map some).isOk =
        ((PrismaAuthUserMapper.toDomain .cache clk raw).map some).isOk ↔ InThePast clk raw := by
  have miss := miss_loads_iff clk raw
  rw [hit]
  cases missed : PrismaAuthUserMapper.toDomain .database clk raw with
  | error e =>
    refine iff_of_false Bool.false_ne_true fun past => ?_
    have loads := (miss u).mpr ⟨hit, past⟩
    rw [missed] at loads
    cases loads
  | ok v => exact iff_of_true rfl ((miss v).mp missed).2

theorem lastLoginAt_of_loads (o : Origin) (u : AuthUser)
    (hu : PrismaAuthUserMapper.toDomain o clk raw = .ok u) : u.lastLoginAt = raw.lastLoginAt := by
  obtain ⟨name, email, id, -, -, -, -, rfl⟩ := (PrismaAuthUserMapper.toDomain_ok_iff o clk raw u).mp hu
  rfl

end Rows

section Queries

variable (host : HostCalendar) (now : Date) (u : AuthUser)

/-- A text is before no date, so the answers agree where the date is not before either. -/
theorem before_alike_iff (d other : Date) :
    Origin.database.before d other = Origin.cache.before d other ↔ other ≤ d := by
  simp [Origin.before]

theorem answers_alike_iff :
    answers host now .database u = answers host now .cache u ↔
      SeenLately host now u.lastLoginAt := by
  have only : answers host now .database u = answers host now .cache u ↔
      u.isInactiveForOneWeek host .database now = u.isInactiveForOneWeek host .cache now ∧
        u.isInactiveForOneMonth host .database now = u.isInactiveForOneMonth host .cache now := by
    simp [answers]
  rw [only]
  unfold SeenLately AuthUser.isInactiveForOneWeek AuthUser.isInactiveForOneMonth
  cases u.lastLoginAt with
  | none => simp
  | some d => simp [before_alike_iff]

end Queries

section Stores

variable {userId : String} {s : AuthStore} {row : UserRow} (clk filled : Clock)
  (found : s.table.findById userId = some row)
  (cold : find Prod.fst (.userById userId) s.cached = none)

include found cold

theorem wrap_cold : wrap (.userById userId) (s.table.findById userId) s =
    (some (.database, row.authColumns), { s with
      cached := put Prod.fst (.userById userId, row.authColumns) s.cached }) := by
  unfold wrap
  rw [cold, found]

theorem wrap_warm :
    (wrap (.userById userId) ((findById userId filled s).2.table.findById userId)
      (findById userId filled s).2).1 = some (.cache, row.authColumns) := by
  have entry : find Prod.fst (.userById userId) (findById userId filled s).2.cached =
      some (.userById userId, row.authColumns) := by
    unfold findById
    rw [wrap_cold found cold]
    exact find_put_same Prod.fst _ _
  generalize (findById userId filled s).2 = warm at entry
  unfold wrap
  rw [entry]

theorem miss_finds : (findById userId clk s).1 =
    (PrismaAuthUserMapper.toDomain .database clk row.authColumns).map some := by
  change load clk (wrap _ _ s).1 = _
  rw [wrap_cold found cold]
  rfl

theorem hit_finds : (findById userId clk (findById userId filled s).2).1 =
    (PrismaAuthUserMapper.toDomain .cache clk row.authColumns).map some := by
  change load clk (wrap _ _ (findById userId filled s).2).1 = _
  rw [wrap_warm filled found cold]
  rfl

theorem origin_cold : origin userId s = .database := by
  unfold origin
  rw [wrap_cold found cold]
  rfl

theorem origin_warm : origin userId (findById userId filled s).2 = .cache := by
  unfold origin
  rw [wrap_warm filled found cold]
  rfl

variable (host : HostCalendar) (now : Date)

/-- A user that was read once behaves from the cache as from the database, as long as no
date of its row lies in the future and its last login is not long ago. -/
theorem cached_user_alike_iff
    (loads : ∃ o u, PrismaAuthUserMapper.toDomain o clk row.authColumns = .ok u) :
    BehavesAlike host now clk userId s (findById userId filled s).2 ↔
      InThePast clk row.authColumns ∧ SeenLately host now row.lastLoginAt := by
  obtain ⟨u, hit⟩ := hit_loads clk row.authColumns loads
  have login : u.lastLoginAt = row.lastLoginAt := lastLoginAt_of_loads clk _ _ u hit
  have hitFinds := hit_finds clk filled found cold
  have missFinds := miss_finds clk found cold
  have accepts := accepted_iff clk row.authColumns u hit
  rw [← missFinds, ← hitFinds] at accepts
  have answers := answers_alike_iff host now u
  rw [login, ← origin_cold found cold, ← origin_warm filled found cold] at answers
  constructor
  · rintro ⟨accepted, answered⟩
    have past := accepts.mp accepted
    rw [(miss_loads_iff clk row.authColumns u).mpr ⟨hit, past⟩] at missFinds
    rw [hit] at hitFinds
    exact ⟨past, answers.mp (answered u u missFinds hitFinds)⟩
  · rintro ⟨past, lately⟩
    rw [(miss_loads_iff clk row.authColumns u).mpr ⟨hit, past⟩] at missFinds
    rw [hit] at hitFinds
    refine ⟨accepts.mpr past, fun v w hv hw => ?_⟩
    obtain rfl : u = v := Option.some.inj (Except.ok.inj (missFinds.symm.trans hv))
    obtain rfl : u = w := Option.some.inj (Except.ok.inj (hitFinds.symm.trans hw))
    exact answers.mpr lately

end Stores

section Samples
open PasswordReset (sampleStore)

def januaryCalendar : HostCalendar := ⟨fun now => now - 604800000, fun now => now - 2678400000⟩

def secondRead : AuthStore := (findById UserId.sample.value (.still 50) sampleStore).2

theorem seen_lately_alike :
    BehavesAlike januaryCalendar 100 (.still 100) UserId.sample.value sampleStore secondRead :=
  (cached_user_alike_iff (.still 100) (.still 50)
    (by decide : sampleStore.table.findById UserId.sample.value = some UserRow.sample) rfl
    januaryCalendar 100 ⟨.cache, _, rfl⟩).mpr <| by
  refine ⟨⟨?_, ?_, by decide, by decide, ?_⟩, ?_⟩
  · rintro d ⟨⟩
    decide
  · rintro d ⟨⟩
    decide
  · rintro d ⟨⟩
  · rintro d ⟨⟩
    decide

/-- On the eighth of February a customer who was last seen on New Year is inactive when
read from the database, and active when read from the cache. -/
theorem cached_absence_unnoticed :
    ∃ u, (findById UserId.sample.value (.still 3283200000) sampleStore).1 = .ok (some u) ∧
      (findById UserId.sample.value (.still 3283200000) secondRead).1 = .ok (some u) ∧
      origin UserId.sample.value sampleStore = .database ∧
      origin UserId.sample.value secondRead = .cache ∧
      u.isInactiveForOneWeek januaryCalendar .database 3283200000 = true ∧
      u.isInactiveForOneMonth januaryCalendar .database 3283200000 = true ∧
      u.isInactiveForOneWeek januaryCalendar .cache 3283200000 = false ∧
      u.isInactiveForOneMonth januaryCalendar .cache 3283200000 = false ∧
      ¬ BehavesAlike januaryCalendar 3283200000 (.still 3283200000) UserId.sample.value
        sampleStore secondRead := by
  refine ⟨_, rfl, rfl, rfl, rfl, by decide, by decide, by decide, by decide, ?_⟩
  intro alike
  have same := congrArg Answers.isInactiveForOneMonth (alike.answered _ _ rfl rfl)
  exact absurd same (by decide)

end Samples

end KeramikStore.CachedAuthUser
