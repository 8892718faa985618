import KeramikStore.Library.Runs
import KeramikStore.Users.CommandEffects
import KeramikStore.Users.SharedRow

/-!
# The number that was verified

The verification of a telephone number is reset where the number is cleared, and where
it is withdrawn. A new number keeps it. So a verified number is the one that was
verified as long as every number that replaces it is another spelling of it.
-/

set_option autoImplicit false

namespace KeramikStore.PhoneVerification
open Library Library.Runs

abbrev Step := UserCommand × Clock

structure Watched where
  user : User
  verified : Option PhoneNumber

structure Phone where
  number : Option PhoneNumber
  verified : Bool
  verifiedAt : Option Date

def phone (p : UserProps) : Phone := ⟨p.phoneNumber, p.phoneVerified, p.phoneVerifiedAt⟩

section Runs

variable (host : Host)

def watch (w : Watched) (a : Step) : Watched where
  user := (a.1.exec host a.2 w.user).state
  verified := if a.1 = .verifyPhone ∧ (a.1.exec host a.2 w.user).Returns then w.user.phoneNumber
    else w.verified

def Matches (p : Phone) (lastVerified : Option PhoneNumber) : Prop :=
  p.verified = true → ∃ held number,
    p.number = some held ∧ lastVerified = some number ∧ held.equals number = true

def Law (w : Watched) : Prop := Matches (phone w.user.toUserProps) w.verified

def ResetFrom (old : Option PhoneNumber) (p : Phone) : Prop :=
  p.number ≠ old → (∀ o ∈ old, ∀ n ∈ p.number, o.equals n = false) →
    p.verified = false ∧ p.verifiedAt = none

def Resets (w : Watched) (a : Step) : Prop :=
  ResetFrom w.user.phoneNumber (phone (watch host w a).user.toUserProps)

def Accepts (w : Watched) (a : Step) : Prop :=
  w.user.Modifiable → w.user.phoneVerified = true →
    ∀ new, a.1 = .updatePhoneNumber (some new) → ∀ held ∈ w.user.phoneNumber,
      held.equals new = true

structure Sound (p : Phone) : Prop where
  numbered : p.verified = true → p.number.isSome = true
  dated : p.verifiedAt.isSome = p.verified

inductive Dialled (w : Watched) (clk : Clock) :
    UserCommand → Phone → Option PhoneNumber → Prop where
  | kept (c : UserCommand)
      (silent : w.user.Modifiable → ∀ new, c ≠ .updatePhoneNumber (some new)) :
      Dialled w clk c (phone w.user.toUserProps) w.verified
  | replaced (new : PhoneNumber) (modifiable : w.user.Modifiable) :
      Dialled w clk (.updatePhoneNumber (some new))
        ⟨some new, w.user.phoneVerified, w.user.phoneVerifiedAt⟩ w.verified
  | dropped (c : UserCommand) (silent : ∀ new, c ≠ .updatePhoneNumber (some new)) :
      Dialled w clk c ⟨none, false, none⟩ w.verified
  | verified (held : PhoneNumber) (number : w.user.phoneNumber = some held) :
      Dialled w clk .verifyPhone ⟨some held, true, some (clk.read 0)⟩ (some held)
  | unverified : Dialled w clk .unverifyPhone ⟨w.user.phoneNumber, false, none⟩ w.verified

variable (w : Watched) (a : Step)

theorem watch_phone : phone (watch host w a).user.toUserProps = phone (a.1.effect a.2 w.user) := by
  obtain ⟨-, d, left, -⟩ := UserCommand.exec_leaves host a.1 a.2 w.user
  change phone (a.1.exec host a.2 w.user).state.toUserProps = _
  rw [left]
  rfl

theorem verifyPhone_returns_iff (clk : Clock) (u : User) : (u.verifyPhone clk).Returns ↔
    u.Modifiable ∧ u.phoneNumber.isSome = true ∧ u.phoneVerified = false := by
  rw [← User.ensureCanBeModified_ok_iff]
  unfold User.verifyPhone
  cases u.ensureCanBeModified with
  | error e => exact ⟨nofun, fun h => nomatch h.1⟩
  | ok _ =>
    cases u.phoneNumber with
    | none => exact ⟨nofun, fun h => nomatch h.2.1⟩
    | some number =>
      cases u.phoneVerified with
      | true => exact ⟨nofun, fun h => nomatch h.2.2⟩
      | false => exact ⟨fun _ => ⟨rfl, rfl, rfl⟩, fun _ => rfl⟩

theorem watch_verified (h : a.1 ≠ .verifyPhone) : (watch host w a).verified = w.verified :=
  if_neg fun both => h both.1

theorem watch_verifyPhone (clk : Clock) : (watch host w (.verifyPhone, clk)).verified =
    if w.user.Modifiable ∧ w.user.phoneNumber.isSome = true ∧ w.user.phoneVerified = false then
      w.user.phoneNumber
    else w.verified :=
  if_congr ((and_iff_right rfl).trans (verifyPhone_returns_iff clk w.user)) rfl rfl

theorem watch_dialled :
    Dialled w a.2 a.1 (phone (watch host w a).user.toUserProps) (watch host w a).verified := by
  obtain ⟨c, clk⟩ := a
  rw [watch_phone]
  by_cases verifying : c = .verifyPhone
  · subst verifying
    rw [watch_verifyPhone]
    dsimp only [UserCommand.effect]
    split_ifs with passes
    · obtain ⟨held, number⟩ := Option.isSome_iff_exists.mp passes.2.1
      rw [phone, number]
      exact .verified held number
    · exact .kept _ fun _ _ h => nomatch h
  · rw [watch_verified host w _ verifying]
    cases c with
    | verifyPhone => exact absurd rfl verifying
    | updatePhoneNumber new =>
      dsimp only [UserCommand.effect]
      split_ifs with modifiable
      · cases new with
        | none => exact .dropped _ fun _ h => nomatch h
        | some new => exact .replaced new modifiable
      · exact .kept _ fun h => absurd h modifiable
    | clearPhoneNumber =>
      dsimp only [UserCommand.effect]
      split_ifs
      · exact .dropped _ fun _ h => nomatch h
      · exact .kept _ fun _ _ h => nomatch h
    | unverifyPhone =>
      dsimp only [UserCommand.effect]
      split_ifs
      · exact .unverified
      · exact .kept _ fun _ _ h => nomatch h
    | _ =>
      dsimp only [UserCommand.effect]
      split_ifs <;> exact .kept _ fun _ _ h => nomatch h

end Runs

section Laws

variable {w : Watched} {c : UserCommand} {clk : Clock} {p : Phone} {v : Option PhoneNumber}

theorem Dialled.sound (h : Dialled w clk c p v) (before : Sound (phone w.user.toUserProps)) :
    Sound p := by
  cases h with
  | kept => exact before
  | replaced => exact ⟨fun _ => rfl, before.dated⟩
  | dropped => exact ⟨nofun, rfl⟩
  | verified => exact ⟨fun _ => rfl, rfl⟩
  | unverified => exact ⟨nofun, rfl⟩

/-- An accepted call keeps the law. -/
theorem Dialled.matches (h : Dialled w clk c p v) (law : Law w) (accepted : Accepts w (c, clk)) :
    Matches p v := by
  cases h with
  | kept => exact law
  | replaced new modifiable =>
    intro verified
    obtain ⟨held, number, hh, hn, same⟩ := law verified
    have spelt := accepted modifiable verified new rfl held hh
    refine ⟨new, number, rfl, hn, ?_⟩
    rw [PhoneNumber.equals_iff] at same spelt ⊢
    exact spelt.symm.trans same
  | dropped => exact nofun
  | verified held =>
    exact fun _ => ⟨held, held, rfl, rfl, PhoneNumber.equals_refl held⟩
  | unverified => exact nofun

/-- Only a new number can leave the verification of an old one behind. -/
theorem Dialled.reset_iff (h : Dialled w clk c p v) (before : Sound (phone w.user.toUserProps)) :
    ResetFrom w.user.phoneNumber p ↔ Accepts w (c, clk) := by
  cases h with
  | kept _ silent =>
    refine ⟨fun _ modifiable _ new h => ?_, fun _ changed => absurd rfl changed⟩
    exact absurd h (silent modifiable new)
  | replaced new modifiable =>
    constructor
    · intro resets _ verified _ h held number
      obtain rfl : new = _ := Option.some.inj (UserCommand.updatePhoneNumber.inj h)
      by_contra different
      have changed : some new ≠ w.user.phoneNumber := by
        rintro same
        rw [← same] at number
        exact different (Option.some.inj number ▸ PhoneNumber.equals_refl new)
      obtain ⟨reset, -⟩ := resets changed fun o ho n hn => by
        rw [Option.mem_def.mp number] at ho
        obtain rfl := Option.some.inj ho
        obtain rfl := Option.some.inj hn
        exact Bool.eq_false_iff.mpr different
      exact Bool.false_ne_true (reset.symm.trans verified)
    · intro accepted _ different
      cases verified : w.user.phoneVerified with
      | false =>
        have undated : w.user.phoneVerifiedAt.isSome = false := before.dated.trans verified
        exact ⟨rfl, Option.not_isSome_iff_eq_none.mp (Bool.eq_false_iff.mp undated)⟩
      | true =>
        obtain ⟨held, number⟩ := Option.isSome_iff_exists.mp (before.numbered verified)
        have spelt := accepted modifiable verified new rfl held number
        exact absurd spelt (Bool.eq_false_iff.mp (different held number new rfl))
  | dropped _ silent =>
    exact ⟨fun _ _ _ new h => absurd h (silent new), fun _ _ _ => ⟨rfl, rfl⟩⟩
  | verified held number =>
    exact ⟨fun _ _ _ _ h => (nomatch h), fun _ changed => absurd number.symm changed⟩
  | unverified =>
    exact ⟨fun _ _ _ _ h => (nomatch h), fun _ _ _ => ⟨rfl, rfl⟩⟩

end Laws

theorem sound_of_reconstruct (id : String) (props : UserProps) (u : User)
    (created : User.reconstruct id props = .ok u) : Sound (phone u.toUserProps) := by
  obtain ⟨_, -, created⟩ := (bind_ok_iff _ _ _).mp created
  obtain ⟨_, valid, created⟩ := (bind_ok_iff _ _ _).mp created
  obtain rfl := Except.ok.inj created
  have valid := (User.validate_ok_iff props).mp valid
  exact ⟨valid.numbered, valid.verifiedAt⟩

/-- In every run on a user whose number is not verified, a verified number is the one that
was verified, and a different number always resets the verification, just when every number
that replaces a verified one is another spelling of it. -/
theorem verified_number_iff (host : Host) (id : String) (props : UserProps) (u : User)
    (created : User.reconstruct id props = .ok u) (unverified : u.phoneVerified = false)
    (run : List Step) :
    Throughout (watch host) Law ⟨u, none⟩ run ∧ Along (watch host) (Resets host) ⟨u, none⟩ run ↔
      Along (watch host) Accepts ⟨u, none⟩ run := by
  have sound : Throughout (watch host) (fun w => Sound (phone w.user.toUserProps)) ⟨u, none⟩ run :=
    throughout_of_keep _ _ (fun w a before => (watch_dialled host w a).sound before) _ _
      (sound_of_reconstruct id props u created)
  refine along_exact _ _ Law _ _ (fun w a before _ => (watch_dialled host w a).reset_iff before)
    (fun w a _ law accepted => (watch_dialled host w a).matches law accepted) _ _ sound ?_
  exact fun verified => absurd (unverified.symm.trans verified) Bool.false_ne_true

def localSpelling : PhoneNumber := ⟨"081234567890", by decide⟩

def replacement : PhoneNumber := ⟨"081999999999", by decide⟩

theorem sample_verified_number_iff :
    Throughout (watch UserRow.plainHost) Law ⟨.sample, none⟩
        [(.verifyPhone, .still 7), (.updatePhoneNumber (some localSpelling), .still 8)] ∧
      Along (watch UserRow.plainHost) (Resets UserRow.plainHost) ⟨.sample, none⟩
        [(.verifyPhone, .still 7), (.updatePhoneNumber (some localSpelling), .still 8)] := by
  refine (verified_number_iff _ _ _ _ User.sample_created rfl _).mpr
    ⟨fun _ verified => absurd verified Bool.false_ne_true, ?_, trivial⟩
  rintro - - new h held number
  obtain rfl : localSpelling = new := Option.some.inj (UserCommand.updatePhoneNumber.inj h)
  obtain rfl : PhoneNumber.sample = held := Option.some.inj number
  decide

/-- A number takes over the verification of another one. -/
theorem replaced_number_stays_verified :
    User.reconstruct UserId.sample.value .sample = .ok .sample ∧
      User.sample.phoneVerified = false ∧
      ¬ Throughout (watch UserRow.plainHost) Law ⟨.sample, none⟩
        [(.verifyPhone, .still 7), (.updatePhoneNumber (some replacement), .still 8)] := by
  refine ⟨User.sample_created, rfl, fun law => ?_⟩
  obtain ⟨held, number, hh, hn, same⟩ := throughout_end _ _ _ _ law rfl
  obtain rfl : replacement = held := Option.some.inj hh
  obtain rfl : PhoneNumber.sample = number := Option.some.inj hn
  revert same
  decide

end KeramikStore.PhoneVerification
