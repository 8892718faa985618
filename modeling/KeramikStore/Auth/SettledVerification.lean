import KeramikStore.Auth.VerifiedAddresses

/-!
# What becomes of the tokens that are left

A verified user may have tokens left, from a mail that was asked for again. Each of them
still leads to the user, but a verified user is not verified again, gets no other token
and is never saved as unverified. All that could do one of these is a copy from before: in
the hands of a request, in the cache, or on its way there, since a look-up may fill the
cache after the entries of the user have been dropped. Once there is none the matter is
settled.
-/

set_option autoImplicit false

namespace KeramikStore.EmailVerification
open Library Library.Runs Library.KeyedTable
open PasswordReset (Services)

def Stage.concerns (userId : String) : Stage → Bool
  | .changed _ u => u.id.getValue == userId
  | .owed r => r.userId == userId
  | _ => false

def Event.about (userId : String) (e : Event) : Bool :=
  e.account.any fun p => p.1 == userId

structure Consistent (services : Services) (s : Site) : Prop where
  one : OneAddress s
  coherent : PrismaAuthUserRepository.Coherent services.toLowerCase s.store
  announced : ∀ i why u, (i, .changed why u) ∈ s.stages → u.Announced

/-- Every copy of the user is verified, and no request is about to change that. -/
structure Settled (userId : String) (s : Site) : Prop where
  known : ∃ row ∈ s.store.table.rows, row.id = userId
  copies : ∀ raw ∈ s.copies, raw.id = userId → raw.emailVerified = true
  stages : ∀ i why u, (i, .changed why u) ∈ s.stages → u.id.getValue = userId →
    why = .other ∧ u.emailVerified = true
  owed : ∀ i r, (i, .owed r) ∈ s.stages → r.userId ≠ userId

section Steps

variable (services : Services) (s s' : Site) (a : Action) (spec : Spec services s a s')

include spec

theorem spec_announced (h : ∀ i why u, (i, .changed why u) ∈ s.stages → u.Announced) (i : ℕ)
    (why : Purpose) (u : AuthUser) (mem : (i, .changed why u) ∈ s'.stages) : u.Announced := by
  rcases spec.stages _ mem with old | new
  · exact h i why u old
  · cases new with
    | created | signedUp | loaded | verified => assumption

/-- Where look-ups and listeners are prompt, the cache stays coherent. -/
theorem spec_coherent (h : Consistent services s) (prompt : a.Prompt) :
    PrismaAuthUserRepository.Coherent services.toLowerCase s'.store := by
  have keep := fun op => PrismaAuthUserRepository.perform_coherent services.toLowerCase s.store op
    h.coherent
  generalize s'.store = store, spec.store = move at *
  cases move with
  | same => exact h.coherent
  | lookedUp key who loading =>
    cases key with
    | byId => exact keep (.findById who loading) trivial
    | byEmail => exact keep (.findByEmail who loading) trivial
  | saved i why u held store written cached dropped =>
    obtain rfl := dropped.resolve_right fun late => late.1 prompt
    refine PrismaAuthUserRepository.save_coherent services.toLowerCase u s.store store h.coherent
      written ⟨?_, fun row hr same => ?_⟩
    · simpa using u.announced_events (h.announced i why u held)
    · have copy := copy_account s row.authColumns (row_copy s row hr)
      have whole := h.one _ copy _ (stage_account s _ _ held rfl) same
      exact congrArg services.toLowerCase (congrArg Prod.snd whole)
  | profiled i u held table written late => exact absurd prompt late
  | filled entry mem late => exact absurd prompt late
  | forgot key => exact keep (.expire key) trivial

theorem spec_consistent (h : Consistent services s) (fresh : FreshIds s a) (prompt : a.Prompt) :
    Consistent services s' where
  one := spec_oneAddress services s s' a spec h.one fresh
  coherent := spec_coherent services s s' a spec h prompt
  announced := spec_announced services s s' a spec h.announced

omit spec in
theorem not_created (userId address : String) (row : UserRow) (hr : row ∈ s.store.table.rows)
    (named : row.id = userId) (fresh : FreshIds s a) : newAccount s a ≠ some (userId, address) := by
  intro new
  have copy := copy_account s row.authColumns (row_copy s row hr)
  exact fresh userId (newAccount_id s a _ new) _ copy named

theorem spec_known (userId : String) (h : ∃ row ∈ s.store.table.rows, row.id = userId) :
    ∃ row ∈ s'.store.table.rows, row.id = userId := by
  generalize s'.store = store, spec.store = move at *
  cases move with
  | same => exact h
  | lookedUp key who loading =>
    rw [lookUp_table]
    exact h
  | saved i why u held store written cached dropped =>
    obtain ⟨row, hr, named⟩ := h
    obtain ⟨table, -⟩ := (PrismaAuthUserRepository.save_ok_iff _ u s.store store).mp written
    rw [(UsersTable.upsert_ok_iff _ _ _).mp table]
    by_cases own : row.id = (PrismaAuthUserMapper.toPersistence u).id
    · exact ⟨_, UsersTable.savedAuthUser_mem _ _, by rw [UserRow.id_savedAuthUser, ← own, named]⟩
    · exact ⟨row, UsersTable.other_mem _ _ row hr own, named⟩
  | profiled i u held table written late =>
    obtain ⟨row, hr, named⟩ := h
    rw [(UsersTable.write_ok_iff _ _ _).mp written]
    by_cases own : row.id = (UserCaches.userRow u s.store.table).id
    · exact ⟨_, (mem_put _ _ _ _).mpr (Or.inl rfl), own ▸ named⟩
    · exact ⟨row, (mem_put _ _ _ _).mpr (Or.inr ⟨hr, own⟩), named⟩
  | filled entry mem late => exact h
  | forgot key => exact h

omit spec in
theorem found_verified (userId : String) (h : Settled userId s) (w : AuthUser)
    (found : Found services s w) (named : w.id.getValue = userId) : w.emailVerified = true := by
  obtain ⟨raw, copy, loaded⟩ := found_copy services s w found
  rw [loaded.verified]
  exact h.copies raw copy ((congrArg Prod.fst loaded.account).symm.trans named)

omit spec in
theorem not_again (w : AuthUser) (verified : w.emailVerified = true) :
    w.canVerifyEmail ≠ true := by
  simp [AuthUser.canVerifyEmail, verified]

omit spec in
theorem profiled_keeps (userId : String) (h : Settled userId s) (u : User)
    (same : (UserCaches.userRow u s.store.table).authColumns.id = userId) :
    (UserCaches.userRow u s.store.table).authColumns.emailVerified = true := by
  have own : u.id.getValue = userId := (UserRow.id_savedUser _ _).symm.trans same
  obtain ⟨row, hr, named⟩ := h.known
  have found : s.store.table.findById u.id.getValue = some row :=
    (find_eq_some_iff _ _ s.store.table.unique.id _ row).mpr ⟨hr, named.trans own.symm⟩
  have verified := h.copies row.authColumns (row_copy s row hr) named
  unfold UserCaches.userRow
  rw [found]
  exact verified

theorem spec_settled (userId : String) (h : Settled userId s) (fresh : FreshIds s a) :
    Settled userId s' := by
  obtain ⟨row, hr, named⟩ := id h.known
  constructor
  · exact spec_known services s s' a spec userId h.known
  · intro raw mem same
    rcases spec_copies services s a s' spec raw mem with
      old | ⟨i, why, u, held, rfl⟩ | ⟨i, u, held, rfl⟩
    · exact h.copies raw old same
    · exact (h.stages i why u held same).2
    · exact profiled_keeps s userId h u same
  · intro i why u mem same
    rcases spec.stages _ mem with old | new
    · exact h.stages i why u old same
    · cases new with
      | created u new | signedUp u new =>
        exact absurd new (not_created s a _ _ row hr (named.trans same.symm) fresh)
      | loaded w u found account kept =>
        refine ⟨rfl, kept.trans (found_verified services s userId h w found ?_)⟩
        exact (congrArg Prod.fst account).symm.trans same
      | verified j hashedToken id how loading w u held found can account =>
        have verified := found_verified services s userId h w ⟨_, _, _, _, found⟩
          ((congrArg Prod.fst account).symm.trans same)
        exact absurd can (not_again w verified)
  · intro i r mem same
    rcases spec.stages _ mem with old | new
    · exact h.owed i r old same
    · cases new with
      | asked w found can =>
        exact absurd can (not_again w (found_verified services s userId h w found same))
      | registered j u held => cases (h.stages j .register u held same).1

omit spec in
theorem told_of_others (userId : String) (h : Settled userId s) (fresh : FreshIds s a) (e : Event)
    (told : Told s a e) : e.about userId = false := by
  obtain ⟨row, hr, named⟩ := id h.known
  cases told with
  | issued i r token kept asked held =>
    simpa [Event.about, Event.account] using h.owed i r (stage_mem i s _ held)
  | mailed | presented => rfl
  | verified i hashedToken u held =>
    have other : u.id.getValue ≠ userId := fun same => by
      cases (h.stages i (.verifyEmail hashedToken) u held same).1
    simpa [Event.about, Event.account] using other
  | vouched id address new =>
    have other : id ≠ userId := by
      rintro rfl
      exact not_created s a id address row hr named fresh new
    simpa [Event.about, Event.account] using other

theorem spec_log (userId : String) (h : Settled userId s) (fresh : FreshIds s a) :
    s'.log.filter (Event.about userId) = s.log.filter (Event.about userId) := by
  obtain ⟨news, log, told⟩ := spec.log
  have others : news.filter (Event.about userId) = [] := List.filter_eq_nil_iff.mpr fun e mem => by
    simp [told_of_others s a userId h fresh e (told e mem)]
  rw [log, List.filter_append, others, List.nil_append]

end Steps

section Runs

variable (services : Services) (table : UsersTable)

theorem start_consistent : Consistent services (start table) where
  one := (start_authentic services table).one
  coherent := PrismaAuthUserRepository.coherent_cold services.toLowerCase table
  announced _ _ _ mem := absurd mem List.not_mem_nil

/-- A verified user that no request holds and of which there is no copy from before is
settled. -/
theorem settled_of_idle (s : Site) (row : UserRow) (hr : row ∈ s.store.table.rows)
    (copies : ∀ raw ∈ s.copies, raw.id = row.id → raw.emailVerified = true)
    (idle : ∀ e ∈ s.stages, e.2.concerns row.id = false) : Settled row.id s where
  known := ⟨row, hr, rfl⟩
  copies := copies
  stages i why u mem same := by
    have held := idle _ mem
    simp [Stage.concerns, same] at held
  owed i r mem same := by
    have held := idle _ mem
    simp [Stage.concerns, same] at held

/-- A settled user stays verified whatever comes, is not verified again, and no token is
issued for it any more. -/
theorem settled_user_stays (userId : String) (s : Site) (settled : Settled userId s)
    (as : List Action) (fresh : Along (step services) FreshIds s as) :
    Throughout (step services)
      (fun t => (∀ r ∈ t.store.table.rows, r.id = userId → r.emailVerified = true) ∧
        t.log.filter (Event.about userId) = s.log.filter (Event.about userId)) s as := by
  have stays : Throughout (step services) (fun t => Settled userId t ∧
      t.log.filter (Event.about userId) = s.log.filter (Event.about userId)) s as := by
    refine throughout_of_step (step services) _ FreshIds ?_ s as ⟨settled, rfl⟩ fresh
    intro t a h new
    have spec := step_spec services t a
    exact ⟨spec_settled services t _ a spec userId h.1 new,
      (spec_log services t _ a spec userId h.1 new).trans h.2⟩
  refine throughout_mono (step services) _ _ (fun t h => ⟨fun r mem same => ?_, h.2⟩) s as stays
  exact h.1.copies r.authColumns (row_copy t r mem) same

end Runs

section Samples
open PasswordReset (sampleServices)

def leftOver : List Action := [
  .readToken 3 "b", .verify 3 .prompt (.still 14) (.still 15), .save 3 true true,
  .resend 4 "john.doe@example.com" .late (.still 16), .fill 0 true,
  .resend 5 "john.doe@example.com" .prompt (.still 17), .saveToken 5 "c" true, .sendMail 5]

def verifiedNewcomer : UserRow :=
  { UserRow.newcomer with
    emailVerified := true, emailVerifiedAt := some 13, status := .ACTIVE, updatedAt := 13 }

theorem left_over_token_is_harmless :
    Throughout (step sampleServices)
      (fun t => (∀ r ∈ t.store.table.rows, r.id = verifiedNewcomer.id → r.emailVerified = true) ∧
        t.log.filter (Event.about verifiedNewcomer.id) =
          (after (step sampleServices) (start newcomers) twoMails).log.filter
            (Event.about verifiedNewcomer.id))
      (after (step sampleServices) (start newcomers) twoMails) leftOver :=
  settled_user_stays sampleServices verifiedNewcomer.id
    (after (step sampleServices) (start newcomers) twoMails)
    (settled_of_idle _ verifiedNewcomer (by decide) (by decide) (by decide)) leftOver (by decide)

end Samples

end KeramikStore.EmailVerification
