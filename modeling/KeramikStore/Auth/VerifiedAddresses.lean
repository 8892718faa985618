import KeramikStore.Auth.EmailVerification

/-!
# Who can verify an address

No step gives a user another address, so all copies of a user that are stored, cached or
held by a request agree about it, those of the profile module too. A token is mailed to
the address of the user that it was issued for, and to nobody else. So where tokens are
known from mails only, an address counts as verified because a token came back from a mail
to that very address, however the requests interleave.
-/

set_option autoImplicit false

namespace KeramikStore.EmailVerification
open Library Library.Runs Library.KeyedTable
open PasswordReset (Services)

def OneAddress (s : Site) : Prop := ∀ p ∈ s.accounts, ∀ q ∈ s.accounts, p.1 = q.1 → p = q

def KeyedEntries (entries : List (UserAuthCacheKey × RawAuthUser)) : Prop :=
  ∀ entry ∈ entries, ∀ userId, entry.1 = .userById userId → entry.2.id = userId

def Keyed (s : Site) : Prop := KeyedEntries s.store.cached ∧ KeyedEntries s.pending

def Event.issuedToken : Event → Option String
  | .issued token _ _ => some token
  | _ => none

def IssuesFresh (services : Services) (s : Site) : Action → Prop
  | .saveToken _ token _ => ∀ e ∈ s.log, ∀ t ∈ e.issuedToken,
      services.hashToken t ≠ services.hashToken token
  | _ => True

instance (services : Services) (s : Site) (a : Action) : Decidable (IssuesFresh services s a) := by
  cases a <;> unfold IssuesFresh <;> infer_instance

def Event.mailedToken : Event → Option String
  | .mailed token _ => some token
  | _ => none

def PresentsMailed (s : Site) : Action → Prop
  | .readToken _ token => ∃ e ∈ s.log, e.mailedToken = some token
  | _ => True

instance (s : Site) (a : Action) : Decidable (PresentsMailed s a) := by
  cases a <;> unfold PresentsMailed <;> infer_instance

def Returned (log : List Event) (userId address : String) : Prop :=
  ∃ token, .issued token userId address ∈ log ∧ .mailed token address ∈ log ∧
    .presented token ∈ log

structure Traced (services : Services) (s : Site) : Prop where
  once : ∀ t u a t' u' a', .issued t u a ∈ s.log → .issued t' u' a' ∈ s.log →
    services.hashToken t = services.hashToken t' → t = t' ∧ u = u' ∧ a = a'
  tokens : ∀ e ∈ s.tokens, ∃ t a, .issued t e.2 a ∈ s.log ∧ services.hashToken t = e.1
  stored : ∀ i r t, (i, .stored r t) ∈ s.stages → .issued t r.userId r.address ∈ s.log
  mailed : ∀ t a, .mailed t a ∈ s.log → ∃ u, .issued t u a ∈ s.log
  read : ∀ i h u, (i, .read h u) ∈ s.stages → ∃ a, Returned s.log u a

def Evidence (table : UsersTable) (log : List Event) (p : String × String) : Prop :=
  (∃ row ∈ table.rows, (row.id, row.email) = p ∧ row.emailVerified = true) ∨
    .vouched p.1 p.2 ∈ log ∨ Returned log p.1 p.2

structure Proven (table : UsersTable) (s : Site) : Prop where
  copies : ∀ raw ∈ s.copies, raw.emailVerified = true → Evidence table s.log (account raw)
  stages : ∀ i why u, (i, .changed why u) ∈ s.stages → u.emailVerified = true →
    Evidence table s.log (userAccount u)

section Steps

variable (services : Services) (s s' : Site) (a : Action) (spec : Spec services s a s')

theorem returned_kept (log log' : List Event) (kept : ∀ e ∈ log, e ∈ log') (u address : String)
    (h : Returned log u address) : Returned log' u address := by
  obtain ⟨token, issued, mailed, presented⟩ := h
  exact ⟨token, kept _ issued, kept _ mailed, kept _ presented⟩

theorem evidence_kept (table : UsersTable) (log log' : List Event) (kept : ∀ e ∈ log, e ∈ log')
    (p : String × String) (h : Evidence table log p) : Evidence table log' p := by
  rcases h with row | vouched | returned
  · exact Or.inl row
  · exact Or.inr (Or.inl (kept _ vouched))
  · exact Or.inr (Or.inr (returned_kept log log' kept _ _ returned))

theorem newAccount_id (p : String × String) (h : newAccount s a = some p) :
    a.newId = some p.1 := by
  cases a with
  | createUser i newId hash clk =>
    simp only [newAccount] at h
    split at h
    · rw [← Option.some.inj h]
      rfl
    · cases h
  | signUp i profile c =>
    rw [← Option.some.inj h]
    rfl
  | _ => cases h

theorem found_copy (w : AuthUser) (h : Found services s w) :
    ∃ raw ∈ s.copies, LoadedFrom raw w := by
  obtain ⟨how, key, who, loading, load⟩ := h
  exact look_loads services key who loading how s w load

theorem found_account (w : AuthUser) (h : Found services s w) : userAccount w ∈ s.accounts := by
  obtain ⟨raw, mem, loaded⟩ := found_copy services s w h
  rw [loaded.account]
  exact copy_account s raw mem

theorem reached_account (log : List Event) (st : Stage) (h : Reached services s a log st)
    (p : String × String) (hp : st.account = some p) :
    p ∈ s.accounts ∨ newAccount s a = some p := by
  cases h with
  | checked c => cases hp
  | created u new | signedUp u new =>
    obtain rfl := Option.some.inj hp
    exact Or.inr new
  | loaded w u found same =>
    obtain rfl := Option.some.inj hp
    rw [same]
    exact Or.inl (found_account services s w found)
  | verified i hashedToken userId how loading w u held found can same =>
    obtain rfl := Option.some.inj hp
    rw [same]
    exact Or.inl (found_account services s w ⟨_, _, _, _, found⟩)
  | profiled raw u held same =>
    obtain rfl := Option.some.inj hp
    rw [same]
    exact Or.inl (profile_account s raw held)
  | asked w found can =>
    obtain rfl := Option.some.inj hp
    exact Or.inl (found_account services s w found)
  | registered i u held | stored i r token held =>
    obtain rfl := Option.some.inj hp
    exact Or.inl (stage_account s _ _ held rfl)
  | read | closing => cases hp

theorem told_account (e : Event) (h : Told s a e) (p : String × String) (hp : e.account = some p) :
    p ∈ s.accounts ∨ newAccount s a = some p := by
  cases h with
  | issued i r token kept asked held =>
    obtain rfl := Option.some.inj hp
    exact Or.inl (stage_account s _ _ (stage_mem i s _ held) rfl)
  | mailed | presented => cases hp
  | verified i hashedToken u held =>
    obtain rfl := Option.some.inj hp
    exact Or.inl (stage_account s _ _ held rfl)
  | vouched userId address new =>
    obtain rfl := Option.some.inj hp
    exact Or.inr new

theorem profiled_account (u : User) (t : UsersTable) :
    account (UserCaches.userRow u t).authColumns = profileAccount u :=
  Prod.ext (UserRow.id_savedUser _ _) (UserRow.email_savedUser _ _)

include spec

theorem spec_accounts (p : String × String) (hp : p ∈ s'.accounts) :
    p ∈ s.accounts ∨ newAccount s a = some p := by
  rcases (mem_accounts s' p).mp hp with
    ⟨raw, mem, rfl⟩ | ⟨raw, mem, rfl⟩ | ⟨e, mem, named⟩ | ⟨e, mem, named⟩
  · left
    rcases spec_copies services s a s' spec raw mem with
      old | ⟨i, why, u, held, rfl⟩ | ⟨i, u, held, rfl⟩
    · exact copy_account s raw old
    · exact stage_account s _ _ held rfl
    · rw [profiled_account]
      exact stage_account s _ _ held rfl
  · left
    rcases spec.profiles raw mem with old | ⟨row, hr, rfl⟩
    · exact profile_account s raw old
    · exact copy_account s row.authColumns (row_copy s row hr)
  · rcases spec.stages e mem with old | new
    · exact Or.inl (stage_account s e p old named)
    · exact reached_account services s a s'.log e.2 new p named
  · rcases spec_told services s a s' spec e mem with old | new
    · exact Or.inl (log_account s e p old named)
    · exact told_account s a e new p named

theorem spec_oneAddress (h : OneAddress s) (fresh : FreshIds s a) : OneAddress s' := by
  intro p hp q hq same
  rcases spec_accounts services s s' a spec p hp with old | made
  · rcases spec_accounts services s s' a spec q hq with old' | made'
    · exact h p old q old' same
    · exact absurd same (fresh q.1 (newAccount_id s a q made') p old)
  · rcases spec_accounts services s s' a spec q hq with old' | made'
    · exact absurd same.symm (fresh p.1 (newAccount_id s a p made) q old')
    · exact Option.some.inj (made.symm.trans made')

omit spec in
theorem wrap_keyed (key : UserAuthCacheKey) (row : Option UserRow) (store : AuthStore)
    (h : KeyedEntries store.cached)
    (named : ∀ r ∈ row, ∀ userId, key = .userById userId → r.id = userId) :
    KeyedEntries (PrismaAuthUserRepository.wrap key row store).2.cached := by
  unfold PrismaAuthUserRepository.wrap
  split
  · exact h
  · cases row with
    | none => exact h
    | some r =>
      intro entry mem userId byId
      rcases (mem_put _ _ _ _).mp mem with rfl | ⟨old, -⟩
      · exact named r rfl userId byId
      · exact h entry old userId byId

theorem spec_keyed (h : Keyed s) : Keyed s' := by
  refine ⟨?_, fun entry mem userId byId => ?_⟩
  · generalize s'.store = store, spec.store = move at *
    cases move with
    | same => exact h.1
    | lookedUp key who loading =>
      cases key with
      | byId =>
        refine wrap_keyed _ _ s.store h.1 fun r hr userId byId => ?_
        rw [← UserAuthCacheKey.userById.inj byId]
        exact (UsersTable.findById_some _ _ r hr).2
      | byEmail => exact wrap_keyed _ _ s.store h.1 fun r hr userId byId => by cases byId
    | saved i why u held store written cached dropped =>
      obtain ⟨-, remaining⟩ := (PrismaAuthUserRepository.save_ok_iff _ u s.store store).mp written
      rcases dropped with rfl | ⟨-, rfl⟩
      · intro entry mem
        change entry ∈ store.cached at mem
        rw [remaining] at mem
        split_ifs at mem
        · exact h.1 entry mem
        · exact h.1 entry (PrismaAuthUserRepository.mem_invalidate _ _ _ _ entry mem).1
      · exact h.1
    | profiled => exact h.1
    | filled entry mem late =>
      intro e there userId byId
      rcases (mem_put _ _ _ _).mp there with rfl | ⟨old, -⟩
      · exact h.2 e mem userId byId
      · exact h.1 e old userId byId
    | forgot key => exact fun entry mem => h.1 entry ((mem_erase _ _ _ _).mp mem).1
  · rcases spec.pending entry mem with old | ⟨row, hr, copy, named⟩
    · exact h.2 entry old userId byId
    · rw [← copy]
      exact named userId byId

theorem spec_traced (h : Traced services s) (fresh : IssuesFresh services s a)
    (asked : PresentsMailed s a) : Traced services s' := by
  have issues : ∀ t u address, .issued t u address ∈ s'.log → .issued t u address ∈ s.log ∨
      ∃ i kept, ∃ r : Recipient, a = .saveToken i t kept ∧ stage i s = some (.owed r) ∧
        r.userId = u ∧ r.address = address := by
    intro t u address mem
    rcases spec_told services s a s' spec _ mem with old | new
    · exact Or.inl old
    · cases new with
      | issued i r token kept step held => exact Or.inr ⟨i, kept, r, step, held, rfl, rfl⟩
  have apart : ∀ t u address i t' kept, .issued t u address ∈ s.log →
      a = .saveToken i t' kept → services.hashToken t ≠ services.hashToken t' := by
    rintro t u address i t' kept old rfl
    exact fresh _ old t rfl
  constructor
  · intro t u address t' u' address' mem mem' same
    rcases issues t u address mem with old | ⟨i, kept, r, step, held, rfl, rfl⟩
    · rcases issues t' u' address' mem' with old' | ⟨i, kept, r, step, held, rfl, rfl⟩
      · exact h.once t u address t' u' address' old old' same
      · exact absurd same (apart t u address i t' kept old step)
    · rcases issues t' u' address' mem' with old' | ⟨i', kept', r', step', held', rfl, rfl⟩
      · exact absurd same.symm (apart t' u' address' i t kept old' step)
      · obtain ⟨rfl, rfl, -⟩ := Action.saveToken.inj (step.symm.trans step')
        obtain rfl := Stage.owed.inj (Option.some.inj (held.symm.trans held'))
        exact ⟨rfl, rfl, rfl⟩
  · intro e mem
    rcases spec.tokens e mem with old | ⟨i, t, kept, r, -, -, rfl, told⟩
    · obtain ⟨t, address, issued, named⟩ := h.tokens e old
      exact ⟨t, address, spec_kept services s a s' spec _ issued, named⟩
    · exact ⟨t, r.address, told, rfl⟩
  · intro i r t mem
    rcases spec.stages _ mem with old | new
    · exact spec_kept services s a s' spec _ (h.stored i r t old)
    · cases new with
      | stored j r t held told => exact told
  · intro t address mem
    rcases spec_told services s a s' spec _ mem with old | new
    · obtain ⟨u, issued⟩ := h.mailed t address old
      exact ⟨u, spec_kept services s a s' spec _ issued⟩
    · cases new with
      | mailed i r t held =>
        exact ⟨r.userId, spec_kept services s a s' spec _ (h.stored i r t held)⟩
  · intro i hashed u mem
    rcases spec.stages _ mem with old | new
    · obtain ⟨address, returned⟩ := h.read i hashed u old
      have kept := spec_kept services s a s' spec
      exact ⟨address, returned_kept s.log s'.log kept u address returned⟩
    · cases new with
      | read j token userId step known told =>
        subst step
        -- the hash under which the user is stored is that of the token in the mail
        obtain ⟨e, mail, standing⟩ := asked
        cases e with
        | mailed t address =>
          obtain rfl := Option.some.inj standing
          obtain ⟨owner, issued⟩ := h.mailed t address mail
          obtain ⟨t', address', issued', same⟩ := h.tokens _ known
          obtain ⟨rfl, rfl, rfl⟩ := h.once _ _ _ _ _ _ issued' issued same
          have kept := spec_kept services s _ s' spec
          exact ⟨address', t', kept _ issued, kept _ mail, told⟩
        | _ => cases standing

omit spec in
theorem look_id (how : Access) (userId : String) (loading : Clock) (w : AuthUser) (h : Keyed s)
    (found : (look services how .byId userId loading s).1 = .ok (some w)) :
    (userAccount w).1 = userId := by
  cases how with
  | prompt =>
    obtain ⟨o, raw, hit, loads⟩ := (PrismaAuthUserRepository.load_some_iff _ _ w).mp found
    rw [(toDomain_loadedFrom o loading raw w loads).account]
    split at hit
    · rename_i entry cached
      obtain ⟨-, rfl⟩ := Prod.mk.inj (Option.some.inj hit)
      obtain ⟨mem, named⟩ := find_some _ _ _ _ cached
      exact h.1 entry mem userId named
    · cases hrow : s.store.table.findById userId with
      | none =>
        rw [hrow] at hit
        cases hit
      | some row =>
        rw [hrow] at hit
        obtain ⟨-, rfl⟩ := Prod.mk.inj (Option.some.inj hit)
        exact (UsersTable.findById_some userId _ row hrow).2
  | late =>
    obtain ⟨o, raw, hit, loads⟩ := (PrismaAuthUserRepository.load_some_iff _ _ w).mp found
    rw [(toDomain_loadedFrom o loading raw w loads).account]
    obtain ⟨e, asked, same⟩ := Option.map_eq_some_iff.mp hit
    obtain ⟨-, rfl⟩ := Prod.mk.inj same
    obtain ⟨row, hrow, rfl⟩ := Option.map_eq_some_iff.mp asked
    exact (UsersTable.findById_some userId _ row hrow).2

omit spec in
/-- A save of the profile module keeps the verification, and a row that it adds has none. -/
theorem profiled_verified (u : User) (t : UsersTable)
    (h : (UserCaches.userRow u t).emailVerified = true) :
    ∃ row ∈ t.rows, row.id = u.id.getValue ∧ row.emailVerified = true := by
  unfold UserCaches.userRow at h
  cases found : t.findById u.id.getValue with
  | none =>
    rw [found] at h
    exact absurd h Bool.false_ne_true
  | some row =>
    rw [found] at h
    obtain ⟨mem, named⟩ := t.findById_some _ row found
    exact ⟨row, mem, named, h⟩

/-- A user that is verified gets the address to which its token went. -/
theorem spec_proven (table : UsersTable) (h : Proven table s) (one : OneAddress s)
    (keyed : Keyed s) (traced : Traced services s) : Proven table s' := by
  have kept := evidence_kept table s.log s'.log (spec_kept services s a s' spec)
  constructor
  · intro raw mem verified
    rcases spec_copies services s a s' spec raw mem with
      old | ⟨i, why, u, held, rfl⟩ | ⟨i, u, held, rfl⟩
    · exact kept _ (h.copies raw old verified)
    · exact kept _ (h.stages i why u held verified)
    · -- the row that was there has the same address
      obtain ⟨row, hr, named, was⟩ := profiled_verified u s.store.table verified
      have copy := row_copy s row hr
      have whole := one _ (copy_account s _ copy) _ (stage_account s _ _ held rfl) named
      rw [profiled_account, ← whole]
      exact kept _ (h.copies _ copy was)
  · intro i why u mem verified
    rcases spec.stages _ mem with old | new
    · exact kept _ (h.stages i why u old verified)
    · cases new with
      | created u new unverified =>
        rw [unverified] at verified
        cases verified
      | signedUp u new told => exact Or.inr (Or.inl told)
      | loaded w u found same unchanged =>
        obtain ⟨raw, copy, loaded⟩ := found_copy services s w found
        rw [same, loaded.account]
        refine kept _ (h.copies raw copy ?_)
        rw [← loaded.verified, ← unchanged]
        exact verified
      | verified j hashedToken userId how loading w u held found can same now =>
        obtain ⟨address, returned⟩ := traced.read j hashedToken userId held
        obtain ⟨token, issued, -⟩ := id returned
        have own := look_id services s how userId loading w keyed found
        have whole := one (userAccount w) (found_account services s w ⟨_, _, _, _, found⟩)
          (userId, address) (log_account s _ _ issued rfl) own
        rw [same, whole]
        exact kept _ (Or.inr (Or.inr returned))

end Steps

section Runs

structure Authentic (services : Services) (table : UsersTable) (s : Site) : Prop where
  one : OneAddress s
  keyed : Keyed s
  traced : Traced services s
  proven : Proven table s

structure Orderly (services : Services) (s : Site) (a : Action) : Prop where
  ids : FreshIds s a
  tokens : IssuesFresh services s a
  mails : PresentsMailed s a

variable (services : Services) (table : UsersTable)

theorem start_copies (raw : RawAuthUser) (h : raw ∈ (start table).copies) :
    ∃ row ∈ table.rows, row.authColumns = raw := by
  rcases (mem_copies _ raw).mp h with here | ⟨entry, he, -⟩
  · rcases (mem_storeCopies _ raw).mp here with rows | ⟨entry, he, -⟩
    · exact rows
    · cases he
  · cases he

theorem start_authentic : Authentic services table (start table) where
  one := by
    have known : ∀ p ∈ (start table).accounts, ∃ row ∈ table.rows, (row.id, row.email) = p := by
      intro p hp
      rcases (mem_accounts _ p).mp hp with
        ⟨raw, mem, rfl⟩ | ⟨raw, mem, -⟩ | ⟨e, mem, -⟩ | ⟨e, mem, -⟩
      · obtain ⟨row, hr, rfl⟩ := start_copies table raw mem
        exact ⟨row, hr, rfl⟩
      · cases mem
      · cases mem
      · cases mem
    intro p hp q hq same
    obtain ⟨row, hr, rfl⟩ := known p hp
    obtain ⟨row', hr', rfl⟩ := known q hq
    rw [table.eq_of_id row row' hr hr' same]
  keyed :=
    ⟨fun _ mem => absurd mem List.not_mem_nil, fun _ mem => absurd mem List.not_mem_nil⟩
  traced := {
    once := fun _ _ _ _ _ _ mem => absurd mem List.not_mem_nil
    tokens := fun _ mem => absurd mem List.not_mem_nil
    stored := fun _ _ _ mem => absurd mem List.not_mem_nil
    mailed := fun _ _ mem => absurd mem List.not_mem_nil
    read := fun _ _ _ mem => absurd mem List.not_mem_nil }
  proven := {
    copies := by
      intro raw mem verified
      obtain ⟨row, hr, rfl⟩ := start_copies table raw mem
      exact Or.inl ⟨row, hr, rfl, verified⟩
    stages := fun _ _ _ mem => absurd mem List.not_mem_nil }

theorem step_authentic (s : Site) (a : Action) (h : Authentic services table s)
    (orderly : Orderly services s a) : Authentic services table (step services s a) := by
  have spec := step_spec services s a
  exact {
    one := spec_oneAddress services s _ a spec h.one orderly.ids
    keyed := spec_keyed services s _ a spec h.keyed
    traced := spec_traced services s _ a spec h.traced orderly.tokens orderly.mails
    proven := spec_proven services s _ a spec table h.proven h.one h.keyed h.traced }

def VerifiedBy (table : UsersTable) (log : List Event) (row : UserRow) : Prop :=
  (∃ old ∈ table.rows, (old.id, old.email) = (row.id, row.email) ∧ old.emailVerified = true) ∨
    .vouched row.id row.email ∈ log ∨
    ∃ token, .issued token row.id row.email ∈ log ∧ .mailed token row.email ∈ log ∧
      .presented token ∈ log ∧ ∀ address, .mailed token address ∈ log → address = row.email

theorem authentic_verifiedBy (s : Site) (h : Authentic services table s) (row : UserRow)
    (hr : row ∈ s.store.table.rows) (verified : row.emailVerified = true) :
    VerifiedBy table s.log row := by
  have copy := row_copy s row hr
  rcases h.proven.copies _ copy verified with old | vouched | ⟨token, issued, mailed, presented⟩
  · exact Or.inl old
  · exact Or.inr (Or.inl vouched)
  · refine Or.inr (Or.inr ⟨token, issued, mailed, presented, fun address elsewhere => ?_⟩)
    obtain ⟨owner, issued'⟩ := h.traced.mailed token address elsewhere
    exact (h.traced.once _ _ _ _ _ _ issued' issued rfl).2.2

/-- However the requests interleave, an address counts as verified only if it did from
the start, if Google vouched for it, or if a token came back from a mail to it. -/
theorem verified_by_own_mail (as : List Action)
    (orderly : Along (step services) (Orderly services) (start table) as) :
    Throughout (step services)
      (fun s => ∀ row ∈ s.store.table.rows, row.emailVerified = true → VerifiedBy table s.log row)
      (start table) as :=
  throughout_mono _ _ _ (authentic_verifiedBy services table) _ as <|
    throughout_of_step _ _ _ (step_authentic services table) _ as
      (start_authentic services table) orderly

instance (s : Site) (a : Action) : Decidable (Orderly services s a) :=
  decidable_of_iff (FreshIds s a ∧ IssuesFresh services s a ∧ PresentsMailed s a)
    ⟨fun ⟨i, t, m⟩ => ⟨i, t, m⟩, fun ⟨i, t, m⟩ => ⟨i, t, m⟩⟩

end Runs

section Samples
open PasswordReset (sampleServices)

def newcomers : UsersTable := ⟨[UserRow.newcomer], by decide⟩

def twoMails : List Action := [
  .resend 0 "john.doe@example.com" .prompt (.still 10),
  .resend 1 "john.doe@example.com" .late (.still 11),
  .saveToken 0 "a" true, .fill 0 true, .saveToken 1 "b" true, .sendMail 0, .sendMail 1,
  .readToken 2 "a", .verify 2 .prompt (.still 12) (.still 13), .save 2 true true,
  .invalidate 2 true]

theorem mailed_token_verifies :
    Throughout (step sampleServices)
        (fun s => ∀ row ∈ s.store.table.rows, row.emailVerified = true →
          VerifiedBy newcomers s.log row) (start newcomers) twoMails ∧
      (after (step sampleServices) (start newcomers) twoMails).store.table.rows.map
        UserRow.emailVerified = [true] :=
  ⟨verified_by_own_mail sampleServices newcomers twoMails (by decide), by decide⟩

end Samples

end KeramikStore.EmailVerification
