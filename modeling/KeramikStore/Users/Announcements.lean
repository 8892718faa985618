import KeramikStore.Users.UserCaches

/-!
# What the aggregates announce

Every command of the auth aggregate that returns leaves an event that the listener
handles and that names the user, and so do the two factories. For the profile the
same holds of all commands but a profile update in which nothing differs, and that
leaves the user as it was.
-/

set_option autoImplicit false

namespace KeramikStore
open Library Library.Outcome UserCaches UnifiedUserCacheInvalidationListener

namespace AuthUser

def Announced (u : AuthUser) : Prop := ∃ e ∈ announcedAuth u, u.id.getValue = e.userId

def Own (u : AuthUser) : Prop := ∀ e ∈ announcedAuth u, e.userId = u.id.getValue

theorem announcedAuth_addDomainEvent (u : AuthUser) (e : DomainEvent) :
    announcedAuth (u.addDomainEvent e) = announcedAuth u ++ (ofAuthEvent e).toList := by
  unfold announcedAuth addDomainEvent
  rw [List.filterMap_append]
  cases h : ofAuthEvent e <;> simp [h]

theorem announced_of_event (u : AuthUser) (e : DomainEvent) (email : String)
    (handled : ofAuthEvent e = some ⟨u.id.getValue, email⟩) : Announced (u.addDomainEvent e) := by
  unfold Announced
  rw [announcedAuth_addDomainEvent, handled]
  exact ⟨_, List.mem_append_right _ List.mem_cons_self, rfl⟩

theorem announced_applyChange (u : AuthUser) (now : Date) : Announced (u.applyChange now) :=
  announced_of_event { u with updatedAt := now } _ u.email.getValue rfl

theorem announced_addDomainEvent (u : AuthUser) (e : DomainEvent) (h : Announced u) :
    Announced (u.addDomainEvent e) := by
  obtain ⟨p, mem, same⟩ := h
  unfold Announced
  rw [announcedAuth_addDomainEvent]
  exact ⟨p, List.mem_append_left _ mem, same⟩

theorem own_applyChange (u : AuthUser) (now : Date) (h : Own u) : Own (u.applyChange now) := by
  intro e mem
  unfold applyChange at mem
  rw [announcedAuth_addDomainEvent, List.mem_append] at mem
  rcases mem with old | new
  · exact h e old
  · obtain rfl := List.mem_singleton.mp new
    rfl

theorem own_addDomainEvent (u : AuthUser) (e : DomainEvent) (unhandled : ofAuthEvent e = none)
    (h : Own u) : Own (u.addDomainEvent e) := by
  intro p mem
  rw [announcedAuth_addDomainEvent, unhandled] at mem
  exact h p (by simpa using mem)

theorem register_announced (id : UserId) (name : Name) (email : Email) (password : Password)
    (role : Option Role) (clk : Clock) (u : AuthUser)
    (h : register id name email password role clk = .ok u) : Announced u := by
  obtain ⟨v, -, hu⟩ := (bind_ok_iff _ _ _).mp h
  obtain rfl := Except.ok.inj hu
  exact announced_of_event v _ v.email.getValue rfl

theorem fromOAuth_announced (id : UserId) (name : Name) (email : Email) (provider : AuthProvider)
    (role : Option Role) (clk : Clock) (u : AuthUser)
    (h : fromOAuth id name email provider role clk = .ok u) : Announced u := by
  obtain ⟨v, -, hu⟩ := (bind_ok_iff _ _ _).mp h
  obtain rfl := Except.ok.inj hu
  exact announced_of_event v _ v.email.getValue rfl

end AuthUser

namespace AuthCommand
open AuthUser

section Events

/-! `I` speaks of the identifier and the events of a user alone. A change makes `P`
of it, and the events that the listener does not handle keep `P`. -/

variable (I P : AuthUser → Prop)
  (frame : ∀ u v : AuthUser, v.id = u.id → v.domainEvents = u.domainEvents → I u → I v)
  (change : ∀ u now, I u → P (applyChange now u))
  (add : ∀ u e, ofAuthEvent e = none → P u → P (addDomainEvent e u))

include change add in
theorem ensures_change (u : AuthUser) (now : Date) (e : DomainEvent)
    (unhandled : ofAuthEvent e = none) (h : I u) :
    Ensures P (done ((u.applyChange now).addDomainEvent e) : Outcome Error AuthUser) :=
  ensures_done P _ (add _ e unhandled (change u now h))

include change add in
theorem ensures_newPassword (checks : Except Error Unit) (u v : AuthUser) (now : Date)
    (e : DomainEvent) (unhandled : ofAuthEvent e = none) (h : I v) :
    Ensures P (match checks with
      | .error err => threw err u
      | .ok () => done ((v.applyChange now).addDomainEvent e)) := by
  cases checks with
  | error err => exact ensures_threw P err u
  | ok _ => exact ensures_change I P change add v now e unhandled h

include frame in
theorem ensures_addRefreshToken (u : AuthUser) (token : String) (now : Date) (h : I u) :
    Ensures I (u.addRefreshToken token now) := by
  rcases addRefreshToken_cases u now token with ⟨-, e⟩ | ⟨-, -, e⟩ | ⟨-, -, e⟩
  · exact e ▸ ensures_done I u h
  · exact e ▸ ensures_threw I _ u
  · exact e ▸ ensures_done I _ (frame u _ rfl rfl h)

include frame change add in
/-- Every command ends in a change and in events that the listener does not handle. -/
theorem exec_ensures (c : AuthCommand) (clk : Clock) (u : AuthUser) (h : I u) :
    Ensures P (c.exec clk u) := by
  have ends := ensures_change I P change add
  cases c with
  | verifyEmail | unverifyEmail =>
    exact ensures_ite P _ _ _ (ensures_threw P _ _) (ends _ _ _ rfl (frame u _ rfl rfl h))
  | linkOAuth p | unlinkOAuth p =>
    exact ensures_ite P _ _ _ (ensures_threw P _ _) (ends _ _ _ rfl (frame u _ rfl rfl h))
  | changePassword p | resetPassword p =>
    exact ensures_newPassword I P change add _ _ _ _ _ rfl (frame u _ rfl rfl h)
  | recordLogin t =>
    apply ensures_andThen P I
    · have seen : I { u with lastLoginAt := some (clk.read 0) } := frame u _ rfl rfl h
      exact ensures_ite I _ _ _ (ensures_done I _ seen)
        (ensures_addRefreshToken I frame _ t _ seen)
    · intro v hv
      exact ends v _ _ rfl hv
  | recordOAuthLogin p t a =>
    apply ensures_ite
    · exact ensures_threw P _ _
    · apply ensures_andThen P I
      · exact ensures_addRefreshToken I frame u t _ h
      · intro v hv
        exact ends _ _ _ rfl (frame v _ rfl rfl hv)
  | recordTokenRefresh old new =>
    apply ensures_andThen P I
    · exact ensures_addRefreshToken I frame _ new _ (frame u _ rfl rfl h)
    · intro v hv
      exact ensures_done P _ (change v _ hv)
  | recordLogout t =>
    apply ensures_done
    cases t with
    | none => exact change _ _ (frame u _ rfl rfl h)
    | some token =>
      dsimp only
      split_ifs
      · exact change _ _ (frame u _ rfl rfl h)
      · exact change _ _ (frame u _ rfl rfl h)
  | revokeAllRefreshTokens => exact ensures_done P _ (change _ _ (frame u _ rfl rfl h))
  | activate | deactivate | suspend | softDelete =>
    exact ends _ _ _ rfl (frame u _ rfl rfl h)

end Events

theorem exec_announced (c : AuthCommand) (clk : Clock) (u : AuthUser) :
    Ensures Announced (c.exec clk u) :=
  exec_ensures (fun _ => True) Announced (fun _ _ _ _ _ => trivial)
    (fun v now _ => announced_applyChange v now) (fun v e _ => announced_addDomainEvent v e) c clk u
    trivial

theorem exec_own (c : AuthCommand) (clk : Clock) (u : AuthUser) (h : Own u) :
    Ensures Own (c.exec clk u) := by
  apply exec_ensures Own Own _ own_applyChange own_addDomainEvent c clk u h
  intro v w id events hv e mem
  unfold announcedAuth at mem
  rw [events] at mem
  rw [id]
  exact hv e mem

theorem effect_email (c : AuthCommand) (clk : Clock) (u : AuthUser) :
    (c.effect clk u).email = u.email := by
  cases c with
  | recordLogout t => cases t <;> rfl
  | _ => simp only [effect] <;> split_ifs <;> rfl

theorem exec_email (c : AuthCommand) (clk : Clock) (u : AuthUser) :
    (c.exec clk u).state.email = u.email := by
  obtain ⟨-, d, props, -⟩ := exec_leaves c clk u
  have email := congrArg AuthUserProps.email props
  exact email.trans (effect_email c clk u)

end AuthCommand

namespace User

def Announced (u : User) : Prop := ∃ e ∈ announcedUser u, u.id.getValue = e.userId

theorem announced_change (u : User) (now : Date) (e : UserEvent) :
    Announced ((u.applyChange now).addDomainEvent e) := by
  refine ⟨⟨u.id.getValue, u.email.getValue⟩, ?_, rfl⟩
  unfold announcedUser applyChange addDomainEvent
  rw [List.filterMap_append, List.filterMap_append]
  exact List.mem_append_left _ (List.mem_append_right _ List.mem_cons_self)

theorem updateField_kept {α : Type} (equals : α → α → Bool) (old : Option α)
    (new : Option (Option α)) (h : (updateField equals old new).2 = false) :
    (updateField equals old new).1 = old := by
  revert h
  fun_cases updateField equals old new <;> simp

end User

namespace UserCommand
open User

theorem ensures_guarded (P : User → Prop) (checks : Except Error Unit) (body : User → User)
    (u : User) (h : P (body u)) : Ensures P (guarded checks body u) := by
  unfold guarded
  split
  · exact ensures_threw P _ _
  · exact ensures_done P _ h

theorem updateProfile_announced (params : ProfileParams) (clk : Clock) (u : User) :
    Ensures (fun v => Announced v ∨ v = u) (u.updateProfile params clk) := by
  apply ensures_guarded
  dsimp only
  split_ifs with changed
  · exact Or.inl (announced_change _ _ _)
  · right
    simp only [Bool.or_eq_true, not_or, Bool.not_eq_true, Option.isSome_eq_false_iff,
      Option.isNone_iff_eq_none] at changed
    obtain ⟨⟨⟨name, birth⟩, gender⟩, avatar⟩ := changed
    rw [name, updateField_kept _ _ _ birth, updateField_kept _ _ _ gender,
      updateField_kept _ _ _ avatar]
    rfl

theorem exec_announced (host : Host) (c : UserCommand) (clk : Clock) (u : User) :
    Ensures (fun v => Announced v ∨ v = u) (c.exec host clk u) := by
  cases c with
  | updateProfile params => exact updateProfile_announced params clk u
  | verifyPhone =>
    change Ensures _ (u.verifyPhone clk)
    unfold User.verifyPhone
    split
    · exact ensures_threw _ _ _
    · exact ensures_threw _ _ _
    · exact ensures_ite _ _ _ _ (ensures_threw _ _ _)
        (ensures_done _ _ (Or.inl (announced_change _ _ _)))
  | _ =>
    apply ensures_guarded
    exact Or.inl (announced_change _ _ _)

end UserCommand

end KeramikStore
