import KeramikStore.Shared.ValueObjects

/-!
# Identifiers

Every identifier of an aggregate is a text that matches one expression. The
classes differ only in the exception of their constructor, which is supplied.
-/

set_option autoImplicit false

namespace KeramikStore

@[ext] structure UniqueIdentifier where
  value : String
  accepted : UserId.regex.test value = true

namespace UniqueIdentifier

instance : DecidableEq UniqueIdentifier := fun a b =>
  decidable_of_iff (a.value = b.value) UniqueIdentifier.ext_iff.symm

variable {ε : Type}

def fromString (invalid : String → ε) (value : String) : Except ε UniqueIdentifier :=
  if h : UserId.regex.test value = true then .ok ⟨value, h⟩ else .error (invalid value)

def getValue (i : UniqueIdentifier) : String := i.value

@[simp] theorem fromString_getValue (invalid : String → ε) (i : UniqueIdentifier) :
    fromString invalid i.getValue = .ok i := dif_pos i.accepted

theorem fromString_ok_iff (invalid : String → ε) (raw : String) (i : UniqueIdentifier) :
    fromString invalid raw = .ok i ↔ i.value = raw := by
  constructor
  · intro h
    unfold fromString at h
    split at h
    · exact congrArg value (Except.ok.inj h).symm
    · cases h
  · rintro rfl
    exact fromString_getValue invalid i

def sample : UniqueIdentifier := ⟨UserId.sample.value, UserId.sample.accepted⟩
def second : UniqueIdentifier := ⟨"6f1f2c3e-0a4b-4c5d-8e6f-102030405061", by decide +kernel⟩
def third : UniqueIdentifier := ⟨"6f1f2c3e-0a4b-4c5d-8e6f-102030405062", by decide +kernel⟩

end UniqueIdentifier

end KeramikStore
