/-!
# Link health

Failures push an error counter up, successes pull it down again. Once it has passed its ceiling the
meter counts as gone. The counter stays within one byte at both ends.
-/

namespace Multimeter

/-- An error counter with a ceiling. -/
structure Health where
  /-- The errors counted. -/
  errors : UInt8
  /-- The most errors that are tolerated. -/
  ceiling : UInt8
  deriving DecidableEq, Repr

namespace Health

/-- No errors yet. -/
def new (ceiling : UInt8) : Health := { errors := 0, ceiling }

/-- More errors than tolerated. -/
def isExceeded (health : Health) : Bool := health.ceiling < health.errors

/-- Count a failure; a full counter stays full. -/
def recordError (health : Health) : Health :=
  { health with errors := if health.errors = 255 then 255 else health.errors + 1 }

/-- Count a success; an empty counter stays empty. -/
def recordSuccess (health : Health) : Health :=
  { health with errors := if health.errors = 0 then 0 else health.errors - 1 }

/-- Forget all errors. -/
def reset (health : Health) : Health := { health with errors := 0 }

/-- A failure adds one error, up to 255. -/
theorem errors_recordError (health : Health) :
    health.recordError.errors.toNat = min (health.errors.toNat + 1) 255 := by
  obtain ⟨errors, ceiling⟩ := health
  by_cases h : errors = 255
  · subst h
    rfl
  · have hlt := errors.toNat_lt
    have hne : errors.toNat ≠ 255 := fun e => h (UInt8.toNat_inj.1 e)
    simp only [recordError, h, if_false, UInt8.toNat_add]
    have hone : (1 : UInt8).toNat = 1 := rfl
    omega

/-- A success takes one error away, down to none. -/
theorem errors_recordSuccess (health : Health) :
    health.recordSuccess.errors.toNat = health.errors.toNat - 1 := by
  obtain ⟨errors, ceiling⟩ := health
  by_cases h : errors = 0
  · subst h
    rfl
  · have hne : errors.toNat ≠ 0 := fun e => h (UInt8.toNat_inj.1 e)
    simp only [recordSuccess, h, if_false]
    rw [UInt8.toNat_sub_of_le]
    · rfl
    · exact UInt8.le_iff_toNat_le.2 (Nat.one_le_iff_ne_zero.2 hne)

end Health

end Multimeter
