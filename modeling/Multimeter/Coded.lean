/-!
# Coded fields

Several wire fields name a meaning by a number. A `Code` is a finite set of meanings with the number
and the name of each; a `Coded` field holds either one of them or a number outside the set, so that
a decoded record can be written back with the same bytes.
-/

namespace Multimeter

/-- A finite set of meanings, each with its number on the wire. -/
class Code (α : Type) (ρ : outParam Type) [DecidableEq ρ] where
  /-- Every meaning, in wire order. -/
  all : List α
  /-- The number that stands for a meaning. -/
  raw : α → ρ
  /-- The name of a meaning. -/
  name : α → String
  /-- The first meaning with the number of `code` is `code`: numbers are distinct and the list is
  complete. -/
  find?_raw (code : α) : all.find? (fun other => raw other == raw code) = some code

namespace Code

variable {α ρ : Type} [DecidableEq ρ] [Code α ρ]

/-- The meaning that a number stands for, if any. -/
def ofRaw? (value : ρ) : Option α := (all : List α).find? (fun code => raw code == value)

/-- Every code is found under its own raw value. -/
@[simp]
theorem ofRaw?_raw (code : α) : ofRaw? (raw code) = some code := find?_raw code

/-- A number that stands for a meaning is the number of that meaning. -/
theorem raw_of_ofRaw? {value : ρ} {code : α} (h : ofRaw? value = some code) :
    raw code = value := by
  simpa using List.find?_some h

/-- A number stands for `code` exactly when it is the number of `code`. -/
theorem ofRaw?_eq_some_iff {value : ρ} {code : α} :
    ofRaw? value = some code ↔ raw code = value :=
  ⟨raw_of_ofRaw?, fun h => h ▸ ofRaw?_raw code⟩

/-- Distinct meanings have distinct numbers. -/
theorem raw_injective {a b : α} (h : (raw a : ρ) = raw b) : a = b :=
  Option.some.inj (by rw [← ofRaw?_raw a, ← ofRaw?_raw b, h])

/-- The list of meanings is complete. -/
theorem mem_all (code : α) : code ∈ (all : List α) := List.mem_of_find?_eq_some (find?_raw code)

end Code

/-- A wire field: a known meaning, or a number outside the set of meanings. -/
inductive Coded (α ρ : Type) where
  /-- A meaning of the set. -/
  | known (code : α)
  /-- A number as it stood on the wire. -/
  | unknown (raw : ρ)
  deriving DecidableEq, Repr

namespace Coded

variable {α ρ : Type} [DecidableEq ρ] [Code α ρ]

/-- Read a field from its number. -/
def ofRaw (value : ρ) : Coded α ρ :=
  match (Code.ofRaw? value : Option α) with
  | some code => known code
  | none => unknown value

/-- The number of a field. -/
def raw : Coded α ρ → ρ
  | known code => Code.raw code
  | unknown value => value

/-- The field holds a number outside the set. -/
def isUnknown : Coded α ρ → Bool
  | known _ => false
  | unknown _ => true

/-- The name of the meaning, or the number in decimal marked as unknown. -/
def name [ToString ρ] : Coded α ρ → String
  | known code => Code.name code
  | unknown value => "Unknown(" ++ toString value ++ ")"

/-- Reading a number and writing the field gives the number back. -/
@[simp]
theorem raw_ofRaw (value : ρ) : (ofRaw value : Coded α ρ).raw = value := by
  unfold ofRaw
  cases h : (Code.ofRaw? value : Option α) with
  | some code => exact Code.raw_of_ofRaw? h
  | none => rfl

/-- The raw value of a code is read as this code. -/
@[simp]
theorem ofRaw_raw_known (code : α) : ofRaw (Code.raw code) = (known code : Coded α ρ) := by
  simp [ofRaw]

end Coded

end Multimeter
