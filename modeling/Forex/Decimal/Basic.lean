import Forex.Power

namespace Forex

def Decimal.mantissaBound : Nat := twoTo 96

/-- A sign, a mantissa and at most 28 decimal places. The places are part of a decimal, so that
`1.0` and `1` differ, though they compare as equal; a zero may carry places and a sign. -/
structure Decimal where
  negative : Bool
  mantissa : Nat
  scale : Nat
  mantissa_lt : mantissa < Decimal.mantissaBound := by decide
  scale_le : scale ≤ 28 := by decide
deriving DecidableEq

inductive Decimal.Fault
  | multiplication
  | addition
  | division
  | divisionByZero
deriving DecidableEq

def Decimal.Fault.message : Decimal.Fault → String
  | multiplication => "Multiplication overflowed"
  | addition => "Addition overflowed"
  | division => "Division overflowed"
  | divisionByZero => "Division by zero"

namespace Decimal

theorem mantissaBound_eq : mantissaBound = 79228162514264337593543950336 := by decide

def zero : Decimal := { negative := false, mantissa := 0, scale := 0 }

def one : Decimal := { negative := false, mantissa := 1, scale := 0 }

def hundred : Decimal := { negative := false, mantissa := 100, scale := 0 }

def hundredth : Decimal := { negative := false, mantissa := 1, scale := 2 }

instance : Inhabited Decimal := ⟨zero⟩

def ofParts? (negative : Bool) (mantissa scale : Nat) : Option Decimal :=
  if h : mantissa < mantissaBound ∧ scale ≤ 28 then
    some { negative, mantissa, scale, mantissa_lt := h.1, scale_le := h.2 }
  else none

def isZero (a : Decimal) : Bool := a.mantissa == 0

def signed (a : Decimal) : Int := if a.negative then -(a.mantissa : Int) else a.mantissa

/-- The value in units of `10 ^ -28`, in which every decimal is a whole number. -/
def units (a : Decimal) : Int := a.signed * tenTo (28 - a.scale)

instance : LT Decimal := ⟨fun a b ↦ a.units < b.units⟩

instance : LE Decimal := ⟨fun a b ↦ a.units ≤ b.units⟩

instance (a b : Decimal) : Decidable (a < b) := inferInstanceAs (Decidable (a.units < b.units))

instance (a b : Decimal) : Decidable (a ≤ b) := inferInstanceAs (Decidable (a.units ≤ b.units))

def SameValue (a b : Decimal) : Prop := a.units = b.units

instance (a b : Decimal) : Decidable (a.SameValue b) :=
  inferInstanceAs (Decidable (a.units = b.units))

theorem lt_def {a b : Decimal} : a < b ↔ a.units < b.units := Iff.rfl

theorem le_def {a b : Decimal} : a ≤ b ↔ a.units ≤ b.units := Iff.rfl

theorem units_eq_zero_iff {a : Decimal} : a.units = 0 ↔ a.mantissa = 0 := by
  have h : (tenTo (28 - a.scale) : Int) ≠ 0 := by have := tenTo_pos (28 - a.scale); omega
  simp only [units, Int.mul_eq_zero, h, or_false, signed]
  split <;> omega

theorem isZero_iff {a : Decimal} : a.isZero = true ↔ a.units = 0 := by
  simp [isZero, units_eq_zero_iff]

end Decimal

end Forex
