import Forex.Price

namespace Forex

inductive MarkupRounding
  | floor
  | round
  | ceil
deriving DecidableEq

instance : Inhabited MarkupRounding := ⟨.round⟩

namespace MarkupRounding

def mode : MarkupRounding → (negative : Bool) → RoundingMode
  | floor, _ => .down
  | ceil, _ => .up
  | round, true => .halfTowardZero
  | round, false => .halfAwayFromZero

def apply (m : MarkupRounding) (value : Decimal) (precision : UInt32) : Decimal :=
  value.round (places precision) (m.mode value.negative)

end MarkupRounding

structure FeeRange where
  lower : Decimal
  upper : Decimal
  factor : Decimal
deriving DecidableEq

def FeeRange.contains (r : FeeRange) (value : Decimal) : Bool := r.lower < value && value ≤ r.upper

structure FeeSchedule where
  default : Decimal := .zero
  precision : UInt32 := 0
  rounding : MarkupRounding := .round
  ranges : List FeeRange := []
deriving DecidableEq

namespace FeeSchedule

/-- Of the ranges that contain the value the last one counts. -/
def percentFor (f : FeeSchedule) (value : Decimal) : Decimal :=
  ((f.ranges.reverse.find? (·.contains value)).map (·.factor)).getD f.default

def multiplierFor (f : FeeSchedule) (value : Decimal) : Except Decimal.Fault Decimal := do
  let share ← (f.percentFor value).div .hundred
  share.add .one

/-- The value raised by its percentage; zero if that does not fit a decimal. -/
def apply (f : FeeSchedule) (value : Decimal) : Except Decimal.Fault Decimal := do
  let multiplier ← f.multiplierFor value
  match value.mul? multiplier with
  | some raised => return (f.rounding.apply raised f.precision).plainZero
  | none => return .zero

end FeeSchedule

end Forex
