import Forex.Decimal.Text

namespace Forex

inductive Rounding
  | half
  | down
  | up
deriving DecidableEq

instance : Inhabited Rounding := ⟨.half⟩

def places (precision : UInt32) : Nat := min precision.toNat 28

theorem places_le (precision : UInt32) : places precision ≤ 28 := Nat.min_le_right _ _

namespace Decimal

/-- Between `0` and `0.01`, or between `-1` and `0`, ends excluded. -/
def isSmall (a : Decimal) : Bool :=
  (zero < a && a < hundredth) || ({ one with negative := true } < a && a < zero)

def fixPlaces (a : Decimal) (places : Nat) : Decimal :=
  (a.round places .halfAwayFromZero).rescale places

/-- A small amount at ten places, unless rounding takes it out of the small range. -/
def smallPrice? (a : Decimal) : Option Decimal :=
  if a.isSmall then
    let r := (a.round 10 .halfAwayFromZero).normalize
    if r.isZero || r.isSmall then some r.plainZero else none
  else none

def toPlaces (a : Decimal) (places : Nat) : Rounding → Decimal
  | .half => a.fixPlaces places
  | .down => a.round places .down
  | .up => a.round places .up

def toPrice (a : Decimal) (precision : UInt32) (rounding : Rounding) : Decimal :=
  match a.smallPrice? with
  | some r => r
  | none => if a.isZero then zero else (a.toPlaces (places precision) rounding).plainZero

def toFixed (a : Decimal) (precision : UInt32) : String :=
  let fixed := a.fixPlaces (places precision)
  (if fixed.isZero then zero.rescale (places precision) else fixed).toText

end Decimal

end Forex
