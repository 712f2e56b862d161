import Forex.Decimal.Rounding

namespace Forex

/-- The double `± units / 2 ^ 1074`. Every finite double is a whole number of these units. -/
structure Binary64 where
  negative : Bool
  units : Nat
deriving DecidableEq

namespace Binary64

def unitsOfOne : Nat := twoTo 1074

def nearestUnits (n d : Nat) : Nat :=
  let scaled := n * unitsOfOne
  let step := twoTo ((scaled / d).log2 - 52)
  RoundingMode.halfEven.divide false scaled (d * step) * step

def unitsBound : Nat := twoTo 2098

def divideUnits (a b : Nat) : Nat := nearestUnits a b

def multiplyUnits (a b : Nat) : Nat := nearestUnits (a * b) (unitsOfOne * unitsOfOne)

def powerOfTenUnits (k : Nat) : Nat := nearestUnits (tenTo k) 1

/-- The units of `m * 10 ^ e` as found by one rounded product or quotient with a power of ten; far
below one it takes two quotients. This is not always the nearest double. -/
def scaledUnits? (m : Nat) (e : Int) : Option Nat :=
  let whole := nearestUnits m 1
  if m = 0 then some 0
  else if 308 < e then none
  else if 0 ≤ e then
    let units := multiplyUnits whole (powerOfTenUnits e.toNat)
    if units < unitsBound then some units else none
  else if -308 ≤ e then some (divideUnits whole (powerOfTenUnits (-e).toNat))
  else if -616 ≤ e then
    some (divideUnits (divideUnits whole (powerOfTenUnits 308)) (powerOfTenUnits (-e - 308).toNat))
  else some 0

def spacing (units : Nat) : Nat := twoTo (units.log2 - 52)

def spacingBelow (units : Nat) : Nat :=
  if units = twoTo units.log2 ∧ 52 < units.log2 then spacing units / 2 else spacing units

/-- Whether the decimal `x / 10 ^ 400` reads back as the double of these units. A decimal halfway to
a neighbour does if the double is even. -/
def readsBack (units x : Nat) : Bool :=
  let lower := (4 * units - 2 * spacingBelow units) * tenTo 400
  let upper := (4 * units + 2 * spacing units) * tenTo 400
  let x := 4 * x * unitsOfOne
  if units / spacing units % 2 = 0 then lower ≤ x && x ≤ upper else lower < x && x < upper

def digitsOn? (units value top count : Nat) : Option Nat :=
  let grid := tenTo (top - count)
  let below := value / (unitsOfOne * grid)
  let above := below + 1
  match readsBack units (below * grid), readsBack units (above * grid) with
  | false, false => none
  | true, false => some below
  | false, true => some above
  | true, true =>
    let twice := 2 * value
    let middle := (below + above) * grid * unitsOfOne
    some (if twice < middle || (twice == middle && below % 2 == 0) then below else above)

def firstDigits (units value top count : Nat) : (fuel : Nat) → Nat × Nat
  | 0 => (count, value / (unitsOfOne * tenTo (top - count)))
  | fuel + 1 =>
    match digitsOn? units value top count with
    | some digits => (count, digits)
    | none => firstDigits units value top (count + 1) fuel

/-- The fewest digits that read back as a nonzero double, without zeros at the end, and the power of
ten that they count. -/
def shortest (units : Nat) : Nat × Int :=
  let value := units * tenTo 400
  let top := (Nat.toDigits 10 (value / unitsOfOne)).length
  let (count, digits) := firstDigits units value top 1 17
  let (digits, left) := Decimal.stripZeros digits 17
  (digits, (top : Int) - 400 - count + (17 - left))

structure Layout where
  positional : Option (Int × Int)
  pointZero : Bool

def Layout.document : Layout := ⟨some (-4, 16), true⟩

def Layout.plain : Layout := ⟨none, false⟩

def Layout.isPositional (l : Layout) (point : Int) : Bool :=
  match l.positional with
  | none => true
  | some (first, last) => first ≤ point && point ≤ last

def Layout.position (l : Layout) (digits : List Char) (point : Int) : List Char :=
  if point ≤ 0 then '0' :: '.' :: (List.replicate (-point).toNat '0' ++ digits)
  else if digits.length ≤ point.toNat then
    digits ++ List.replicate (point.toNat - digits.length) '0' ++
      (if l.pointZero then ['.', '0'] else [])
  else digits.take point.toNat ++ '.' :: digits.drop point.toNat

def scientific (digits : List Char) (exponent : Int) : List Char :=
  let sign := if exponent < 0 then '-' else '+'
  let fraction := if digits.length ≤ 1 then [] else '.' :: digits.drop 1
  digits.take 1 ++ fraction ++ 'e' :: sign :: Nat.toDigits 10 exponent.natAbs

def toChars (l : Layout) (x : Binary64) : List Char :=
  let body :=
    if x.units = 0 then l.position ['0'] 1
    else
      let (m, place) := shortest x.units
      let digits := Nat.toDigits 10 m
      let point := digits.length + place
      if l.isPositional point then l.position digits point else scientific digits (point - 1)
  if x.negative then '-' :: body else body

def toText (l : Layout) (x : Binary64) : String := String.ofList (x.toChars l)

end Binary64

end Forex
