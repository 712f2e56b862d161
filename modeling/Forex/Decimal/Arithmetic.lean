import Forex.Decimal.Rounding

namespace Forex.Decimal

/-- The value `± n / 10 ^ scale` with as many places as fit, trying `places` first. -/
def fit? (negative : Bool) (n scale : Nat) : Nat → Option Decimal
  | 0 => ofParts? negative (RoundingMode.halfEven.divide negative n (tenTo scale)) 0
  | places + 1 =>
    ofParts? negative
        (RoundingMode.halfEven.divide negative n (tenTo (scale - (places + 1)))) (places + 1)
      <|> fit? negative n scale places

def mantissaBelow (a : Decimal) (bound : Nat) : Bool := a.mantissa < bound

def unsignZero (a : Decimal) : Decimal := { a with negative := a.negative && !a.isZero }

/-- Products of two mantissas below `2 ^ 32` never give a signed zero, and give a plain zero once
they have more than 47 places. -/
def mul? (a b : Decimal) : Option Decimal :=
  let narrow := a.mantissaBelow (twoTo 32) && b.mantissaBelow (twoTo 32)
  let scale := a.scale + b.scale
  if a.isZero || b.isZero then some zero
  else if narrow && 47 < scale then some zero
  else
    let p := fit? (a.negative != b.negative) (a.mantissa * b.mantissa) scale (min scale 28)
    if narrow then p.map unsignZero else p

def mul (a b : Decimal) : Except Fault Decimal :=
  match a.mul? b with
  | some p => .ok p
  | none => .error .multiplication

def add? (a b : Decimal) : Option Decimal :=
  if a.isZero then some b
  else if b.isZero then some a
  else
    let scale := max a.scale b.scale
    let sum := a.signed * tenTo (scale - a.scale) + b.signed * tenTo (scale - b.scale)
    fit? (sum < 0) sum.natAbs scale scale

def add (a b : Decimal) : Except Fault Decimal :=
  match a.add? b with
  | some s => .ok s
  | none => .error .addition

def quotientStep (q : Nat) (scale : Int) : Nat → Nat
  | 0 => 0
  | p + 1 =>
    if scale + (p + 1) ≤ 28 ∧ q * tenTo (p + 1) < mantissaBound then p + 1
    else quotientStep q scale p

def settleQuotient (d q r : Nat) (scale : Int) : Option (Nat × Nat) :=
  let exact := q * d + r
  let m := RoundingMode.halfEven.divide false exact d
  let m' := RoundingMode.halfEven.divide false exact (d * 10)
  if m < mantissaBound then if 0 ≤ scale then some (m, scale.toNat) else none
  else if 1 ≤ scale ∧ m' < mantissaBound then some (m', scale.toNat - 1)
  else none

/-- Long division by `d`, from the quotient `q` and remainder `r` found so far. Places are taken up
to nine at a time; every round adds one at least, so `rounds` of them reach the 28th. -/
def longDivision (d : Nat) : (rounds : Nat) → (q r : Nat) → (scale : Int) → Option (Nat × Nat)
  | 0, q, r, scale => settleQuotient d q r scale
  | rounds + 1, q, r, scale =>
    if r = 0 then
      if 0 ≤ scale then some (q, scale.toNat)
      else
        let p := min 9 (-scale).toNat
        if q * tenTo p < mantissaBound then longDivision d rounds (q * tenTo p) 0 (scale + p)
        else none
    else
      let p := quotientStep q scale 9
      if p = 0 then settleQuotient d q r scale
      else
        let q' := q * tenTo p + r * tenTo p / d
        let r' := r * tenTo p % d
        if q' < mantissaBound then longDivision d rounds q' r' (scale + p)
        else settleQuotient d q' r' (scale + p)

def dropZeros (count multiple : Nat) (m : Nat × Nat) : Nat × Nat :=
  if m.1 % multiple = 0 ∧ count ≤ m.2 ∧ m.1 % tenTo count = 0 then
    (m.1 / tenTo count, m.2 - count)
  else m

/-- Zeros leave a long quotient in blocks: eights, then one four, one two and a single one, each
tried only where the mantissa has enough factors of two. A zero may therefore stay. -/
def tidyQuotient (m : Nat × Nat) : Nat × Nat :=
  let m := dropZeros 8 (twoTo 32) (dropZeros 8 (twoTo 32) (dropZeros 8 (twoTo 32) m))
  dropZeros 1 2 (dropZeros 2 4 (dropZeros 4 16 m))

/-- The quotient of `a` by a nonzero `b`. Only a division that leaves a remainder at first is
tidied. -/
def div? (a b : Decimal) : Option Decimal :=
  if a.isZero then some zero
  else
    let q := a.mantissa / b.mantissa
    let r := a.mantissa % b.mantissa
    (longDivision b.mantissa 57 q r ((a.scale : Int) - b.scale)).bind fun m ↦
      let m := if r = 0 then m else tidyQuotient m
      ofParts? ((a.negative != b.negative) && m.1 != 0) m.1 m.2

def div (a b : Decimal) : Except Fault Decimal :=
  if b.isZero then .error .divisionByZero
  else
    match a.div? b with
    | some q => .ok q
    | none => .error .division

end Forex.Decimal
