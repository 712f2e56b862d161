import Forex.Decimal.Arithmetic
import Forex.Text.Digits

namespace Forex.Decimal

open Text

def toChars (a : Decimal) : List Char :=
  let whole := Nat.toDigits 10 (a.mantissa / tenTo a.scale)
  let fraction := if a.scale = 0 then [] else '.' :: lastDigits a.scale a.mantissa
  (if a.negative then ['-'] else []) ++ whole ++ fraction

def toText (a : Decimal) : String := String.ofList a.toChars

instance : ToString Decimal := ⟨toText⟩

/-- Ends the digits `m` with the dropped digit `d`, half away from zero. A carry out of the mantissa
gives up one place. What follows must still be digits and separators. -/
def settleDigits (m scale d : Nat) (rest : List Char) : Option (Nat × Nat) :=
  if rest.all fun c ↦ c.isDigit || c == '_' then
    let m' := if 5 ≤ d then m + 1 else m
    if m' < mantissaBound then some (m', scale)
    else if scale = 0 then none
    else some ((m' + 4) / 10, scale - 1)
  else none

/-- Whether a separator after the 28th place is skipped; after fewer digits than these it ends the
number like a zero. -/
def skipsSeparator (m : Nat) : Bool := 1844674407370954906 ≤ m / 10

/-- Reads on after a first digit, with the digits `m`, of which `scale` stand behind the point. A
mantissa that runs full is an error before the point and is rounded behind it. -/
def scanDigits : (point : Bool) → (m scale : Nat) → List Char → Option (Nat × Nat)
  | _, m, scale, [] => some (m, scale)
  | point, m, scale, c :: cs =>
    match digit? c with
    | some d =>
      if scale = 28 then settleDigits m scale d cs
      else if 10 * m + d < mantissaBound then
        scanDigits point (10 * m + d) (if point then scale + 1 else scale) cs
      else if point then settleDigits m scale d cs
      else none
    | none =>
      if c = '_' then
        if scale = 28 ∧ !skipsSeparator m then settleDigits m scale 0 cs
        else scanDigits point m scale cs
      else if c = '.' ∧ !point then scanDigits true m scale cs
      else none

def scanStart : (point : Bool) → List Char → Option (Nat × Nat)
  | _, [] => none
  | point, c :: cs =>
    match digit? c with
    | some d => scanDigits point d (if point then 1 else 0) cs
    | none => if c = '.' ∧ !point then scanStart true cs else none

def parsePlain? (cs : List Char) : Option Decimal :=
  let unsigned := match cs with
    | '-' :: rest | '+' :: rest => rest
    | _ => cs
  let negative := cs.head? == some '-'
  (scanStart false unsigned).bind fun m ↦ ofParts? (negative && m.1 != 0) m.1 m.2

def exponent? (cs : List Char) : Option Nat :=
  let digits := match cs with
    | '+' :: rest => rest
    | _ => cs
  (natural? digits).filter (· < twoTo 32)

def movePointLeft? (a : Decimal) (n : Nat) : Option Decimal :=
  if 28 < n then none
  else if h : a.scale + n ≤ 28 then some { a with scale := a.scale + n, scale_le := h }
  else some { a.rescale (28 - n) with scale := 28, scale_le := Nat.le_refl _ }

def powerOfTen (n : Nat) : Decimal :=
  (ofParts? false (tenTo (min n 19)) 0).getD zero

def movePointRight? (a : Decimal) (n : Nat) : Option Decimal :=
  if n ≤ a.scale then
    some { a with scale := a.scale - n, scale_le := by have := a.scale_le; omega }
  else if 28 < n then none
  else
    (a.mul? (powerOfTen n)).bind fun b ↦
      if n ≤ 19 then some b.normalize else (b.mul? (powerOfTen (n - 19))).map normalize

def parseScientific? (cs : List Char) : Option Decimal :=
  let isMark (c : Char) := c == 'e' || c == 'E'
  match cs.dropWhile (!isMark ·) with
  | [] => none
  | _ :: exponent =>
    (parsePlain? (cs.takeWhile (!isMark ·))).bind fun a ↦
      match exponent with
      | '-' :: digits => (exponent? digits).bind a.movePointLeft?
      | digits => (exponent? digits).bind a.movePointRight?

def parse? (s : String) : Option Decimal := parsePlain? s.toList <|> parseScientific? s.toList

end Forex.Decimal
