import Forex.Config.Setting
import Forex.Json.Document
import Forex.Text.Digits
import Forex.Timestamp

namespace Forex.Toml

open Text

def ungroup? (isDigit : Char → Bool) (cs : List Char) : Option (List Char) :=
  let groups := splitWhere (· == '_') cs
  if groups.all fun g ↦ !g.isEmpty && g.all isDigit then some groups.flatten else none

def valueIn? (base : Nat) (cs : List Char) : Option Nat := do
  let digits ← (← ungroup? (fun c ↦ (Json.hexValue? c).isSome) cs).mapM Json.hexValue?
  if digits.all (· < base) then some (digits.foldl (fun n d ↦ base * n + d) 0) else none

def whole? (cs : List Char) : Option (List Char) := do
  let digits ← ungroup? Char.isDigit cs
  if digits.head? = some '0' ∧ digits.length ≠ 1 then none else some digits

def unsign : List Char → Bool × List Char
  | '-' :: cs => (true, cs)
  | '+' :: cs => (false, cs)
  | cs => (false, cs)

def integer? (cs : List Char) : Option Int := do
  let n : Int ← match cs with
    | '0' :: 'x' :: cs => (valueIn? 16 cs).map Int.ofNat
    | '0' :: 'o' :: cs => (valueIn? 8 cs).map Int.ofNat
    | '0' :: 'b' :: cs => (valueIn? 2 cs).map Int.ofNat
    | cs => do
      let (negative, cs) := unsign cs
      let n ← natural? (← whole? cs)
      some (if negative then -n else n)
  if Setting.isInteger n then some n else none

def nearest? (negative : Bool) (m count : Nat) (e : Int) : Option Binary64 :=
  if m = 0 ∨ e + count < -400 then some ⟨negative, 0⟩
  else if 400 < e then none
  else
    let units :=
      if 0 ≤ e then Binary64.nearestUnits (m * tenTo e.toNat) 1
      else Binary64.nearestUnits m (tenTo (-e).toNat)
    if units < Binary64.unitsBound then some ⟨negative, units⟩ else none

def finite? (cs : List Char) : Option Binary64 := do
  let (negative, cs) := unsign cs
  let (significand, exponent) := cs.span fun c ↦ c != 'e' && c != 'E'
  let (whole, fraction) := significand.span (· != '.')
  if exponent.isEmpty && fraction.isEmpty then none
  let whole ← whole? whole
  let fraction ← if fraction.isEmpty then some [] else ungroup? Char.isDigit (fraction.drop 1)
  let e : Int ←
    if exponent.isEmpty then some 0
    else do
      let (down, digits) := unsign (exponent.drop 1)
      let n ← natural? (← ungroup? Char.isDigit digits)
      some (if down then -n else n)
  let digits := whole ++ fraction
  nearest? negative (← natural? digits) digits.length (e - fraction.length)

def double? (cs : List Char) : Option Double :=
  let (negative, word) := unsign cs
  if word = "inf".toList then some (.infinite negative)
  else if word = "nan".toList then some .undefined
  else (finite? cs).map .finite

def pair? (most : Nat) : List Char → Option (List Char × List Char)
  | a :: b :: cs => do
    if (← natural? [a, b]) ≤ most then some ([a, b], cs) else none
  | _ => none

def isLeapYear (year : Nat) : Bool := year % 4 == 0 && (year % 100 != 0 || year % 400 == 0)

def daysIn (year month : Nat) : Nat :=
  if month = 2 then (if isLeapYear year then 29 else 28)
  else if month = 4 ∨ month = 6 ∨ month = 9 ∨ month = 11 then 30
  else 31

def date? (cs : List Char) : Option (List Char × List Char) :=
  match cs with
  | y₁ :: y₂ :: y₃ :: y₄ :: '-' :: m₁ :: m₂ :: '-' :: d₁ :: d₂ :: rest => do
    let year ← natural? [y₁, y₂, y₃, y₄]
    let month ← natural? [m₁, m₂]
    let day ← natural? [d₁, d₂]
    if 1 ≤ month ∧ month ≤ 12 ∧ 1 ≤ day ∧ day ≤ daysIn year month then some (cs.take 10, rest)
    else none
  | _ => none

/-- The fraction of a second at the front, of which nine digits count and zeros at the end do not.
-/
def fraction? : List Char → Option (List Char × List Char)
  | '.' :: cs =>
    let (digits, rest) := cs.span Char.isDigit
    let kept := ((digits.take 9).reverse.dropWhile (· == '0')).reverse
    if digits.isEmpty then none
    else some (if kept.isEmpty then [] else '.' :: kept, rest)
  | cs => some ([], cs)

def time? (cs : List Char) : Option (List Char × List Char) := do
  let (hour, cs) ← pair? 23 cs
  match cs with
  | ':' :: cs =>
    let (minute, cs) ← pair? 59 cs
    match cs with
    | ':' :: cs =>
      let (second, cs) ← pair? 60 cs
      let (fraction, cs) ← fraction? cs
      some (hour ++ ':' :: minute ++ ':' :: second ++ fraction, cs)
    | _ => some (hour ++ ':' :: minute, cs)
  | _ => none

def offset? : List Char → Option (List Char)
  | [] => some []
  | ['z'] | ['Z'] => some ['Z']
  | sign :: cs => do
    if sign != '+' && sign != '-' then none
    let (hour, cs) ← pair? 23 cs
    match cs with
    | ':' :: cs =>
      let (minute, cs) ← pair? 59 cs
      if cs.isEmpty then some (sign :: hour ++ ':' :: minute) else none
    | _ => none

def moment? (cs : List Char) : Option String :=
  match date? cs with
  | some (date, []) => some (String.ofList date)
  | some (date, c :: cs) => do
    if c != 'T' && c != 't' && c != ' ' then none
    let (time, rest) ← time? cs
    return String.ofList (date ++ 'T' :: time ++ (← offset? rest))
  | none => do
    let (time, rest) ← time? cs
    if rest.isEmpty then some (String.ofList time) else none

def isScalarChar (c : Char) : Bool :=
  c.isAlphanum || c == '+' || c == '-' || c == '_' || c == '.' || c == ':'

def takeScalar (cs : List Char) : List Char × List Char :=
  let (word, rest) := cs.span isScalarChar
  match date? word, rest with
  | some (_, []), ' ' :: d :: more =>
    if d.isDigit then
      let (time, rest) := (d :: more).span isScalarChar
      (word ++ ' ' :: time, rest)
    else (word, rest)
  | _, _ => (word, rest)

def scalar? (cs : List Char) : Option Setting :=
  if cs = "true".toList then some (.bool true)
  else if cs = "false".toList then some (.bool false)
  else
    ((integer? cs).map .integer) <|> ((double? cs).map .double) <|> ((moment? cs).map .text)

end Forex.Toml
