import Forex.Amount
import Forex.Json.Decode

namespace Forex.Decimal

open Json (Decoder decodeString refuse)

def expectation : String := "a Decimal type representing a fixed-point number"

def ofInt (n : Int) : Decimal := (ofParts? (n < 0) n.natAbs 0).getD zero

/-- A double counts as its plain shortest text. -/
def decode : Decoder Decimal
  | .number n => do
    match ← n.read with
    | .integer k => return ofInt k
    | .double x =>
      match parsePlain? (x.toChars .plain) with
      | some a => return a
      | none => .error (.mismatch (.invalidValue (.double x) expectation))
  | .string l => do
    let s ← l.read
    match parse? s with
    | some a => return a
    | none => .error (.mismatch (.invalidValue (.string s) expectation))
  | d => refuse expectation d

def ofJson : Json → Decimal
  | .number n => ofText (String.ofList n.toChars)
  | .string s => ofText s
  | .bool true => one
  | .bool false | .null | .array _ | .object _ => zero

def toJson (a : Decimal) : Json := .string a.toText

end Forex.Decimal
