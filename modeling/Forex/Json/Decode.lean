import Forex.Json.Document
import Forex.Text.Quoted

namespace Forex.Json

inductive Found
  | null
  | bool (b : Bool)
  | integer (n : Int)
  | double (x : Binary64)
  | string (s : String)
  | sequence
  | map

def found : Json → Found
  | null => .null
  | bool b => .bool b
  | number (.integer n) => .integer n
  | number (.double x) => .double x
  | string s => .string s
  | array _ => .sequence
  | object _ => .map

def Found.describe : Found → String
  | null => "null"
  | bool b => "boolean `" ++ toString b ++ "`"
  | integer n => "integer `" ++ String.ofList (Number.integer n).toChars ++ "`"
  | double x => "floating point `" ++ x.toText .document ++ "`"
  | string s => "string " ++ Text.quoted s
  | sequence => "sequence"
  | map => "map"

inductive Mismatch
  | invalidType (found : Found) (expected : String)
  | invalidValue (found : Found) (expected : String)
  | unknownVariant (name : String) (known : List String)
  | missingField (name : String)
  | duplicateField (name : String)
  | invalidLength (length : Nat) (record : String) (size : Nat)
  | noVariant (type : String)

def Mismatch.message : Mismatch → String
  | invalidType found expected =>
    "invalid type: " ++ found.describe ++ ", expected " ++ expected
  | invalidValue found expected =>
    "invalid value: " ++ found.describe ++ ", expected " ++ expected
  | unknownVariant name known =>
    "unknown variant `" ++ name ++ "`, expected one of " ++
      ", ".intercalate (known.map fun k ↦ "`" ++ k ++ "`")
  | missingField name => "missing field `" ++ name ++ "`"
  | duplicateField name => "duplicate field `" ++ name ++ "`"
  | invalidLength length record size =>
    "invalid length " ++ toString length ++ ", expected struct " ++ record ++ " with " ++
      toString size ++ " elements"
  | noVariant type => "data did not match any variant of untagged enum " ++ type

inductive Error
  | fault (f : Fault)
  | mismatch (m : Mismatch)

def Error.message : Error → String
  | fault .unfinished => "<eof>"
  | fault .malformed => "<syntax>"
  | mismatch m => m.message

variable {α β : Type}

def raiseFault (f : Option Fault) : Except Error Unit :=
  match f with
  | some f => .error (.fault f)
  | none => .ok ()

def isHighUnit (n : Nat) : Bool := 0xd800 ≤ n && n < 0xdc00

def isLowUnit (n : Nat) : Bool := 0xdc00 ≤ n && n < 0xe000

def readPieces (fault : Option Fault) : List Piece → Except Error (List Char)
  | [] => do
    raiseFault fault
    return []
  | .char c :: ps => do return c :: (← readPieces fault ps)
  | .unit n :: ps =>
    if isLowUnit n then .error (.fault .malformed)
    else if isHighUnit n then
      match ps with
      | .unit n' :: ps =>
        if isLowUnit n' then do
          let c := Char.ofNat (0x10000 + (n - 0xd800) * 0x400 + (n' - 0xdc00))
          return c :: (← readPieces fault ps)
        else .error (.fault .malformed)
      | .char _ :: _ => .error (.fault .malformed)
      | [] => .error (.fault (fault.getD .malformed))
    else do return Char.ofNat n :: (← readPieces fault ps)

def Literal.read (l : Literal) : Except Error String := do
  return String.ofList (← readPieces l.fault l.pieces)

def appendDigits (m : Nat) : List Nat → Nat × Nat
  | [] => (m, 0)
  | d :: ds =>
    if 10 * m + d < twoTo 64 then appendDigits (10 * m + d) ds else (m, (d :: ds).length)

/-- The value of a number. Whole numbers of at most 64 bits are exact; the others, and a negative
zero, are doubles, for which digits beyond 64 bits do not count. -/
def Numeral.value? (n : Numeral) : Option Number :=
  let (whole, dropped) := appendDigits 0 n.whole
  let double (m : Nat) (e : Int) := (Binary64.scaledUnits? m e).map fun u ↦
    Number.double ⟨n.negative, u⟩
  if n.fraction.isNone && n.exponent.isNone && dropped == 0 then
    if !n.negative then some (.integer whole)
    else if whole = 0 ∨ twoTo 63 < whole then double whole 0
    else some (.integer (-(whole : Int)))
  else
    let fraction := n.fraction.getD []
    let (m, left) := appendDigits whole fraction
    double m (dropped - (fraction.length - left : Nat) + n.exponent.getD 0)

def Numeral.read (n : Numeral) : Except Error Number :=
  match n.value? with
  | some v => .ok v
  | none => .error (.fault .malformed)

def Document.found : Document → Except Error Found
  | .null => .ok .null
  | .bool b => .ok (.bool b)
  | .number n => do
    match ← n.read with
    | .integer n => return .integer n
    | .double x => return .double x
  | .brokenNumber f => .error (.fault f)
  | .string l => do return .string (← l.read)
  | .array _ _ => .ok .sequence
  | .object _ _ => .ok .map
  | .tooDeep _ => .error (.fault .malformed)
  | .broken f | .brokenWord f => .error (.fault f)

mutual

def Document.skip : Document → Except Error Unit
  | .null | .bool _ | .number _ => .ok ()
  | .brokenNumber _ => .error (.fault .malformed)
  | .string l => raiseFault l.fault
  | .array items fault => do
    skipItems items
    raiseFault fault
  | .object members fault => do
    skipMembers members
    raiseFault fault
  | .tooDeep d => d.skip
  | .broken f | .brokenWord f => .error (.fault f)

def skipItems : List Document → Except Error Unit
  | [] => .ok ()
  | d :: ds => do
    d.skip
    skipItems ds

def skipMembers : List (Literal × Document) → Except Error Unit
  | [] => .ok ()
  | (key, d) :: ms => do
    raiseFault key.fault
    d.skip
    skipMembers ms

end

mutual

/-- The whole value. The entries of an object are sorted, the last of each key. -/
def Document.value : Document → Except Error Json
  | .null => .ok .null
  | .bool b => .ok (.bool b)
  | .number n => do return .number (← n.read)
  | .brokenNumber f => .error (.fault f)
  | .string l => do return .string (← l.read)
  | .array items fault => do
    let values ← itemValues items
    raiseFault fault
    return .array values
  | .object members fault => do
    let entries ← memberValues members
    raiseFault fault
    return sortedObject entries
  | .tooDeep _ => .error (.fault .malformed)
  | .broken f | .brokenWord f => .error (.fault f)

def itemValues : List Document → Except Error (List Json)
  | [] => .ok []
  | d :: ds => do
    let j ← d.value
    return j :: (← itemValues ds)

def memberValues : List (Literal × Document) → Except Error (List (String × Json))
  | [] => .ok []
  | (key, d) :: ms => do
    let k ← key.read
    let j ← d.value
    return (k, j) :: (← memberValues ms)

end

abbrev Decoder (α : Type) := Document → Except Error α

def refuse (expected : String) (d : Document) : Except Error α := do
  .error (.mismatch (.invalidType (← d.found) expected))

def decodeNull : Decoder Unit
  | .null => .ok ()
  | d => refuse "unit" d

def decodeBool : Decoder Bool
  | .bool b => .ok b
  | d => refuse "a boolean" d

def decodeString : Decoder String
  | .string l => l.read
  | d => refuse "a string" d

def decodeInt (least greatest : Int) (expected : String) : Decoder Int
  | .number n => do
    match ← n.read with
    | .integer k =>
      if least ≤ k ∧ k ≤ greatest then .ok k
      else .error (.mismatch (.invalidValue (.integer k) expected))
    | .double x => .error (.mismatch (.invalidType (.double x) expected))
  | d => refuse expected d

def decodeUInt32 : Decoder UInt32 := fun d ↦ do
  return UInt32.ofNat (← decodeInt 0 (twoTo 32 - 1) "u32" d).toNat

def decodeInt32 : Decoder Int32 := fun d ↦ do
  return Int32.ofInt (← decodeInt (-twoTo 31) (twoTo 31 - 1) "i32" d)

def decodeItems (item : Decoder α) : List Document → Except Error (List α)
  | [] => .ok []
  | d :: ds => do
    let a ← item d
    return a :: (← decodeItems item ds)

def decodeList (item : Decoder α) : Decoder (List α)
  | .array items fault => do
    let values ← decodeItems item items
    raiseFault fault
    return values
  | d => refuse "a sequence" d

def decodeText (decoder : Decoder α) (text : String) : Except Error α := do
  let source := Source.ofText text
  let a ← decoder source.document
  if source.trailing then .error (.fault .malformed) else .ok a

end Forex.Json
