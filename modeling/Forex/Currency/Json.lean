import Forex.Currency.Basic
import Forex.Json.Record

namespace Forex

open Json (Decoder Fields decodeBool decodeInt32 decodeNull decodeString decodeUInt32 raiseFault)

namespace Rounding

def name : Rounding → String
  | half => "ROUND_HALF"
  | down => "ROUND_DOWN"
  | up => "ROUND_UP"

def ofName (s : String) : Except Json.Error Rounding :=
  if s = half.name then .ok half
  else if s = down.name then .ok down
  else if s = up.name then .ok up
  else .error (.mismatch (.unknownVariant s [half.name, down.name, up.name]))

theorem ofName_name (r : Rounding) : ofName r.name = .ok r := by
  cases r <;> rfl

/-- A name, or an object with that name as its only key and `null` as the value. -/
def decode : Decoder Rounding
  | .string l => do ofName (← l.read)
  | .object [] fault => do
    raiseFault fault
    .error (.fault .malformed)
  | .object ((key, d) :: members) fault => do
    let r ← ofName (← key.read)
    decodeNull d
    if members.isEmpty then
      raiseFault fault
      return r
    else .error (.fault .malformed)
  | .broken f => .error (.fault f)
  | _ => .error (.fault .malformed)

def ofJson : Json → Except Json.Error Rounding
  | .string s => ofName s
  | .object [(k, j)] => do
    let r ← ofName k
    match j with
    | .null => return r
    | _ => .error (.mismatch (.invalidType j.found "unit"))
  | .object _ => .error (.mismatch (.invalidValue .map "map with a single key"))
  | j => .error (.mismatch (.invalidType j.found "string or map"))

end Rounding

def Code.decode : Decoder Code := fun d ↦ do return .ofText (← decodeString d)

def Code.toJson (c : Code) : Json := .string c.text

namespace Currency

def fields : Fields Currency :=
  (Fields.nil Currency.mk)
    |>.optional "id" decodeInt32 0
    |>.required "code" Code.decode
    |>.optional "title" decodeString ""
    |>.optional "precision" decodeUInt32 0
    |>.optional "rounding" Rounding.decode .half
    |>.optional "public" decodeBool false
    |>.optional "default" decodeBool false

def decode : Decoder Currency := fields.decode "Currency"

def toJson (c : Currency) : Json :=
  .object [
    ("id", .ofInt c.id.toInt),
    ("code", c.code.toJson),
    ("title", .string c.title),
    ("precision", .ofNat c.precision.toNat),
    ("rounding", .string c.rounding.name),
    ("public", .bool c.isPublic),
    ("default", .bool c.isDefault)]

end Currency

end Forex
