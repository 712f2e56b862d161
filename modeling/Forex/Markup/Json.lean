import Forex.Decimal.Json
import Forex.Json.Record
import Forex.Markup

namespace Forex

open Json (Decoder Document Fields decodeList decodeUInt32)

namespace MarkupRounding

def ofNumber (n : Int) : MarkupRounding :=
  if n = 1 then .floor else if n = 3 then .ceil else .round

def ofName (s : String) : MarkupRounding :=
  let s := s.toLower
  if s = "floor" then .floor else if s = "ceil" then .ceil else .round

def name : MarkupRounding → String
  | floor => "floor"
  | round => "round"
  | ceil => "ceil"

/-- The mode may be a number of 63 bits, a name or null. -/
def decode : Decoder MarkupRounding := fun d ↦ do
  match ← d.value with
  | .null => return .round
  | .string s => return ofName s
  | .number (.integer n) =>
    if n < twoTo 63 then return ofNumber n else .error (.mismatch (.noVariant "RoundingCode"))
  | _ => .error (.mismatch (.noVariant "RoundingCode"))

end MarkupRounding

def FeeRange.decode : Decoder FeeRange :=
  ((Fields.nil FeeRange.mk)
    |>.required "from" Decimal.decode
    |>.required "to" Decimal.decode
    |>.required "factor" Decimal.decode).decode "FeeRange"

def FeeSchedule.decode : Decoder FeeSchedule :=
  ((Fields.nil FeeSchedule.mk)
    |>.optional "default" Decimal.decode .zero
    |>.optional "precision" decodeUInt32 0
    |>.optional "round" MarkupRounding.decode .round
    |>.optional "ranges" (decodeList FeeRange.decode) []).decode "FeeSchedule"

end Forex
