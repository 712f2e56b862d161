import Forex.Json.Value
import Forex.Rate.Json
import Forex.Store.Basic
import Forex.Text.Pad

namespace Forex

def Rounding.label : Rounding → String
  | half => "RoundHalf"
  | down => "RoundDown"
  | up => "RoundUp"

def Currency.line (c : Currency) : String :=
  (if c.isDefault then "*" else " ") ++ " " ++ Text.padStart 3 (toString c.id.toInt) ++ " " ++
    Text.padEnd 6 c.code.text ++ " " ++ Text.padEnd 24 c.title ++
    " precision=" ++ toString c.precision.toNat ++ " rounding=" ++ c.rounding.label

def ExchangeRate.line (e : ExchangeRate) : String :=
  e.pair.source.text ++ " -> " ++ e.pair.target.text ++ " " ++ e.rate.toText ++
    (if e.commission.isZero then "" else " (+" ++ e.commission.toText ++ "%)")

namespace Store

variable (s : Store)

def textReport : List String :=
  ("Default currency: " ++ ((s.default.map (·.text)).getD "none")) ::
    "" :: s.currencies.items.map Currency.line ++ "" :: s.rates.items.map ExchangeRate.line

def jsonReport : Json :=
  let orNull {α : Type} (f : α → Json) (x : Option α) : Json := (x.map f).getD .null
  Json.sortKeys <| .object [
    ("default", orNull Code.toJson s.default),
    ("refreshed_at", orNull (fun t ↦ .string t.toText) s.refreshedAt),
    ("currencies", .array (s.currencies.items.map Currency.toJson)),
    ("rates", .array (s.rates.items.map fun e ↦ (RateRecord.ofRate e).toJson))]

def report (json : Bool) : List String := if json then [s.jsonReport.toPretty] else s.textReport

end Store

structure Converted where
  amount : Decimal
  pair : Pair
  rate : Option Decimal
  result : Decimal

namespace Converted

variable (c : Converted)

def text : String :=
  c.amount.toText ++ " " ++ c.pair.source.text ++ " = " ++
    c.result.toText ++ " " ++ c.pair.target.text

def toJson : Json :=
  Json.sortKeys <| .object [
    ("from", c.pair.source.toJson),
    ("to", c.pair.target.toJson),
    ("amount", c.amount.toJson),
    ("rate", (c.rate.map Decimal.toJson).getD .null),
    ("result", c.result.toJson)]

def report (json : Bool) : List String := [if json then c.toJson.toCompact else c.text]

end Converted

def Decimal.report (json : Bool) (a : Decimal) : List String :=
  [if json then (Json.object [("result", a.toJson)]).toCompact else a.toText]

end Forex
