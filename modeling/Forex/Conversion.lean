import Forex.Failure
import Forex.Rate.Resolution

namespace Forex

inductive CurrencyError
  | rateUnavailable (pair : Pair)
  | unknownCurrency (code : Code)
  | noDefaultCurrency
deriving DecidableEq

def Pair.noRateMessage (p : Pair) : String :=
  "No exchange rate from " ++ p.source.text ++ " to " ++ p.target.text

namespace CurrencyError

def message : CurrencyError → String
  | rateUnavailable p => p.noRateMessage
  | unknownCurrency c => "Unknown currency: " ++ c.text
  | noDefaultCurrency => "No default currency is configured"

def code : CurrencyError → String
  | rateUnavailable _ => "RATE_UNAVAILABLE"
  | unknownCurrency _ => "UNKNOWN_CURRENCY"
  | noDefaultCurrency => "NO_DEFAULT_CURRENCY"

def toFailure (e : CurrencyError) : Failure where
  kind := match e with
    | rateUnavailable _ | unknownCurrency _ => .notFound
    | noDefaultCurrency => .configuration
  detail := e.message

end CurrencyError

/-- The amount at the given rate; zero without a rate, at a rate of zero and on overflow. -/
def convert (amount : Decimal) (rate : Option Decimal) : Decimal :=
  match rate with
  | some r => if r.isZero then .zero else (amount.mul? r).getD .zero
  | none => .zero

def convertStrict (t : RateTable) (base : Code) (p : Pair) (amount : Decimal) :
    Except (Abort CurrencyError) Decimal :=
  match t.usableRate? base p with
  | some r => arithmetic (amount.mul r)
  | none => .error (.refused (.rateUnavailable p))

end Forex
