import Forex.Currency.Basic
import Forex.Provider.Error

namespace Forex

inductive Request
  | currencies
  | rates
  | rate (pair : Pair)
deriving DecidableEq

namespace Request

def Payload : Request → Type
  | currencies => List Currency
  | rates => List ExchangeRate
  | rate _ => ExchangeRate

abbrev Answer (q : Request) : Type := Except RatesError q.Payload

end Request

abbrev Provider (m : Type → Type) := (q : Request) → m q.Answer

end Forex
