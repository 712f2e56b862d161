import Forex.Amount
import Forex.Currency.Basic
import Forex.Rate.Basic

namespace Forex

inductive Command
  | rates
  | convert (amount : Decimal) (source : Option Code) (target : Code) (strict : Bool)
  | format (amount : Decimal) (precision : UInt32) (rounding : Rounding)
  | markup (value : Decimal) (fee : String)
  | setRate (rate : ExchangeRate)
  | deleteRate (pair : Pair)
  | setDefault (id : Int32)
  | init (path : Option String)

structure Invocation where
  command : Command
  json : Bool

end Forex
