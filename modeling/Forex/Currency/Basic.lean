import Forex.Currency.Code
import Forex.Price

namespace Forex

structure Currency where
  id : Int32
  code : Code
  title : String
  precision : UInt32
  rounding : Rounding
  isPublic : Bool
  isDefault : Bool
deriving DecidableEq

namespace Currency

def neutralId : Int32 := 0

def neutral : Currency where
  id := neutralId
  code := .neutral
  title := "NCU"
  precision := 0
  rounding := .half
  isPublic := true
  isDefault := false

def isNeutral (c : Currency) : Bool := c.code.isNeutral

def round (c : Currency) (amount : Decimal) : Decimal := amount.toPrice c.precision c.rounding

end Currency

def currencyWithCode? (currencies : List Currency) (code : Code) : Option Currency :=
  currencies.find? (·.code == code)

end Forex
