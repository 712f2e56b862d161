import Forex.Conversion
import Forex.Currency.Basic

namespace Forex

structure Converter where
  base : Code
  rates : RateTable
  currencies : List Currency := []
  displayPrecision : UInt32 := 2

namespace Converter

def detect (rates : RateTable) : Except CurrencyError Converter :=
  match rates.detectDefault with
  | some base => .ok { base, rates }
  | none => .error .noDefaultCurrency

variable (c : Converter)

def currency? (code : Code) : Option Currency := currencyWithCode? c.currencies code

def rate (p : Pair) : Option Decimal := c.rates.resolve c.base p

def rateOrInverse (p : Pair) : Except Decimal.Fault (Option RateLookup) :=
  c.rates.resolveOrInverse c.base p

def quote (p : Pair) : Except Decimal.Fault (Option Decimal) :=
  if p.source = p.target then .ok (some .one)
  else
    match c.rates.resolveEdge c.base p with
    | some e => do return some (← e.withCommission)
    | none => .ok none

def convertBetween (p : Pair) (amount : Decimal) : Decimal := convert amount (c.rate p)

def convertStrict (p : Pair) (amount : Decimal) : Except (Abort CurrencyError) Decimal :=
  Forex.convertStrict c.rates c.base p amount

def display (amount : Decimal) : Decimal := amount.toPrice c.displayPrecision .half

def toAccountPrice (account : Code) (price : Decimal) : Decimal :=
  c.display (c.convertBetween ⟨c.base, account⟩ price)

/-- A price in the currency of an account, shown in the base. It is divided by the rate of the
account's currency. -/
def fromAccountPrice (account : Code) (price : Decimal) : Except Decimal.Fault Decimal :=
  match c.rates.usableRate? c.base ⟨account, c.base⟩ with
  | some r => do return c.display (convert price (some (← Decimal.one.div r)))
  | none => .ok (c.display (convert price none))

/-- The precision and rounding of a currency; one that is not in the catalogue has whole prices. -/
def policy (code : Code) : UInt32 × Rounding :=
  ((c.currency? code).map fun k ↦ (k.precision, k.rounding)).getD (0, .half)

/-- Amounts converted and rounded for the target currency. Those already in it are left alone. -/
def convertMany (p : Pair) (amounts : List Decimal) : Except CurrencyError (List Decimal) :=
  if p.source = p.target then .ok amounts
  else
    match c.rates.usableRate? c.base p with
    | some r =>
      let (precision, rounding) := c.policy p.target
      .ok (amounts.map fun a ↦ (convert a (some r)).toPrice precision rounding)
    | none => .error (.rateUnavailable p)

end Converter

end Forex
