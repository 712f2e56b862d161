import Forex.Currency.Code
import Forex.Decimal.Arithmetic

namespace Forex

structure Pair where
  source : Code
  target : Code
deriving DecidableEq

namespace Pair

def swap (p : Pair) : Pair := ⟨p.target, p.source⟩

def touchesNeutral (p : Pair) : Bool := p.source.isNeutral || p.target.isNeutral

theorem swap_swap (p : Pair) : p.swap.swap = p := rfl

theorem touchesNeutral_swap (p : Pair) : p.swap.touchesNeutral = p.touchesNeutral :=
  Bool.or_comm _ _

end Pair

/-- One unit of the source costs `rate` units of the target; the commission is in percent. -/
structure ExchangeRate where
  pair : Pair
  rate : Decimal
  commission : Decimal := .zero
deriving DecidableEq

namespace ExchangeRate

/-- The rate for the way back, with the same commission. A rate of zero has none. -/
def inverse (e : ExchangeRate) : Except Decimal.Fault (Option ExchangeRate) :=
  if e.rate.isZero then .ok none
  else do
    let rate ← Decimal.one.div e.rate
    return some { e with pair := e.pair.swap, rate }

def withCommission (e : ExchangeRate) : Except Decimal.Fault Decimal := do
  let share ← e.commission.div .hundred
  let charge ← e.rate.mul share
  e.rate.add charge

end ExchangeRate

end Forex
