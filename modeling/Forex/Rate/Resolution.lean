import Forex.Rate.Table

namespace Forex

inductive LookupMethod
  | identity
  | direct
  | inverse
deriving DecidableEq

structure RateLookup where
  rate : Decimal
  method : LookupMethod
deriving DecidableEq

/-- Whether `code` may stand for `wanted`: it is that currency, or the neutral unit for the base. -/
def Code.standsFor (code base wanted : Code) : Bool :=
  code == wanted || (wanted == base && code.isNeutral)

namespace RateTable

def resolveEdge (t : RateTable) (base : Code) (p : Pair) : Option ExchangeRate :=
  t.get? p <|> t.edges.find? fun e ↦
    e.pair.source.standsFor base p.source && e.pair.target.standsFor base p.target

def resolve (t : RateTable) (base : Code) (p : Pair) : Option Decimal :=
  if p.source = p.target then some .one else (t.resolveEdge base p).map (·.rate)

def usableRate? (t : RateTable) (base : Code) (p : Pair) : Option Decimal :=
  (t.resolve base p).filter (!·.isZero)

/-- The rate of a pair or else the inverse of the rate back. -/
def resolveOrInverse (t : RateTable) (base : Code) (p : Pair) :
    Except Decimal.Fault (Option RateLookup) :=
  if p.source = p.target then .ok (some ⟨.one, .identity⟩)
  else
    match t.usableRate? base p with
    | some rate => .ok (some ⟨rate, .direct⟩)
    | none =>
      match t.usableRate? base p.swap with
      | some rate => do return some ⟨← Decimal.one.div rate, .inverse⟩
      | none => .ok none

end RateTable

end Forex
