import Forex.Converter

namespace Forex

structure Registry where
  currencies : List Currency
  rates : RateTable
deriving DecidableEq

namespace Registry

def initial : Registry := ⟨[.neutral], .empty⟩

instance : Inhabited Registry := ⟨initial⟩

/-- Restores a registry. What was stored is trusted, except that the neutral unit comes first if it
is missing. -/
def ofParts (currencies : List Currency) (rates : RateTable) : Registry :=
  ⟨if currencies.any (·.isNeutral) then currencies else .neutral :: currencies, rates⟩

variable (r : Registry)

def currencyWithId? (id : Int32) : Option Currency := r.currencies.find? (·.id == id)

def currencyWithCode? (code : Code) : Option Currency := Forex.currencyWithCode? r.currencies code

def defaultCurrency? : Option Currency := r.currencies.find? (·.isDefault)

def visible (admin : Bool) (ids : List Int32) : List Currency :=
  r.currencies.filter fun c ↦ admin || c.isPublic || ids.contains c.id

/-- The base is the default currency, or else the one that the table shows. -/
def converter : Except CurrencyError Converter :=
  match (r.defaultCurrency?.map (·.code)) <|> r.rates.detectDefault with
  | some base => .ok { base, rates := r.rates, currencies := r.currencies }
  | none => .error .noDefaultCurrency

end Registry

end Forex
