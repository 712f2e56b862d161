import Forex.Registry.Basic
import Forex.Registry.Error

namespace Forex.Registry

variable {α : Type}

abbrev Edit := EStateM (Abort RegistryError) Registry

def refuse (e : RegistryError) : Edit α := throw (.refused e)

def modifyCurrencies (f : List Currency → List Currency) : Edit Unit :=
  modify fun r ↦ { r with currencies := f r.currencies }

def modifyRates (f : RateTable → RateTable) : Edit Unit :=
  modify fun r ↦ { r with rates := f r.rates }

def normalized (c : Currency) : Edit Currency := do
  let c := { c with title := Text.trim c.title }
  if c.code.isEmpty || c.title.isEmpty then refuse .missingField
  return c

def nextId (r : Registry) : Int32 := ((r.currencies.map (·.id)).max?.getD 0) + 1

/-- Fills in what a new currency may leave open: an id of zero and a precision of zero. -/
def complete (r : Registry) (c : Currency) : Currency :=
  { c with
    id := if c.id = 0 then r.nextId else c.id
    precision := if c.precision = 0 then 2 else c.precision }

def createCurrency (draft : Currency) : Edit Currency := do
  let r ← get
  let c ← normalized (r.complete draft)
  if c.isDefault && r.currencies.any (·.isDefault) then refuse .defaultExists
  if r.currencies.any (·.code == c.code) then refuse (.duplicateCode c.code)
  modifyCurrencies (· ++ [c])
  return c

def replaceCurrency (c : Currency) : List Currency → List Currency
  | [] => []
  | k :: ks => if k.id = c.id then c :: ks else k :: replaceCurrency c ks

def updateCurrency (draft : Currency) : Edit Unit := do
  let c ← normalized draft
  let r ← get
  if c.isDefault && r.currencies.any fun k ↦ k.isDefault && k.id != c.id then
    refuse .defaultExists
  if r.currencies.any fun k ↦ k.code == c.code && k.id != c.id then
    refuse (.duplicateCode c.code)
  if (r.currencyWithId? c.id).isNone then refuse (.currencyNotFound c.id)
  modifyCurrencies (replaceCurrency c)

/-- Makes a currency the default and pins it to the neutral unit, one to one both ways. -/
def changeDefault (id : Int32) : Edit Unit := do
  if id = Currency.neutralId then refuse .neutralDefault
  let r ← get
  let defaults := r.currencies.countP (·.isDefault)
  if 1 < defaults then refuse (.multipleDefaults defaults)
  match r.currencyWithId? id with
  | none => refuse (.currencyNotFound id)
  | some next =>
    if next.isDefault then refuse (.alreadyDefault next.code)
    modifyCurrencies (·.map fun c ↦ { c with isDefault := c.id == id })
    modifyRates (·.upsert { pair := ⟨next.code, .neutral⟩, rate := .one })
    modifyRates (·.upsert { pair := ⟨.neutral, next.code⟩, rate := .one })

def checkRate (e : ExchangeRate) : Edit Unit := do
  let r ← get
  if e.rate ≤ .zero then refuse (.invalidRate e.rate)
  if (r.currencyWithCode? e.pair.source).isNone then refuse (.unknownCurrency e.pair.source)
  if (r.currencyWithCode? e.pair.target).isNone then refuse (.unknownCurrency e.pair.target)

def storeBothWays (e : ExchangeRate) : Edit Unit := do
  modifyRates (·.upsert e)
  modifyRates (·.erase e.pair.swap)
  match Decimal.one.div e.rate with
  | .ok rate => modifyRates (·.upsert { e with pair := e.pair.swap, rate })
  | .error f => throw (.outOfRange f)

def createRate (e : ExchangeRate) : Edit Unit := do
  if !e.pair.touchesNeutral then refuse (.rateWithoutNeutral e.pair)
  checkRate e
  storeBothWays e

def updateRate (e : ExchangeRate) : Edit Unit := do
  checkRate e
  if ((← get).rates.get? e.pair).isNone then refuse (.rateNotFound e.pair)
  storeBothWays e

/-- Removes a rate, and the rate back if there is one; gives the one removed. -/
def deleteRate (p : Pair) : Edit ExchangeRate := do
  match (← get).rates.remove? p with
  | none => refuse (.rateNotFound p)
  | some (e, rest) =>
    modifyRates fun _ ↦ rest.erase p.swap
    return e

end Forex.Registry
