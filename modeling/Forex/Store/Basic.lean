import Forex.Converter
import Forex.Provider.Basic
import Forex.Resource
import Forex.Timestamp

namespace Forex

structure Store where
  currencies : Resource Currency := {}
  rates : Resource ExchangeRate := {}
  pair : Resource ExchangeRate := {}
  default : Option Code := none
  refreshedAt : Option Timestamp := none
  baseOverride : Option Code := none
  displayPrecision : UInt32 := 2

namespace Store

/-- A call that waits for the provider. A refresh asks for the currencies and then for the rates; a
pair lookup asks for the rate and then perhaps for the rate back. -/
inductive Call
  | currencies (silent : Bool)
  | rates (silent : Bool)
  | direct (pair : Pair)
  | reverse (pair : Pair)
deriving DecidableEq

def Call.request : Call → Request
  | currencies _ => .currencies
  | rates _ => .rates
  | direct p => .rate p
  | reverse p => .rate p.swap

inductive Progress
  | waiting (call : Call)
  | refreshed (result : Except RatesError FetchOutcome)
  | found (result : Except (Abort RatesError) RateLookup)

def withPricing (base : Option String) (displayPrecision : UInt32) : Store where
  baseOverride := (base.map Code.ofText).filter (!·.isEmpty)
  displayPrecision := displayPrecision

variable (s : Store)

def table : RateTable := ⟨s.rates.items⟩

def isLoading : Bool := s.currencies.loading || s.rates.loading

def converter : Except CurrencyError Converter :=
  match s.default with
  | some base =>
    .ok {
      base, rates := s.table
      currencies := s.currencies.items
      displayPrecision := s.displayPrecision }
  | none => .error .noDefaultCurrency

def startRefresh (silent : Bool) : Store × Progress :=
  match s.currencies.startFetch? silent with
  | none => (s, .refreshed (.ok .skipped))
  | some currencies => ({ s with currencies }, .waiting (.currencies silent))

/-- The currencies have arrived. A refresh that is not silent forgets the default now, even if they
could not be had; it is skipped if the rates are being loaded. -/
def receiveCurrencies (silent : Bool) (answer : Except RatesError (List Currency)) :
    Store × Progress :=
  let (currencies, result) := s.currencies.endFetch answer
  let s := { s with currencies, default := if silent then s.default else none }
  match result with
  | .error e => (s, .refreshed (.error e))
  | .ok _ =>
    match s.rates.startFetch? silent with
    | none => (s, .refreshed (.ok .skipped))
    | some rates => ({ s with rates }, .waiting (.rates silent))

/-- The rates have arrived. The default is the one set for the store, or else the one that the table
shows. -/
def receiveRates (now : Timestamp) (answer : Except RatesError (List ExchangeRate)) :
    Store × Progress :=
  let (rates, result) := s.rates.endFetch answer
  let s := { s with rates }
  match result with
  | .error e => (s, .refreshed (.error e))
  | .ok outcome =>
    ({ s with
        default := s.baseOverride <|> s.table.detectDefault
        refreshedAt := some now },
      .refreshed (.ok outcome))

def startPairRate (p : Pair) : Store × Progress :=
  if p.source = p.target then (s, .found (.ok ⟨.one, .identity⟩))
  else ({ s with pair := s.pair.startSelect }, .waiting (.direct p))

def finishPairRate (p : Pair) (answer : Except RatesError ExchangeRate) : Store × Progress :=
  let (pair, result) := s.pair.endSelect answer
  let result : Except (Abort RatesError) RateLookup :=
    match result with
    | .error e => .error (.refused e)
    | .ok e =>
      if e.pair.source = p.source then .ok ⟨e.rate, .direct⟩
      else arithmetic do return ⟨← Decimal.one.div e.rate, .inverse⟩
  ({ s with pair }, .found result)

def usable? (answer : Except RatesError ExchangeRate) : Option ExchangeRate :=
  answer.toOption.filter (!·.rate.isZero)

def receiveDirect (p : Pair) (answer : Except RatesError ExchangeRate) : Store × Progress :=
  match usable? answer with
  | some e => s.finishPairRate p (.ok e)
  | none => (s, .waiting (.reverse p))

def receiveReverse (p : Pair) (answer : Except RatesError ExchangeRate) : Store × Progress :=
  match usable? answer with
  | some e => s.finishPairRate p (.ok e)
  | none => s.finishPairRate p (.error (.rateUnavailable p))

def resume (now : Timestamp) : (call : Call) → call.request.Answer → Store × Progress
  | .currencies silent, answer => s.receiveCurrencies silent answer
  | .rates _, answer => s.receiveRates now answer
  | .direct p, answer => s.receiveDirect p answer
  | .reverse p, answer => s.receiveReverse p answer

variable {m : Type → Type} [Monad m]

/-- Takes a call to its end without interruption. No call asks more than twice. -/
def settle (provider : Provider m) (clock : m Timestamp) : (questions : Nat) → Store × Progress →
    m (Store × Progress)
  | n + 1, (s, .waiting call) => do
    let answer ← provider call.request
    let now ← clock
    settle provider clock n (s.resume now call answer)
  | _, state => pure state

def Progress.outcome : Progress → Except RatesError FetchOutcome
  | .refreshed result => result
  | _ => .ok .skipped

def Progress.rate : Progress → Except (Abort RatesError) (Option RateLookup)
  | .found result => result.map some
  | _ => .ok none

def refresh (provider : Provider m) (clock : m Timestamp) (silent : Bool) :
    m (Store × Except RatesError FetchOutcome) := do
  let (s, progress) ← settle provider clock 2 (s.startRefresh silent)
  return (s, progress.outcome)

def pairRate (provider : Provider m) (clock : m Timestamp) (p : Pair) :
    m (Store × Except (Abort RatesError) (Option RateLookup)) := do
  let (s, progress) ← settle provider clock 2 (s.startPairRate p)
  return (s, progress.rate)

end Store

end Forex
