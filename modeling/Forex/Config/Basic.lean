import Forex.Failure
import Forex.Provider.Service
import Forex.Provider.SnapshotFile

namespace Forex

inductive RatesSource
  | http
  | file
deriving DecidableEq

structure RatesConfig where
  source : RatesSource := .file
  address : Option String := none
  token : Option String := none
  path : String := "rates.json"
  timeoutSeconds : UInt64 := 10
deriving DecidableEq

structure PricingConfig where
  baseCurrency : Option String := none
  displayPrecision : UInt32 := 2
deriving DecidableEq

structure Config where
  rates : RatesConfig := {}
  pricing : PricingConfig := {}
deriving DecidableEq

namespace Config

def validate (c : Config) : Except Failure Unit :=
  if c.rates.source = .http ∧ c.rates.address = none then
    .error ⟨.configuration, "rates.api_url is required when rates.source = \"http\""⟩
  else .ok ()

variable {m : Type → Type} [Monad m] (host : Host m)

def provider (c : Config) : Except RatesError (Provider m) :=
  match c.rates.source with
  | .http => do return (← RatesService.ofSettings c.rates.address c.rates.token).provider host
  | .file => .ok ((SnapshotFile.mk c.rates.path).provider host)

end Config

end Forex
