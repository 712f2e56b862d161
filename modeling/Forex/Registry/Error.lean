import Forex.Conversion
import Forex.Decimal.Text

namespace Forex

inductive RegistryError
  | missingField
  | defaultExists
  | duplicateCode (code : Code)
  | neutralDefault
  | currencyNotFound (id : Int32)
  | unknownCurrency (code : Code)
  | alreadyDefault (code : Code)
  | multipleDefaults (count : Nat)
  | rateWithoutNeutral (pair : Pair)
  | invalidRate (rate : Decimal)
  | rateNotFound (pair : Pair)
deriving DecidableEq

namespace RegistryError

def message : RegistryError → String
  | missingField => "Title and code must be provided"
  | defaultExists => "Default currency already exists"
  | duplicateCode c => "Currency with code " ++ c.text ++ " already exists"
  | neutralDefault => "Cannot use the neutral unit as default currency"
  | currencyNotFound id => "Currency " ++ toString id.toInt ++ " not found"
  | unknownCurrency c => "Unknown currency: " ++ c.text
  | alreadyDefault c => "Currency " ++ c.text ++ " is already the default currency"
  | multipleDefaults n => "Registry contains " ++ toString n ++ " default currencies"
  | rateWithoutNeutral p =>
    "Rate " ++ p.source.text ++ " -> " ++ p.target.text ++
      " must have the neutral unit as one endpoint"
  | invalidRate r => "Invalid exchange rate: " ++ r.toText
  | rateNotFound p => p.noRateMessage

def code : RegistryError → String
  | missingField => "MISSING_FIELD"
  | defaultExists => "DEFAULT_EXISTS"
  | duplicateCode _ => "DUPLICATE_CODE"
  | neutralDefault => "NEUTRAL_DEFAULT"
  | currencyNotFound _ => "CURRENCY_NOT_FOUND"
  | unknownCurrency _ => "UNKNOWN_CURRENCY"
  | alreadyDefault _ => "ALREADY_DEFAULT"
  | multipleDefaults _ => "MULTIPLE_DEFAULTS"
  | rateWithoutNeutral _ => "RATE_WITHOUT_NEUTRAL"
  | invalidRate _ => "INVALID_RATE"
  | rateNotFound _ => "RATE_NOT_FOUND"

def kind : RegistryError → FailureClass
  | missingField | neutralDefault | alreadyDefault _ | rateWithoutNeutral _ | invalidRate _ =>
    .validation
  | currencyNotFound _ | unknownCurrency _ | rateNotFound _ => .notFound
  | defaultExists | duplicateCode _ => .conflict
  | multipleDefaults _ => .internal

def status (e : RegistryError) : Nat :=
  match e.kind with
  | .notFound => 404
  | .conflict => 409
  | .internal => 500
  | _ => 400

def toFailure (e : RegistryError) : Failure := ⟨e.kind, e.message⟩

end RegistryError

end Forex
