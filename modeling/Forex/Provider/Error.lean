import Forex.Files
import Forex.Json.Decode
import Forex.Rate.Basic
import Forex.Conversion

namespace Forex

inductive HttpError
  | invalidUrl
  | invalidToken
  | noAnswer
  | bodyCutShort
deriving DecidableEq

def HttpError.message : HttpError → String
  | invalidUrl => "the address is no URL"
  | invalidToken => "the token cannot be sent in a header"
  | noAnswer => "the connection was closed before an answer"
  | bodyCutShort => "the connection was closed before the end of the body"

inductive RatesError
  | http (e : HttpError)
  | status (code : Nat) (body : String)
  | file (path : String) (e : FileError)
  | payload (e : Json.Error)
  | notConfigured (detail : String)
  | rateUnavailable (pair : Pair)

namespace RatesError

def message : RatesError → String
  | http e => "HTTP request failed: " ++ e.message
  | status code body => "Rates API returned " ++ toString code ++ ": " ++ body
  | file path e => "Rates file " ++ path ++ ": " ++ e.message
  | payload e => "Invalid rates payload: " ++ e.message
  | notConfigured detail => "Rates provider is not configured: " ++ detail
  | rateUnavailable p => p.noRateMessage

def code : RatesError → String
  | http _ => "RATES_HTTP_ERROR"
  | status _ _ => "RATES_STATUS_ERROR"
  | file _ _ => "RATES_IO_ERROR"
  | payload _ => "RATES_PARSE_ERROR"
  | notConfigured _ => "RATES_NOT_CONFIGURED"
  | rateUnavailable _ => "RATE_UNAVAILABLE"

def kind : RatesError → FailureClass
  | http _ | status _ _ | file _ _ => .externalService
  | payload _ => .validation
  | notConfigured _ => .configuration
  | rateUnavailable _ => .notFound

def toFailure (e : RatesError) : Failure := ⟨e.kind, e.message⟩

end RatesError

end Forex
