import Forex.Host
import Forex.Provider.Basic
import Forex.Rate.Json

namespace Forex

structure RatesService where
  address : String
  token : Option String
deriving DecidableEq

namespace RatesService

def ofSettings (address token : Option String) : Except RatesError RatesService :=
  match address with
  | some address => .ok ⟨address, token⟩
  | none => .error (.notConfigured "rates.api_url is missing")

def path : Request → String
  | .currencies => "billing/currencies"
  | .rates => "billing/currencies/rates"
  | .rate p => "billing/currencies/" ++ p.source.text ++ "/" ++ p.target.text

def readReply : (q : Request) → (body : String) → Except Json.Error q.Payload
  | .currencies, body => Json.decodeText decodeCurrencyListing body
  | .rates, body => do
    return (← Json.decodeText decodeRateListing body).map RateRecord.toRate
  | .rate p, body => do return (← Json.decodeText PairRecord.decode body).toRate p

def isSuccess (status : Nat) : Bool := 200 ≤ status && status < 300

def answer (q : Request) (reply : HttpReply) : q.Answer := do
  let (status, body) ← reply.receive.mapError RatesError.http
  if isSuccess status then (readReply q body).mapError .payload
  else .error (.status status body)

def location (s : RatesService) (q : Request) : String :=
  String.ofList (s.address.toList.reverse.dropWhile (· == '/')).reverse ++ "/" ++ path q

variable {m : Type → Type} [Monad m] (host : Host m) (s : RatesService)

def provider : Provider m := fun q ↦ do
  match HttpRequest.make (s.location q) s.token with
  | .error e => return .error (.http e)
  | .ok r =>
    match ← host.send r with
    | .error e => return .error (.http e)
    | .ok reply => return answer q reply

end RatesService

end Forex
