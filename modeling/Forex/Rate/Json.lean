import Forex.Currency.Json
import Forex.Decimal.Json
import Forex.Rate.Table

namespace Forex

open Json (Decoder Document Fields decodeList)

def ExchangeRate.fields : Fields ExchangeRate :=
  (Fields.nil fun source target rate commission ↦
      (⟨⟨source, target⟩, rate, commission⟩ : ExchangeRate))
    |>.required "from" Code.decode
    |>.required "to" Code.decode
    |>.required "rate" Decimal.decode
    |>.optional "commission" Decimal.decode .zero

def ExchangeRate.decode : Decoder ExchangeRate := fields.decode "ExchangeRate"

def RateTable.decode : Decoder RateTable := fun d ↦ do return ⟨← decodeList ExchangeRate.decode d⟩

/-- A rate as services and snapshots write it, with any values, which are read as amounts. -/
structure RateRecord where
  pair : Pair
  rate : Json
  commission : Json

namespace RateRecord

def fields : Fields RateRecord :=
  (Fields.nil fun source target rate commission ↦
      (⟨⟨source, target⟩, rate, commission⟩ : RateRecord))
    |>.required "from" Code.decode
    |>.required "to" Code.decode
    |>.optional "rate" Document.value .null
    |>.optional "commission" Document.value .null

def decode : Decoder RateRecord := fields.decode "WireRate"

def toRate (r : RateRecord) : ExchangeRate where
  pair := r.pair
  rate := .ofJson r.rate
  commission := .ofJson r.commission

def ofRate (e : ExchangeRate) : RateRecord where
  pair := e.pair
  rate := e.rate.toJson
  commission := e.commission.toJson

def toJson (r : RateRecord) : Json :=
  .object [
    ("from", r.pair.source.toJson),
    ("to", r.pair.target.toJson),
    ("rate", r.rate),
    ("commission", r.commission)]

end RateRecord

structure PairRecord where
  rate : Json
  commission : Json

def PairRecord.decode : Decoder PairRecord :=
  ((Fields.nil PairRecord.mk)
    |>.optional "rate" Document.value .null
    |>.optional "commission" Document.value .null).decode "RateResponse"

def PairRecord.toRate (r : PairRecord) (p : Pair) : ExchangeRate where
  pair := p
  rate := .ofJson r.rate
  commission := .ofJson r.commission

def decodeCurrencyListing : Decoder (List Currency) :=
  ((Fields.nil id).optional "currencies" (decodeList Currency.decode) []).decode
    "CurrenciesResponse"

def decodeRateListing : Decoder (List RateRecord) :=
  ((Fields.nil id).optional "rates" (decodeList RateRecord.decode) []).decode "RatesResponse"

end Forex
