import Forex.Rate.Json
import Forex.Registry.Basic

namespace Forex

open Json (Decoder Fields decodeList)

structure Snapshot where
  currencies : List Currency
  rates : List RateRecord

namespace Snapshot

def fields : Fields Snapshot :=
  (Fields.nil Snapshot.mk)
    |>.optional "currencies" (decodeList Currency.decode) []
    |>.optional "rates" (decodeList RateRecord.decode) []

def decode : Decoder Snapshot := fields.decode "Snapshot"

def toJson (s : Snapshot) : Json :=
  .object [
    ("currencies", .array (s.currencies.map Currency.toJson)),
    ("rates", .array (s.rates.map RateRecord.toJson))]

def toText (s : Snapshot) : String := s.toJson.toPretty

def ofText (text : String) : Except Json.Error Snapshot := Json.decodeText decode text

def exchangeRates (s : Snapshot) : List ExchangeRate := s.rates.map RateRecord.toRate

def ofRegistry (r : Registry) : Snapshot := ⟨r.currencies, r.rates.edges.map RateRecord.ofRate⟩

def toRegistry (s : Snapshot) : Registry := .ofParts s.currencies ⟨s.exchangeRates⟩

end Snapshot

end Forex
