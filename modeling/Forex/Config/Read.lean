import Forex.Config.Basic
import Forex.Config.Setting
import Forex.Text.Digits

namespace Forex

namespace Double

def toText : Double → String
  | finite x => x.toText .plain
  | infinite negative => if negative then "-inf" else "inf"
  | undefined => "NaN"

/-- The nearest number of at most `most`, a half going up; nothing is below zero. -/
def toNatural (most : Nat) : Double → Nat
  | finite x =>
    if x.negative then 0
    else min most ((2 * x.units + Binary64.unitsOfOne) / (2 * Binary64.unitsOfOne))
  | infinite negative => if negative then 0 else most
  | undefined => 0

end Double

namespace Setting

def largest : Nat := twoTo 64 - 1

def truthWord? (word : String) : Option Bool :=
  let word := word.toLower
  if word = "true" ∨ word = "on" ∨ word = "yes" then some true
  else if word = "false" ∨ word = "off" ∨ word = "no" then some false
  else none

def naturalOfText? (s : String) : Option Nat :=
  match s.toList with
  | '+' :: cs => Text.natural? cs
  | cs => Text.natural? cs

def toText? : Setting → Option String
  | text s => some s
  | integer n => some (toString n)
  | bool b => some (toString b)
  | double x => some x.toText
  | unset | list _ | table _ => none

def toNatural? : Setting → Option Nat
  | integer n => if 0 ≤ n then some n.toNat else none
  | bool b => some b.toNat
  | double x => some (x.toNatural largest)
  | text s =>
    match truthWord? s with
    | some b => some b.toNat
    | none => (naturalOfText? s).filter (· ≤ largest)
  | unset | list _ | table _ => none

def toUInt64? (s : Setting) : Option UInt64 := s.toNatural?.map UInt64.ofNat

def toUInt32? (s : Setting) : Option UInt32 :=
  (s.toNatural?.filter (· < twoTo 32)).map UInt32.ofNat

def sourceOfName? (name : String) : Option RatesSource :=
  if name = "http" then some .http else if name = "file" then some .file else none

/-- A name, or a table with that name as its only key. -/
def toSource? : Setting → Option RatesSource
  | text s => sourceOfName? s
  | table [(name, _)] => sourceOfName? name
  | _ => none

end Setting

inductive ConfigSection
  | named (entries : Setting.Entries)
  | ordered (items : List Setting)

namespace ConfigSection

variable {α : Type}

def ofSetting? : Setting → Option ConfigSection
  | .table entries => some (named entries)
  | .list items => some (ordered items)
  | _ => none

def withDefault (s : ConfigSection) (index : Nat) (name : String) (read : Setting → Option α)
    (default : α) : Option α :=
  let found := match s with
    | named entries => entries.lookup name
    | ordered items => items[index]?
  match found with
  | some setting => read setting
  | none => some default

def nullable (s : ConfigSection) (index : Nat) (name : String) (read : Setting → Option α) :
    Option (Option α) :=
  let found := match s with
    | named entries => some ((entries.lookup name).getD .unset)
    | ordered items => items[index]?
  match found with
  | some .unset => some none
  | some setting => (read setting).map some
  | none => none

end ConfigSection

open Setting

def RatesConfig.ofSetting? (setting : Setting) : Option RatesConfig := do
  let s ← ConfigSection.ofSetting? setting
  return {
    source := ← s.withDefault 0 "source" toSource? .file
    address := ← s.nullable 1 "api_url" toText?
    token := ← s.nullable 2 "token" toText?
    path := ← s.withDefault 3 "path" toText? "rates.json"
    timeoutSeconds := ← s.withDefault 4 "timeout_secs" toUInt64? 10 }

def PricingConfig.ofSetting? (setting : Setting) : Option PricingConfig := do
  let s ← ConfigSection.ofSetting? setting
  return {
    baseCurrency := ← s.nullable 0 "base_currency" toText?
    displayPrecision := ← s.withDefault 1 "display_precision" toUInt32? 2 }

def Config.ofEntries? (entries : Setting.Entries) : Option Config := do
  let s := ConfigSection.named entries
  return {
    rates := ← s.withDefault 0 "rates" RatesConfig.ofSetting? {}
    pricing := ← s.withDefault 1 "pricing" PricingConfig.ofSetting? {} }

end Forex
