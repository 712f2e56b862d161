import Forex.Binary64
import Forex.Entries
import Forex.Json.Value
import Forex.Text.Split

namespace Forex

inductive Double
  | finite (x : Binary64)
  | infinite (negative : Bool)
  | undefined
deriving DecidableEq

inductive Setting
  | unset
  | bool (b : Bool)
  | integer (n : Int)
  | double (x : Double)
  | text (s : String)
  | list (items : List Setting)
  | table (entries : List (String × Setting))

namespace Setting

instance : Inhabited Setting := ⟨unset⟩

abbrev Entries := List (String × Setting)

def isInteger (n : Int) : Bool := fitsSigned 63 n

def ofNumber : Json.Number → Setting
  | .integer n =>
    if isInteger n then integer n else double (.finite ⟨n < 0, Binary64.nearestUnits n.natAbs 1⟩)
  | .double x => double (.finite x)

mutual

def ofJson : Json → Setting
  | .null => unset
  | .bool b => bool b
  | .number n => ofNumber n
  | .string s => text s
  | .array items => list (ofItems items)
  | .object entries => table (ofEntries entries)

def ofItems : List Json → List Setting
  | [] => []
  | j :: js => ofJson j :: ofItems js

def ofEntries : List (String × Json) → Entries
  | [] => []
  | (k, j) :: es => (k, ofJson j) :: ofEntries es

end

mutual

/-- Lays a setting over what was there. Tables are merged; anything else is replaced, but an empty
table leaves alone what is no table. -/
def overlay (old : Option Setting) : Setting → Setting
  | table entries =>
    match old with
    | some (table olds) => table (overlayEntries olds entries)
    | some other => if entries.isEmpty then other else table (overlayEntries [] entries)
    | none => table (overlayEntries [] entries)
  | new => new

def overlayEntries (olds : Entries) : Entries → Entries
  | [] => olds
  | (k, new) :: es => overlayEntries (putEntry k (overlay (olds.lookup k) new) olds) es

end

def assign (new : Setting) : (path : List String) → Entries → Entries
  | [], es => es
  | [k], es => putEntry k (overlay (es.lookup k) new) es
  | k :: ks, es =>
    let inner := match es.lookup k with
      | some (table inner) => inner
      | _ => []
    putEntry k (table (assign new ks inner)) es

def isNameChar (c : Char) : Bool := c.isAlphanum || c == '_' || c == '-'

def keyPath (key : String) : List String :=
  let names := Text.splitWhere (· == '.') key.toList
  if names.all fun n ↦ !n.isEmpty && n.all isNameChar then names.map String.ofList else [key]

/-- Lays the entries of a source over earlier settings. Only its own keys can be paths, not those
further inside. -/
def addSource (es : Entries) (source : Entries) : Entries :=
  source.foldl (fun es (k, s) ↦ assign s (keyPath k) es) es

end Setting

end Forex
