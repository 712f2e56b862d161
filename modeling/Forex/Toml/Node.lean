import Forex.Config.Setting

namespace Forex.Toml

/-- How a table came about: as a step on the way to the table of a header, through a key with dots,
or by its own header. -/
inductive Origin
  | passed
  | dotted
  | header
deriving DecidableEq

inductive Node
  | value (s : Setting)
  | table (origin : Origin) (entries : List (String × Node))
  | tables (before : List Setting) (entries : List (String × Node))

namespace Node

instance : Inhabited Node := ⟨value .unset⟩

abbrev Entries := List (String × Node)

mutual

def toSetting : Node → Setting
  | value s => s
  | table _ entries => .table (toSettings entries)
  | tables before entries => .list (before ++ [.table (toSettings entries)])

def toSettings : Entries → Setting.Entries
  | [] => []
  | (k, n) :: es => (k, toSetting n) :: toSettings es

end

def define? (s : Setting) : (key : List String) → Entries → Option Entries
  | [], _ => none
  | [k], es => if (es.lookup k).isSome then none else some (es ++ [(k, value s)])
  | k :: ks, es => do
    match es.lookup k with
    | none => return es ++ [(k, table .dotted (← define? s ks []))]
    | some (table origin inner) =>
      if origin = .header then none else return putEntry k (table origin (← define? s ks inner)) es
    | some (tables before inner) => return putEntry k (tables before (← define? s ks inner)) es
    | some (value _) => none

def within? (f : Entries → Option Entries) : (path : List String) → Entries → Option Entries
  | [], es => f es
  | k :: ks, es => do
    match es.lookup k with
    | none => return es ++ [(k, table .passed (← within? f ks []))]
    | some (table origin inner) => return putEntry k (table origin (← within? f ks inner)) es
    | some (tables before inner) => return putEntry k (tables before (← within? f ks inner)) es
    | some (value _) => none

/-- Opens a table by its header. Only a table that was passed on the way to others may be there. -/
def openTable? (k : String) (es : Entries) : Option Entries :=
  match es.lookup k with
  | none => some (es ++ [(k, table .header [])])
  | some (table .passed inner) => some (putEntry k (table .header inner) es)
  | _ => none

def openItem? (k : String) (es : Entries) : Option Entries :=
  match es.lookup k with
  | none => some (es ++ [(k, tables [] [])])
  | some (tables before inner) =>
    some (putEntry k (tables (before ++ [.table (toSettings inner)]) []) es)
  | _ => none

end Node

end Forex.Toml
