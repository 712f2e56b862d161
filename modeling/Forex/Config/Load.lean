import Forex.Config.Read
import Forex.Json.Decode
import Forex.Toml.Document

namespace Forex

abbrev Environment := List (String × String)

inductive ConfigError
  | malformed (path : String)
  | unusable
deriving DecidableEq

namespace ConfigError

def message : ConfigError → String
  | malformed path => path ++ " holds no settings"
  | unusable => "a setting has the wrong form"

def toFailure (e : ConfigError) : Failure := ⟨.configuration, e.message⟩

end ConfigError

namespace Config

inductive Format
  | toml
  | json
deriving DecidableEq

namespace Format

def all : List Format := [toml, json]

def ending : Format → String
  | toml => "toml"
  | json => "json"

def read? : Format → String → Option Setting.Entries
  | toml, text => Toml.read? text
  | json, text =>
    match Json.decodeText Json.Document.value text with
    | .ok (.object entries) => some (Setting.ofEntries entries)
    | _ => none

end Format

def decodeFile (bytes : ByteArray) : String :=
  String.ofList (Text.decodeLossy none (Text.withoutMark bytes.toList))

def formatOf? (path : String) : Option Format :=
  let name := ((FileTree.pathNames path).getLast?).getD ""
  Format.all.find? fun f ↦ name.endsWith ("." ++ f.ending) && name != "." ++ f.ending

def stem? (path : String) : Option String :=
  let isIdle (name : String) : Bool := name == "" || name == "."
  let names := ((FileTree.pathNames path).reverse.dropWhile isIdle).reverse
  if names.getLast? = some ".." then none else some ("/".intercalate names)

def candidates (path : String) : List (String × Format) :=
  match stem? path with
  | some stem => Format.all.map fun f ↦ (stem ++ "." ++ f.ending, f)
  | none => []

variable {m : Type → Type} [Monad m] (host : Host m)

def parseFile (path : String) (format : Format) (bytes : ByteArray) :
    Except ConfigError Setting.Entries :=
  match format.read? (decodeFile bytes) with
  | some entries => .ok entries
  | none => .error (.malformed path)

def readFirst : List (String × Format) → m (Except ConfigError Setting.Entries)
  | [] => return .ok []
  | (path, format) :: rest => do
    match ← host.read path with
    | .ok bytes => return parseFile path format bytes
    | .error _ => readFirst rest

/-- The settings of a layer. A file of just this name comes first, and if its name does not show a
format, the layer is empty. -/
def readLayer (path : String) : m (Except ConfigError Setting.Entries) := do
  match ← host.read path with
  | .ok bytes =>
    match formatOf? path with
    | some format => return parseFile path format bytes
    | none => return .ok []
  | .error _ => readFirst host (candidates path)

/-- The small form of a letter of a variable's name. The Kelvin sign is the one letter beyond ASCII
whose small form is in it. -/
def smallLetter (c : Char) : Char := if c = Char.ofNat 0x212a then 'k' else c.toLower

def dotted : List Char → List Char
  | '_' :: '_' :: cs => '.' :: dotted cs
  | c :: cs => c :: dotted cs
  | [] => []

def variablePrefix : List Char := "pricebook__".toList

def environmentSettings (env : Environment) : Setting.Entries :=
  env.filterMap fun (name, value) ↦
    let name := name.toList.map smallLetter
    if variablePrefix.isPrefixOf name then
      some (String.ofList (dotted (name.drop variablePrefix.length)), .text value)
    else none

def mode (env : Environment) : String := (env.lookup "RUN_MODE").getD "development"

/-- Three layers, of which later ones go over earlier ones: a file of defaults, a file for the mode
of operation, and environment variables. -/
def load (env : Environment) : m (Except ConfigError Config) := do
  match ← readLayer host "config/default" with
  | .error e => return .error e
  | .ok defaults =>
    match ← readLayer host ("config/" ++ mode env) with
    | .error e => return .error e
    | .ok forMode =>
      let entries := [defaults, forMode, environmentSettings env].foldl Setting.addSource []
      match ofEntries? entries with
      | some c => return .ok c
      | none => return .error .unusable

end Config

end Forex
