import Forex.Binary64

namespace Forex

namespace Json

inductive Number
  | integer (n : Int)
  | double (x : Binary64)
deriving DecidableEq

def Number.toChars : Number → List Char
  | integer n => (if n < 0 then ['-'] else []) ++ Nat.toDigits 10 n.natAbs
  | double x => x.toChars .document

end Json

inductive Json
  | null
  | bool (b : Bool)
  | number (n : Json.Number)
  | string (s : String)
  | array (items : List Json)
  | object (entries : List (String × Json))

namespace Json

instance : Inhabited Json := ⟨null⟩

def ofNat (n : Nat) : Json := number (.integer n)

def ofInt (n : Int) : Json := number (.integer n)

def hexDigit (n : Nat) : Char := Nat.digitChar (n % 16)

def escape (c : Char) : List Char :=
  if c = '"' then ['\\', '"']
  else if c = '\\' then ['\\', '\\']
  else if c.toNat = 8 then ['\\', 'b']
  else if c.toNat = 9 then ['\\', 't']
  else if c.toNat = 10 then ['\\', 'n']
  else if c.toNat = 12 then ['\\', 'f']
  else if c.toNat = 13 then ['\\', 'r']
  else if c.toNat < 32 then
    ['\\', 'u', '0', '0', hexDigit (c.toNat / 16), hexDigit c.toNat]
  else [c]

def quoteChars (cs : List Char) : List Char := '"' :: (cs.flatMap escape ++ ['"'])

def quote (s : String) : List Char := quoteChars s.toList

def scalar : Json → List Char
  | null => "null".toList
  | bool true => "true".toList
  | bool false => "false".toList
  | number n => n.toChars
  | string s => quote s
  | array _ | object _ => []

mutual

def compact : Json → List Char
  | array items => '[' :: compactItems items
  | object entries => '{' :: compactEntries entries
  | j => j.scalar

def compactItems : List Json → List Char
  | [] => [']']
  | [j] => compact j ++ [']']
  | j :: js => compact j ++ ',' :: compactItems js

def compactEntries : List (String × Json) → List Char
  | [] => ['}']
  | [(k, j)] => quote k ++ ':' :: compact j ++ ['}']
  | (k, j) :: es => quote k ++ ':' :: compact j ++ ',' :: compactEntries es

end

def newLine (depth : Nat) : List Char := '\n' :: List.replicate (2 * depth) ' '

mutual

def pretty (depth : Nat) : Json → List Char
  | array [] => ['[', ']']
  | object [] => ['{', '}']
  | array items => '[' :: prettyItems depth items
  | object entries => '{' :: prettyEntries depth entries
  | j => j.scalar

def prettyItems (depth : Nat) : List Json → List Char
  | [] => newLine depth ++ [']']
  | [j] => newLine (depth + 1) ++ pretty (depth + 1) j ++ newLine depth ++ [']']
  | j :: js => newLine (depth + 1) ++ pretty (depth + 1) j ++ ',' :: prettyItems depth js

def prettyEntries (depth : Nat) : List (String × Json) → List Char
  | [] => newLine depth ++ ['}']
  | [(k, j)] =>
    newLine (depth + 1) ++ quote k ++ ':' :: ' ' :: pretty (depth + 1) j ++ newLine depth ++ ['}']
  | (k, j) :: es =>
    newLine (depth + 1) ++ quote k ++ ':' :: ' ' :: pretty (depth + 1) j ++
      ',' :: prettyEntries depth es

end

def toCompact (j : Json) : String := String.ofList j.compact

def toPretty (j : Json) : String := String.ofList (j.pretty 0)

def insertEntry (k : String) (j : Json) : List (String × Json) → List (String × Json)
  | [] => [(k, j)]
  | (k', j') :: es =>
    if k = k' then (k, j) :: es
    else if k < k' then (k, j) :: (k', j') :: es
    else (k', j') :: insertEntry k j es

/-- An object whose entries are sorted by key; of several with one key the last counts. -/
def sortedObject (entries : List (String × Json)) : Json :=
  object (entries.foldl (fun es (k, j) ↦ insertEntry k j es) [])

mutual

def sortKeys : Json → Json
  | array items => array (sortItems items)
  | object entries => sortedObject (sortEntries entries)
  | j => j

def sortItems : List Json → List Json
  | [] => []
  | j :: js => sortKeys j :: sortItems js

def sortEntries : List (String × Json) → List (String × Json)
  | [] => []
  | (k, j) :: es => (k, sortKeys j) :: sortEntries es

end

end Json

end Forex
