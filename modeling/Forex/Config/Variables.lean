import Forex.Config.Load
import Forex.Text.Blank

namespace Forex.Variables

open Text

def splitLines : List UInt8 → List (List UInt8)
  | [] => []
  | b :: bs =>
    if b = 10 then [b] :: splitLines bs
    else
      match splitLines bs with
      | l :: ls => (b :: l) :: ls
      | [] => [[b]]

def textLines (bytes : ByteArray) : List (List Char) :=
  let lines := (splitLines (withoutMark bytes.toList)).map fun l ↦ String.fromUTF8? ⟨l.toArray⟩
  (lines.takeWhile Option.isSome).filterMap fun l ↦ l.map String.toList

inductive Place
  | inText
  | afterBlank
  | afterBackslash
  | inQuotes (quote : Char)
  | afterQuotedBackslash (quote : Char)
deriving DecidableEq

def Place.started (c : Char) : Place :=
  if c = '\\' then afterBackslash
  else if c = '"' ∨ c = '\'' then inQuotes c
  else inText

def Place.follow : Place → (before : List Char) → List Char → Place × Option (List Char)
  | p, _, [] => (p, none)
  | afterBlank, before, c :: cs =>
    if c = '#' then (inText, some before.reverse) else follow (started c) (c :: before) cs
  | inText, before, c :: cs =>
    if isBlank c ∧ c ≠ '\n' ∧ c ≠ '\r' then follow afterBlank (c :: before) cs
    else follow (started c) (c :: before) cs
  | afterBackslash, before, c :: cs => follow inText (c :: before) cs
  | inQuotes quote, before, c :: cs =>
    if c = '\\' then follow (afterQuotedBackslash quote) (c :: before) cs
    else if c = quote then follow inText (c :: before) cs
    else follow (inQuotes quote) (c :: before) cs
  | afterQuotedBackslash quote, before, c :: cs => follow (inQuotes quote) (c :: before) cs

/-- Lines put together as quotations demand, without comments. What is left open at the end is
dropped. -/
def entries : Place → (begun : List Char) → List (List Char) → List (List Char)
  | _, _, [] => []
  | p, begun, l :: ls =>
    if ((begun ++ l).dropWhile isBlank).head? = some '#' then entries .inText [] ls
    else
      match p.follow [] l with
      | (_, some before) => (begun ++ before) :: entries .inText [] ls
      | (.inText, none) => (begun ++ l) :: entries .inText [] ls
      | (p, none) => entries p (begun ++ l) ls

inductive Reference
  | plain (name : List Char)
  | braced (name : List Char)

def valueOf (env : Environment) (name : List Char) : List Char :=
  ((env.lookup (String.ofList name)).getD "").toList

def isNameChar (c : Char) : Bool := c.isAlphanum

/-- Reads a value; `quote` is the quotation that is open and `reference` the reference. After a
blank outside of quotes only a comment may follow. -/
def value? (env : Environment) :
    (quote : Option Char) → (reference : Option Reference) → List Char →
    Option (List Char)
  | none, none, [] => some []
  | none, some (.plain name), [] => some (valueOf env name)
  | _, _, [] => none
  | some '\'', _, c :: cs =>
    if c = '\'' then value? env none none cs else (value? env (some '\'') none cs).map (c :: ·)
  | quote, some (.braced name), c :: cs =>
    if isNameChar c || c != '\x7d' then value? env quote (some (.braced (name ++ [c]))) cs
    else (value? env quote none cs).map (valueOf env name ++ ·)
  | quote, some (.plain name), c :: cs =>
    if isNameChar c then value? env quote (some (.plain (name ++ [c]))) cs
    else if c = '\x7b' ∧ name = [] then value? env quote (some (.braced [])) cs
    else if c = '$' then (value? env quote (some (.plain [])) cs).map (valueOf env name ++ ·)
    else (value? env quote none cs).map (valueOf env name ++ c :: ·)
  | quote, none, '$' :: cs => value? env quote (some (.plain [])) cs
  | quote, none, '\\' :: cs =>
    match cs with
    | [] => if quote.isNone then some [] else none
    | 'n' :: cs => (value? env quote none cs).map ('\n' :: ·)
    | c :: cs =>
      if c = '\\' ∨ c = '\'' ∨ c = '"' ∨ c = '$' ∨ c = ' ' then
        (value? env quote none cs).map (c :: ·)
      else none
  | some quote, none, c :: cs =>
    if c = quote then value? env none none cs else (value? env (some quote) none cs).map (c :: ·)
  | none, none, c :: cs =>
    if c = '\'' ∨ c = '"' then value? env (some c) none cs
    else if c = ' ' ∨ c = '\t' then
      let rest := cs.dropWhile fun c ↦ c == ' ' || c == '\t'
      if rest.isEmpty || rest.head? == some '#' then some [] else none
    else (value? env none none cs).map (c :: ·)

def name? : List Char → Option (List Char × List Char)
  | [] => none
  | c :: cs =>
    if c.isAlpha || c == '_' then
      let (name, rest) := (c :: cs).span fun c ↦ c.isAlphanum || c == '_' || c == '.'
      some (name, rest.dropWhile isBlank)
    else none

def assignment? (line : List Char) : Option (List Char × List Char) := do
  let (name, rest) ← name? line
  match rest with
  | '=' :: rest => some (name, rest.dropWhile isBlank)
  | rest =>
    if name = "export".toList then
      let (name, rest) ← name? rest
      match rest with
      | '=' :: rest => some (name, rest.dropWhile isBlank)
      | _ => none
    else none

/-- Adds the variables of entries, except those that are set already. Reading ends at the first
entry that is not in order. -/
def addEntries : Environment → List (List Char) → Environment
  | env, [] => env
  | env, line :: lines =>
    match trimWhile isBlank line with
    | [] | '#' :: _ => addEntries env lines
    | line =>
      let found := do
        let (name, text) ← assignment? line
        let value ← if text.head? = some '#' then some [] else value? env none none text
        some (String.ofList name, String.ofList value)
      match found with
      | some (name, value) =>
        addEntries (if (env.lookup name).isSome then env else env ++ [(name, value)]) lines
      | none => env

def addFile (env : Environment) (bytes : ByteArray) : Environment :=
  addEntries env (entries .inText [] (textLines bytes))

end Forex.Variables
