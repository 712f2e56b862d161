import Forex.Toml.Node
import Forex.Toml.Scalar
import Forex.Toml.Text

namespace Forex.Toml

def comment? (cs : List Char) : Option (List Char) :=
  match cs with
  | '#' :: cs =>
    let rest := cs.dropWhile isTextChar
    if rest.isEmpty || (newline? rest).isSome then some rest else none
  | _ => some cs

def endLine? (cs : List Char) : Option (List Char) := do
  let rest ← comment? (cs.dropWhile isBlank)
  if rest.isEmpty then some [] else newline? rest

def skipLines? : (fuel : Nat) → List Char → Option (List Char)
  | 0, _ => none
  | fuel + 1, cs => do
    let rest ← comment? (cs.dropWhile isBlank)
    match newline? rest with
    | some rest => skipLines? fuel rest
    | none => some rest

def isBareChar (c : Char) : Bool := c.isAlphanum || c == '_' || c == '-'

def name? (cs : List Char) : Option (String × List Char) :=
  match cs with
  | '"' :: _ | '\'' :: _ => quoted? cs
  | _ =>
    let (name, rest) := cs.span isBareChar
    if name.isEmpty then none else some (String.ofList name, rest)

def key? : (fuel : Nat) → List Char → Option (List String × List Char)
  | 0, _ => none
  | fuel + 1, cs => do
    let (name, rest) ← name? (cs.dropWhile isBlank)
    match rest.dropWhile isBlank with
    | '.' :: rest =>
      let (names, rest) ← key? fuel rest
      some (name :: names, rest)
    | rest => some ([name], rest)

mutual

def value? : (fuel : Nat) → List Char → Option (Setting × List Char)
  | 0, _ => none
  | fuel + 1, cs =>
    match cs with
    | '"' :: _ | '\'' :: _ => do
      let (s, rest) ← string? cs
      return (.text s, rest)
    | '[' :: cs => do
      let (items, rest) ← items? fuel cs
      return (.list items, rest)
    | '\x7b' :: cs => do
      let (entries, rest) ← members? fuel [] cs
      return (.table (Node.toSettings entries), rest)
    | _ => do
      let (word, rest) := takeScalar cs
      return (← scalar? word, rest)

def items? : (fuel : Nat) → List Char → Option (List Setting × List Char)
  | 0, _ => none
  | fuel + 1, cs => do
    match ← skipLines? (cs.length + 1) cs with
    | ']' :: rest => return ([], rest)
    | cs =>
      let (item, rest) ← value? fuel cs
      match ← skipLines? (rest.length + 1) rest with
      | ',' :: rest =>
        let (items, rest) ← items? fuel rest
        return (item :: items, rest)
      | ']' :: rest => return ([item], rest)
      | _ => none

def members? : (fuel : Nat) → Node.Entries → List Char → Option (Node.Entries × List Char)
  | 0, _, _ => none
  | fuel + 1, es, cs => do
    match ← skipLines? (cs.length + 1) cs with
    | '\x7d' :: rest => return (es, rest)
    | cs =>
      let (key, rest) ← key? (cs.length + 1) cs
      match rest with
      | '=' :: rest =>
        let (s, rest) ← value? fuel (rest.dropWhile isBlank)
        let es ← Node.define? s key es
        match ← skipLines? (rest.length + 1) rest with
        | ',' :: rest => members? fuel es rest
        | '\x7d' :: rest => return (es, rest)
        | _ => none
      | _ => none

end

def openHeader? (open? : String → Node.Entries → Option Node.Entries) (path : List String)
    (es : Node.Entries) : Option Node.Entries := do
  let last ← path.getLast?
  Node.within? (open? last) path.dropLast es

/-- Reads the statement at the front of a line: a header, or a key with its value in the table that
the last header opened. Gives the path of the open table, the entries so far and the rest of the
line. -/
def statement? (path : List String) (es : Node.Entries) (cs : List Char) :
    Option (List String × Node.Entries × List Char) :=
  let fuel := cs.length + 1
  match cs with
  | '[' :: '[' :: cs => do
    let (path, rest) ← key? fuel cs
    match rest with
    | ']' :: ']' :: rest => return (path, ← openHeader? Node.openItem? path es, rest)
    | _ => none
  | '[' :: cs => do
    let (path, rest) ← key? fuel cs
    match rest with
    | ']' :: rest => return (path, ← openHeader? Node.openTable? path es, rest)
    | _ => none
  | _ => do
    let (key, rest) ← key? fuel cs
    match rest with
    | '=' :: rest =>
      let (s, rest) ← value? fuel (rest.dropWhile isBlank)
      return (path, ← Node.within? (Node.define? s key) path es, rest)
    | _ => none

def statements? : (fuel : Nat) → (path : List String) → Node.Entries → List Char →
    Option Node.Entries
  | 0, _, _, _ => none
  | fuel + 1, path, es, cs => do
    match ← skipLines? (cs.length + 1) cs with
    | [] => return es
    | cs =>
      let (path, es, rest) ← statement? path es cs
      statements? fuel path es (← endLine? rest)

def read? (text : String) : Option Setting.Entries :=
  let cs := text.toList
  (statements? (cs.length + 1) [] [] cs).map Node.toSettings

end Forex.Toml
