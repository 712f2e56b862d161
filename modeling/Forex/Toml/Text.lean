import Forex.Json.Document

namespace Forex.Toml

def isTextChar (c : Char) : Bool := c == '\t' || (32 ≤ c.toNat && c.toNat != 127)

def newline? : List Char → Option (List Char)
  | '\n' :: cs => some cs
  | '\r' :: '\n' :: cs => some cs
  | _ => none

def isBlank (c : Char) : Bool := c == ' ' || c == '\t'

def shortEscape? : Char → Option Char
  | 'b' => some '\x08'
  | 't' => some '\t'
  | 'n' => some '\n'
  | 'f' => some '\x0c'
  | 'r' => some '\r'
  | 'e' => some '\x1b'
  | '"' => some '"'
  | '\\' => some '\\'
  | _ => none

def escapeWidth? : Char → Option Nat
  | 'x' => some 2
  | 'u' => some 4
  | 'U' => some 8
  | _ => none

def character? (n : Nat) : Option Char := if n.isValidChar then some (Char.ofNat n) else none

def escape? : List Char → Option (Char × List Char)
  | [] => none
  | c :: cs =>
    match shortEscape? c with
    | some e => some (e, cs)
    | none => do
      let width ← escapeWidth? c
      if cs.length < width then none
      let digits ← (cs.take width).mapM Json.hexValue?
      return (← character? (digits.foldl (fun n d ↦ 16 * n + d) 0), cs.drop width)

def line? (quote : Char) (escapes : Bool) : (fuel : Nat) → List Char →
    Option (List Char × List Char)
  | 0, _ => none
  | _, [] => none
  | fuel + 1, c :: cs => do
    if c = quote then some ([], cs)
    else if escapes && c == '\\' then
      let (e, cs) ← escape? cs
      let (text, rest) ← line? quote escapes fuel cs
      some (e :: text, rest)
    else if isTextChar c then
      let (text, rest) ← line? quote escapes fuel cs
      some (c :: text, rest)
    else none

def joinLine? (cs : List Char) : Option (List Char) := do
  let rest ← newline? (cs.dropWhile isBlank)
  return rest.dropWhile fun c ↦ isBlank c || c == '\n' || c == '\r'

/-- Reads on to the three quotes that end a string of several lines. One or two quotes more before
them belong to the string. -/
def lines? (quote : Char) (escapes : Bool) : (fuel : Nat) → List Char →
    Option (List Char × List Char)
  | 0, _ => none
  | _, [] => none
  | fuel + 1, c :: cs => do
    let quotes := ((c :: cs).takeWhile (· == quote)).length
    if 3 ≤ quotes then
      if quotes ≤ 5 then some (List.replicate (quotes - 3) quote, (c :: cs).drop quotes) else none
    else if escapes && c == '\\' then
      match joinLine? cs with
      | some cs => lines? quote escapes fuel cs
      | none =>
        let (e, cs) ← escape? cs
        let (text, rest) ← lines? quote escapes fuel cs
        some (e :: text, rest)
    else
      match newline? (c :: cs) with
      | some cs =>
        let (text, rest) ← lines? quote escapes fuel cs
        some ('\n' :: text, rest)
      | none =>
        if isTextChar c then
          let (text, rest) ← lines? quote escapes fuel cs
          some (c :: text, rest)
        else none

def isQuote (c : Char) : Bool := c == '"' || c == '\''

def quoted? : List Char → Option (String × List Char)
  | [] => none
  | q :: cs => do
    if !isQuote q then none
    let (text, rest) ← line? q (q == '"') (cs.length + 1) cs
    return (String.ofList text, rest)

def string? : List Char → Option (String × List Char)
  | a :: b :: c :: cs => do
    if isQuote a && b == a && c == a then
      let cs := (newline? cs).getD cs
      let (text, rest) ← lines? a (a == '"') (cs.length + 1) cs
      return (String.ofList text, rest)
    else quoted? (a :: b :: c :: cs)
  | cs => quoted? cs

end Forex.Toml
