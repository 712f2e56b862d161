import Forex.Json.Document
import Forex.Json.Value
import Forex.Power
import Forex.Text.Split

namespace Forex

structure Url where
  scheme : String
  host : String
  port : Nat
  path : String
  query : Option String
deriving DecidableEq

namespace Url

def target (u : Url) : String :=
  match u.query with
  | some q => u.path ++ "?" ++ q
  | none => u.path

def upperHex (n : Nat) : Char := (Nat.digitChar (n % 16)).toUpper

def percentByte (b : UInt8) : List Char := ['%', upperHex (b.toNat / 16), upperHex b.toNat]

def percentEncode (keep : Char → Bool) (cs : List Char) : List Char :=
  cs.flatMap fun c ↦
    if keep c then [c] else (String.singleton c).toUTF8.toList.flatMap percentByte

def isVisible (c : Char) : Bool := 0x20 < c.toNat && c.toNat < 0x7f

def keptInQuery (c : Char) : Bool :=
  isVisible c && c != '"' && c != '#' && c != '<' && c != '>' && c != '\''

def keptInPath (c : Char) : Bool :=
  isVisible c && c != '"' && c != '#' && c != '<' && c != '>' && c != '?' && c != '^' &&
    c != '\x60' &&
    c != '\x7b' && c != '\x7d'

def dot? : List Char → Option (List Char)
  | '.' :: cs => some cs
  | '%' :: '2' :: c :: cs => if c = 'e' ∨ c = 'E' then some cs else none
  | _ => none

def isSingleDot (segment : List Char) : Bool := dot? segment == some []

def isDoubleDot (segment : List Char) : Bool := ((dot? segment).bind dot?) == some []

/-- Adds the segments of a path to those before it, which are kept last first. A path that ends in
dots ends in a slash. -/
def resolveDots : (before : List (List Char)) → List (List Char) → List (List Char)
  | before, [] => before.reverse
  | before, s :: rest =>
    let last := rest.isEmpty
    if isDoubleDot s then
      resolveDots (if last then [] :: before.drop 1 else before.drop 1) rest
    else if isSingleDot s then resolveDots (if last then [] :: before else before) rest
    else resolveDots (percentEncode keptInPath s :: before) rest

def isSlash (c : Char) : Bool := c == '/' || c == '\\'

def normalPath (cs : List Char) : String :=
  let isRooted := (cs.head?.map isSlash).getD false
  let segments := Text.splitWhere isSlash (if isRooted then cs.drop 1 else cs)
  String.ofList ('/' :: ['/'].intercalate (resolveDots [] segments))

def numberIn? (base : Nat) (cs : List Char) : Option Nat :=
  cs.foldl
    (fun n c ↦ n.bind fun n ↦ ((Json.hexValue? c).filter (· < base)).map fun d ↦ n * base + d)
    (some 0)

/-- A part of a numeric host; a leading zero makes it octal and `0x` hexadecimal. -/
def hostNumber? : List Char → Option Nat
  | [] => none
  | '0' :: 'x' :: cs | '0' :: 'X' :: cs => numberIn? 16 cs
  | '0' :: c :: cs => numberIn? 8 (c :: cs)
  | cs => numberIn? 10 cs

def hostAddress? (parts : List Nat) : Option Nat :=
  match parts.reverse with
  | [] => none
  | last :: before =>
    let bound := twoTo (8 * (4 - before.length))
    if 3 < before.length ∨ before.any (255 < ·) ∨ bound ≤ last then none
    else some (before.reverse.foldl (fun n p ↦ n * 256 + p) 0 * bound + last)

def dottedQuad (n : Nat) : String :=
  ".".intercalate ([24, 16, 8, 0].map fun k ↦ toString (n / twoTo k % 256))

def percentDecode : List Char → List UInt8
  | '%' :: a :: b :: cs =>
    match Json.hexValue? a, Json.hexValue? b with
    | some x, some y => UInt8.ofNat (x * 16 + y) :: percentDecode cs
    | _, _ => '%'.toNat.toUInt8 :: percentDecode (a :: b :: cs)
  | c :: cs => (String.singleton c).toUTF8.toList ++ percentDecode cs
  | [] => []
termination_by cs => cs.length

def isHostChar (c : Char) : Bool :=
  0x20 < c.toNat && c.toNat != 0x7f && !"#/:<>?@[\\]^|%".toList.contains c

def host? (cs : List Char) : Option String := do
  let name ← String.fromUTF8? ⟨(percentDecode cs).toArray⟩
  let name := name.toLower
  if name.isEmpty || !name.toList.all isHostChar then none
  else
    let parts := Text.splitWhere (· == '.') name.toList
    let parts := if parts.getLast? = some [] ∧ 1 < parts.length then parts.dropLast else parts
    let last := parts.getLast?.getD []
    if !last.isEmpty && (last.all Char.isDigit || (hostNumber? last).isSome) then
      return dottedQuad (← hostAddress? (← parts.mapM hostNumber?))
    else return name

def port? (usual : Nat) (cs : List Char) : Option Nat :=
  if cs.isEmpty then some usual
  else if cs.all Char.isDigit then (numberIn? 10 cs).filter (· < 65536)
  else none

def authority? (usual : Nat) (cs : List Char) : Option (String × Nat) := do
  let cs := match cs.reverse.span (· != '@') with
    | (host, _) => host.reverse
  let (host, rest) ← match cs with
    | '[' :: _ =>
      let (inner, rest) := cs.span (· != ']')
      some (String.ofList (inner ++ rest.take 1), rest.drop 1)
    | _ =>
      let (name, rest) := cs.span (· != ':')
      (host? name).map (·, rest)
  match rest with
  | [] => return (host, usual)
  | ':' :: digits => return (host, ← port? usual digits)
  | _ => none

def isSchemeChar (c : Char) : Bool := c.isAlphanum || c == '+' || c == '-' || c == '.'

def usualPort? : String → Option Nat
  | "http" => some 80
  | "https" => some 443
  | _ => none

/-- Reads an address. Blanks and controls around it and line breaks and tabs in it do not count. -/
def parse? (s : String) : Option Url := do
  let isEdge (c : Char) : Bool := c.toNat ≤ 0x20
  let cs := ((s.toList.dropWhile isEdge).reverse.dropWhile isEdge).reverse.filter fun c ↦
    c != '\t' && c != '\n' && c != '\r'
  let (scheme, rest) := cs.span isSchemeChar
  let scheme := (String.ofList scheme).toLower
  let usual ← usualPort? scheme
  match rest with
  | ':' :: rest =>
    let rest := rest.dropWhile isSlash
    let (authority, rest) := rest.span fun c ↦ !isSlash c && c != '?' && c != '#'
    let (host, port) ← authority? usual authority
    let (path, rest) := rest.span fun c ↦ c != '?' && c != '#'
    let query := match rest with
      | '?' :: rest =>
        some (String.ofList (percentEncode keptInQuery (rest.takeWhile (· != '#'))))
      | _ => none
    return { scheme, host, port, path := normalPath path, query }
  | _ => none

end Url

end Forex
