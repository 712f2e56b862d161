import Forex.Json.Value

namespace Forex.Json

inductive Fault
  | unfinished
  | malformed
deriving DecidableEq

inductive Piece
  | char (c : Char)
  | unit (n : Nat)
deriving DecidableEq

structure Literal where
  pieces : List Piece
  fault : Option Fault := none
deriving DecidableEq

structure Numeral where
  negative : Bool
  whole : List Nat
  fraction : Option (List Nat) := none
  exponent : Option Int := none
deriving DecidableEq

/-- A document with its faults in place. After a comma in an array there is always an item, which is
`broken` if none could be read. The fault of a container is set if it does not end. -/
inductive Document
  | null
  | bool (b : Bool)
  | number (n : Numeral)
  | brokenNumber (fault : Fault)
  | brokenWord (fault : Fault)
  | string (l : Literal)
  | array (items : List Document) (fault : Option Fault)
  | object (members : List (Literal × Document)) (fault : Option Fault)
  | tooDeep (d : Document)
  | broken (fault : Fault)

instance : Inhabited Document := ⟨.null⟩

def maxDepth : Nat := 127

def isBlank (c : Char) : Bool := c == ' ' || c == '\n' || c == '\t' || c == '\r'

def skipBlanks (cs : List Char) : List Char := cs.dropWhile isBlank

def hexValue? (c : Char) : Option Nat :=
  if c.isDigit then some (c.toNat - 48)
  else if 'a' ≤ c ∧ c ≤ 'f' then some (c.toNat - 87)
  else if 'A' ≤ c ∧ c ≤ 'F' then some (c.toNat - 55)
  else none

def unitOfHex? (a b c d : Char) : Option Nat := do
  let a ← hexValue? a
  let b ← hexValue? b
  let c ← hexValue? c
  let d ← hexValue? d
  return ((a * 16 + b) * 16 + c) * 16 + d

def shortEscape? (c : Char) : Option Char :=
  match c with
  | '"' => some '"'
  | '\\' => some '\\'
  | '/' => some '/'
  | 'b' => some '\x08'
  | 'f' => some '\x0c'
  | 'n' => some '\n'
  | 'r' => some '\r'
  | 't' => some '\t'
  | _ => none

/-- Four digits of an escape are missing for want of text if fewer than four bytes are left. -/
def hexFault (cs : List Char) : Fault :=
  if (cs.foldl (fun n c ↦ n + c.utf8Size) 0) < 4 then .unfinished else .malformed

def Literal.cons (p : Piece) (r : Literal × List Char) : Literal × List Char :=
  ({ r.1 with pieces := p :: r.1.pieces }, r.2)

def Literal.failed (f : Fault) : Literal × List Char := (⟨[], some f⟩, [])

def Literal.scan : List Char → Literal × List Char
  | [] => failed .unfinished
  | '"' :: cs => (⟨[], none⟩, cs)
  | '\\' :: [] => failed .unfinished
  | '\\' :: 'u' :: cs =>
    match cs with
    | a :: b :: c :: d :: rest =>
      match unitOfHex? a b c d with
      | some n => cons (.unit n) (scan rest)
      | none => failed (hexFault cs)
    | _ => failed (hexFault cs)
  | '\\' :: c :: cs =>
    match shortEscape? c with
    | some e => cons (.char e) (scan cs)
    | none => failed .malformed
  | c :: cs => if c.toNat < 32 then failed .malformed else cons (.char c) (scan cs)

def digits : List Char → List Nat × List Char
  | [] => ([], [])
  | c :: cs =>
    if c.isDigit then
      let (ds, rest) := digits cs
      ((c.toNat - 48) :: ds, rest)
    else ([], c :: cs)

def digitFault (rest : List Char) : Fault := if rest.isEmpty then .unfinished else .malformed

def someDigits (cs : List Char) : Except Fault (List Nat × List Char) :=
  let (ds, rest) := digits cs
  if ds.isEmpty then .error (digitFault rest) else .ok (ds, rest)

def scanExponent (cs : List Char) : Except Fault (Int × List Char) := do
  let (negative, cs) := match cs with
    | '-' :: rest => (true, rest)
    | '+' :: rest => (false, rest)
    | _ => (false, cs)
  let (ds, rest) ← someDigits cs
  let n : Nat := ds.foldl (fun n d ↦ 10 * n + d) 0
  return (if negative then -n else n, rest)

def Numeral.scanEnd (n : Numeral) (cs : List Char) : Except Fault (Numeral × List Char) :=
  match cs with
  | 'e' :: rest | 'E' :: rest => do
    let (e, rest) ← scanExponent rest
    return ({ n with exponent := some e }, rest)
  | _ => .ok (n, cs)

def Numeral.scan (negative : Bool) (cs : List Char) : Except Fault (Numeral × List Char) := do
  let (whole, rest) ← someDigits cs
  if whole.head? = some 0 ∧ whole.length ≠ 1 then .error .malformed
  else
    match rest with
    | '.' :: rest =>
      let (fraction, rest) ← someDigits rest
      scanEnd { negative, whole, fraction := some fraction } rest
    | _ => scanEnd { negative, whole } rest

abbrev Scan (α : Type) := α × Option (List Char)

def scanNumber (negative : Bool) (cs : List Char) : Scan Document :=
  match Numeral.scan negative cs with
  | .ok (n, rest) => (.number n, some rest)
  | .error f => (.brokenNumber f, none)

def scanWord (d : Document) : (word cs : List Char) → Scan Document
  | [], cs => (d, some cs)
  | _ :: _, [] => (.brokenWord .unfinished, none)
  | w :: word, c :: cs => if w = c then scanWord d word cs else (.brokenWord .malformed, none)

mutual

/-- Reads a document. Two steps take a character off at least, so twice the length of the text is
fuel enough; `depth` is the number of containers around it. -/
def scanDocument : (fuel depth : Nat) → List Char → Scan Document
  | 0, _, _ => (.broken .malformed, none)
  | fuel + 1, depth, cs =>
    let deep (d : Document) : Document := if depth < maxDepth then d else .tooDeep d
    match skipBlanks cs with
    | [] => (.broken .unfinished, none)
    | 'n' :: cs => scanWord .null "ull".toList cs
    | 't' :: cs => scanWord (.bool true) "rue".toList cs
    | 'f' :: cs => scanWord (.bool false) "alse".toList cs
    | '-' :: cs => scanNumber true cs
    | '"' :: cs =>
      let (l, rest) := Literal.scan cs
      (.string l, if l.fault.isNone then some rest else none)
    | '[' :: cs =>
      let ((items, fault), rest) := scanItems fuel (depth + 1) true cs
      (deep (.array items fault), rest)
    | '{' :: cs =>
      let ((members, fault), rest) := scanMembers fuel (depth + 1) true cs
      (deep (.object members fault), rest)
    | c :: cs => if c.isDigit then scanNumber false (c :: cs) else (.broken .malformed, none)

def scanItems : (fuel depth : Nat) → (start : Bool) → List Char →
    Scan (List Document × Option Fault)
  | 0, _, _, _ => (([], some .malformed), none)
  | fuel + 1, depth, start, cs =>
    let item (cs : List Char) : Scan (List Document × Option Fault) :=
      match scanDocument fuel depth cs with
      | (d, none) => (([d], some .malformed), none)
      | (d, some rest) =>
        let ((items, fault), rest) := scanItems fuel depth false rest
        ((d :: items, fault), rest)
    match skipBlanks cs with
    | [] => (([], some .unfinished), none)
    | ']' :: cs => (([], none), some cs)
    | c :: cs =>
      if start then item (c :: cs)
      else if c = ',' then item cs
      else (([], some .malformed), none)

def scanMembers : (fuel depth : Nat) → (start : Bool) → List Char →
    Scan (List (Literal × Document) × Option Fault)
  | 0, _, _, _ => (([], some .malformed), none)
  | fuel + 1, depth, start, cs =>
    let member (cs : List Char) : Scan (List (Literal × Document) × Option Fault) :=
      match skipBlanks cs with
      | [] => (([], some .unfinished), none)
      | '"' :: cs =>
        let (key, rest) := Literal.scan cs
        match key.fault with
        | some f => (([(key, .broken f)], some f), none)
        | none =>
          match skipBlanks rest with
          | [] => (([(key, .broken .unfinished)], some .unfinished), none)
          | ':' :: cs =>
            match scanDocument fuel depth cs with
            | (d, none) => (([(key, d)], some .malformed), none)
            | (d, some rest) =>
              let ((members, fault), rest) := scanMembers fuel depth false rest
              (((key, d) :: members, fault), rest)
          | _ => (([(key, .broken .malformed)], some .malformed), none)
      | _ => (([], some .malformed), none)
    match skipBlanks cs with
    | [] => (([], some .unfinished), none)
    | '}' :: cs => (([], none), some cs)
    | c :: cs =>
      if start then member (c :: cs)
      else if c = ',' then member cs
      else (([], some .malformed), none)

end

structure Source where
  document : Document
  trailing : Bool

def Source.ofText (s : String) : Source :=
  let cs := s.toList
  let (document, rest) := scanDocument (2 * cs.length + 2) 0 cs
  { document, trailing := (rest.map fun r ↦ !(skipBlanks r).isEmpty).getD false }

end Forex.Json
