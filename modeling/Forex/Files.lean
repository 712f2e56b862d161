import Forex.Entries
import Forex.Text.Split

namespace Forex

inductive FileError
  | notFound
  | notDirectory
  | isDirectory
  | nameTooLong
  | badName
  | notText
  | other (detail : String)
deriving DecidableEq

def FileError.message : FileError → String
  | notFound => "No such file or directory (os error 2)"
  | notDirectory => "Not a directory (os error 20)"
  | isDirectory => "Is a directory (os error 21)"
  | nameTooLong => "File name too long (os error 36)"
  | badName => "file name contained an unexpected NUL byte"
  | notText => "stream did not contain valid UTF-8"
  | other detail => detail

inductive FileTree
  | file (content : ByteArray)
  | directory (entries : List (String × FileTree))

namespace FileTree

instance : Inhabited FileTree := ⟨directory []⟩

def at? : FileTree → List String → Option FileTree
  | t, [] => some t
  | file _, _ :: _ => none
  | directory entries, name :: names => (entries.lookup name).bind (·.at? names)

def place (content : ByteArray) : FileTree → List String → FileTree
  | _, [] => file content
  | file _, name :: names => directory [(name, place content (directory []) names)]
  | directory entries, name :: names =>
    let inner := (entries.lookup name).getD (directory [])
    directory (putEntry name (place content inner names) entries)

def nameLimit : Nat := 255

def pathLimit : Nat := 4095

/-- One step of a path from a directory, which is given by its names. A blank name and a dot stay
there, and two dots lead back. -/
def enter (t : FileTree) (here : List String) (name : String) : Except FileError (List String) :=
  match t.at? here with
  | some (directory entries) =>
    if name = "" ∨ name = "." then .ok here
    else if name = ".." then .ok here.dropLast
    else if nameLimit < name.utf8ByteSize then .error .nameTooLong
    else if (entries.lookup name).isSome then .ok (here ++ [name])
    else .error .notFound
  | some (file _) => .error .notDirectory
  | none => .error .notFound

def follow (t : FileTree) (names : List String) : Except FileError (List String) :=
  names.foldlM t.enter []

def pathNames (path : String) : List String :=
  (Text.splitWhere (· == '/') path.toList).map String.ofList

/-- Whether a path can be followed. One that starts with a slash leads out of the tree, where
nothing is known but the top. -/
def checkPath (path : String) : Except FileError Unit :=
  if path.toList.contains '\x00' then .error .badName
  else if path.isEmpty then .error .notFound
  else if pathLimit < path.utf8ByteSize then .error .nameTooLong
  else if path.startsWith "/" && path.toList.any (· != '/') then .error .notFound
  else .ok ()

def resolve (t : FileTree) (path : String) : Except FileError (List String) := do
  checkPath path
  t.follow (pathNames path)

def read (t : FileTree) (path : String) : Except FileError ByteArray := do
  match t.at? (← t.resolve path) with
  | some (file content) => return content
  | some (directory _) => .error .isDirectory
  | none => .error .notFound

def resolveNew (t : FileTree) (path : String) : Except FileError (List String) := do
  let names := pathNames path
  let blank (name : String) : Bool := name == ""
  match names.reverse.dropWhile blank with
  | [] => .error .isDirectory
  | last :: before =>
    let here ← t.follow before.reverse
    match t.at? here with
    | some (file _) => .error .notDirectory
    | _ =>
      if (names.getLast?.map blank).getD true then .error .isDirectory
      else if nameLimit < last.utf8ByteSize then .error .nameTooLong
      else return here ++ [last]

def write (t : FileTree) (path : String) (content : ByteArray) : Except FileError FileTree := do
  checkPath path
  match t.resolve path with
  | .ok here =>
    match t.at? here with
    | some (file _) => return t.place content here
    | _ => .error .isDirectory
  | .error _ => return t.place content (← t.resolveNew path)

def exists? (t : FileTree) (path : String) : Bool := (t.resolve path).isOk

end FileTree

def readText (bytes : ByteArray) : Except FileError String :=
  match String.fromUTF8? bytes with
  | some text => .ok text
  | none => .error .notText

end Forex
