import Forex.Files
import Forex.Http.Basic
import Forex.Timestamp

namespace Forex

structure Host (m : Type → Type) where
  read : (path : String) → m (Except FileError ByteArray)
  write : (path : String) → (text : String) → m (Except FileError Unit)
  fileExists : (path : String) → m Bool
  send : HttpRequest → m (Except HttpError HttpReply)
  clock : m Timestamp
  print : (line : String) → m Unit

namespace Host

variable {m : Type → Type} [Monad m] (host : Host m)

def readText (path : String) : m (Except FileError String) := do
  return (← host.read path).bind Forex.readText

end Host

/-- A web service that gives its replies in order, whatever the requests are. When there are none
left it closes connections at once. -/
structure Script where
  host : String
  port : Nat
  replies : List HttpReply := []
  seen : List HttpRequest := []

namespace Script

def take (s : Script) (r : HttpRequest) : Except HttpError HttpReply × Script :=
  if r.url.scheme = "http" ∧ r.url.host = s.host ∧ r.url.port = s.port then
    match s.replies with
    | reply :: replies => (.ok reply, { s with replies, seen := s.seen ++ [r] })
    | [] => (.error .noAnswer, s)
  else (.error .noAnswer, s)

end Script

structure World where
  files : FileTree
  service : Script
  now : Timestamp
  printed : List String := []

namespace World

def host : Host (StateM World) where
  read path := do return (← get).files.read path
  write path text := modifyGet fun w ↦
    match w.files.write path text.toUTF8 with
    | .ok files => (.ok (), { w with files })
    | .error e => (.error e, w)
  fileExists path := do return (← get).files.exists? path
  send r := modifyGet fun w ↦
    let (answer, service) := w.service.take r
    (answer, { w with service })
  clock := do return (← get).now
  print line := modify fun w ↦ { w with printed := w.printed ++ [line] }

end World

end Forex
