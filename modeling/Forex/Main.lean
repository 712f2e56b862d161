import Forex.Program

open Forex

namespace Forex.Machine

def fileError : IO.Error → FileError
  | .noFileOrDirectory .. => .notFound
  | .inappropriateType _ code _ => if code = 21 then .isDirectory else .notDirectory
  | .permissionDenied .. => .other "Permission denied (os error 13)"
  | e => .other (toString e)

def attempt {α : Type} (action : IO α) : IO (Except FileError α) := do
  try return .ok (← action)
  catch e => return .error (fileError e)

def fileExists (path : String) : IO Bool := do
  return (← attempt (IO.FS.realPath path)).isOk

def clock : IO Timestamp := do
  let modified ← attempt (IO.FS.withTempFile fun _ path ↦ return (← path.metadata).modified)
  match modified with
  | .ok t => return ⟨t.sec.toNat * Timestamp.nanosecondsPerSecond + t.nsec.toNat⟩
  | .error _ => return ⟨0⟩

/-- No request gets an answer, as there is no way to the network. -/
def host : Host IO where
  read path := attempt (IO.FS.readBinFile path)
  write path text := attempt (IO.FS.writeFile path text)
  fileExists
  send _ := return .error .noAnswer
  clock
  print line := IO.println line

def entry? (bytes : List UInt8) : Option (String × String) := do
  let (name, rest) := bytes.span (· != 61)
  if rest.isEmpty then none
  return (← String.fromUTF8? ⟨name.toArray⟩, ← String.fromUTF8? ⟨(rest.drop 1).toArray⟩)

def splitZeros : List UInt8 → List (List UInt8)
  | [] => []
  | b :: bs =>
    if b = 0 then [] :: splitZeros bs
    else
      match splitZeros bs with
      | l :: ls => (b :: l) :: ls
      | [] => [[b]]

def environment : IO Environment := do
  match ← attempt (IO.FS.readBinFile "/proc/self/environ") with
  | .ok bytes => return (splitZeros bytes.toList).filterMap entry?
  | .error _ => return []

end Forex.Machine

def main (args : List String) : IO UInt32 := do
  let exit ← Program.run Machine.host (← Machine.environment) args
  match exit.complaint with
  | some text => IO.eprintln text
  | none => pure ()
  return UInt32.ofNat exit.status
