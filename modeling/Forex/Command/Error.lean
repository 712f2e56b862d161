import Forex.Config.Load
import Forex.Registry.Error

namespace Forex

inductive Cause
  | failure (f : Failure)
  | rates (e : RatesError)
  | currency (e : CurrencyError)
  | registry (e : RegistryError)
  | fileSourceRequired (command : String)
  | snapshotExists (path : String)
  | document (e : Json.Error)
  | file (e : FileError)
  | other (message : String)

namespace Cause

def message : Cause → String
  | failure f => f.message
  | rates e => e.message
  | currency e => e.message
  | registry e => e.message
  | fileSourceRequired command =>
    "`" ++ command ++ "` edits the rates snapshot and needs rates.source = \"file\""
  | snapshotExists path => "Snapshot " ++ path ++ " already exists"
  | document e => e.message
  | file e => e.message
  | other message => message

end Cause

structure CommandError where
  cause : Cause
  contexts : List String := []

namespace CommandError

def withContext (context : String) (e : CommandError) : CommandError :=
  { e with contexts := context :: e.contexts }

def description (e : CommandError) : String :=
  ": ".intercalate (e.contexts ++ [e.cause.message])

/-- The failure that a caller sees. Causes with words of their own keep them; the others are
described with their contexts. -/
def toFailure (e : CommandError) : Failure :=
  match e.cause with
  | .failure f => f
  | .rates r => r.toFailure
  | .currency c => c.toFailure
  | .registry r => r.toFailure
  | .fileSourceRequired _ => ⟨.configuration, e.cause.message⟩
  | .snapshotExists _ => ⟨.conflict, e.cause.message⟩
  | .document _ => ⟨.validation, e.description⟩
  | .file _ | .other _ => ⟨.internal, e.description⟩

end CommandError

end Forex
