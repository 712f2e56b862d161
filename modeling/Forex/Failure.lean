import Forex.Decimal.Basic

namespace Forex

inductive FailureClass
  | notFound
  | validation
  | conflict
  | externalService
  | configuration
  | internal
deriving DecidableEq

namespace FailureClass

def code : FailureClass → String
  | notFound => "NOT_FOUND"
  | validation => "VALIDATION_ERROR"
  | conflict => "CONFLICT"
  | externalService => "EXTERNAL_SERVICE_ERROR"
  | configuration => "CONFIGURATION_ERROR"
  | internal => "INTERNAL_ERROR"

def exitCode : FailureClass → Nat
  | internal => 1
  | validation => 2
  | notFound => 3
  | conflict => 4
  | externalService => 5
  | configuration => 6

def title : FailureClass → String
  | notFound => "Not found"
  | validation => "Validation error"
  | conflict => "Conflict"
  | externalService => "External service error"
  | configuration => "Configuration error"
  | internal => "Internal error"

end FailureClass

structure Failure where
  kind : FailureClass
  detail : String
deriving DecidableEq

namespace Failure

def message (f : Failure) : String := f.kind.title ++ ": " ++ f.detail

def code (f : Failure) : String := f.kind.code

def exitCode (f : Failure) : Nat := f.kind.exitCode

end Failure

/-- Why an operation gave no result: it was refused for a cause, or its decimals ran out of
range. -/
inductive Abort (ε : Type)
  | refused (cause : ε)
  | outOfRange (fault : Decimal.Fault)
deriving DecidableEq

variable {ε α : Type}

def arithmetic (x : Except Decimal.Fault α) : Except (Abort ε) α := x.mapError .outOfRange

end Forex
