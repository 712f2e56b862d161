namespace Forex

inductive FetchOutcome
  | loaded (count : Nat)
  | skipped
deriving DecidableEq

structure Resource (α : Type) where
  items : List α := []
  selected : Option α := none
  loading : Bool := false

namespace Resource

variable {α ε : Type}

def set (r : Resource α) (items : List α) : Resource α := { r with items }

/-- Starts to load the list, unless a load is in flight. A load that is not silent drops the list at
once. -/
def startFetch? (r : Resource α) (silent : Bool) : Option (Resource α) :=
  if r.loading then none
  else some { r with items := if silent then r.items else [], loading := true }

def begun (r : Resource α) (silent : Bool) : Resource α :=
  { r with items := if silent then r.items else [], loading := true }

theorem startFetch?_eq (r : Resource α) (silent : Bool) :
    r.startFetch? silent = if r.loading then none else some (r.begun silent) := rfl

def endFetch (r : Resource α) (answer : Except ε (List α)) : Resource α × Except ε FetchOutcome :=
  let r := { r with loading := false }
  match answer with
  | .ok items => ({ r with items }, .ok (.loaded items.length))
  | .error e => (r, .error e)

/-- Starts to load one item, whatever else is in flight. -/
def startSelect (r : Resource α) : Resource α := { r with loading := true }

def endSelect (r : Resource α) (answer : Except ε α) : Resource α × Except ε α :=
  let r := { r with loading := false }
  match answer with
  | .ok item => ({ r with selected := some item }, .ok item)
  | .error e => (r, .error e)

end Resource

end Forex
