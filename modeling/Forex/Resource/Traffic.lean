import Forex.Resource

namespace Forex.Resource

structure Traffic (α : Type) where
  resource : Resource α := {}
  lists : Nat := 0
  items : Nat := 0

inductive Event (α ε : Type)
  | startList (silent : Bool)
  | endList (answer : Except ε (List α))
  | startItem
  | endItem (answer : Except ε α)

namespace Traffic

variable {α ε : Type}

/-- A load that is skipped has no second step, and what has not started does not end. -/
def step (t : Traffic α) : Event α ε → Traffic α
  | .startList silent =>
    match t.resource.startFetch? silent with
    | some resource => { t with resource, lists := t.lists + 1 }
    | none => t
  | .endList answer =>
    if t.lists = 0 then t
    else { t with resource := (t.resource.endFetch answer).1, lists := t.lists - 1 }
  | .startItem => { t with resource := t.resource.startSelect, items := t.items + 1 }
  | .endItem answer =>
    if t.items = 0 then t
    else { t with resource := (t.resource.endSelect answer).1, items := t.items - 1 }

def run (t : Traffic α) (events : List (Event α ε)) : Traffic α := events.foldl step t

end Traffic

end Forex.Resource
