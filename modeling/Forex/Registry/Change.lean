import Forex.Registry.Edit

namespace Forex.Registry

inductive Change
  | createCurrency (draft : Currency)
  | updateCurrency (draft : Currency)
  | changeDefault (id : Int32)
  | createRate (rate : ExchangeRate)
  | updateRate (rate : ExchangeRate)
  | deleteRate (pair : Pair)

def Change.edit : Change → Edit Unit
  | createCurrency draft => do let _ ← Registry.createCurrency draft
  | updateCurrency draft => Registry.updateCurrency draft
  | changeDefault id => Registry.changeDefault id
  | createRate rate => Registry.createRate rate
  | updateRate rate => Registry.updateRate rate
  | deleteRate pair => do let _ ← Registry.deleteRate pair

def after {α : Type} (edit : Edit α) (r : Registry) : Registry :=
  match edit.run r with
  | .ok _ s | .error _ s => s

/-- The registry after changes that are tried one after another. -/
def afterAll (changes : List Change) (r : Registry) : Registry :=
  changes.foldl (fun r c ↦ after c.edit r) r

def Reachable (r : Registry) : Prop := ∃ changes, afterAll changes initial = r

end Forex.Registry
