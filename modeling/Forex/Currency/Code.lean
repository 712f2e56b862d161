import Forex.Text.Blank

namespace Forex

structure Code where
  text : String
  trim_text : Text.trim text = text
deriving DecidableEq

namespace Code

def ofText (s : String) : Code := ⟨Text.trim s, Text.trim_trim s⟩

def neutral : Code := ofText "NCU"

instance : Inhabited Code := ⟨neutral⟩

instance : ToString Code := ⟨text⟩

def isNeutral (c : Code) : Bool := c == neutral

def isEmpty (c : Code) : Bool := c.text.isEmpty

inductive Error
  | empty
deriving DecidableEq

def Error.message : Error → String
  | empty => "Currency code must not be empty"

def parse (s : String) : Except Error Code :=
  let code := ofText s
  if code.isEmpty then .error .empty else .ok code

theorem ofText_text (c : Code) : ofText c.text = c := by
  cases c
  simp_all [ofText]

theorem isNeutral_iff {c : Code} : c.isNeutral ↔ c = neutral := by
  simp [isNeutral]

end Code

end Forex
