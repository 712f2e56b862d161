import Forex.Json.Decode

namespace Forex.Json

variable {α β : Type}

structure Field (α : Type) where
  name : String
  decode : Decoder α
  /-- What an absent field stands for. A field without it is required. -/
  fallback : Option α := none

inductive Fields : Type → Type 1
  | nil {α : Type} (make : α) : Fields α
  | snoc {α β : Type} (fields : Fields (β → α)) (field : Field β) : Fields α

namespace Fields

def required (fields : Fields (β → α)) (name : String) (decode : Decoder β) : Fields α :=
  fields.snoc { name, decode }

def optional (fields : Fields (β → α)) (name : String) (decode : Decoder β) (fallback : β) :
    Fields α :=
  fields.snoc { name, decode, fallback := some fallback }

def size : {α : Type} → Fields α → Nat
  | _, nil _ => 0
  | _, snoc fields _ => fields.size + 1

def check? : {α : Type} → Fields α → (name : String) → Document → Option (Except Error Unit)
  | _, nil _, _, _ => none
  | _, snoc fields f, name, d =>
    if f.name = name then some ((f.decode d).map fun _ ↦ ()) else fields.check? name d

def collect (fields : Fields α) (seen : List (String × Document)) :
    List (Literal × Document) → Except Error (List (String × Document))
  | [] => .ok seen
  | (key, d) :: ms => do
    let name ← key.read
    match fields.check? name d with
    | none =>
      d.skip
      fields.collect seen ms
    | some checked =>
      if (seen.lookup name).isSome then .error (.mismatch (.duplicateField name))
      else
        checked
        fields.collect ((name, d) :: seen) ms

def ofMembers (members : List (String × Document)) : {α : Type} → Fields α → Except Error α
  | _, nil make => .ok make
  | _, snoc fields f => do
    let make ← fields.ofMembers members
    match members.lookup f.name, f.fallback with
    | some d, _ => return make (← f.decode d)
    | none, some value => return make value
    | none, none => .error (.mismatch (.missingField f.name))

/-- Puts a record together from the items of an array, and gives the items that are left. The fault
of the array arises where an item is asked for in vain. -/
def ofItems (record : String) (total : Nat) (items : List Document) (fault : Option Fault) :
    {α : Type} → Fields α → Except Error (α × List Document)
  | _, nil make => .ok (make, items)
  | _, snoc fields f => do
    let (make, rest) ← fields.ofItems record total items fault
    match rest with
    | d :: rest => return (make (← f.decode d), rest)
    | [] =>
      raiseFault fault
      match f.fallback with
      | some value => return (make value, [])
      | none => .error (.mismatch (.invalidLength fields.size record total))

def decode (record : String) (fields : Fields α) : Decoder α
  | .array items fault => do
    let (a, rest) ← fields.ofItems record fields.size items fault
    if rest.isEmpty then
      raiseFault fault
      return a
    else .error (.fault .malformed)
  | .object members fault => do
    let known ← fields.collect [] members
    raiseFault fault
    fields.ofMembers known
  | d => refuse ("struct " ++ record) d

end Fields

end Forex.Json
