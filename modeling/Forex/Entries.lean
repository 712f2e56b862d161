namespace Forex

variable {α β : Type} [DecidableEq α]

def putEntry (k : α) (v : β) : List (α × β) → List (α × β)
  | [] => [(k, v)]
  | (k', v') :: es => if k' = k then (k, v) :: es else (k', v') :: putEntry k v es

end Forex
