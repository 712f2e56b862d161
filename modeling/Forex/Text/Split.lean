namespace Forex.Text

def splitWhere (p : Char → Bool) : List Char → List (List Char)
  | [] => [[]]
  | c :: cs =>
    if p c then [] :: splitWhere p cs
    else
      match splitWhere p cs with
      | s :: ss => (c :: s) :: ss
      | [] => [[c]]

end Forex.Text
