namespace Forex.Text

def padding (width : Nat) (s : String) : String :=
  String.ofList (List.replicate (width - s.length) ' ')

def padEnd (width : Nat) (s : String) : String := s ++ padding width s

def padStart (width : Nat) (s : String) : String := padding width s ++ s

end Forex.Text
