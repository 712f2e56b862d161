namespace Forex

def twoTo (k : Nat) : Nat := Nat.pow 2 k

def tenTo (k : Nat) : Nat := Nat.pow 10 k

theorem tenTo_zero : tenTo 0 = 1 := rfl

theorem tenTo_succ (k : Nat) : tenTo (k + 1) = tenTo k * 10 := rfl

theorem tenTo_pos (k : Nat) : 0 < tenTo k := by
  induction k with
  | zero => decide
  | succ k ih => rw [tenTo_succ]; omega

theorem tenTo_add (j k : Nat) : tenTo (j + k) = tenTo j * tenTo k := by
  induction k with
  | zero => simp [tenTo_zero]
  | succ k ih => rw [← Nat.add_assoc, tenTo_succ, tenTo_succ, ih, Nat.mul_assoc]

theorem ten_le_tenTo {k : Nat} (h : 0 < k) : 10 ≤ tenTo k := by
  cases k with
  | zero => omega
  | succ k => have := tenTo_pos k; rw [tenTo_succ]; omega

def fitsSigned (bits : Nat) (n : Int) : Bool := -(twoTo bits : Int) ≤ n && n < twoTo bits

end Forex
