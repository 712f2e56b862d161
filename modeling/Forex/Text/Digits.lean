namespace Forex.Text

def digit? (c : Char) : Option Nat := if c.isDigit then some (c.toNat - 48) else none

def lastDigits : (count : Nat) → (n : Nat) → List Char
  | 0, _ => []
  | count + 1, n => lastDigits count (n / 10) ++ [Nat.digitChar (n % 10)]

theorem length_lastDigits (count n : Nat) : (lastDigits count n).length = count := by
  induction count generalizing n with
  | zero => rfl
  | succ count ih => simp [lastDigits, ih]

def extendNatural? (n : Nat) : List Char → Option Nat
  | [] => some n
  | c :: cs => (digit? c).bind fun d ↦ extendNatural? (10 * n + d) cs

def natural? : List Char → Option Nat
  | [] => none
  | cs => extendNatural? 0 cs

end Forex.Text
