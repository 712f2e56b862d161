import Forex.Decimal.Basic

namespace Forex

/-- Where a value between two neighbours goes. `down` is toward minus infinity, `up` toward plus
infinity; the others take the nearer neighbour and differ on a tie. -/
inductive RoundingMode
  | down
  | up
  | halfAwayFromZero
  | halfTowardZero
  | halfEven
deriving DecidableEq

def RoundingMode.increments (mode : RoundingMode) (negative : Bool) (q r d : Nat) : Bool :=
  match mode with
  | down => negative && r != 0
  | up => !negative && r != 0
  | halfAwayFromZero => d ≤ 2 * r
  | halfTowardZero => d < 2 * r
  | halfEven => d < 2 * r || (d == 2 * r && q % 2 == 1)

def RoundingMode.divide (mode : RoundingMode) (negative : Bool) (n d : Nat) : Nat :=
  if mode.increments negative (n / d) (n % d) d then n / d + 1 else n / d

theorem RoundingMode.divide_le (mode : RoundingMode) (negative : Bool) (n d : Nat) :
    mode.divide negative n d ≤ n / d + 1 := by
  unfold divide
  split <;> omega

theorem RoundingMode.le_divide (mode : RoundingMode) (negative : Bool) (n d : Nat) :
    n / d ≤ mode.divide negative n d := by
  unfold divide
  split <;> omega

namespace Decimal

theorem divide_tenTo_lt (mode : RoundingMode) (negative : Bool) {n k : Nat}
    (hn : n < mantissaBound) (hk : 0 < k) : mode.divide negative n (tenTo k) < mantissaBound := by
  have hd : n / tenTo k ≤ n / 10 := Nat.div_le_div_left (ten_le_tenTo hk) (by decide)
  have := mode.divide_le negative n (tenTo k)
  rw [mantissaBound_eq] at *
  omega

/-- At most `places` decimal places. A value that has no more is unchanged; a zero keeps its sign,
and a value that becomes zero loses it. -/
def round (a : Decimal) (places : Nat) (mode : RoundingMode) : Decimal :=
  if h : a.scale ≤ places then a
  else if a.isZero then
    { a with scale := places, scale_le := by have := a.scale_le; omega }
  else
    let m := mode.divide a.negative a.mantissa (tenTo (a.scale - places))
    { negative := a.negative && m != 0
      mantissa := m
      scale := places
      mantissa_lt := divide_tenTo_lt mode a.negative a.mantissa_lt (by omega)
      scale_le := by have := a.scale_le; omega }

def pad (a : Decimal) : Nat → Decimal
  | 0 => a
  | k + 1 =>
    if h : a.mantissa * 10 < mantissaBound ∧ a.scale < 28 then
      pad { a with
        mantissa := a.mantissa * 10, scale := a.scale + 1
        mantissa_lt := h.1, scale_le := h.2 } k
    else a

/-- The value with exactly `places` decimal places, or as many as the mantissa allows. Digits are
dropped half away from zero, and the sign stays even if nothing else does. -/
def rescale (a : Decimal) (places : Nat) : Decimal :=
  if a.isZero then { a with scale := min places 28, scale_le := by omega }
  else if h : places < a.scale then
    { a with
      mantissa := RoundingMode.halfAwayFromZero.divide a.negative a.mantissa
        (tenTo (a.scale - places))
      scale := places
      mantissa_lt := divide_tenTo_lt _ a.negative a.mantissa_lt (by omega)
      scale_le := by have := a.scale_le; omega }
  else a.pad (places - a.scale)

def stripZeros (mantissa : Nat) : Nat → Nat × Nat
  | 0 => (mantissa, 0)
  | k + 1 => if mantissa % 10 = 0 then stripZeros (mantissa / 10) k else (mantissa, k + 1)

theorem stripZeros_fst_le (m k : Nat) : (stripZeros m k).1 ≤ m := by
  induction k generalizing m with
  | zero => exact Nat.le_refl m
  | succ k ih =>
    unfold stripZeros
    split
    · exact Nat.le_trans (ih _) (Nat.div_le_self _ _)
    · exact Nat.le_refl m

theorem stripZeros_snd_le (m k : Nat) : (stripZeros m k).2 ≤ k := by
  induction k generalizing m with
  | zero => exact Nat.le_refl 0
  | succ k ih =>
    unfold stripZeros
    split
    · exact Nat.le_succ_of_le (ih _)
    · exact Nat.le_refl _

/-- The same value without zeros at the end of its places; every zero becomes plain `0`. -/
def normalize (a : Decimal) : Decimal :=
  if a.isZero then zero
  else
    { negative := a.negative
      mantissa := (stripZeros a.mantissa a.scale).1
      scale := (stripZeros a.mantissa a.scale).2
      mantissa_lt := Nat.lt_of_le_of_lt (stripZeros_fst_le _ _) a.mantissa_lt
      scale_le := Nat.le_trans (stripZeros_snd_le _ _) a.scale_le }

def plainZero (a : Decimal) : Decimal := if a.isZero then zero else a

end Decimal

end Forex
