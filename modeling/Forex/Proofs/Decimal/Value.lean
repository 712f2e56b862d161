import Forex.Decimal.Basic
import Mathlib.Algebra.Order.Field.Rat
import Mathlib.Tactic.FieldSimp
import Mathlib.Tactic.Linarith
import Mathlib.Tactic.NormNum
import Mathlib.Tactic.Positivity
import Mathlib.Tactic.Ring

namespace Forex

/-- The values with at most that many decimal places. -/
def OnGrid (places : Nat) (q : ℚ) : Prop := ∃ n : ℤ, q = n / 10 ^ places

section Grid

variable {k l : Nat} {q r : ℚ}

theorem onGrid_intCast (k : Nat) (n : ℤ) : OnGrid k n := by
  refine ⟨n * 10 ^ k, ?_⟩
  push_cast
  field_simp

theorem onGrid_zero (k : Nat) : OnGrid k 0 := by
  simpa using onGrid_intCast k 0

theorem onGrid_unit (k : Nat) : OnGrid k (1 / 10 ^ k) := ⟨1, by push_cast; rfl⟩

theorem onGrid_half_unit (k : Nat) : OnGrid (k + 1) (1 / 2 / 10 ^ k) := by
  refine ⟨5, ?_⟩
  rw [pow_succ]
  push_cast
  field_simp
  norm_num

theorem OnGrid.mono (h : OnGrid k q) (hkl : k ≤ l) : OnGrid l q := by
  obtain ⟨n, rfl⟩ := h
  obtain ⟨j, rfl⟩ := Nat.exists_eq_add_of_le hkl
  refine ⟨n * 10 ^ j, ?_⟩
  push_cast
  rw [pow_add]
  field_simp

theorem OnGrid.neg (h : OnGrid k q) : OnGrid k (-q) := by
  obtain ⟨n, rfl⟩ := h
  exact ⟨-n, by push_cast; ring⟩

theorem OnGrid.add (hq : OnGrid k q) (hr : OnGrid k r) : OnGrid k (q + r) := by
  obtain ⟨m, rfl⟩ := hq
  obtain ⟨n, rfl⟩ := hr
  exact ⟨m + n, by push_cast; ring⟩

theorem OnGrid.sub (hq : OnGrid k q) (hr : OnGrid k r) : OnGrid k (q - r) := by
  rw [sub_eq_add_neg]
  exact hq.add hr.neg

theorem OnGrid.add_unit_le (hq : OnGrid k q) (hr : OnGrid k r) (h : q < r) :
    q + 1 / 10 ^ k ≤ r := by
  obtain ⟨m, rfl⟩ := hq
  obtain ⟨n, rfl⟩ := hr
  have hunit : (0 : ℚ) < 10 ^ k := by positivity
  have hlt : m < n := by
    rw [div_lt_div_iff_of_pos_right hunit] at h
    exact_mod_cast h
  rw [← add_div, div_le_div_iff_of_pos_right hunit]
  exact_mod_cast hlt

theorem OnGrid.eq_of_abs_sub_lt (hq : OnGrid k q) (hr : OnGrid k r) (h : |q - r| < 1 / 10 ^ k) :
    q = r := by
  rw [abs_sub_lt_iff] at h
  rcases lt_trichotomy q r with hlt | heq | hlt
  · have hapart := hq.add_unit_le hr hlt
    linarith
  · exact heq
  · have hapart := hr.add_unit_le hq hlt
    linarith

end Grid

theorem cast_tenTo (k : Nat) : ((tenTo k : ℕ) : ℚ) = 10 ^ k := by
  rw [tenTo, Nat.pow_eq]
  push_cast
  rfl

namespace Decimal

variable {a b : Decimal}

def toRat (a : Decimal) : ℚ := a.signed / 10 ^ a.scale

theorem onGrid_toRat (a : Decimal) : OnGrid a.scale a.toRat := ⟨a.signed, rfl⟩

theorem toRat_eq_units (a : Decimal) : a.toRat = a.units / 10 ^ 28 := by
  have hplaces : (10 : ℚ) ^ 28 = 10 ^ (28 - a.scale) * 10 ^ a.scale := by
    rw [← pow_add, Nat.sub_add_cancel a.scale_le]
  rw [toRat, units, hplaces]
  push_cast
  rw [cast_tenTo]
  field_simp

theorem lt_iff_toRat_lt : a < b ↔ a.toRat < b.toRat := by
  rw [toRat_eq_units, toRat_eq_units, div_lt_div_iff_of_pos_right (by positivity), lt_def]
  exact Int.cast_lt.symm

theorem toRat_eq_zero_iff : a.toRat = 0 ↔ a.isZero := by
  rw [isZero_iff, toRat_eq_units]
  simp

theorem isZero_eq_false_iff : a.isZero = false ↔ a.toRat ≠ 0 := by
  rw [← Bool.not_eq_true, Ne, toRat_eq_zero_iff]

theorem toRat_zero : zero.toRat = 0 := toRat_eq_zero_iff.2 rfl

theorem toRat_of_sign {negative : Bool} (h : a.negative = (negative && a.mantissa != 0)) :
    a.toRat =
      if negative then -((a.mantissa : ℚ) / 10 ^ a.scale) else (a.mantissa : ℚ) / 10 ^ a.scale := by
  unfold toRat signed
  cases negative with
  | false => simp [h]
  | true =>
    by_cases hzero : a.mantissa = 0
    · simp [hzero]
    · simp [h, hzero, neg_div]

theorem abs_toRat (a : Decimal) : |a.toRat| = a.mantissa / 10 ^ a.scale := by
  have hsigned : |(a.signed : ℚ)| = a.mantissa := by
    unfold signed
    split <;> simp
  rw [toRat, abs_div, hsigned, abs_of_pos (by positivity : (0 : ℚ) < 10 ^ a.scale)]

end Decimal

end Forex
