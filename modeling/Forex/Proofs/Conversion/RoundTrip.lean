import Forex.Proofs.Conversion

namespace Forex

/-- The value `x` is `v` with an error of at most `ε` for each unit of `1 + |v|`. -/
def IsWithin (ε x v : ℚ) : Prop := |x - v| ≤ (1 + |v|) * ε

section Error

variable {ε a r x y q v w : ℚ}

theorem one_add_abs_mul_le (v w : ℚ) : 1 + |v * w| ≤ (1 + |v|) * (1 + |w|) := by
  have hv := abs_nonneg v
  have hw := abs_nonneg w
  rw [abs_mul]
  linarith

theorem one_add_abs_mul_inverse (a : ℚ) (hr : r ≠ 0) :
    (1 + |a * r|) * (1 + |1 / r|) = 1 + |a| + |a * r| + 1 / |r| := by
  have hr' : |r| ≠ 0 := abs_ne_zero.2 hr
  rw [abs_div, abs_one, abs_mul]
  field_simp
  ring

namespace IsWithin

theorem one_add_abs_le (h : IsWithin ε x v) : 1 + |x| ≤ (1 + |v|) * (1 + ε) := by
  have htriangle := abs_sub_abs_le_abs_sub x v
  rw [IsWithin] at h
  linarith

theorem one_add_abs_mul_le (hε : 0 ≤ ε) (hx : IsWithin ε x v) (hq : IsWithin ε q w) :
    1 + |x * q| ≤ (1 + |v|) * (1 + |w|) * (1 + ε) ^ 2 := by
  calc 1 + |x * q| ≤ (1 + |x|) * (1 + |q|) := Forex.one_add_abs_mul_le x q
    _ ≤ (1 + |v|) * (1 + ε) * ((1 + |w|) * (1 + ε)) :=
        mul_le_mul hx.one_add_abs_le hq.one_add_abs_le (by positivity) (by positivity)
    _ = (1 + |v|) * (1 + |w|) * (1 + ε) ^ 2 := by ring

/-- The errors of a product, of the inverse of its factor and of the product back add up. -/
theorem abs_back_sub_le (hε : 0 ≤ ε) (hr : r ≠ 0) (hx : IsWithin ε x (a * r))
    (hq : IsWithin ε q (1 / r)) (hy : IsWithin ε y (x * q)) :
    |y - a| ≤ (1 + |a * r|) * (1 + |1 / r|) * (ε * (1 + (1 + ε) + (1 + ε) ^ 2)) := by
  have hback : |y - x * q| ≤ (1 + |a * r|) * (1 + |1 / r|) * (1 + ε) ^ 2 * ε :=
    hy.trans (mul_le_mul_of_nonneg_right (hx.one_add_abs_mul_le hε hq) hε)
  have hthere : |(x - a * r) * q| ≤ (1 + |a * r|) * ε * ((1 + |1 / r|) * (1 + ε)) := by
    have hsize := hq.one_add_abs_le
    rw [abs_mul]
    exact mul_le_mul hx (by linarith) (abs_nonneg q) (by positivity)
  have hinverse : |a * r * (q - 1 / r)| ≤ (1 + |a * r|) * ((1 + |1 / r|) * ε) := by
    rw [abs_mul]
    exact mul_le_mul (by linarith) hq (abs_nonneg _) (by positivity)
  have hsplit : y - a = y - x * q + (x - a * r) * q + a * r * (q - 1 / r) := by
    field_simp
    ring
  calc |y - a| ≤ |y - x * q| + |(x - a * r) * q| + |a * r * (q - 1 / r)| := by
        rw [hsplit]
        exact abs_add_three _ _ _
    _ ≤ (1 + |a * r|) * (1 + |1 / r|) * (1 + ε) ^ 2 * ε +
          (1 + |a * r|) * ε * ((1 + |1 / r|) * (1 + ε)) +
          (1 + |a * r|) * ((1 + |1 / r|) * ε) := by gcongr
    _ = (1 + |a * r|) * (1 + |1 / r|) * (ε * (1 + (1 + ε) + (1 + ε) ^ 2)) := by ring

end IsWithin

end Error

open Decimal

variable {a r q x : Decimal}

theorem Decimal.IsRoundingOf.isWithin {v : ℚ} (h : x.IsRoundingOf v) :
    IsWithin (1 / 10 ^ 28) x.toRat v := h.abs_sub_le

theorem mul?_ne_none (h : |a.toRat * r.toRat| ≤ 10 ^ 28) : a.mul? r ≠ none := by
  rw [Ne, mul?_eq_none_iff, TooLarge, not_le]
  refine h.trans_lt ?_
  norm_num

theorem abs_convert_back_sub_le (hr : r.toRat ≠ 0) (hq : q.IsRoundingOf (1 / r.toRat))
    (hthere : a.mul? r ≠ none) (hback : (convert a (some r)).mul? q ≠ none) :
    |(convert (convert a (some r)) (some q)).toRat - a.toRat| ≤
      (1 + |a.toRat * r.toRat|) * (1 + |1 / r.toRat|) * (1 / 10 ^ 27) := by
  have hx := (isRoundingOf_convert hthere).isWithin
  have hy := (isRoundingOf_convert hback).isWithin
  refine (hx.abs_back_sub_le (by positivity) hr hq.isWithin hy).trans ?_
  gcongr
  norm_num

/-- Converted at a rate and then at the inverse of the rate, an amount comes back up to a small
error, if both products fit. They do for amounts up to a million and rates from a ten-thousandth to
ten thousand, and the error is then a thousand-millionth at most. -/
theorem convert_there_and_back (a r : Decimal) (hr : r.isZero = false) :
    ∃ q, Decimal.one.div r = .ok q ∧
      let there := convert a (some r)
      let back := convert there (some q)
      (a.mul? r ≠ none → there.mul? q ≠ none →
        |back.toRat - a.toRat| ≤
          1 / 10 ^ 27 * (1 + |a.toRat| + |a.toRat * r.toRat| + 1 / |r.toRat|)) ∧
      (|a.toRat| ≤ 10 ^ 6 → 1 / 10 ^ 4 ≤ r.toRat → r.toRat ≤ 10 ^ 4 →
        |back.toRat - a.toRat| ≤ 1 / 10 ^ 9) := by
  obtain ⟨q, hq⟩ := exists_one_div_eq_ok hr
  have hne : r.toRat ≠ 0 := isZero_eq_false_iff.1 hr
  have hround := isRoundingOf_div hq
  rw [toRat_one] at hround
  refine ⟨q, hq, ?fit, ?range⟩
  case fit =>
    intro hthere hback
    rw [← one_add_abs_mul_inverse a.toRat hne, mul_comm]
    exact abs_convert_back_sub_le hne hround hthere hback
  case range =>
    intro ha hlow hhigh
    have hpos : 0 < r.toRat := lt_of_lt_of_le (by norm_num) hlow
    have hproduct : |a.toRat * r.toRat| ≤ 10 ^ 10 := by
      rw [abs_mul, abs_of_pos hpos]
      calc |a.toRat| * r.toRat ≤ 10 ^ 6 * 10 ^ 4 := by gcongr
        _ = 10 ^ 10 := by norm_num
    have hinverse : |1 / r.toRat| ≤ 10 ^ 4 := by
      rw [abs_of_pos (by positivity), div_le_iff₀ hpos]
      linarith
    have hsize : (1 + |a.toRat * r.toRat|) * (1 + |1 / r.toRat|) ≤
        (1 + 10 ^ 10) * (1 + 10 ^ 4) := by
      gcongr
    have hthere : a.mul? r ≠ none := mul?_ne_none (hproduct.trans (by norm_num))
    have hback : (convert a (some r)).mul? q ≠ none := by
      have hmul := (isRoundingOf_convert hthere).isWithin.one_add_abs_mul_le (by positivity)
        hround.isWithin
      refine mul?_ne_none ?_
      norm_num at hmul hsize ⊢
      linarith
    refine (abs_convert_back_sub_le hne hround hthere hback).trans ?_
    norm_num at hsize ⊢
    linarith

theorem convert_there_and_back_thirds :
    let three : Decimal := { negative := false, mantissa := 3, scale := 0 }
    let third : Decimal :=
      { negative := false, mantissa := 3333333333333333333333333333, scale := 28 }
    let back := convert (convert .one (some three)) (some third)
    three.isZero = false ∧ Decimal.one.div three = .ok third ∧
    Decimal.one.mul? three ≠ none ∧ (convert .one (some three)).mul? third ≠ none ∧
    back ≠ .one ∧ |back.toRat - Decimal.one.toRat| ≤
      1 / 10 ^ 27 *
        (1 + |Decimal.one.toRat| + |Decimal.one.toRat * three.toRat| + 1 / |three.toRat|) ∧
    |back.toRat - Decimal.one.toRat| ≤ 1 / 10 ^ 9 := by
  intro three third back
  have hthird : Decimal.one.div three = .ok third := by decide
  have hthere : Decimal.one.mul? three ≠ none := by decide
  have hback : (convert .one (some three)).mul? third ≠ none := by decide
  have hthree : three.toRat = 3 := by norm_num [three, toRat, signed]
  obtain ⟨q, hq, hfit, hrange⟩ := convert_there_and_back .one three rfl
  obtain rfl : third = q := Except.ok.inj (hthird.symm.trans hq)
  refine ⟨rfl, hthird, hthere, hback, by decide, hfit hthere hback, hrange ?_ ?_ ?_⟩
  · norm_num [toRat_one]
  · norm_num [hthree]
  · norm_num [hthree]

end Forex
