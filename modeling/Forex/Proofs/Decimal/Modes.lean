import Forex.Decimal.Rounding
import Forex.Proofs.Decimal.Value
import Mathlib.Order.Bounds.Image

namespace Forex

/-- No value with that many places is nearer to `q`. -/
def IsNearest (places : Nat) (q r : ℚ) : Prop :=
  OnGrid places r ∧ ∀ w, OnGrid places w → |q - r| ≤ |q - w|

def RoundingMode.Gives (mode : RoundingMode) (places : Nat) (q r : ℚ) : Prop :=
  match mode with
  | down => IsGreatest {w | OnGrid places w ∧ w ≤ q} r
  | up => IsLeast {w | OnGrid places w ∧ q ≤ w} r
  | halfAwayFromZero => IsNearest places q r ∧ ∀ w, IsNearest places q w → |w| ≤ |r|
  | halfTowardZero => IsNearest places q r ∧ ∀ w, IsNearest places q w → |r| ≤ |w|
  | halfEven => IsNearest places q r ∧
      ∀ w, IsNearest places q w → w = r ∨ ∃ n : ℤ, r = 2 * n / 10 ^ places

def RoundingMode.opposite : RoundingMode → RoundingMode
  | down => up
  | up => down
  | mode => mode

variable {k l : Nat} {q r w : ℚ} {mode : RoundingMode}

theorem IsNearest.neg (h : IsNearest k q r) : IsNearest k (-q) (-r) := by
  refine ⟨h.1.neg, fun w hw ↦ ?_⟩
  have hle := h.2 (-w) hw.neg
  rwa [← abs_neg, ← abs_neg (q - -w), neg_sub', neg_sub', neg_neg] at hle

theorem isNearest_neg_iff : IsNearest k (-q) w ↔ IsNearest k q (-w) :=
  ⟨fun h ↦ by simpa using h.neg, fun h ↦ by simpa using h.neg⟩

theorem RoundingMode.Gives.neg (h : mode.Gives k q r) : mode.opposite.Gives k (-q) (-r) := by
  cases mode with
  | down =>
    refine ⟨⟨h.1.1.neg, neg_le_neg h.1.2⟩, fun w hw ↦ ?_⟩
    exact neg_le.1 (h.2 ⟨hw.1.neg, neg_le.1 hw.2⟩)
  | up =>
    refine ⟨⟨h.1.1.neg, neg_le_neg h.1.2⟩, fun w hw ↦ ?_⟩
    exact le_neg.1 (h.2 ⟨hw.1.neg, le_neg.1 hw.2⟩)
  | halfAwayFromZero =>
    refine ⟨h.1.neg, fun w hw ↦ ?_⟩
    simpa using h.2 (-w) (isNearest_neg_iff.1 hw)
  | halfTowardZero =>
    refine ⟨h.1.neg, fun w hw ↦ ?_⟩
    simpa using h.2 (-w) (isNearest_neg_iff.1 hw)
  | halfEven =>
    refine ⟨h.1.neg, fun w hw ↦ ?_⟩
    rcases h.2 (-w) (isNearest_neg_iff.1 hw) with hw | ⟨n, hn⟩
    · exact .inl (by rw [← hw, neg_neg])
    · exact .inr ⟨-n, by rw [hn]; push_cast; ring⟩

theorem IsNearest.self (h : OnGrid k q) : IsNearest k q q :=
  ⟨h, fun w _ ↦ by simp⟩

theorem IsNearest.eq_self (h : OnGrid k q) (hw : IsNearest k q w) : w = q := by
  have hle := hw.2 q h
  rw [sub_self, abs_zero, abs_nonpos_iff, sub_eq_zero] at hle
  exact hle.symm

theorem RoundingMode.Gives.self (mode : RoundingMode) (h : OnGrid k q) : mode.Gives k q q := by
  cases mode with
  | down => exact ⟨⟨h, le_rfl⟩, fun w hw ↦ hw.2⟩
  | up => exact ⟨⟨h, le_rfl⟩, fun w hw ↦ hw.2⟩
  | halfAwayFromZero => exact ⟨.self h, fun w hw ↦ by rw [hw.eq_self h]⟩
  | halfTowardZero => exact ⟨.self h, fun w hw ↦ by rw [hw.eq_self h]⟩
  | halfEven => exact ⟨.self h, fun w hw ↦ .inl (hw.eq_self h)⟩

theorem IsNearest.le_of_le (h : IsNearest k q r) (hw : OnGrid k w) (hle : w ≤ q) : w ≤ r := by
  by_contra hlt
  have hnearer := h.2 w hw
  rw [abs_of_nonneg, abs_of_nonneg] at hnearer <;> linarith

theorem IsNearest.abs_sub_le (h : IsNearest k q r) : |q - r| ≤ 1 / 2 / 10 ^ k := by
  have habove := h.2 _ (h.1.add (onGrid_unit k))
  have hbelow := h.2 _ (h.1.sub (onGrid_unit k))
  have hunit : (0 : ℚ) < 1 / 10 ^ k := by positivity
  rw [div_right_comm]
  generalize (1 : ℚ) / 10 ^ k = unit at *
  rcases abs_cases (q - r) with hr | hr <;> rcases abs_cases (q - (r + unit)) with ha | ha <;>
    rcases abs_cases (q - (r - unit)) with hb | hb <;> linarith

theorem IsNearest.eq_or_add_eq (hr : IsNearest k q r) (hw : IsNearest k q w) :
    r = w ∨ r + w = 2 * q := by
  have hsame := le_antisymm (hr.2 w hw.1) (hw.2 r hr.1)
  rcases abs_eq_abs.1 hsame with h | h
  · exact .inl (by linarith)
  · exact .inr (by linarith)

theorem IsNearest.eq_of_abs_eq (hr : IsNearest k q r) (hw : IsNearest k q w) (h : |r| = |w|) :
    r = w := by
  rcases hr.eq_or_add_eq hw with heq | hsum
  · exact heq
  rcases abs_eq_abs.1 h with heq | hneg
  · exact heq
  have hzero : OnGrid k q := by
    rw [show q = 0 by linarith]
    exact onGrid_zero k
  rw [hr.eq_self hzero, hw.eq_self hzero]

namespace RoundingMode.Gives

theorem onGrid (h : mode.Gives k q r) : OnGrid k r := by
  cases mode <;> exact h.1.1

theorem le_of_le (h : mode.Gives k q r) (hw : OnGrid k w) (hle : w ≤ q) : w ≤ r := by
  cases mode with
  | down => exact h.2 ⟨hw, hle⟩
  | up => exact hle.trans h.1.2
  | halfAwayFromZero | halfTowardZero | halfEven => exact h.1.le_of_le hw hle

theorem ge_of_ge (h : mode.Gives k q r) (hw : OnGrid k w) (hle : q ≤ w) : r ≤ w :=
  neg_le_neg_iff.1 (h.neg.le_of_le hw.neg (neg_le_neg hle))

theorem abs_sub_lt (h : mode.Gives k q r) : |q - r| < 1 / 10 ^ k := by
  have hunit : (0 : ℚ) < 1 / 10 ^ k := by positivity
  rw [abs_sub_lt_iff]
  constructor <;> by_contra hfar
  · have hle := h.le_of_le (h.onGrid.add (onGrid_unit k)) (by linarith)
    linarith
  · have hle := h.ge_of_ge (h.onGrid.sub (onGrid_unit k)) (by linarith)
    linarith

theorem unique (hr : mode.Gives k q r) (hw : mode.Gives k q w) : r = w := by
  cases mode with
  | down => exact IsGreatest.unique hr hw
  | up => exact IsLeast.unique hr hw
  | halfAwayFromZero => exact hr.1.eq_of_abs_eq hw.1 (le_antisymm (hw.2 r hr.1) (hr.2 w hw.1))
  | halfTowardZero => exact hr.1.eq_of_abs_eq hw.1 (le_antisymm (hr.2 w hw.1) (hw.2 r hr.1))
  | halfEven =>
    rcases hr.1.eq_or_add_eq hw.1 with heq | hsum
    · exact heq
    rcases hr.2 w hw.1 with heq | ⟨m, hm⟩
    · exact heq.symm
    rcases hw.2 r hr.1 with heq | ⟨n, hn⟩
    · exact heq
    -- the value in the middle of two even ones is on the grid itself
    have hmiddle : OnGrid k q := by
      refine ⟨m + n, ?_⟩
      rw [hm, hn] at hsum
      push_cast
      field_simp at hsum ⊢
      linarith
    rw [hr.1.eq_self hmiddle, hw.1.eq_self hmiddle]

end RoundingMode.Gives

section Whole

variable {m n : ℤ} {x : ℚ}

theorem isNearest_of_abs_sub_le (h : |x - m| ≤ 1 / 2) :
    IsNearest k (x / 10 ^ k) (m / 10 ^ k) := by
  refine ⟨⟨m, rfl⟩, ?_⟩
  rintro _ ⟨n, rfl⟩
  have hunit : (0 : ℚ) < 10 ^ k := by positivity
  rw [← sub_div, ← sub_div, abs_div, abs_div, div_le_div_iff_of_pos_right (abs_pos.2 hunit.ne')]
  by_cases hmn : m = n
  · rw [hmn]
  · have hapart : (1 : ℚ) ≤ |(m : ℚ) - n| := by
      exact_mod_cast Int.one_le_abs (sub_ne_zero.2 hmn)
    have htriangle := abs_sub_le (m : ℚ) x n
    rw [abs_sub_comm (m : ℚ) x] at htriangle
    linarith

/-- Another nearest value lies on the other side, half a unit away. -/
theorem IsNearest.eq_or_tie (h : |x - m| ≤ 1 / 2) (hw : IsNearest k (x / 10 ^ k) w) :
    w = m / 10 ^ k ∨ |x - m| = 1 / 2 ∧ w = (2 * x - m) / 10 ^ k := by
  obtain ⟨n, rfl⟩ := hw.1
  by_cases hnm : n = m
  · exact .inl (by rw [hnm])
  have hunit : (10 : ℚ) ^ k ≠ 0 := by positivity
  have hsum : (n : ℚ) + m = 2 * x := by
    have hsum := hw.eq_or_add_eq (isNearest_of_abs_sub_le h)
    rw [div_left_inj' hunit, Int.cast_inj, ← add_div, mul_div_assoc', div_left_inj' hunit] at hsum
    exact hsum.resolve_left hnm
  have hapart : (1 : ℚ) ≤ |(n : ℚ) - m| := by
    exact_mod_cast Int.one_le_abs (sub_ne_zero.2 hnm)
  have htwice : |(n : ℚ) - m| = 2 * |x - m| := by
    rw [show (n : ℚ) - m = 2 * (x - m) by linarith, abs_mul, abs_two]
  exact .inr ⟨by linarith, by rw [← hsum, add_sub_cancel_right]⟩

theorem gives_down (hle : (m : ℚ) ≤ x) (hlt : x < m + 1) :
    RoundingMode.down.Gives k (x / 10 ^ k) (m / 10 ^ k) := by
  have hunit : (0 : ℚ) < 10 ^ k := by positivity
  refine ⟨⟨⟨m, rfl⟩, (div_le_div_iff_of_pos_right hunit).2 hle⟩, ?_⟩
  rintro _ ⟨⟨n, rfl⟩, hn⟩
  rw [div_le_div_iff_of_pos_right hunit] at hn ⊢
  have hnm : n < m + 1 := by exact_mod_cast hn.trans_lt hlt
  exact_mod_cast Int.lt_add_one_iff.1 hnm

theorem gives_up (hle : x ≤ m) (hlt : (m : ℚ) < x + 1) :
    RoundingMode.up.Gives k (x / 10 ^ k) (m / 10 ^ k) := by
  have hneg := gives_down (k := k) (m := -m) (x := -x) (by push_cast; linarith)
    (by push_cast; linarith)
  simpa [RoundingMode.opposite, neg_div] using hneg.neg

theorem gives_halfAwayFromZero (h : |x - m| ≤ 1 / 2)
    (htie : |x - m| = 1 / 2 → |2 * x - m| ≤ |(m : ℚ)|) :
    RoundingMode.halfAwayFromZero.Gives k (x / 10 ^ k) (m / 10 ^ k) := by
  refine ⟨isNearest_of_abs_sub_le h, fun w hw ↦ ?_⟩
  rcases hw.eq_or_tie h with rfl | ⟨hhalf, rfl⟩
  · exact le_rfl
  · rw [abs_div, abs_div]
    exact div_le_div_of_nonneg_right (htie hhalf) (abs_nonneg _)

theorem gives_halfTowardZero (h : |x - m| ≤ 1 / 2)
    (htie : |x - m| = 1 / 2 → |(m : ℚ)| ≤ |2 * x - m|) :
    RoundingMode.halfTowardZero.Gives k (x / 10 ^ k) (m / 10 ^ k) := by
  refine ⟨isNearest_of_abs_sub_le h, fun w hw ↦ ?_⟩
  rcases hw.eq_or_tie h with rfl | ⟨hhalf, rfl⟩
  · exact le_rfl
  · rw [abs_div, abs_div]
    exact div_le_div_of_nonneg_right (htie hhalf) (abs_nonneg _)

theorem gives_halfEven (h : |x - m| ≤ 1 / 2) (htie : |x - m| = 1 / 2 → 2 ∣ m) :
    RoundingMode.halfEven.Gives k (x / 10 ^ k) (m / 10 ^ k) := by
  refine ⟨isNearest_of_abs_sub_le h, fun w hw ↦ ?_⟩
  rcases hw.eq_or_tie h with rfl | ⟨hhalf, -⟩
  · exact .inl rfl
  · obtain ⟨n, hn⟩ := htie hhalf
    exact .inr ⟨n, by rw [hn]; push_cast; rfl⟩

end Whole

theorem gives_halfAwayFromZero_of_le (hw : OnGrid k w) (hnear : w - 1 / 2 / 10 ^ k ≤ q)
    (hq : 0 ≤ q) (hle : q ≤ w) : RoundingMode.halfAwayFromZero.Gives k q w := by
  obtain ⟨m, rfl⟩ := hw
  obtain ⟨x, rfl⟩ : ∃ x : ℚ, q = x / 10 ^ k := ⟨q * 10 ^ k, by field_simp⟩
  have hunit : (0 : ℚ) < 10 ^ k := by positivity
  rw [← sub_div, div_le_div_iff_of_pos_right hunit] at hnear
  rw [div_le_div_iff_of_pos_right hunit] at hle
  have hx : 0 ≤ x := by simpa [div_nonneg_iff, hunit.not_ge] using hq
  have hdist : |x - m| = m - x := by
    rw [abs_sub_comm, abs_of_nonneg (by linarith)]
  refine gives_halfAwayFromZero (by linarith) fun _ ↦ ?_
  rw [abs_of_nonneg (hx.trans hle), abs_le]
  constructor <;> linarith

/-- A magnitude that is rounded up is so too when it was rounded at more places before. -/
theorem RoundingMode.Gives.of_finer (hw : halfAwayFromZero.Gives k q w) (hr : mode.Gives l q r)
    (hkl : k < l) (hq : 0 ≤ q) (hle : q ≤ w) : halfAwayFromZero.Gives k r w := by
  have hhalf : OnGrid l (w - 1 / 2 / 10 ^ k) :=
    ((hw.onGrid.mono k.le_succ).sub (onGrid_half_unit k)).mono hkl
  have hnear := (abs_le.1 hw.1.abs_sub_le).1
  exact gives_halfAwayFromZero_of_le hw.onGrid (hr.le_of_le hhalf (by linarith))
    (hr.le_of_le (onGrid_zero l) hq) (hr.ge_of_ge (hw.onGrid.mono hkl.le) hle)

end Forex
