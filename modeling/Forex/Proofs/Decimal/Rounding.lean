import Forex.Proofs.Decimal.Modes

namespace Forex

variable {k : Nat}

theorem exists_rest (n : Nat) {d : Nat} (hd : 0 < d) :
    ∃ t : ℚ, (n : ℚ) / d = (n / d : ℕ) + t ∧ 0 ≤ t ∧ t < 1 ∧ (n % d = 0 ↔ t = 0) ∧
      (d ≤ 2 * (n % d) ↔ 1 / 2 ≤ t) ∧ (d < 2 * (n % d) ↔ 1 / 2 < t) := by
  have hd' : (0 : ℚ) < d := by exact_mod_cast hd
  have hparts : (d : ℚ) * (n / d : ℕ) + (n % d : ℕ) = n := by exact_mod_cast Nat.div_add_mod n d
  refine ⟨(n % d : ℕ) / d, ?_, by positivity, ?_, ?_, ?_, ?_⟩
  · rw [← hparts, add_div, mul_div_cancel_left₀ _ hd'.ne']
  · rw [div_lt_one hd']
    exact_mod_cast Nat.mod_lt n hd
  · simp [hd.ne']
  · rw [le_div_iff₀ hd', div_mul_eq_mul_div, one_mul, div_le_iff₀ two_pos, mul_comm]
    exact_mod_cast Iff.rfl
  · rw [lt_div_iff₀ hd', div_mul_eq_mul_div, one_mul, div_lt_iff₀ two_pos, mul_comm]
    exact_mod_cast Iff.rfl

theorem RoundingMode.gives_divide (mode : RoundingMode) (n : Nat) {d : Nat} (hd : 0 < d) :
    mode.Gives k ((n : ℚ) / d / 10 ^ k) ((mode.divide false n d : ℕ) / 10 ^ k) := by
  obtain ⟨t, hvalue, ht, hlt, hzero, hhalf, hmore⟩ := exists_rest n hd
  rw [hvalue, ← Int.cast_natCast (mode.divide false n d)]
  unfold divide
  generalize n / d = whole
  generalize n % d = rest at hzero hhalf hmore
  have hwhole : (0 : ℚ) ≤ whole := by positivity
  have hbelow : |(whole : ℚ) + t - (whole : ℤ)| = t := by
    rw [Int.cast_natCast, add_sub_cancel_left, abs_of_nonneg ht]
  have habove : |(whole : ℚ) + t - ((whole + 1 : ℕ) : ℤ)| = 1 - t := by
    push_cast
    rw [abs_sub_comm, abs_of_nonneg] <;> linarith
  cases mode with
  | down =>
    rw [if_neg (by simp [increments])]
    refine gives_down ?_ ?_ <;> push_cast <;> linarith
  | up =>
    split
    case isTrue hup =>
      have hpos : 0 < t := lt_of_le_of_ne ht fun h ↦ by simp [increments, hzero.2 h.symm] at hup
      refine gives_up ?_ ?_ <;> push_cast <;> linarith
    case isFalse hup =>
      have hrest : t = 0 := by simpa [increments, hzero] using hup
      refine gives_up ?_ ?_ <;> push_cast <;> linarith
  | halfAwayFromZero =>
    split
    case isTrue hup =>
      have hup : 1 / 2 ≤ t := by simpa [increments, hhalf] using hup
      refine gives_halfAwayFromZero (by rw [habove]; linarith) fun htie ↦ ?_
      rw [habove] at htie
      push_cast
      rw [abs_of_nonneg, abs_of_nonneg] <;> linarith
    case isFalse hup =>
      have hup : t < 1 / 2 := by simpa [increments, hhalf] using hup
      refine gives_halfAwayFromZero (by rw [hbelow]; linarith) fun htie ↦ ?_
      rw [hbelow] at htie
      linarith
  | halfTowardZero =>
    split
    case isTrue hup =>
      have hup : 1 / 2 < t := by simpa [increments, hmore] using hup
      refine gives_halfTowardZero (by rw [habove]; linarith) fun htie ↦ ?_
      rw [habove] at htie
      linarith
    case isFalse hup =>
      have hup : t ≤ 1 / 2 := by simpa [increments, hmore] using hup
      refine gives_halfTowardZero (by rw [hbelow]; linarith) fun htie ↦ ?_
      rw [hbelow] at htie
      push_cast
      rw [abs_of_nonneg, abs_of_nonneg] <;> linarith
  | halfEven =>
    have hmiddle : d = 2 * rest ↔ t = 1 / 2 := by
      rw [Nat.le_antisymm_iff, hhalf, ← Nat.not_lt, hmore, not_lt, and_comm, le_antisymm_iff]
    split
    case isTrue hup =>
      have hup : 1 / 2 < t ∨ t = 1 / 2 ∧ whole % 2 = 1 := by
        simpa [increments, hmore, hmiddle] using hup
      refine gives_halfEven (by rw [habove]; rcases hup with h | h <;> linarith) fun htie ↦ ?_
      rw [habove] at htie
      have hodd := hup.resolve_left (by linarith)
      omega
    case isFalse hup =>
      have hup : t ≤ 1 / 2 ∧ (t = 1 / 2 → whole % 2 = 0) := by
        simpa [increments, hmore, hmiddle] using hup
      refine gives_halfEven (by rw [hbelow]; exact hup.1) fun htie ↦ ?_
      rw [hbelow] at htie
      have heven := hup.2 htie
      omega

theorem RoundingMode.opposite_opposite (mode : RoundingMode) : mode.opposite.opposite = mode := by
  cases mode <;> rfl

theorem RoundingMode.divide_true (mode : RoundingMode) (n d : Nat) :
    mode.divide true n d = mode.opposite.divide false n d := by
  cases mode <;> rfl

namespace Decimal

variable {a : Decimal}

/-- Rounding gives what the mode says. -/
theorem gives_round (a : Decimal) (places : Nat) (mode : RoundingMode) :
    mode.Gives places a.toRat (a.round places mode).toRat := by
  unfold round
  split
  case isTrue hplaces => exact .self mode (a.onGrid_toRat.mono hplaces)
  case isFalse hplaces =>
    split
    case isTrue hzero =>
      have hmantissa : a.mantissa = 0 := by simpa [isZero] using hzero
      simpa [toRat, signed, hmantissa] using RoundingMode.Gives.self mode (onGrid_zero places)
    case isFalse hzero =>
      have hsign : a.negative = (a.negative && a.mantissa != 0) := by
        simp only [isZero, beq_iff_eq] at hzero
        simp [hzero]
      have hvalue : (a.mantissa : ℚ) / 10 ^ a.scale =
          a.mantissa / (tenTo (a.scale - places) : ℕ) / 10 ^ places := by
        rw [cast_tenTo, div_div, ← pow_add, Nat.sub_add_cancel (by omega)]
      have hd := tenTo_pos (a.scale - places)
      rw [toRat_of_sign hsign, toRat_of_sign rfl, hvalue]
      dsimp only
      cases a.negative with
      | false => exact mode.gives_divide a.mantissa hd
      | true =>
        have hgives := (mode.opposite.gives_divide (k := places) a.mantissa hd).neg
        rwa [RoundingMode.opposite_opposite, ← RoundingMode.divide_true] at hgives

theorem scale_round (a : Decimal) (places : Nat) (mode : RoundingMode) :
    (a.round places mode).scale = min a.scale places := by
  unfold round
  split
  case isTrue hplaces => exact (Nat.min_eq_left hplaces).symm
  case isFalse hplaces => split <;> exact (Nat.min_eq_right (Nat.le_of_not_le hplaces)).symm

theorem scale_round_le (a : Decimal) (places : Nat) (mode : RoundingMode) :
    (a.round places mode).scale ≤ places := by
  rw [scale_round]
  exact Nat.min_le_right _ _

theorem round_of_scale_le {places : Nat} (h : a.scale ≤ places) (mode : RoundingMode) :
    a.round places mode = a := dif_pos h

theorem toRat_pad (a : Decimal) (k : Nat) : (a.pad k).toRat = a.toRat := by
  induction k generalizing a with
  | zero => rfl
  | succ k ih =>
    unfold pad
    split
    case isTrue =>
      rw [ih]
      unfold toRat signed
      split <;> push_cast <;> rw [pow_succ] <;> field_simp
    case isFalse => rfl

theorem scale_pad (a : Decimal) (k : Nat) :
    (a.pad k).scale = a.scale + k ∨ (a.pad k).scale ≤ a.scale + k ∧
      ¬((a.pad k).mantissa * 10 < mantissaBound ∧ (a.pad k).scale < 28) := by
  induction k generalizing a with
  | zero => exact .inl rfl
  | succ k ih =>
    unfold pad
    split
    case isTrue h =>
      have hnext := ih { a with
        mantissa := a.mantissa * 10, scale := a.scale + 1, mantissa_lt := h.1, scale_le := h.2 }
      rwa [show a.scale + 1 + k = a.scale + (k + 1) by omega] at hnext
    case isFalse h => exact .inr ⟨by omega, h⟩

theorem pad_of_full (h : ¬(a.mantissa * 10 < mantissaBound ∧ a.scale < 28)) (k : Nat) :
    a.pad k = a := by
  cases k with
  | zero => rfl
  | succ k => rw [pad, dif_neg h]

section Rescale

variable {places : Nat}

theorem rescale_of_scale_le (hzero : a.isZero = false) (h : a.scale ≤ places) :
    a.rescale places = a.pad (places - a.scale) := by
  rw [rescale, if_neg (by simp [hzero]), dif_neg (by omega)]

theorem toRat_rescale (h : a.scale ≤ places) : (a.rescale places).toRat = a.toRat := by
  cases hzero : a.isZero with
  | true =>
    rw [toRat_eq_zero_iff.2 hzero, toRat_eq_zero_iff, rescale, if_pos hzero]
    exact hzero
  | false => rw [rescale_of_scale_le hzero h, toRat_pad]

theorem isZero_rescale (h : a.scale ≤ places) : (a.rescale places).isZero = a.isZero := by
  rw [Bool.eq_iff_iff, ← toRat_eq_zero_iff, ← toRat_eq_zero_iff, toRat_rescale h]

theorem scale_rescale_le (h : a.scale ≤ places) : (a.rescale places).scale ≤ places := by
  cases hzero : a.isZero with
  | true =>
    rw [rescale, if_pos hzero]
    exact Nat.min_le_left places 28
  | false =>
    rw [rescale_of_scale_le hzero h]
    rcases a.scale_pad (places - a.scale) with hscale | hscale <;> omega

theorem rescale_rescale (h : a.scale ≤ places) :
    (a.rescale places).rescale places = a.rescale places := by
  have hle := scale_rescale_le h
  cases hzero : a.isZero with
  | true =>
    have hagain : (a.rescale places).isZero := by rw [isZero_rescale h, hzero]
    rw [rescale, if_pos hagain]
    simp only [rescale, if_pos hzero]
  | false =>
    have hagain : (a.rescale places).isZero = false := by rw [isZero_rescale h, hzero]
    rw [rescale_of_scale_le hagain hle]
    rw [rescale_of_scale_le hzero h] at hle ⊢
    rcases a.scale_pad (places - a.scale) with hscale | ⟨-, hfull⟩
    · rw [show places - (a.pad (places - a.scale)).scale = 0 by omega]
      rfl
    · exact pad_of_full hfull _

theorem abs_toRat_mul_tenTo_scale (a : Decimal) : |a.toRat| * 10 ^ a.scale = a.mantissa := by
  rw [abs_toRat, div_mul_cancel₀ _ (by positivity)]

/-- Filling up takes all the places with which the digits fit. -/
theorem isGreatest_scale_rescale (h : a.scale ≤ places) (hplaces : places ≤ 28) :
    IsGreatest {k | k ≤ places ∧ |a.toRat| * 10 ^ k < mantissaBound} (a.rescale places).scale := by
  have hle := scale_rescale_le h
  have hdigits := abs_toRat_mul_tenTo_scale (a.rescale places)
  rw [toRat_rescale h] at hdigits
  refine ⟨⟨hle, ?_⟩, ?_⟩
  · rw [hdigits]
    exact_mod_cast (a.rescale places).mantissa_lt
  rintro k ⟨hk, hfits⟩
  cases hzero : a.isZero with
  | true =>
    rw [rescale, if_pos hzero]
    exact hk.trans (Nat.le_min.2 ⟨le_rfl, hplaces⟩)
  | false =>
    rw [rescale_of_scale_le hzero h] at hle hdigits ⊢
    rcases a.scale_pad (places - a.scale) with hscale | ⟨-, hfull⟩
    · omega
    · by_contra hmore
      -- one more place would fit, so a zero would have been appended
      have hnext : |a.toRat| * 10 ^ ((a.pad (places - a.scale)).scale + 1) < mantissaBound := by
        refine lt_of_le_of_lt ?_ hfits
        gcongr
        · norm_num
        · omega
      rw [pow_succ, ← mul_assoc, hdigits] at hnext
      exact hfull ⟨by exact_mod_cast hnext, by omega⟩

theorem scale_rescale (h : a.scale ≤ places) (hplaces : places ≤ 28)
    (hfits : |a.toRat| * 10 ^ places < mantissaBound) : (a.rescale places).scale = places :=
  (scale_rescale_le h).antisymm ((isGreatest_scale_rescale h hplaces).2 ⟨le_rfl, hfits⟩)

end Rescale

/-- No zero stands at the end of the places. -/
def Stripped (a : Decimal) : Prop := a.scale = 0 ∨ a.mantissa % 10 ≠ 0

theorem stripZeros_value (m k : Nat) :
    ((stripZeros m k).1 : ℚ) / 10 ^ (stripZeros m k).2 = m / 10 ^ k := by
  induction k generalizing m with
  | zero => rfl
  | succ k ih =>
    unfold stripZeros
    split
    case isTrue hzero =>
      obtain ⟨n, rfl⟩ := Nat.dvd_of_mod_eq_zero hzero
      rw [ih, Nat.mul_div_cancel_left n (by decide), pow_succ]
      push_cast
      field_simp
    case isFalse => rfl

theorem stripZeros_stripped (m k : Nat) :
    (stripZeros m k).2 = 0 ∨ (stripZeros m k).1 % 10 ≠ 0 := by
  induction k generalizing m with
  | zero => exact .inl rfl
  | succ k ih =>
    unfold stripZeros
    split
    case isTrue => exact ih _
    case isFalse hdigit => exact .inr hdigit

theorem stripped_normalize (a : Decimal) : a.normalize.Stripped := by
  unfold normalize
  split
  case isTrue => exact .inl rfl
  case isFalse => exact stripZeros_stripped _ _

theorem scale_normalize_le (a : Decimal) : a.normalize.scale ≤ a.scale := by
  unfold normalize
  split
  case isTrue => exact Nat.zero_le _
  case isFalse => exact stripZeros_snd_le _ _

theorem toRat_normalize (a : Decimal) : a.normalize.toRat = a.toRat := by
  unfold normalize
  split
  case isTrue hzero => rw [toRat_zero, toRat_eq_zero_iff.2 hzero]
  case isFalse hzero =>
    have hvalue := stripZeros_value a.mantissa a.scale
    unfold toRat signed
    dsimp only
    split <;> push_cast
    · rw [neg_div, neg_div, hvalue]
    · exact hvalue

theorem normalize_of_stripped (hzero : a.isZero = false) (h : a.Stripped) : a.normalize = a := by
  obtain ⟨negative, mantissa, scale, _, _⟩ := a
  have hstrip : stripZeros mantissa scale = (mantissa, scale) := by
    cases scale with
    | zero => rfl
    | succ k => exact if_neg (h.resolve_left (by simp))
  simp only [normalize, hzero, Bool.false_eq_true, if_false, hstrip]

theorem onGrid_of_not_stripped (h : ¬a.Stripped) : OnGrid (a.scale - 1) a.toRat := by
  rw [Stripped, not_or, not_not] at h
  obtain ⟨n, hn⟩ := Nat.dvd_of_mod_eq_zero h.2
  obtain ⟨k, hk⟩ := Nat.exists_eq_succ_of_ne_zero h.1
  refine ⟨if a.negative then -n else n, ?_⟩
  unfold toRat signed
  rw [hn, hk, Nat.succ_sub_one]
  split <;> push_cast <;> rw [pow_succ] <;> field_simp

theorem plainZero_of_toRat_eq_zero (h : a.toRat = 0) : a.plainZero = zero :=
  if_pos (toRat_eq_zero_iff.1 h)

theorem plainZero_of_toRat_ne_zero (h : a.toRat ≠ 0) : a.plainZero = a :=
  if_neg (mt toRat_eq_zero_iff.2 h)

theorem plainZero_plainZero (a : Decimal) : a.plainZero.plainZero = a.plainZero := by
  by_cases hzero : a.toRat = 0
  · rw [plainZero_of_toRat_eq_zero hzero]
    rfl
  · rw [plainZero_of_toRat_ne_zero hzero, plainZero_of_toRat_ne_zero hzero]

theorem toRat_plainZero (a : Decimal) : a.plainZero.toRat = a.toRat := by
  by_cases h : a.toRat = 0
  · rw [plainZero_of_toRat_eq_zero h, toRat_zero, h]
  · rw [plainZero_of_toRat_ne_zero h]

theorem stripped_plainZero (h : a.Stripped) : a.plainZero.Stripped := by
  unfold plainZero
  split
  case isTrue => exact .inl rfl
  case isFalse => exact h

end Decimal

end Forex
