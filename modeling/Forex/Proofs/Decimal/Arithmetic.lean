import Forex.Proofs.Decimal.Division
import Forex.Proofs.Decimal.Rounding

namespace Forex

variable {k : Nat} {q r : ℚ}

theorem gives_zero (h : |q| < 1 / 2 / 10 ^ k) : RoundingMode.halfEven.Gives k q 0 := by
  have hunit : (0 : ℚ) < 10 ^ k := by positivity
  have hscaled : |q * 10 ^ k| < 1 / 2 := by
    rwa [abs_mul, abs_of_pos hunit, ← lt_div_iff₀ hunit]
  have hgives := gives_halfEven (k := k) (m := 0) (x := q * 10 ^ k) (by simpa using hscaled.le)
    fun _ ↦ ⟨0, rfl⟩
  rwa [mul_div_cancel_right₀ _ hunit.ne', Int.cast_zero, zero_div] at hgives

theorem exists_natCast_div (h : 0 ≤ q) : ∃ n d : ℕ, 0 < d ∧ q = n / d := by
  obtain ⟨n, hn⟩ := Int.eq_ofNat_of_zero_le (Rat.num_nonneg.2 h)
  refine ⟨n, q.den, q.pos, ?_⟩
  have hparts := q.num_div_den
  rw [hn] at hparts
  exact hparts.symm

namespace Decimal

variable {a b c : Decimal}

/-- Even as a whole number the value does not fit a decimal. -/
def TooLarge (q : ℚ) : Prop := 2 ^ 96 - 1 / 2 ≤ |q|

/-- The decimal is the value `q`, rounded once, half to even, to as many places as there is room
for. -/
def IsRoundingOf (a : Decimal) (q : ℚ) : Prop :=
  ∃ k ≤ 28, RoundingMode.halfEven.Gives k q a.toRat ∧
    (k = 28 ∨ a.toRat = q ∨ TooLarge (q * 10 ^ (k + 1)))

theorem cast_mantissaBound : ((mantissaBound : ℕ) : ℚ) = 2 ^ 96 := by norm_num [mantissaBound_eq]

theorem tooLarge_neg_iff : TooLarge (-q) ↔ TooLarge q := by
  rw [TooLarge, TooLarge, abs_neg]

theorem tooLarge_iff (n : Nat) {d : Nat} (hd : 0 < d) :
    TooLarge ((n : ℚ) / d) ↔ (2 * mantissaBound - 1) * d ≤ 2 * n := by
  have hd' : (0 : ℚ) < d := by exact_mod_cast hd
  have hbound : ((2 * mantissaBound - 1 : ℕ) : ℚ) = 2 * 2 ^ 96 - 1 := by
    norm_num [mantissaBound_eq]
  rw [TooLarge, abs_of_nonneg (by positivity), le_div_iff₀ hd', ← Nat.cast_le (α := ℚ),
    Nat.cast_mul, Nat.cast_mul, hbound, Nat.cast_ofNat]
  constructor <;> intro h <;> linarith

theorem not_tooLarge_mul_pow (h : k ≤ a.scale) : ¬TooLarge (a.toRat * 10 ^ k) := by
  obtain ⟨j, hj⟩ := Nat.exists_eq_add_of_le h
  have hmantissa : (a.mantissa : ℚ) + 1 ≤ 2 ^ 96 := by
    rw [← cast_mantissaBound]
    exact_mod_cast a.mantissa_lt
  have hdigits : |a.toRat * 10 ^ k| ≤ a.mantissa := by
    rw [abs_mul, abs_toRat, abs_of_pos (by positivity : (0 : ℚ) < 10 ^ k), hj, pow_add]
    field_simp
    exact le_mul_of_one_le_right (by positivity) (one_le_pow₀ (by norm_num))
  rw [TooLarge, not_le]
  linarith

theorem not_tooLarge_toRat (a : Decimal) : ¬TooLarge a.toRat := by
  have hfits := not_tooLarge_mul_pow (a := a) (Nat.zero_le _)
  rwa [pow_zero, mul_one] at hfits

theorem TooLarge.of_gives {l : Nat} (hq : TooLarge (q * 10 ^ l))
    (h : RoundingMode.halfEven.Gives k q r) (hlk : l ≤ k) : TooLarge (r * 10 ^ l) := by
  wlog hsign : 0 ≤ q generalizing q r
  · have hneg := this (q := -q) (r := -r) (by rwa [neg_mul, tooLarge_neg_iff]) h.neg
      (neg_nonneg.2 (le_of_not_ge hsign))
    rwa [neg_mul, tooLarge_neg_iff] at hneg
  have hr : 0 ≤ r := h.le_of_le (onGrid_zero k) hsign
  have hunit : (0 : ℚ) < 10 ^ l := by positivity
  rcases hlk.lt_or_eq with hlt | rfl
  · have hbound : OnGrid l (2 ^ 96 / 10 ^ l) := ⟨2 ^ 96, by push_cast; rfl⟩
    rw [TooLarge, abs_of_nonneg (mul_nonneg (by assumption) hunit.le), ← div_le_iff₀ hunit,
      sub_div] at hq ⊢
    exact h.le_of_le (((hbound.mono l.le_succ).sub (onGrid_half_unit l)).mono hlt) hq
  · obtain ⟨n, d, hd, hparts⟩ := exists_natCast_div (mul_nonneg hsign hunit.le)
    have hround := RoundingMode.halfEven.gives_divide (k := l) n hd
    rw [← hparts, mul_div_cancel_right₀ _ hunit.ne'] at hround
    rw [hparts, tooLarge_iff n hd, ← le_halfEven_divide_iff (by decide) hd] at hq
    have hcast : ((mantissaBound : ℕ) : ℚ) ≤ (RoundingMode.halfEven.divide false n d : ℕ) := by
      exact_mod_cast hq
    rw [cast_mantissaBound] at hcast
    rw [h.unique hround, div_mul_cancel₀ _ hunit.ne', TooLarge, Nat.abs_cast]
    linarith

namespace IsRoundingOf

theorem self (a : Decimal) : a.IsRoundingOf a.toRat :=
  ⟨a.scale, a.scale_le, .self _ a.onGrid_toRat, .inr (.inl rfl)⟩

theorem not_tooLarge (h : a.IsRoundingOf q) : ¬TooLarge q := by
  obtain ⟨k, -, hgives, -⟩ := h
  intro hlarge
  rw [← mul_one q, ← pow_zero] at hlarge
  exact not_tooLarge_mul_pow (Nat.zero_le _) (hlarge.of_gives hgives k.zero_le)

/-- What a value is rounded to is determined, though the places may not be. -/
theorem unique (ha : a.IsRoundingOf q) (hb : b.IsRoundingOf q) : a.toRat = b.toRat := by
  obtain ⟨k, hk, hak, hroom⟩ := ha
  obtain ⟨l, hl, hbl, hroom'⟩ := hb
  wlog hkl : k ≤ l generalizing a b k l
  · exact (this l hl hbl hroom' k hk hak hroom (le_of_not_ge hkl)).symm
  rcases hkl.lt_or_eq with hlt | rfl
  · rcases hroom with rfl | hexact | hlarge
    · omega
    · rw [hexact]
      exact (RoundingMode.Gives.self _ (hexact ▸ hak.onGrid.mono hkl)).unique hbl
    · -- with so many digits, the finer rounding has no more places than the coarser one
      have hscale : b.scale ≤ k := by
        by_contra hmore
        exact not_tooLarge_mul_pow (not_le.1 hmore) (hlarge.of_gives hbl hlt)
      have hgrid := b.onGrid_toRat.mono hscale
      have hfiner : (1 : ℚ) / 10 ^ l < 1 / 10 ^ k :=
        one_div_lt_one_div_of_lt (by positivity) (pow_lt_pow_right₀ (by norm_num) hlt)
      have hnear := hbl.1.abs_sub_le
      rw [div_right_comm] at hnear
      have hnearer := (hak.1.2 _ hgrid).trans hnear
      rw [abs_le] at hnear hnearer
      refine hak.onGrid.eq_of_abs_sub_lt hgrid (abs_lt.2 ?_)
      constructor <;> linarith
  · exact hak.unique hbl

theorem toRat_eq (h : a.IsRoundingOf q) (hb : b.toRat = q) : a.toRat = q := by
  have hself := self b
  rw [hb] at hself
  rw [h.unique hself, hb]

/-- One rounding moves a small value by little, and a large one by little relative to it. -/
theorem abs_sub_le (h : a.IsRoundingOf q) : |a.toRat - q| ≤ (1 + |q|) * (1 / 10 ^ 28) := by
  obtain ⟨k, -, hgives, hroom⟩ := h
  have herror := hgives.1.abs_sub_le
  have hnonneg := abs_nonneg q
  rw [abs_sub_comm] at herror
  rcases hroom with rfl | hexact | hlarge
  · linarith
  · rw [hexact, sub_self, abs_zero]
    positivity
  · -- a value that leaves no room for one more place has 28 digits down to its last place
    have hdigits : 5 * 10 ^ 28 ≤ |q| * 10 ^ k * 10 := by
      rw [TooLarge, abs_mul, abs_of_pos (by positivity : (0 : ℚ) < 10 ^ (k + 1)),
        pow_succ (10 : ℚ) k, ← mul_assoc] at hlarge
      linarith
    have hhalf : (1 : ℚ) / 2 / 10 ^ k ≤ |q| * (1 / 10 ^ 28) := by
      rw [div_le_iff₀ (by positivity)]
      linarith
    linarith

end IsRoundingOf

theorem toRat_eq_sign (a : Decimal) :
    a.toRat = if a.negative then -((a.mantissa : ℚ) / 10 ^ a.scale)
      else (a.mantissa : ℚ) / 10 ^ a.scale := by
  unfold toRat signed
  split
  · rw [Int.cast_neg, Int.cast_natCast, neg_div]
  · rw [Int.cast_natCast]

theorem isRoundingOf_of_magnitude {negative : Bool} (ha : a.toRat = if negative then -r else r)
    (hk : k ≤ 28) (hgives : RoundingMode.halfEven.Gives k q r)
    (hroom : k = 28 ∨ r = q ∨ TooLarge (q * 10 ^ (k + 1))) :
    a.IsRoundingOf (if negative then -q else q) := by
  refine ⟨k, hk, ?_⟩
  rw [ha]
  cases negative with
  | false => exact ⟨hgives, hroom⟩
  | true =>
    rw [if_pos rfl, if_pos rfl, neg_mul, tooLarge_neg_iff, neg_inj]
    exact ⟨hgives.neg, hroom⟩

theorem TooLarge.mul_pow (h : TooLarge q) (k : Nat) : TooLarge (q * 10 ^ k) := by
  have hone : (1 : ℚ) ≤ 10 ^ k := one_le_pow₀ (by norm_num)
  rw [TooLarge, abs_mul, abs_of_pos (by positivity : (0 : ℚ) < 10 ^ k)]
  exact h.trans (le_mul_of_one_le_right (abs_nonneg q) hone)

theorem ofParts?_eq_none_iff {negative : Bool} {mantissa scale : Nat} :
    ofParts? negative mantissa scale = none ↔ ¬(mantissa < mantissaBound ∧ scale ≤ 28) := by
  rw [ofParts?]
  split <;> simp_all

section Fit

variable {negative : Bool} {n scale places : Nat}

theorem cast_div_tenTo (n : Nat) (h : k ≤ scale) :
    (n : ℚ) / 10 ^ scale * 10 ^ k = n / (tenTo (scale - k) : ℕ) := by
  obtain ⟨j, rfl⟩ := Nat.exists_eq_add_of_le h
  rw [Nat.add_sub_cancel_left, cast_tenTo, pow_add]
  field_simp

theorem tooLarge_iff_le_divide (negative : Bool) (n : Nat) (h : k ≤ scale) :
    TooLarge ((n : ℚ) / 10 ^ scale * 10 ^ k) ↔
      mantissaBound ≤ RoundingMode.halfEven.divide negative n (tenTo (scale - k)) := by
  rw [cast_div_tenTo n h, tooLarge_iff n (tenTo_pos _),
    ← le_halfEven_divide_iff (by decide) (tenTo_pos _)]
  rfl

theorem isRoundingOf_ofParts? (hle : places ≤ scale) (h28 : places ≤ 28)
    (hroom : places = 28 ∨ places = scale ∨ TooLarge ((n : ℚ) / 10 ^ scale * 10 ^ (places + 1)))
    (h : ofParts? negative
      (RoundingMode.halfEven.divide negative n (tenTo (scale - places))) places = some a) :
    a.IsRoundingOf (if negative then -((n : ℚ) / 10 ^ scale) else (n : ℚ) / 10 ^ scale) := by
  obtain ⟨hnegative, hmantissa, hscale⟩ := ofParts?_eq_some h
  have hvalue := toRat_eq_sign a
  rw [hnegative, hmantissa, hscale] at hvalue
  have hgives := RoundingMode.halfEven.gives_divide (k := places) n (tenTo_pos (scale - places))
  rw [← cast_div_tenTo n hle, mul_div_cancel_right₀ _ (by positivity)] at hgives
  refine isRoundingOf_of_magnitude hvalue h28 hgives (hroom.imp_right (Or.imp_left ?_))
  rintro rfl
  exact hgives.unique (.self _ ⟨n, by rw [Int.cast_natCast]⟩)

theorem isRoundingOf_fit? (hle : places ≤ scale) (h28 : places ≤ 28)
    (hroom : places = 28 ∨ places = scale ∨ TooLarge ((n : ℚ) / 10 ^ scale * 10 ^ (places + 1)))
    (h : fit? negative n scale places = some a) :
    a.IsRoundingOf (if negative then -((n : ℚ) / 10 ^ scale) else (n : ℚ) / 10 ^ scale) := by
  induction places with
  | zero => exact isRoundingOf_ofParts? hle h28 hroom h
  | succ p ih =>
    rcases (Option.orElse_eq_some _ _ _).1 h with h | ⟨hnone, h⟩
    · exact isRoundingOf_ofParts? hle h28 hroom h
    · refine ih (Nat.le_of_succ_le hle) (Nat.le_of_succ_le h28) (.inr (.inr ?_)) h
      have hfull := ofParts?_eq_none_iff.1 hnone
      exact (tooLarge_iff_le_divide negative n hle).2 (by omega)

theorem fit?_eq_none_iff (hle : places ≤ scale) (h28 : places ≤ 28) :
    fit? negative n scale places = none ↔ TooLarge ((n : ℚ) / 10 ^ scale) := by
  have hnone {k : Nat} (hle : k ≤ scale) (h28 : k ≤ 28) :
      ofParts? negative (RoundingMode.halfEven.divide negative n (tenTo (scale - k))) k = none ↔
        TooLarge ((n : ℚ) / 10 ^ scale * 10 ^ k) := by
    rw [ofParts?_eq_none_iff, tooLarge_iff_le_divide negative n hle]
    omega
  induction places with
  | zero =>
    have hzero := hnone hle h28
    rw [pow_zero, mul_one] at hzero
    exact hzero
  | succ p ih =>
    rw [fit?, Option.orElse_eq_none, hnone hle h28]
    refine (and_congr_right fun _ ↦ ih (Nat.le_of_succ_le hle) (Nat.le_of_succ_le h28)).trans ?_
    exact and_iff_right_of_imp fun h ↦ h.mul_pow (p + 1)

end Fit

theorem not_tooLarge_zero : ¬TooLarge 0 := by
  norm_num [TooLarge]

theorem TooLarge.right_ne_zero (h : TooLarge (q * r)) : r ≠ 0 := by
  rintro rfl
  rw [mul_zero] at h
  exact not_tooLarge_zero h

theorem isRoundingOf_zero (h : |q| < 1 / 2 / 10 ^ 28) : zero.IsRoundingOf q := by
  have hgives := gives_zero h
  rw [← toRat_zero] at hgives
  exact ⟨28, le_rfl, hgives, .inl rfl⟩

theorem isRoundingOf_zero_zero : zero.IsRoundingOf 0 :=
  isRoundingOf_zero (by rw [abs_zero]; positivity)

theorem toRat_unsignZero (a : Decimal) : a.unsignZero.toRat = a.toRat := by
  unfold unsignZero toRat signed isZero
  by_cases h : a.mantissa = 0 <;> simp [h]

section Product

theorem toRat_mul_toRat (a b : Decimal) :
    a.toRat * b.toRat =
      if a.negative != b.negative then
        -(((a.mantissa * b.mantissa : ℕ) : ℚ) / 10 ^ (a.scale + b.scale))
      else ((a.mantissa * b.mantissa : ℕ) : ℚ) / 10 ^ (a.scale + b.scale) := by
  rw [toRat_eq_sign a, toRat_eq_sign b, pow_add]
  push_cast
  cases a.negative <;> cases b.negative <;> simp <;> field_simp

theorem abs_toRat_mul (a b : Decimal) :
    |a.toRat * b.toRat| =
      ((a.mantissa * b.mantissa : ℕ) : ℚ) / 10 ^ (a.scale + b.scale) := by
  rw [abs_mul, abs_toRat, abs_toRat, pow_add]
  push_cast
  field_simp

theorem abs_toRat_mul_lt (hnarrow : a.mantissaBelow (twoTo 32) && b.mantissaBelow (twoTo 32))
    (hscale : 47 < a.scale + b.scale) : |a.toRat * b.toRat| < 1 / 2 / 10 ^ 28 := by
  simp only [mantissaBelow, Bool.and_eq_true, decide_eq_true_eq] at hnarrow
  have hdigits : a.mantissa * b.mantissa < twoTo 32 * twoTo 32 :=
    Nat.mul_lt_mul_of_lt_of_lt hnarrow.1 hnarrow.2
  have hpow : (10 : ℚ) ^ 48 ≤ 10 ^ (a.scale + b.scale) := pow_le_pow_right₀ (by norm_num) hscale
  rw [abs_toRat_mul, div_lt_iff₀ (by positivity)]
  calc ((a.mantissa * b.mantissa : ℕ) : ℚ) < ((twoTo 32 * twoTo 32 : ℕ) : ℚ) := by
        exact_mod_cast hdigits
    _ < 1 / 2 / 10 ^ 28 * 10 ^ 48 := by norm_num [twoTo]
    _ ≤ 1 / 2 / 10 ^ 28 * 10 ^ (a.scale + b.scale) := by gcongr

/-- A product is either so small that it is a plain zero, or it is fitted, and a zero may then lose
its sign. -/
theorem mul?_cases (a b : Decimal) :
    a.mul? b = some zero ∧ |a.toRat * b.toRat| < 1 / 2 / 10 ^ 28 ∨
      ∃ f : Decimal → Decimal, (∀ c, (f c).toRat = c.toRat) ∧
        a.mul? b = (fit? (a.negative != b.negative) (a.mantissa * b.mantissa) (a.scale + b.scale)
          (min (a.scale + b.scale) 28)).map f := by
  unfold mul?
  dsimp only
  split
  case isTrue hzero =>
    rw [Bool.or_eq_true, ← toRat_eq_zero_iff, ← toRat_eq_zero_iff] at hzero
    refine .inl ⟨rfl, ?_⟩
    rw [mul_eq_zero.2 hzero, abs_zero]
    positivity
  case isFalse =>
    split
    case isTrue hnarrow =>
      rw [Bool.and_eq_true, decide_eq_true_eq] at hnarrow
      exact .inl ⟨rfl, abs_toRat_mul_lt hnarrow.1 hnarrow.2⟩
    case isFalse =>
      split
      case isTrue => exact .inr ⟨unsignZero, toRat_unsignZero, rfl⟩
      case isFalse => exact .inr ⟨id, fun _ ↦ rfl, Option.map_id_apply.symm⟩

theorem isRoundingOf_mul? (h : a.mul? b = some c) : c.IsRoundingOf (a.toRat * b.toRat) := by
  rcases mul?_cases a b with ⟨hzero, hsmall⟩ | ⟨f, hf, hfit⟩
  · obtain rfl := Option.some.inj (hzero.symm.trans h)
    exact isRoundingOf_zero hsmall
  · obtain ⟨d, hd, rfl⟩ := Option.map_eq_some_iff.1 (hfit.symm.trans h)
    unfold IsRoundingOf
    rw [hf, toRat_mul_toRat]
    exact isRoundingOf_fit? (Nat.min_le_left _ _) (Nat.min_le_right _ _) (by omega) hd

theorem mul?_eq_none_iff : a.mul? b = none ↔ TooLarge (a.toRat * b.toRat) := by
  rcases mul?_cases a b with ⟨hzero, hsmall⟩ | ⟨f, -, hfit⟩
  · refine iff_of_false (by simp [hzero]) (not_le.2 (hsmall.trans ?_))
    norm_num
  · rw [hfit, Option.map_eq_none_iff,
      fit?_eq_none_iff (Nat.min_le_left _ _) (Nat.min_le_right _ _), TooLarge, TooLarge,
      abs_toRat_mul, abs_of_nonneg (by positivity)]

theorem mul?_none_or_some (a b : Decimal) :
    TooLarge (a.toRat * b.toRat) ∧ a.mul? b = none ∨
      ¬TooLarge (a.toRat * b.toRat) ∧
        ∃ c, a.mul? b = some c ∧ c.IsRoundingOf (a.toRat * b.toRat) := by
  rw [← mul?_eq_none_iff]
  cases hproduct : a.mul? b with
  | none => exact .inl ⟨rfl, rfl⟩
  | some c => exact .inr ⟨Option.some_ne_none c, c, rfl, isRoundingOf_mul? hproduct⟩

theorem mul_cases (a b : Decimal) :
    TooLarge (a.toRat * b.toRat) ∧ a.mul b = .error .multiplication ∨
      ∃ c, c.IsRoundingOf (a.toRat * b.toRat) ∧ a.mul b = .ok c := by
  rw [mul]
  rcases mul?_none_or_some a b with ⟨hlarge, hnone⟩ | ⟨-, c, hsome, hround⟩
  · exact .inl ⟨hlarge, by rw [hnone]⟩
  · exact .inr ⟨c, hround, by rw [hsome]⟩

end Product

section Sum

theorem toRat_eq_signed (h : a.scale ≤ k) :
    a.toRat = ((a.signed * tenTo (k - a.scale) : ℤ) : ℚ) / 10 ^ k := by
  obtain ⟨j, rfl⟩ := Nat.exists_eq_add_of_le h
  rw [Nat.add_sub_cancel_left, toRat, pow_add]
  push_cast
  rw [cast_tenTo]
  field_simp

theorem add?_cases (a b : Decimal) :
    (∃ c, a.add? b = some c ∧ c.toRat = a.toRat + b.toRat) ∨
      ∃ (negative : Bool) (n scale : Nat), scale ≤ 28 ∧
        a.toRat + b.toRat =
          (if negative then -((n : ℚ) / 10 ^ scale) else (n : ℚ) / 10 ^ scale) ∧
        a.add? b = fit? negative n scale scale := by
  unfold add?
  split
  case isTrue hzero =>
    exact .inl ⟨b, rfl, by rw [toRat_eq_zero_iff.2 hzero, zero_add]⟩
  case isFalse =>
    split
    case isTrue hzero =>
      exact .inl ⟨a, rfl, by rw [toRat_eq_zero_iff.2 hzero, add_zero]⟩
    case isFalse =>
      refine .inr ⟨_, _, _, max_le a.scale_le b.scale_le, ?_, rfl⟩
      rw [toRat_eq_signed (le_max_left a.scale b.scale), toRat_eq_signed (le_max_right a.scale _),
        ← add_div, ← Int.cast_add]
      generalize a.signed * _ + b.signed * _ = sum
      by_cases hneg : sum < 0
      · have habs : (sum.natAbs : ℤ) = -sum := by omega
        rw [if_pos (by simpa using hneg), ← Int.cast_natCast, habs, Int.cast_neg, neg_div, neg_neg]
      · have habs : (sum.natAbs : ℤ) = sum := by omega
        rw [if_neg (by simpa using hneg), ← Int.cast_natCast, habs]

theorem isRoundingOf_add? (h : a.add? b = some c) : c.IsRoundingOf (a.toRat + b.toRat) := by
  rcases add?_cases a b with ⟨d, hd, hvalue⟩ | ⟨negative, n, scale, h28, hvalue, hfit⟩
  · obtain rfl := Option.some.inj (hd.symm.trans h)
    rw [← hvalue]
    exact .self d
  · rw [hvalue]
    exact isRoundingOf_fit? le_rfl h28 (.inr (.inl rfl)) (hfit.symm.trans h)

theorem add?_eq_none_iff : a.add? b = none ↔ TooLarge (a.toRat + b.toRat) := by
  rcases add?_cases a b with ⟨d, hd, hvalue⟩ | ⟨negative, n, scale, h28, hvalue, hfit⟩
  · rw [← hvalue]
    exact iff_of_false (by simp [hd]) d.not_tooLarge_toRat
  · rw [hfit, fit?_eq_none_iff le_rfl h28, hvalue]
    cases negative with
    | false => exact Iff.rfl
    | true => exact tooLarge_neg_iff.symm

theorem add_cases (a b : Decimal) :
    TooLarge (a.toRat + b.toRat) ∧ a.add b = .error .addition ∨
      ∃ c, c.IsRoundingOf (a.toRat + b.toRat) ∧ a.add b = .ok c := by
  rw [add]
  cases hsum : a.add? b with
  | none => exact .inl ⟨add?_eq_none_iff.1 hsum, rfl⟩
  | some c => exact .inr ⟨c, isRoundingOf_add? hsum, rfl⟩

end Sum

section Quotient

theorem abs_toRat_eq_of_units {m : Nat × Nat} (hm : m.2 ≤ 28)
    (h : a.units.natAbs = m.1 * tenTo (28 - m.2)) : |a.toRat| = m.1 / 10 ^ m.2 := by
  have habs : |(a.units : ℚ)| = a.units.natAbs := by
    rw [← Int.cast_natCast, Int.natCast_natAbs, Int.cast_abs]
  rw [toRat_eq_units, abs_div, habs, h, abs_of_pos (by positivity : (0 : ℚ) < 10 ^ 28),
    ← Nat.sub_add_cancel hm, pow_add]
  push_cast
  rw [cast_tenTo, Nat.add_sub_cancel]
  field_simp

theorem cast_quotient (n up down : Nat) {d s t : Nat} (hd : 0 < d) (h : s + up = k + t + down) :
    (n : ℚ) / 10 ^ s / (d / 10 ^ t) =
      (n * tenTo up : ℕ) / (d * tenTo down : ℕ) / 10 ^ k := by
  have hd' : (d : ℚ) ≠ 0 := by exact_mod_cast hd.ne'
  have hpow : (10 : ℚ) ^ s * 10 ^ up = 10 ^ k * 10 ^ t * 10 ^ down := by
    rw [← pow_add, ← pow_add, ← pow_add, h]
  push_cast
  rw [cast_tenTo, cast_tenTo]
  field_simp
  rw [mul_assoc _ ((10 : ℚ) ^ s), hpow]
  ring

theorem RoundsTo.gives {n d s t : Nat} {m : Nat × Nat} (h : RoundsTo n d ((s : Int) - t) m)
    (hd : 0 < d) :
    RoundingMode.halfEven.Gives m.2 ((n : ℚ) / 10 ^ s / (d / 10 ^ t)) ((m.1 : ℚ) / 10 ^ m.2) ∧
      (m.2 = 28 ∨ (m.1 : ℚ) / 10 ^ m.2 = (n : ℚ) / 10 ^ s / (d / 10 ^ t) ∨
        TooLarge ((n : ℚ) / 10 ^ s / (d / 10 ^ t) * 10 ^ (m.2 + 1))) := by
  obtain ⟨-, up, down, hscale, hm, hroom⟩ := h
  have hD : 0 < d * tenTo down := Nat.mul_pos hd (tenTo_pos down)
  have hvalue := cast_quotient (k := m.2) (s := s) (t := t) n up down hd (by omega)
  have hgives := RoundingMode.halfEven.gives_divide (k := m.2) (n * tenTo up) hD
  rw [← hm, ← hvalue] at hgives
  refine ⟨hgives, ?_⟩
  rcases hroom with h28 | ⟨w, hw⟩ | hlarge
  · exact .inl h28
  · refine .inr (.inl (hgives.unique (.self _ ⟨w, ?_⟩)))
    have hD' : ((d * tenTo down : ℕ) : ℚ) ≠ 0 := by exact_mod_cast hD.ne'
    rw [hvalue, hw, Nat.cast_mul, mul_div_cancel_left₀ _ hD', Int.cast_natCast]
  · refine .inr (.inr ?_)
    have hmore : (n : ℚ) / 10 ^ s / (d / 10 ^ t) * 10 ^ (m.2 + 1) =
        (n * tenTo (up + 1) : ℕ) / (d * tenTo down : ℕ) := by
      rw [hvalue, tenTo_succ, ← Nat.mul_assoc, Nat.cast_mul (n * tenTo up), pow_succ]
      field_simp
      norm_num
    rw [hmore]
    exact (tooLarge_iff _ hD).2 hlarge

/-- A quotient is the exact one, rounded. -/
theorem isRoundingOf_div (h : a.div b = .ok c) : c.IsRoundingOf (a.toRat / b.toRat) := by
  obtain ⟨hb, hdiv⟩ := exists_div?_of_div h
  by_cases ha : a.isZero
  · obtain rfl : c = zero := by simpa [div?, ha] using hdiv.symm
    rw [toRat_eq_zero_iff.2 ha, zero_div]
    exact isRoundingOf_zero_zero
  rw [Bool.not_eq_true] at ha
  obtain ⟨m, hround, hunits⟩ := exists_roundsTo_of_div ha h
  have hd : 0 < b.mantissa := by
    simp only [isZero, beq_eq_false_iff_ne] at hb
    omega
  obtain ⟨hgives, hroom⟩ := hround.gives hd
  have hexact : a.toRat / b.toRat =
      if a.negative != b.negative then
        -((a.mantissa : ℚ) / 10 ^ a.scale / (b.mantissa / 10 ^ b.scale))
      else (a.mantissa : ℚ) / 10 ^ a.scale / (b.mantissa / 10 ^ b.scale) := by
    rw [toRat_eq_sign a, toRat_eq_sign b]
    cases a.negative <;> cases b.negative <;> simp [neg_div, div_neg]
  have hvalue : c.toRat =
      if a.negative != b.negative then -((m.1 : ℚ) / 10 ^ m.2) else (m.1 : ℚ) / 10 ^ m.2 := by
    rw [← abs_toRat_eq_of_units hround.1 hunits, abs_toRat]
    exact toRat_of_sign (negative_of_div h)
  rw [hexact]
  exact isRoundingOf_of_magnitude hvalue hround.1 hgives hroom

theorem toRat_one : one.toRat = 1 := by simp [toRat, signed, one]

theorem toRat_hundred : hundred.toRat = 100 := by simp [toRat, signed, hundred]

theorem exists_div_hundred (a : Decimal) :
    ∃ c, a.div hundred = .ok c ∧ ¬TooLarge (c.toRat + 1) := by
  have hroom : a.units.natAbs < (mantissaBound - 1) * hundred.units.natAbs := by
    have hplaces : tenTo (28 - a.scale) ≤ tenTo 28 := Nat.pow_le_pow_right (by decide) (by omega)
    have hmantissa := a.mantissa_lt
    rw [natAbs_units]
    calc a.mantissa * tenTo (28 - a.scale) ≤ (mantissaBound - 1) * tenTo 28 :=
          Nat.mul_le_mul (by omega) hplaces
      _ < (mantissaBound - 1) * hundred.units.natAbs := by decide
  obtain ⟨c, hc⟩ := exists_div_eq_ok (by decide) hroom
  refine ⟨c, hc, ?_⟩
  obtain ⟨k, -, hgives, -⟩ := isRoundingOf_div hc
  have hfits := a.not_tooLarge_toRat
  rw [TooLarge, not_le, abs_lt] at hfits
  have hbound := onGrid_intCast k (10 ^ 27)
  push_cast at hbound
  rw [toRat_hundred] at hgives
  have hle := hgives.ge_of_ge hbound (by linarith)
  have hge := hgives.le_of_le hbound.neg (by linarith)
  rw [TooLarge, not_le, abs_lt]
  constructor <;> linarith

end Quotient

end Decimal

end Forex
