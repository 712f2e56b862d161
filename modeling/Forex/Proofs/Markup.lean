import Forex.Markup
import Forex.Proofs.Decimal.Arithmetic
import Mathlib.Data.Rat.Floor

namespace Forex

namespace MarkupRounding

/-- A scaled value as a whole number: the next one below, the next one above, or the nearest one,
where a half goes up. -/
def whole : MarkupRounding → ℚ → ℤ
  | floor, x => ⌊x⌋
  | round, x => ⌊x + 1 / 2⌋
  | ceil, x => ⌈x⌉

theorem gives_whole (m : MarkupRounding) (negative : Bool) {k : Nat} {x : ℚ}
    (hneg : negative = true → x ≤ 0) (hpos : negative = false → 0 ≤ x) :
    (m.mode negative).Gives k (x / 10 ^ k) (m.whole x / 10 ^ k) := by
  cases m with
  | floor => exact gives_down (Int.floor_le x) (Int.lt_floor_add_one x)
  | ceil => exact gives_up (Int.le_ceil x) (Int.ceil_lt_add_one x)
  | round =>
    have hle := Int.floor_le (x + 1 / 2)
    have hlt := Int.lt_floor_add_one (x + 1 / 2)
    rw [whole]
    generalize ⌊x + 1 / 2⌋ = n at *
    have hdist : |x - n| ≤ 1 / 2 := abs_le.2 ⟨by linarith, by linarith⟩
    -- halfway between two whole numbers it is the one above
    have htie (h : |x - n| = 1 / 2) : x = n - 1 / 2 := by
      rcases abs_cases (x - n) with ⟨hx, -⟩ | ⟨hx, -⟩ <;> linarith
    cases negative with
    | true =>
      refine gives_halfTowardZero hdist fun h ↦ sq_le_sq.1 ?_
      have hx := hneg rfl
      rw [htie h] at hx ⊢
      nlinarith
    | false =>
      refine gives_halfAwayFromZero hdist fun h ↦ sq_le_sq.1 ?_
      have hx := hpos rfl
      rw [htie h] at hx ⊢
      nlinarith

theorem toRat_apply (m : MarkupRounding) (a : Decimal) (precision : UInt32) :
    (m.apply a precision).toRat =
      m.whole (a.toRat * 10 ^ places precision) / 10 ^ places precision := by
  have hunit : (0 : ℚ) < 10 ^ places precision := by positivity
  have hmagnitude : (0 : ℚ) ≤ a.mantissa / 10 ^ a.scale := by positivity
  have hsign := a.toRat_eq_sign
  have hwhole := m.gives_whole a.negative (k := places precision)
    (x := a.toRat * 10 ^ places precision) ?neg ?pos
  case neg =>
    intro h
    rw [if_pos h] at hsign
    exact mul_nonpos_of_nonpos_of_nonneg (by linarith) hunit.le
  case pos =>
    intro h
    rw [if_neg (by simp [h])] at hsign
    exact mul_nonneg (by linarith) hunit.le
  rw [mul_div_cancel_right₀ _ hunit.ne'] at hwhole
  exact (a.gives_round _ _).unique hwhole

end MarkupRounding

namespace FeeSchedule

/-- The percentage that is left when every range that contains the value overwrites the one
before. -/
def scan (f : FeeSchedule) (value : Decimal) : Decimal :=
  f.ranges.foldl
    (fun percent r ↦ if r.lower < value ∧ value ≤ r.upper then r.factor else percent) f.default

variable (f : FeeSchedule) (value : Decimal)

theorem percentFor_eq_scan : f.percentFor value = f.scan value := by
  unfold percentFor scan
  induction f.ranges using List.reverseRecOn with
  | nil => rfl
  | append_singleton rs r ih =>
    have hcontains : r.contains value = decide (r.lower < value ∧ value ≤ r.upper) :=
      (Bool.decide_and _ _).symm
    rw [List.reverse_append, List.reverse_singleton, List.singleton_append, List.foldl_append,
      List.foldl_cons, List.foldl_nil, ← ih, List.find?_cons, hcontains]
    by_cases h : r.lower < value ∧ value ≤ r.upper <;> simp [h]

theorem exists_multiplierFor :
    ∃ share multiplier, (f.percentFor value).div .hundred = .ok share ∧
      share.add .one = .ok multiplier ∧ f.multiplierFor value = .ok multiplier := by
  obtain ⟨share, hshare, hroom⟩ := (f.percentFor value).exists_div_hundred
  rw [← Decimal.toRat_one, ← Decimal.add?_eq_none_iff] at hroom
  obtain ⟨multiplier, hsum⟩ := Option.ne_none_iff_exists'.1 hroom
  have hadd : share.add .one = .ok multiplier := by rw [Decimal.add, hsum]
  refine ⟨share, multiplier, hshare, hadd, ?_⟩
  rw [multiplierFor, hshare]
  exact hadd

/-- Every value is raised. Its percentage is the one that is left when every range that contains the
value overwrites the one before; the multiplier always fits a decimal, and so does the product with
it unless it is too large, when the result is zero. Else the product is rounded down, up, or to the
nearest with a half going up, to the places that are asked for. Every zero is plain. -/
theorem apply_rounds_product :
    f.percentFor value = f.scan value ∧
    ∃ share multiplier, (f.scan value).div .hundred = .ok share ∧
      share.add .one = .ok multiplier ∧
      f.multiplierFor value = .ok multiplier ∧
      (value.mul? multiplier = none ↔ Decimal.TooLarge (value.toRat * multiplier.toRat)) ∧
      (value.mul? multiplier = none → f.apply value = .ok .zero) ∧
      ∀ product, value.mul? multiplier = some product →
        let places := min f.precision.toNat 28
        ∃ raised, f.apply value = .ok raised ∧
          raised.toRat = f.rounding.whole (product.toRat * 10 ^ places) / 10 ^ places ∧
          (raised.toRat = 0 → raised = .zero) := by
  obtain ⟨share, multiplier, hshare, hsum, hmultiplier⟩ := f.exists_multiplierFor value
  rw [f.percentFor_eq_scan] at hshare
  refine ⟨f.percentFor_eq_scan value, share, multiplier, hshare, hsum, hmultiplier,
    Decimal.mul?_eq_none_iff, ?none, ?some⟩
  case none =>
    intro hnone
    rw [apply, hmultiplier]
    simp only [bind, Except.bind, hnone]
    rfl
  case some =>
    intro product hproduct places
    refine ⟨(f.rounding.apply product f.precision).plainZero, ?_, ?_, ?_⟩
    · rw [apply, hmultiplier]
      simp only [bind, Except.bind, hproduct]
      rfl
    · rw [Decimal.toRat_plainZero]
      exact f.rounding.toRat_apply product f.precision
    · intro hzero
      rw [Decimal.toRat_plainZero] at hzero
      exact Decimal.plainZero_of_toRat_eq_zero hzero

example :
    let f : FeeSchedule := {}
    f.apply { negative := false, mantissa := 25, scale := 1 } =
      .ok { negative := false, mantissa := 3, scale := 0 } ∧
    f.apply { negative := true, mantissa := 25, scale := 1 } =
      .ok { negative := true, mantissa := 2, scale := 0 } := by
  decide

end FeeSchedule

end Forex
