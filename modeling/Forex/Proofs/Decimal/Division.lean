import Forex.Proofs.Decimal.Quotient

namespace Forex.Decimal

/-- The parts `m` are `(n / d) / 10 ^ scale`, rounded to `m.2` places. They have the 28th place
unless the value has no more places or does not fit with one more. -/
def RoundsTo (n d : Nat) (scale : Int) (m : Nat × Nat) : Prop :=
  m.2 ≤ 28 ∧ ∃ up down : Nat, (m.2 : Int) = scale + up - down ∧
    m.1 = RoundingMode.halfEven.divide false (n * tenTo up) (d * tenTo down) ∧
    (m.2 = 28 ∨ d * tenTo down ∣ n * tenTo up ∨
      (2 * mantissaBound - 1) * (d * tenTo down) ≤ 2 * (n * tenTo (up + 1)))

section Rounding

variable {n d q r : Nat} {scale : Int} {m : Nat × Nat}

theorem halfEven_divide_eq_zero_iff (hd : 0 < d) :
    RoundingMode.halfEven.divide false n d = 0 ↔ 2 * n ≤ d := by
  by_cases hn : n < d
  · have hq : n / d = 0 := Nat.div_eq_of_lt hn
    have hr : n % d = n := Nat.mod_eq_of_lt hn
    simp [RoundingMode.divide, RoundingMode.increments, hq, hr]
  · have hq : 0 < n / d := Nat.div_pos (by omega) hd
    have hle := RoundingMode.halfEven.le_divide false n d
    omega

theorem halfEven_divide_mul (hd : 0 < d) : RoundingMode.halfEven.divide false (q * d) d = q := by
  simp [RoundingMode.divide, RoundingMode.increments, Nat.mul_div_cancel q hd, Nat.ne_of_gt hd]

theorem le_halfEven_divide_iff {bound : Nat} (hbound : bound % 2 = 0) (hd : 0 < d) :
    bound ≤ RoundingMode.halfEven.divide false n d ↔ (2 * bound - 1) * d ≤ 2 * n := by
  have hparts := Nat.div_add_mod' n d
  have hrest := Nat.mod_lt n hd
  have hle := RoundingMode.halfEven.divide_le false n d
  have hge := RoundingMode.halfEven.le_divide false n d
  have hmiddle : RoundingMode.halfEven.divide false n d = n / d + 1 ↔
      d < 2 * (n % d) ∨ d = 2 * (n % d) ∧ n / d % 2 = 1 := by
    grind [RoundingMode.divide, RoundingMode.increments]
  generalize RoundingMode.halfEven.divide false n d = m at *
  generalize n / d = whole at *
  generalize n % d = rest at *
  rcases lt_trichotomy (whole + 1) bound with hlt | rfl | hgt
  · have hmul := Nat.mul_le_mul_right d (show 2 * whole + 3 ≤ 2 * bound - 1 by omega)
    rw [Nat.add_mul, Nat.mul_assoc] at hmul
    omega
  · have hmul : (2 * (whole + 1) - 1) * d = 2 * (whole * d) + d := by
      rw [show 2 * (whole + 1) - 1 = 2 * whole + 1 by omega]
      ring
    omega
  · have hmul := Nat.mul_le_mul_right d (show 2 * bound - 1 ≤ 2 * whole by omega)
    rw [Nat.mul_assoc 2 whole] at hmul
    omega

theorem RoundsTo.shift {p : Nat} (h : RoundsTo (n * tenTo p) d (scale + p) m) :
    RoundsTo n d scale m := by
  obtain ⟨hle, up, down, hscale, hm, hplaces⟩ := h
  have hn (k : Nat) : n * tenTo p * tenTo k = n * tenTo (p + k) := by
    rw [tenTo_add, Nat.mul_assoc]
  rw [hn] at hm
  rw [hn, hn, ← Nat.add_assoc] at hplaces
  exact ⟨hle, p + up, down, by omega, hm, hplaces⟩

theorem roundsTo_exact (hd : 0 < d) (h0 : 0 ≤ scale) (hle : scale ≤ 28) :
    RoundsTo (q * d) d scale (q, scale.toNat) := by
  refine ⟨by dsimp only; omega, 0, 0, by dsimp only; omega, ?_, .inr (.inl ?_)⟩
  · simp only [tenTo_zero, Nat.mul_one, halfEven_divide_mul hd]
  · simp only [tenTo_zero, Nat.mul_one, Nat.dvd_mul_left]

theorem roundsTo_settle (hr : r < d) (hle : scale ≤ 28)
    (hroom : scale = 28 ∨ mantissaBound ≤ q * 10)
    (h : settleQuotient d q r scale = some m) : RoundsTo (q * d + r) d scale m := by
  unfold settleQuotient at h
  dsimp only at h
  split at h
  case isTrue hfits =>
    split at h
    case isFalse => cases h
    case isTrue h0 =>
      obtain rfl := Option.some.inj h
      refine ⟨by dsimp only; omega, 0, 0, by dsimp only; omega, ?_, ?_⟩
      · simp only [tenTo_zero, Nat.mul_one]
      · rcases hroom with h28 | hroom
        · exact .inl (by dsimp only; omega)
        · have hfull := Nat.mul_le_mul_right d (show 2 * mantissaBound - 1 ≤ 2 * (q * 10) by omega)
          refine .inr (.inr ?_)
          calc (2 * mantissaBound - 1) * (d * tenTo 0) ≤ 2 * (q * 10) * d := by
                rwa [tenTo_zero, Nat.mul_one]
            _ = 2 * (q * d * tenTo 1) := by rw [show tenTo 1 = 10 from rfl]; ring
            _ ≤ 2 * ((q * d + r) * tenTo 1) :=
                Nat.mul_le_mul_left 2 (Nat.mul_le_mul_right _ (Nat.le_add_right _ _))
  case isFalse hcarry =>
    split at h
    case isFalse => cases h
    case isTrue h1 =>
      obtain rfl := Option.some.inj h
      refine ⟨by dsimp only; omega, 0, 1, by dsimp only; omega, ?_, .inr (.inr ?_)⟩
      · simp only [tenTo_zero, Nat.mul_one]
        rfl
      · have hfull := (le_halfEven_divide_iff (by decide) (by omega)).1 (Nat.not_lt.1 hcarry)
        rw [← Nat.mul_assoc, ← Nat.mul_assoc 2]
        exact Nat.mul_le_mul_right _ hfull

theorem scale_eq_or_full (hle : scale ≤ 28) (hp : quotientStep q scale 9 = 0) :
    scale = 28 ∨ mantissaBound ≤ q * 10 := by
  by_contra hroom
  have hpos := quotientStep_pos (n := 9) (q := q) (by decide) (show scale + 1 ≤ 28 by omega)
    (by omega)
  omega

theorem roundsTo_longDivision (rounds : Nat) (hr : r < d) (hle : scale ≤ 28)
    (hrounds : 28 ≤ scale + rounds) (h : longDivision d rounds q r scale = some m) :
    RoundsTo (q * d + r) d scale m := by
  induction rounds generalizing q r scale with
  | zero => exact roundsTo_settle hr hle (.inl (by omega)) h
  | succ rounds ih =>
    unfold longDivision at h
    split at h
    case isTrue hzero =>
      subst hzero
      split at h
      case isTrue h0 =>
        obtain rfl := Option.some.inj h
        exact roundsTo_exact hr h0 hle
      case isFalse h0 =>
        dsimp only at h
        split at h
        case isFalse => cases h
        case isTrue =>
          have hstep := ih hr (by omega) (by omega) h
          rw [Nat.add_zero, Nat.mul_right_comm] at hstep
          rw [Nat.add_zero]
          exact hstep.shift
    case isFalse =>
      dsimp only at h
      split at h
      case isTrue hp => exact roundsTo_settle hr hle (scale_eq_or_full hle hp) h
      case isFalse hp =>
        rcases quotientStep_spec q scale 9 with hz | ⟨hplaces, -⟩
        · exact absurd hz hp
        have hmod : r * tenTo (quotientStep q scale 9) % d < d := Nat.mod_lt _ (by omega)
        refine RoundsTo.shift (p := quotientStep q scale 9) ?_
        rw [← divide_again q (quotientStep q scale 9)]
        split at h
        case isTrue => exact ih hmod hplaces (by omega) h
        case isFalse hfull => exact roundsTo_settle hmod hplaces (.inr (by omega)) h

/-- The rounded value is zero exactly if the exact one is at most half a unit of the 28th place. -/
theorem RoundsTo.fst_eq_zero_iff (h : RoundsTo n d scale m) (hd : 0 < d) (hn : 0 < n)
    (hle : scale ≤ 28) : m.1 = 0 ↔ 2 * n * tenTo (28 - scale).toNat ≤ d := by
  obtain ⟨hplaces, up, down, hscale, hm, hroom⟩ := h
  have hdown := tenTo_pos down
  have hzero : m.1 = 0 ↔ 2 * (n * tenTo up) ≤ d * tenTo down := by
    rw [hm, halfEven_divide_eq_zero_iff (Nat.mul_pos hd hdown)]
  by_cases h28 : m.2 = 28
  · have hup : tenTo up = tenTo (28 - scale).toNat * tenTo down := by
      rw [← tenTo_add]
      congr 1
      omega
    rw [hzero, hup, ← Nat.mul_assoc, ← Nat.mul_assoc, Nat.mul_le_mul_right_iff hdown]
  · -- With fewer places the value is one unit of the last of them at least.
    have hone : d * tenTo down ≤ n * tenTo up := by
      rcases hroom.resolve_left h28 with hdvd | hfull
      · exact Nat.le_of_dvd (Nat.mul_pos hn (tenTo_pos up)) hdvd
      · have hten := Nat.mul_le_mul_right (d * tenTo down)
          (show 20 ≤ 2 * mantissaBound - 1 by decide)
        rw [tenTo_succ, ← Nat.mul_assoc n] at hfull
        omega
    have hup : tenTo up ≤ tenTo (28 - scale).toNat * tenTo down := by
      rw [← tenTo_add]
      exact Nat.pow_le_pow_right (by decide) (by omega)
    have hexact : d * tenTo down ≤ n * tenTo (28 - scale).toNat * tenTo down := by
      calc d * tenTo down ≤ n * tenTo up := hone
        _ ≤ n * (tenTo (28 - scale).toNat * tenTo down) := Nat.mul_le_mul_left n hup
        _ = n * tenTo (28 - scale).toNat * tenTo down := by ring
    have hunit := Nat.le_of_mul_le_mul_right hexact hdown
    have hpos : 0 < d * tenTo down := Nat.mul_pos hd hdown
    rw [hzero, Nat.mul_assoc]
    omega

theorem dropZeros_value (hm : m.2 ≤ 28) (count multiple : Nat) :
    (dropZeros count multiple m).2 ≤ 28 ∧
      (dropZeros count multiple m).1 * tenTo (28 - (dropZeros count multiple m).2) =
        m.1 * tenTo (28 - m.2) := by
  unfold dropZeros
  split
  case isTrue h =>
    obtain ⟨-, hcount, hzeros⟩ := h
    refine ⟨by dsimp only; omega, ?_⟩
    have he : 28 - (m.2 - count) = count + (28 - m.2) := by omega
    dsimp only
    rw [he, tenTo_add, ← Nat.mul_assoc, Nat.div_mul_cancel (Nat.dvd_of_mod_eq_zero hzeros)]
  case isFalse => exact ⟨hm, rfl⟩

theorem tidyQuotient_value (hm : m.2 ≤ 28) :
    (tidyQuotient m).1 * tenTo (28 - (tidyQuotient m).2) = m.1 * tenTo (28 - m.2) := by
  obtain ⟨h₁, e₁⟩ := dropZeros_value hm 8 (twoTo 32)
  obtain ⟨h₂, e₂⟩ := dropZeros_value h₁ 8 (twoTo 32)
  obtain ⟨h₃, e₃⟩ := dropZeros_value h₂ 8 (twoTo 32)
  obtain ⟨h₄, e₄⟩ := dropZeros_value h₃ 4 16
  obtain ⟨h₅, e₅⟩ := dropZeros_value h₄ 2 4
  obtain ⟨-, e₆⟩ := dropZeros_value h₅ 1 2
  exact e₆.trans (e₅.trans (e₄.trans (e₃.trans (e₂.trans e₁))))

end Rounding

variable {a b q : Decimal}

theorem ofParts?_eq_some {negative : Bool} {mantissa scale : Nat}
    (h : ofParts? negative mantissa scale = some a) :
    a.negative = negative ∧ a.mantissa = mantissa ∧ a.scale = scale := by
  unfold ofParts? at h
  split at h
  case isTrue =>
    obtain rfl := Option.some.inj h
    exact ⟨rfl, rfl, rfl⟩
  case isFalse => cases h

theorem exists_div?_of_div (h : a.div b = .ok q) : b.isZero = false ∧ a.div? b = some q := by
  unfold div at h
  split at h
  case isTrue => cases h
  case isFalse hb =>
    refine ⟨by simpa using hb, ?_⟩
    cases hq : a.div? b with
    | none =>
      rw [hq] at h
      cases h
    | some q' =>
      rw [hq] at h
      exact congrArg some (Except.ok.inj h)

theorem exists_roundsTo_of_div (ha : a.isZero = false) (h : a.div b = .ok q) :
    ∃ m, RoundsTo a.mantissa b.mantissa ((a.scale : Int) - b.scale) m ∧
      q.units.natAbs = m.1 * tenTo (28 - m.2) := by
  obtain ⟨hb, hq⟩ := exists_div?_of_div h
  have hd : 0 < b.mantissa := by
    simp only [isZero, beq_eq_false_iff_ne] at hb
    omega
  unfold div? at hq
  rw [if_neg (by simp [ha])] at hq
  obtain ⟨m, hm, hparts⟩ := Option.bind_eq_some_iff.1 hq
  have hround : RoundsTo a.mantissa b.mantissa ((a.scale : Int) - b.scale) m := by
    have hsa := a.scale_le
    have hsb := b.scale_le
    have hround := roundsTo_longDivision 57 (Nat.mod_lt _ hd) (by omega) (by omega) hm
    rwa [Nat.div_add_mod'] at hround
  refine ⟨m, hround, ?_⟩
  obtain ⟨-, hmantissa, hscale⟩ := ofParts?_eq_some hparts
  rw [natAbs_units, hmantissa, hscale]
  split
  case isTrue => rfl
  case isFalse => exact tidyQuotient_value hround.1

theorem negative_of_div (h : a.div b = .ok q) :
    q.negative = ((a.negative != b.negative) && !q.isZero) := by
  obtain ⟨-, hq⟩ := exists_div?_of_div h
  unfold div? at hq
  split at hq
  case isTrue =>
    obtain rfl := Option.some.inj hq
    simp [zero, isZero]
  case isFalse =>
    obtain ⟨m, -, hparts⟩ := Option.bind_eq_some_iff.1 hq
    obtain ⟨hnegative, hmantissa, -⟩ := ofParts?_eq_some hparts
    rw [hnegative, isZero, hmantissa]
    rfl

/-- A quotient is zero exactly if its value is at most half a unit of the 28th place. -/
theorem isZero_div_iff (h : a.div b = .ok q) :
    q.isZero ↔ 2 * tenTo 28 * a.units.natAbs ≤ b.units.natAbs := by
  obtain ⟨hb, hq⟩ := exists_div?_of_div h
  by_cases ha : a.isZero
  · have hq0 : q = zero := by simpa [div?, ha] using hq.symm
    simp [hq0, isZero_iff.1 ha, isZero, zero]
  · rw [Bool.not_eq_true] at ha
    obtain ⟨m, hround, hvalue⟩ := exists_roundsTo_of_div ha h
    have hsa := a.scale_le
    have hsb := b.scale_le
    simp only [isZero, beq_eq_false_iff_ne] at ha hb
    have hm : q.isZero ↔ m.1 = 0 := by
      rw [isZero_iff, ← Int.natAbs_eq_zero, hvalue, Nat.mul_eq_zero]
      have hpos := tenTo_pos (28 - m.2)
      omega
    have hplaces : tenTo (28 - ((a.scale : Int) - b.scale)).toNat * tenTo (28 - b.scale) =
        tenTo 28 * tenTo (28 - a.scale) := by
      rw [← tenTo_add, ← tenTo_add]
      congr 1
      omega
    have hunits : 2 * tenTo 28 * a.units.natAbs =
        2 * a.mantissa * tenTo (28 - ((a.scale : Int) - b.scale)).toNat * tenTo (28 - b.scale) := by
      rw [natAbs_units, Nat.mul_assoc (2 * a.mantissa), hplaces]
      ring
    rw [hm, hround.fst_eq_zero_iff (by omega) (by omega) (by omega), hunits, natAbs_units b,
      Nat.mul_le_mul_right_iff (tenTo_pos _)]

theorem units_zero : zero.units = 0 := by decide

theorem zero_lt_one : zero < one := by decide

theorem pos_iff : .zero < a ↔ a.negative = false ∧ a.isZero = false := by
  have hpos := tenTo_pos (28 - a.scale)
  rw [lt_def, units_zero, isZero, beq_eq_false_iff_ne]
  unfold units signed
  cases a.negative with
  | true =>
    have hneg : -(a.mantissa : Int) * (tenTo (28 - a.scale) : Int) ≤ 0 :=
      Int.mul_nonpos_of_nonpos_of_nonneg (by omega) (by omega)
    simpa using hneg
  | false =>
    simp only [Bool.false_eq_true, if_false, true_and]
    constructor
    · rintro h hm
      simp [hm] at h
    · intro hm
      exact Int.mul_pos (by omega) (by omega)

/-- The least decimal whose reciprocal is rounded to zero. -/
def vanishing : Decimal :=
  { one with mantissa := 20000000000000000000000000000, mantissa_lt := by decide }

theorem negative_reciprocal (ha : .zero < a) : a.reciprocal.negative = false := by
  obtain ⟨hnegative, hzero⟩ := pos_iff.1 ha
  rw [negative_of_div (one_div_eq_reciprocal hzero), hnegative]
  rfl

theorem reciprocal_nonneg (ha : .zero < a) : .zero ≤ a.reciprocal := by
  rw [le_def, units_zero, units, signed, negative_reciprocal ha]
  exact Int.mul_nonneg (by simp) (by omega)

theorem reciprocal_pos_iff (ha : .zero < a) : .zero < a.reciprocal ↔ a < vanishing := by
  obtain ⟨-, hzero⟩ := pos_iff.1 ha
  have hdiv := isZero_div_iff (one_div_eq_reciprocal hzero)
  have hone : one.units.natAbs = tenTo 28 := by decide
  have hbound : vanishing.units = (2 * tenTo 28 * tenTo 28 : Nat) := by decide
  have hpos : 0 < a.units := by
    have h := lt_def.1 ha
    rwa [units_zero] at h
  rw [hone] at hdiv
  have hnonzero : .zero < a.reciprocal ↔ ¬a.reciprocal.isZero = true := by
    simp [pos_iff, negative_reciprocal ha]
  rw [hnonzero, hdiv, lt_def, hbound]
  omega

end Forex.Decimal
