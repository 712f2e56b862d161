import Forex.Decimal.Arithmetic
import Mathlib.Tactic.Linarith
import Mathlib.Tactic.Ring

namespace Forex.Decimal

/-- Long division by `d` has come to the quotient `q` and the remainder `r`, and the whole part of
the value leaves room for a carry. -/
structure Dividing (d q r : Nat) (scale : Int) : Prop where
  remainder_lt : r < d
  quotient_lt : q < mantissaBound
  scale_le : scale ≤ 28
  whole_lt : scale ≤ 0 → (q * d + r) * tenTo (-scale).toNat < (mantissaBound - 1) * d

def Fits (m : Nat × Nat) : Prop := m.1 < mantissaBound ∧ m.2 ≤ 28

theorem quotientStep_spec (q : Nat) (scale : Int) (n : Nat) :
    quotientStep q scale n = 0 ∨
      scale + quotientStep q scale n ≤ 28 ∧ q * tenTo (quotientStep q scale n) < mantissaBound := by
  induction n with
  | zero => exact .inl rfl
  | succ n ih =>
    unfold quotientStep
    split
    case isTrue h => exact .inr h
    case isFalse => exact ih

theorem quotientStep_le (q : Nat) (scale : Int) (n : Nat) : quotientStep q scale n ≤ n := by
  induction n with
  | zero => exact le_rfl
  | succ n ih =>
    unfold quotientStep
    split <;> omega

theorem quotientStep_pos {q : Nat} {scale : Int} {n : Nat} (hn : 0 < n) (hs : scale + 1 ≤ 28)
    (hq : q * 10 < mantissaBound) : 0 < quotientStep q scale n := by
  induction n with
  | zero => omega
  | succ n ih =>
    unfold quotientStep
    split
    case isTrue => omega
    case isFalse h =>
      cases n with
      | zero => exact absurd ⟨hs, hq⟩ h
      | succ n => exact ih (by omega)

variable {d q r : Nat} {scale : Int}

theorem lt_of_whole_lt {k : Nat}
    (hw : (q * d + r) * tenTo k < (mantissaBound - 1) * d) : q * tenTo k < mantissaBound - 1 := by
  refine Nat.lt_of_mul_lt_mul_right (a := d) (Nat.lt_of_le_of_lt ?_ hw)
  calc q * tenTo k * d = q * d * tenTo k := by ring
    _ ≤ (q * d + r) * tenTo k := Nat.mul_le_mul_right _ (Nat.le_add_right _ _)

theorem Dividing.quotient_whole (h : Dividing d q r scale) (hs : scale ≤ 0) :
    q * tenTo (-scale).toNat < mantissaBound - 1 :=
  lt_of_whole_lt (h.whole_lt hs)

theorem div_of_remainder_lt (hr : r < d) : (q * d + r) / d = q := by
  rw [Nat.mul_comm, Nat.mul_add_div (by omega), Nat.div_eq_of_lt hr, Nat.add_zero]

theorem divide_again (q : Nat) (p : Nat) :
    (q * tenTo p + r * tenTo p / d) * d + r * tenTo p % d = (q * d + r) * tenTo p := by
  have h := Nat.div_add_mod' (r * tenTo p) d
  calc (q * tenTo p + r * tenTo p / d) * d + r * tenTo p % d
      = q * d * tenTo p + (r * tenTo p / d * d + r * tenTo p % d) := by ring
    _ = (q * d + r) * tenTo p := by rw [h]; ring

theorem Dividing.whole_lt_again (h : Dividing d q r scale) {p : Nat} (hs : scale + p ≤ 0) :
    ((q * tenTo p + r * tenTo p / d) * d + r * tenTo p % d) * tenTo (-(scale + p)).toNat <
      (mantissaBound - 1) * d := by
  have he : tenTo p * tenTo (-(scale + p)).toNat = tenTo (-scale).toNat := by
    rw [← tenTo_add]
    congr 1
    omega
  rw [divide_again, Nat.mul_assoc, he]
  exact h.whole_lt (by omega)

theorem Dividing.again (h : Dividing d q r scale) {p : Nat} (hp : scale + p ≤ 28)
    (hq : q * tenTo p + r * tenTo p / d < mantissaBound) :
    Dividing d (q * tenTo p + r * tenTo p / d) (r * tenTo p % d) (scale + p) where
  remainder_lt := Nat.mod_lt _ (by have := h.remainder_lt; omega)
  quotient_lt := hq
  scale_le := hp
  whole_lt := h.whole_lt_again

theorem settleQuotient_fits (hr : r < d) (hq : q / 10 + 1 < mantissaBound) (hs : 0 ≤ scale)
    (hle : scale ≤ 28) (hw : scale = 0 → q + 1 < mantissaBound) :
    ∃ m, settleQuotient d q r scale = some m ∧ Fits m := by
  have hdiv := div_of_remainder_lt (q := q) hr
  have hm := RoundingMode.halfEven.divide_le false (q * d + r) d
  have hm' := RoundingMode.halfEven.divide_le false (q * d + r) (d * 10)
  rw [← Nat.div_div_eq_div_mul, hdiv] at hm'
  rw [hdiv] at hm
  unfold settleQuotient
  dsimp only
  split
  case isTrue h => exact ⟨_, rfl, h, by dsimp only; omega⟩
  case isFalse h =>
    have h1 : 1 ≤ scale := by
      by_contra h0
      have := hw (by omega)
      omega
    have hlt := Nat.lt_of_le_of_lt hm' hq
    exact ⟨_, if_pos ⟨h1, hlt⟩, hlt, by dsimp only; omega⟩

theorem Dividing.settle_fits (h : Dividing d q r scale) (hs : 0 ≤ scale) :
    ∃ m, settleQuotient d q r scale = some m ∧ Fits m := by
  have hq := h.quotient_lt
  refine settleQuotient_fits h.remainder_lt (by rw [mantissaBound_eq] at *; omega) hs h.scale_le ?_
  intro h0
  have hw := h.quotient_whole (by omega)
  simp only [h0, Int.neg_zero, Int.toNat_zero, tenTo_zero, Nat.mul_one] at hw
  omega

theorem Dividing.settle_again (h : Dividing d q r scale) {p : Nat} (hp : p ≤ 9)
    (hle : scale + p ≤ 28) (hlt : q * tenTo p < mantissaBound)
    (hq : ¬q * tenTo p + r * tenTo p / d < mantissaBound) :
    ∃ m, settleQuotient d (q * tenTo p + r * tenTo p / d) (r * tenTo p % d) (scale + p) = some m ∧
      Fits m := by
  have hr := h.remainder_lt
  have hmod : r * tenTo p % d < d := Nat.mod_lt _ (by omega)
  have hdigits : r * tenTo p / d < tenTo p :=
    Nat.div_lt_of_lt_mul (Nat.mul_lt_mul_of_pos_right hr (tenTo_pos p))
  have h9 : tenTo p ≤ tenTo 9 := Nat.pow_le_pow_right (by decide) hp
  have hs : ¬scale + p ≤ 0 := by
    intro hs
    have hw := lt_of_whole_lt (h.whole_lt_again hs)
    have := Nat.le_mul_of_pos_right (q * tenTo p + r * tenTo p / d) (tenTo_pos (-(scale + p)).toNat)
    omega
  have h9' : tenTo 9 = 1000000000 := rfl
  refine settleQuotient_fits hmod ?_ (by omega) hle (by omega)
  rw [mantissaBound_eq] at *
  omega

theorem Dividing.fill (h : Dividing d q 0 scale) (hs : scale ≤ 0) {p : Nat}
    (hp : p ≤ (-scale).toNat) :
    q * tenTo p < mantissaBound ∧ Dividing d (q * tenTo p) 0 (scale + p) := by
  have hw := h.quotient_whole hs
  have hle : tenTo p ≤ tenTo (-scale).toNat := Nat.pow_le_pow_right (by decide) hp
  have hq : q * tenTo p < mantissaBound := by
    have := Nat.mul_le_mul_left q hle
    omega
  have hstep := h.again (p := p) (by omega) (by simpa using hq)
  simp only [Nat.zero_mul, Nat.zero_div, Nat.zero_mod, Nat.add_zero] at hstep
  exact ⟨hq, hstep⟩

theorem Dividing.scale_nonneg (h : Dividing d q r scale) (hp : quotientStep q scale 9 = 0) :
    0 ≤ scale := by
  by_contra hs
  have hw := h.quotient_whole (by omega)
  have h10 : q * 10 ≤ q * tenTo (-scale).toNat := Nat.mul_le_mul_left q (ten_le_tenTo (by omega))
  have hpos := quotientStep_pos (n := 9) (q := q) (by decide) (show scale + 1 ≤ 28 by omega)
    (by omega)
  omega

theorem longDivision_fits (rounds : Nat) (h : Dividing d q r scale) (hrounds : 0 ≤ scale + rounds) :
    ∃ m, longDivision d rounds q r scale = some m ∧ Fits m := by
  induction rounds generalizing q r scale with
  | zero => exact h.settle_fits (by omega)
  | succ rounds ih =>
    unfold longDivision
    split
    case isTrue hr =>
      subst hr
      split
      case isTrue hs =>
        have hle := h.scale_le
        exact ⟨_, rfl, h.quotient_lt, by dsimp only; omega⟩
      case isFalse hs =>
        obtain ⟨hq, hstep⟩ := h.fill (by omega) (Nat.min_le_right 9 (-scale).toNat)
        simp only [hq, if_true]
        exact ih hstep (by omega)
    case isFalse hr =>
      dsimp only
      split
      case isTrue hp => exact h.settle_fits (h.scale_nonneg hp)
      case isFalse hp =>
        rcases quotientStep_spec q scale 9 with hz | ⟨hle, hlt⟩
        · exact absurd hz hp
        split
        case isTrue hq => exact ih (h.again hle hq) (by omega)
        case isFalse hq => exact h.settle_again (quotientStep_le q scale 9) hle hlt hq

theorem dropZeros_fits {m : Nat × Nat} (h : Fits m) (count multiple : Nat) :
    Fits (dropZeros count multiple m) := by
  unfold dropZeros
  split
  case isTrue => exact ⟨Nat.lt_of_le_of_lt (Nat.div_le_self _ _) h.1, (Nat.sub_le _ _).trans h.2⟩
  case isFalse => exact h

theorem tidyQuotient_fits {m : Nat × Nat} (h : Fits m) : Fits (tidyQuotient m) :=
  have h₈ := dropZeros_fits (dropZeros_fits (dropZeros_fits h 8 _) 8 _) 8 _
  dropZeros_fits (dropZeros_fits (dropZeros_fits h₈ 4 16) 2 4) 1 2

theorem ofParts?_of_fits (negative : Bool) {m : Nat × Nat} (h : Fits m) :
    ∃ a, ofParts? negative m.1 m.2 = some a := ⟨_, dif_pos h⟩

theorem natAbs_units (a : Decimal) : a.units.natAbs = a.mantissa * tenTo (28 - a.scale) := by
  have hs : a.signed.natAbs = a.mantissa := by
    unfold signed
    split <;> simp
  rw [units, Int.natAbs_mul, hs, Int.natAbs_natCast]

theorem dividing_start {a b : Decimal} (hb : b.isZero = false)
    (h : a.units.natAbs < (mantissaBound - 1) * b.units.natAbs) :
    Dividing b.mantissa (a.mantissa / b.mantissa) (a.mantissa % b.mantissa)
      ((a.scale : Int) - b.scale) where
  remainder_lt := Nat.mod_lt _ (by simp only [isZero, beq_eq_false_iff_ne] at hb; omega)
  quotient_lt := Nat.lt_of_le_of_lt (Nat.div_le_self _ _) a.mantissa_lt
  scale_le := by have := a.scale_le; omega
  whole_lt hs := by
    have hle := b.scale_le
    have he : tenTo (28 - a.scale) = tenTo (b.scale - a.scale) * tenTo (28 - b.scale) := by
      rw [← tenTo_add]
      congr 1
      omega
    rw [natAbs_units, natAbs_units, he, ← Nat.mul_assoc, ← Nat.mul_assoc] at h
    rw [Nat.div_add_mod', show (-((a.scale : Int) - b.scale)).toNat = b.scale - a.scale by omega]
    exact Nat.lt_of_mul_lt_mul_right h

theorem exists_div_eq_ok {a b : Decimal} (hb : b.isZero = false)
    (h : a.units.natAbs < (mantissaBound - 1) * b.units.natAbs) : ∃ q, a.div b = .ok q := by
  obtain ⟨q, hq⟩ : ∃ q, a.div? b = some q := by
    unfold div?
    split
    case isTrue => exact ⟨_, rfl⟩
    case isFalse =>
      have hsa := a.scale_le
      have hsb := b.scale_le
      obtain ⟨m, hm, hfits⟩ := longDivision_fits 57 (dividing_start hb h) (by omega)
      simp only [hm, Option.bind_some]
      split
      case isTrue => exact ofParts?_of_fits _ hfits
      case isFalse => exact ofParts?_of_fits _ (tidyQuotient_fits hfits)
  exact ⟨q, by simp [div, hb, hq]⟩

/-- The inverse of a decimal other than zero is a decimal, as the decimal is at least one unit of
its last place. -/
theorem exists_one_div_eq_ok {b : Decimal} (hb : b.isZero = false) : ∃ q, one.div b = .ok q := by
  apply exists_div_eq_ok hb
  have h0 : b.units.natAbs ≠ 0 := by
    have := isZero_iff (a := b)
    simp only [hb, Bool.false_eq_true, false_iff] at this
    omega
  have h1 : one.units.natAbs < mantissaBound - 1 := by decide
  exact Nat.lt_of_lt_of_le h1 (Nat.le_mul_of_pos_right _ (by omega))

def reciprocal (a : Decimal) : Decimal := (one.div a).toOption.getD zero

theorem one_div_eq_reciprocal {a : Decimal} (ha : a.isZero = false) :
    one.div a = .ok a.reciprocal := by
  obtain ⟨q, hq⟩ := exists_one_div_eq_ok ha
  simp [reciprocal, hq, Except.toOption]

end Forex.Decimal
