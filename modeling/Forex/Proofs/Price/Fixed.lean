import Forex.Proofs.Decimal.Arithmetic
import Forex.Proofs.Price
import Forex.Proofs.Text.Digits

namespace Forex

/-- A sign, digits before the point and digits behind it. A zero stands first only if it stands alone
before the point. -/
@[ext]
structure Numeral where
  negative : Bool
  whole : List Char
  fraction : List Char
  whole_ne_nil : whole ≠ []
  whole_of_zero : whole.head? = some '0' → whole = ['0']
  isDigit_of_mem_whole : ∀ c ∈ whole, c.isDigit
  isDigit_of_mem_fraction : ∀ c ∈ fraction, c.isDigit

namespace Numeral

def tail (n : Numeral) : List Char := if n.fraction = [] then [] else '.' :: n.fraction

def chars (n : Numeral) : List Char := (if n.negative then ['-'] else []) ++ (n.whole ++ n.tail)

def text (n : Numeral) : String := String.ofList n.chars

def magnitude (n : Numeral) : ℚ :=
  (Nat.ofDigitChars 10 n.whole 0 : ℕ) +
    (Nat.ofDigitChars 10 n.fraction 0 : ℕ) / 10 ^ n.fraction.length

def value (n : Numeral) : ℚ := if n.negative then -n.magnitude else n.magnitude

variable {n : Numeral}

theorem takeWhile_isDigit (n : Numeral) : (n.whole ++ n.tail).takeWhile Char.isDigit = n.whole := by
  have htail : n.tail.takeWhile Char.isDigit = [] := by
    unfold tail
    split <;> rfl
  rw [List.takeWhile_append_of_pos n.isDigit_of_mem_whole, htail, List.append_nil]

theorem fraction_eq_drop_tail (n : Numeral) : n.fraction = n.tail.drop 1 := by
  unfold tail
  split
  case isTrue h => rw [h, List.drop_nil]
  case isFalse => rfl

theorem head?_chars : n.chars.head? = some '-' ↔ n.negative := by
  unfold chars
  cases n.negative with
  | true => simp
  | false =>
    obtain ⟨c, cs, h⟩ := List.exists_cons_of_ne_nil n.whole_ne_nil
    have hdigit := n.isDigit_of_mem_whole c (h ▸ List.mem_cons_self)
    refine iff_of_false ?_ Bool.false_ne_true
    simp only [Bool.false_eq_true, if_false, List.nil_append, h, List.cons_append, List.head?_cons,
      Option.some_inj]
    rintro rfl
    exact absurd hdigit (by decide)

theorem text_injective : Function.Injective text := by
  intro m n h
  have hchars : m.chars = n.chars := String.ofList_injective h
  have hnegative : m.negative = n.negative := by
    rw [Bool.eq_iff_iff, ← head?_chars, hchars, head?_chars]
  have hdigits : m.whole ++ m.tail = n.whole ++ n.tail := by
    unfold chars at hchars
    rw [hnegative] at hchars
    exact List.append_cancel_left hchars
  have hwhole : m.whole = n.whole := by
    rw [← m.takeWhile_isDigit, hdigits, n.takeWhile_isDigit]
  have htail : m.tail = n.tail := by
    rw [hwhole] at hdigits
    exact List.append_cancel_left hdigits
  have hfraction : m.fraction = n.fraction := by
    rw [m.fraction_eq_drop_tail, htail, ← n.fraction_eq_drop_tail]
  exact Numeral.ext hnegative hwhole hfraction

end Numeral

namespace Decimal

variable {a : Decimal}

def numeral (a : Decimal) : Numeral where
  negative := a.negative
  whole := Nat.toDigits 10 (a.mantissa / tenTo a.scale)
  fraction := Text.lastDigits a.scale a.mantissa
  whole_ne_nil := by
    obtain ⟨d, cs, -, -, h⟩ := Text.exists_toDigits_eq_cons (a.mantissa / tenTo a.scale)
    simp [h]
  whole_of_zero := Text.toDigits_of_head?_zero
  isDigit_of_mem_whole := fun _ ↦ Text.isDigit_of_mem_toDigits
  isDigit_of_mem_fraction := fun _ ↦ Text.isDigit_of_mem_lastDigits

theorem length_fraction_numeral (a : Decimal) : a.numeral.fraction.length = a.scale :=
  Text.length_lastDigits a.scale a.mantissa

theorem text_numeral (a : Decimal) : a.numeral.text = a.toText := by
  have hfraction : a.numeral.fraction = [] ↔ a.scale = 0 := by
    rw [← List.length_eq_zero_iff, length_fraction_numeral]
  simp only [Numeral.text, Numeral.chars, Numeral.tail, hfraction, toText, toChars,
    List.append_assoc]
  rfl

theorem value_numeral (a : Decimal) : a.numeral.value = a.toRat := by
  have hparts : (a.mantissa : ℚ) = (a.mantissa / tenTo a.scale : ℕ) * 10 ^ a.scale +
      (a.mantissa % tenTo a.scale : ℕ) := by
    rw [← cast_tenTo]
    exact_mod_cast (Nat.div_add_mod' a.mantissa (tenTo a.scale)).symm
  have hmagnitude : a.numeral.magnitude = a.mantissa / 10 ^ a.scale := by
    rw [Numeral.magnitude, length_fraction_numeral, hparts, add_div,
      mul_div_cancel_right₀ _ (by positivity)]
    simp only [numeral, Text.ofDigitChars_lastDigits]
    rw [Nat.ofDigitChars_ten_toDigits]
  rw [toRat_eq_sign, Numeral.value, hmagnitude]
  rfl

theorem unsignZero_of_ne_zero (h : a.isZero = false) : a.unsignZero = a := by
  simp only [unsignZero, h, Bool.not_false, Bool.and_true]

theorem unsignZero_rescale (h : a.isZero) (k : Nat) :
    (a.rescale k).unsignZero = zero.rescale k := by
  have hzero : zero.isZero := rfl
  rw [rescale, if_pos h, rescale, if_pos hzero]
  simp only [isZero, beq_iff_eq] at h
  simp [unsignZero, isZero, zero, h]

theorem toFixed_eq (a : Decimal) (precision : UInt32) :
    a.toFixed precision = (a.fixPlaces (places precision)).unsignZero.toText := by
  have hzero := isZero_rescale (scale_round_le a (places precision) .halfAwayFromZero)
  unfold toFixed fixPlaces
  dsimp only
  split
  case isTrue h => rw [unsignZero_rescale (hzero ▸ h)]
  case isFalse h => rw [unsignZero_of_ne_zero (by simpa using h)]

theorem toRat_neg_iff : a.toRat < 0 ↔ a.unsignZero.negative := by
  rw [toRat_eq_sign, unsignZero, isZero]
  cases a.negative with
  | true =>
    have hmantissa : (0 : ℚ) < a.mantissa / 10 ^ a.scale ↔ a.mantissa ≠ 0 := by
      rw [div_pos_iff_of_pos_right (by positivity), Nat.cast_pos, Nat.pos_iff_ne_zero]
    simp [hmantissa]
  | false =>
    have hmagnitude : (0 : ℚ) ≤ a.mantissa / 10 ^ a.scale := by positivity
    simp [hmagnitude]

/-- What is written is a numeral. It denotes the amount, rounded half away from zero to the places
that are asked for, and its sign is that of the value. The digits behind the point are as many as
are asked for, or as many of these as the mantissa of the value has room for. -/
theorem toFixed_shows (a : Decimal) (precision : UInt32) :
    let places := min precision.toNat 28
    (∃ n : Numeral, a.toFixed precision = n.text) ∧
      ∀ n : Numeral, a.toFixed precision = n.text →
        RoundingMode.halfAwayFromZero.Gives places a.toRat n.value ∧
        (n.negative ↔ n.value < 0) ∧
        IsGreatest {k | k ≤ places ∧ |n.value| * 10 ^ k < 2 ^ 96} n.fraction.length ∧
        (n.fraction.length = places ↔ |n.value| * 10 ^ places < 2 ^ 96) := by
  intro places
  have hround := scale_round_le a places .halfAwayFromZero
  have hgreatest := isGreatest_scale_rescale hround (places_le precision)
  rw [← toRat_rescale hround, cast_mantissaBound] at hgreatest
  have htext : a.toFixed precision = (a.fixPlaces places).unsignZero.numeral.text := by
    rw [text_numeral, toFixed_eq]
    rfl
  refine ⟨⟨_, htext⟩, fun n hn ↦ ?_⟩
  obtain rfl := Numeral.text_injective (htext.symm.trans hn)
  have hplaces : (a.fixPlaces places).unsignZero.scale = (a.fixPlaces places).scale := rfl
  rw [value_numeral, toRat_unsignZero, length_fraction_numeral, hplaces]
  refine ⟨a.gives_toPlaces places .half, toRat_neg_iff.symm, hgreatest, fun h ↦ ?_, fun h ↦ ?_⟩
  · have hfits := hgreatest.1.2
    rwa [← fixPlaces, h] at hfits
  · exact hgreatest.1.1.antisymm (hgreatest.2 ⟨le_rfl, h⟩)

/-- Eight takes 28 digits with 27 places, and one more place does not fit. -/
theorem toFixed_eight :
    toFixed { one with mantissa := 8, mantissa_lt := by decide } 28 =
      "8.000000000000000000000000000" := by
  decide

end Decimal

end Forex
